import DebugAdapter.Proofs.Json.Members
import DebugAdapter.Proofs.Json.Number
import DebugAdapter.Request
import Mathlib.Data.Option.Basic

/-!
# The shapes of requests

A body whose value is no object can still be a request, namely an array that lists number, command,
arguments and kind in this order.
-/

namespace DebugAdapter.Request

theorem seqOf_eq_ok {value : Json} {seq : Int64} :
    seqOf value = .ok seq ↔ value = .ofInt64 seq := by
  rw [← Json.asInt64?_eq_some]
  cases value with
  | int i => cases h : (Json.int i).asInt64? <;> simp [seqOf, h]
  | _ => simp [seqOf, Json.asInt64?]

theorem textOf_eq_ok {value : Json} {text : String} :
    textOf value = .ok text ↔ value = .string text := by
  cases value <;> simp [textOf]

theorem kindOf_eq_ok {value : Json} {kind : Option String} :
    kindOf value = .ok kind ↔ value = kind.elim .null .string := by
  cases value <;> cases kind <;> simp [kindOf, textOf, Functor.map, Except.map]

/-- An array that lists a request. -/
inductive Lists : List Json → Request → Prop where
  | brief (seq : Int64) (command : String) :
      Lists [.ofInt64 seq, .string command] { seq, command }
  | plain (seq : Int64) (command : String) (arguments : Json) :
      Lists [.ofInt64 seq, .string command, arguments] { seq, command, arguments }
  | whole (seq : Int64) (command : String) (arguments : Json) (kind : Option String) :
      Lists [.ofInt64 seq, .string command, arguments, kind.elim .null .string]
        { seq, command, arguments, kind }

theorem ofItems_of_lists {items : List Json} {request : Request} (h : Lists items request) :
    ofItems items = .ok request := by
  cases h with
  | brief seq command =>
    simp [ofItems, seqOf_eq_ok.2 rfl, textOf, bind, Except.bind, pure, Except.pure]
  | plain seq command arguments =>
    simp [ofItems, seqOf_eq_ok.2 rfl, textOf, bind, Except.bind, pure, Except.pure]
  | whole seq command arguments kind =>
    simp [ofItems, seqOf_eq_ok.2 rfl, kindOf_eq_ok.2 rfl, textOf, bind, Except.bind, pure,
      Except.pure]

theorem Lists.two_le_length {items : List Json} {request : Request} (h : Lists items request) :
    2 ≤ items.length := by
  cases h <;> simp

theorem lists_of_ofItems {items : List Json} {request : Request} (h : ofItems items = .ok request) :
    Lists items request := by
  unfold ofItems at h
  split at h
  next => cases h
  next =>
    obtain ⟨_, -, hlength⟩ := exists_of_bind_eq_ok h
    cases hlength
  next =>
    obtain ⟨seq, hseq, h⟩ := exists_of_bind_eq_ok h
    obtain ⟨command, hcommand, h⟩ := exists_of_bind_eq_ok h
    cases h
    rw [seqOf_eq_ok.1 hseq, textOf_eq_ok.1 hcommand]
    exact .brief seq command
  next =>
    obtain ⟨seq, hseq, h⟩ := exists_of_bind_eq_ok h
    obtain ⟨command, hcommand, h⟩ := exists_of_bind_eq_ok h
    cases h
    rw [seqOf_eq_ok.1 hseq, textOf_eq_ok.1 hcommand]
    exact .plain seq command _
  next =>
    obtain ⟨seq, hseq, h⟩ := exists_of_bind_eq_ok h
    obtain ⟨command, hcommand, h⟩ := exists_of_bind_eq_ok h
    obtain ⟨kind, hkind, h⟩ := exists_of_bind_eq_ok h
    split at h
    next hrest =>
      cases h
      rw [seqOf_eq_ok.1 hseq, textOf_eq_ok.1 hcommand, kindOf_eq_ok.1 hkind,
        List.isEmpty_iff.1 hrest]
      exact .whole seq command _ kind
    next => cases h

/-- An array is accepted as an envelope if it lists a request, and not otherwise. -/
theorem ofItems_eq_ok {items : List Json} {request : Request} :
    ofItems items = .ok request ↔ Lists items request :=
  ⟨lists_of_ofItems, ofItems_of_lists⟩

theorem ofJson_of_not_object {value : Json} (h : ∀ fields, value ≠ .object fields)
    (request : Request) :
    ofJson value = .ok request ↔ ∃ items, value = .array items ∧ Lists items request := by
  cases value with
  | object fields => exact absurd rfl (h fields)
  | array items => simp [ofJson, ofItems_eq_ok]
  | _ => simp [ofJson]

theorem decode_eq_ok {body : Bytes} {request : Request} :
    decode body = .ok request ↔
      ∃ value, Json.parse body = .ok value ∧ ofJson value = .ok request := by
  cases hparse : Json.parse body with
  | error fault => simp [decode, hparse]
  | ok value => cases hrequest : ofJson value <;> simp [decode, hparse, hrequest]

/-- Of what is no object, neither number nor command is kept. -/
theorem eq_of_decode_eq_error {body : Bytes} {rejection : Rejection}
    (h : ∀ fields, Json.parse body ≠ .ok (.object fields))
    (hdecode : decode body = .error rejection) : rejection = { fault := rejection.fault } := by
  cases hparse : Json.parse body with
  | error fault =>
    simp only [decode, hparse, Except.error.injEq] at hdecode
    rw [← hdecode]
  | ok value =>
    have hfield : ∀ name, value.field? name = none := by
      intro name
      cases value with
      | object fields => exact absurd hparse (h fields)
      | _ => rfl
    cases hrequest : ofJson value with
    | ok request => simp [decode, hparse, hrequest] at hdecode
    | error mismatch =>
      simp only [decode, hparse, hrequest, hfield, Option.bind_none, Except.error.injEq] at hdecode
      rw [← hdecode]

/-- A body without an object is a request if it is an array that lists the request. -/
theorem decode_eq_ok_of_not_object {body : Bytes}
    (h : ∀ fields, Json.parse body ≠ .ok (.object fields)) (request : Request) :
    decode body = .ok request ↔
      ∃ items, Json.parse body = .ok (.array items) ∧ Lists items request := by
  rw [decode_eq_ok]
  constructor
  · rintro ⟨value, hparse, hrequest⟩
    have hvalue : ∀ fields, value ≠ .object fields := by
      rintro fields rfl
      exact h fields hparse
    obtain ⟨items, rfl, hlists⟩ := (ofJson_of_not_object hvalue request).1 hrequest
    exact ⟨items, hparse, hlists⟩
  · rintro ⟨items, hparse, hlists⟩
    exact ⟨.array items, hparse, ofItems_of_lists hlists⟩

end DebugAdapter.Request
