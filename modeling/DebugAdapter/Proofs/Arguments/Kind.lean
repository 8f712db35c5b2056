import DebugAdapter.Arguments
import DebugAdapter.Proofs.Json.Members
import DebugAdapter.Proofs.Json.Number
import Mathlib.Data.List.Forall2

/-!
# Fields of a kind

A field of a kind is acceptable if its value is made of plain data, and what is read of it is the
data. Of several values that are read one by one, all are acceptable, or there is a first one that
is not.
-/

namespace DebugAdapter

/-- A function that takes the data out of just those values that are made of them. -/
def IsView {α β : Type} (view : β → Option α) (make : α → β) : Prop :=
  ∀ value data, view value = some data ↔ value = make data

namespace IsView

variable {α β : Type} {view : β → Option α} {make : α → β} (h : IsView view make)
include h

theorem view_make (data : α) : view (make data) = some data :=
  (h (make data) data).2 rfl

theorem injective {data data' : α} (heq : make data = make data') : data = data' := by
  have hdata : view (make data) = some data' := (h _ _).2 heq
  rw [h.view_make] at hdata
  exact Option.some.inj hdata

theorem eq_none {value : β} : view value = none ↔ ∀ data, value ≠ make data := by
  rw [Option.eq_none_iff_forall_ne_some]
  exact forall_congr' fun data => not_congr (h value data)

/-- A list is made of data if each of its values is. -/
theorem mapM : IsView (List.mapM view) (List.map make) := by
  intro values data
  induction values generalizing data with
  | nil => cases data <;> simp
  | cons value values ih =>
    rw [List.mapM_cons]
    constructor
    · intro hdata
      obtain ⟨first, hvalue, hdata⟩ := Option.bind_eq_some_iff.1 hdata
      obtain ⟨others, hvalues, hdata⟩ := Option.bind_eq_some_iff.1 hdata
      obtain rfl : first :: others = data := Option.some.inj hdata
      rw [(h value first).1 hvalue, (ih others).1 hvalues, List.map_cons]
    · intro hmade
      cases data with
      | nil => cases hmade
      | cons first others =>
        obtain ⟨hvalue, hvalues⟩ := List.cons.inj hmade
        rw [(h value first).2 hvalue, (ih others).2 hvalues]
        rfl

end IsView

namespace Json

theorem isView_asInt64? : IsView asInt64? ofInt64 :=
  fun _ _ => asInt64?_eq_some

theorem isView_asString? : IsView asString? .string := by
  intro value text
  cases value <;> simp [asString?]

theorem isView_asBool? : IsView asBool? .bool := by
  intro value b
  cases value <;> simp [asBool?]

theorem isView_asArray? : IsView asArray? .array := by
  intro value items
  cases value <;> simp [asArray?]

theorem isView_asStrings? : IsView asStrings? ofStrings := by
  intro value texts
  cases value with
  | array items =>
    rw [ofStrings, array.injEq]
    exact isView_asString?.mapM items texts
  | _ => simp [asStrings?, asArray?, ofStrings]

end Json

namespace Arguments

variable {α : Type} {view : Json → Option α} {make : α → Json} {args : Arguments} {name : String}
  {kind : ArgumentKind}

theorem get?_of_field? {value found : Json} (h : value.field? name = some found)
    (hnull : found ≠ .null) : get? ⟨value⟩ name = some found := by
  rw [get?, h, Option.filter_some_pos (by simpa using hnull)]

theorem convert_eq_ok (h : IsView view make) {value : Json} {data : α} :
    convert name kind view value = .ok data ↔ value = make data := by
  rw [convert, ← h value data]
  cases view value <;> simp

theorem convert_eq_error (h : IsView view make) {value : Json} {error : ArgumentError} :
    convert name kind view value = .error error ↔
      (∀ data, value ≠ make data) ∧ error = .mismatch name kind value := by
  rw [convert, ← h.eq_none]
  cases view value <;> simp [eq_comm]

/-- A field that has to be there is acceptable if it is and has the data. -/
theorem required_eq_ok (h : IsView view make) {data : α} :
    args.required name kind view = .ok data ↔ args.get? name = some (make data) := by
  rw [required]
  cases args.get? name with
  | none => simp
  | some value => rw [convert_eq_ok h, Option.some_inj]

theorem required_eq_error (h : IsView view make) {error : ArgumentError} :
    args.required name kind view = .error error ↔
      (args.get? name = none ∧ error = .missing name) ∨
        ∃ found, args.get? name = some found ∧ (∀ data, found ≠ make data) ∧
          error = .mismatch name kind found := by
  rw [required]
  cases args.get? name with
  | none => simp [eq_comm]
  | some value => simp [convert_eq_error h]

/-- A field with a default is one that has to be there if it is there. -/
theorem default_eq (default : α) :
    (·.getD default) <$> args.optional name kind view =
      match args.get? name with
      | some value => convert name kind view value
      | none => .ok default := by
  rw [optional]
  cases args.get? name with
  | none => rfl
  | some value => cases h : convert name kind view value <;> simp [h, Functor.map, Except.map]

/-- A field with a default is acceptable if it has the data, or if it is not there and they are the
default. -/
theorem default_eq_ok (h : IsView view make) {default data : α} :
    (·.getD default) <$> args.optional name kind view = .ok data ↔
      (args.get? name).getD (make default) = make data := by
  rw [default_eq]
  cases args.get? name with
  | none =>
    rw [Option.getD_none]
    constructor
    · rintro ⟨⟩
      rfl
    · intro hdata
      exact congrArg Except.ok (h.injective hdata)
  | some value => exact convert_eq_ok h

theorem default_eq_error (h : IsView view make) {default : α} {error : ArgumentError} :
    (·.getD default) <$> args.optional name kind view = .error error ↔
      ∃ found, args.get? name = some found ∧ (∀ data, found ≠ make data) ∧
        error = .mismatch name kind found := by
  rw [default_eq]
  cases args.get? name with
  | none => simp
  | some value => simp [convert_eq_error h]

end Arguments

section MapM

variable {α β ε : Type} {read : α → Except ε β} {values : List α}

/-- Values are read one by one. -/
theorem mapM_eq_ok {results : List β} :
    values.mapM read = .ok results ↔
      List.Forall₂ (fun value result => read value = .ok result) values results := by
  induction values generalizing results with
  | nil =>
    rw [List.mapM_nil, List.forall₂_nil_left_iff]
    exact ⟨fun h => (Except.ok.inj h).symm, fun h => congrArg Except.ok h.symm⟩
  | cons value values ih =>
    rw [List.mapM_cons, List.forall₂_cons_left_iff]
    constructor
    · intro h
      obtain ⟨result, hresult, h⟩ := exists_of_bind_eq_ok h
      obtain ⟨others, hothers, h⟩ := exists_of_bind_eq_ok h
      cases h
      exact ⟨result, others, hresult, ih.1 hothers, rfl⟩
    · rintro ⟨result, others, hresult, hothers, rfl⟩
      rw [hresult, ih.2 hothers]
      rfl

/-- The first value that cannot be read counts, and none behind it. -/
theorem exists_of_mapM_eq_error {error : ε} (h : values.mapM read = .error error) :
    ∃ front value back, values = front ++ value :: back ∧
      (∀ other ∈ front, ∃ result, read other = .ok result) ∧ read value = .error error := by
  induction values with
  | nil => cases h
  | cons first values ih =>
    rw [List.mapM_cons] at h
    rcases bind_eq_error.1 h with hfirst | ⟨result, hfirst, h⟩
    · exact ⟨[], first, values, rfl, nofun, hfirst⟩
    rcases bind_eq_error.1 h with hrest | ⟨results, -, h⟩
    · obtain ⟨front, value, back, rfl, hfront, hvalue⟩ := ih hrest
      refine ⟨first :: front, value, back, rfl, ?_, hvalue⟩
      exact List.forall_mem_cons.2 ⟨⟨result, hfirst⟩, hfront⟩
    · cases h

end MapM

end DebugAdapter
