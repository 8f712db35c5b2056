import DebugAdapter.Proofs.Request.Shape

/-!
# Objects as requests

An object is a request if it has a number and a command, and a kind that is a text if there is one.
Of an object that is none, the number and the command are kept, each if it is there.
-/

namespace DebugAdapter.Request

variable {body : Bytes} {fields : List (String × Json)} {request : Request}

/-- A request as the fields of an object give it. -/
structure GivenBy (fields : List (String × Json)) (request : Request) : Prop where
  seq : Json.lookup "seq" fields = some (.ofInt64 request.seq)
  command : Json.lookup "command" fields = some (.string request.command)
  /-- There are no arguments in place of none. -/
  arguments : request.arguments = (Json.lookup "arguments" fields).getD .null
  /-- A kind that is null is none. -/
  kind : (Json.lookup "type" fields).getD .null = request.kind.elim .null .string

/-- A field that is looked at if it is there. -/
theorem mapM_eq_ok {α ε : Type} {field : Option Json} {read : Json → Except ε α}
    {result : Option α} :
    field.mapM read = .ok result ↔
      (field = none ∧ result = none) ∨
        ∃ value a, field = some value ∧ read value = .ok a ∧ result = some a := by
  cases field with
  | none => cases result <;> simp [pure, Except.pure]
  | some value => cases h : read value <;> simp [h, Functor.map, Except.map, eq_comm]

theorem kind_eq_ok {field : Option Json} {kind : Option String} :
    (∃ found, field.mapM kindOf = .ok found ∧ found.getD none = kind) ↔
      field.getD .null = kind.elim .null .string := by
  constructor
  · rintro ⟨found, hfound, rfl⟩
    rcases mapM_eq_ok.1 hfound with ⟨rfl, rfl⟩ | ⟨value, kind, rfl, hvalue, rfl⟩
    · rfl
    · exact kindOf_eq_ok.1 hvalue
  · intro h
    cases field with
    | none =>
      obtain rfl : kind = none := by
        cases kind with
        | none => rfl
        | some text => cases h
      exact ⟨none, rfl, rfl⟩
    | some value =>
      exact ⟨some kind, mapM_eq_ok.2 (.inr ⟨value, kind, rfl, kindOf_eq_ok.2 h, rfl⟩), rfl⟩

theorem givenBy_of_ofFields (h : ofFields fields = .ok request) : GivenBy fields request := by
  obtain ⟨command?, hcommand?, h⟩ := exists_of_bind_eq_ok h
  obtain ⟨seq?, hseq?, h⟩ := exists_of_bind_eq_ok h
  obtain ⟨kind?, hkind?, h⟩ := exists_of_bind_eq_ok h
  rcases mapM_eq_ok.1 hseq? with ⟨-, rfl⟩ | ⟨found, seq, hfound, hseq, rfl⟩
  · cases h
  rcases mapM_eq_ok.1 hcommand? with ⟨-, rfl⟩ | ⟨said, command, hsaid, hcommand, rfl⟩
  · cases h
  cases h
  rw [seqOf_eq_ok.1 hseq] at hfound
  rw [textOf_eq_ok.1 hcommand] at hsaid
  exact ⟨hfound, hsaid, rfl, kind_eq_ok.1 ⟨kind?, hkind?, rfl⟩⟩

theorem ofFields_of_givenBy (h : GivenBy fields request) : ofFields fields = .ok request := by
  obtain ⟨kind, hkind, hgiven⟩ := kind_eq_ok.2 h.kind
  have hseq : seqOf (.ofInt64 request.seq) = .ok request.seq := seqOf_eq_ok.2 rfl
  have hcommand : textOf (.string request.command) = .ok request.command := rfl
  have hfound : (Json.lookup "seq" fields).mapM seqOf = .ok (some request.seq) :=
    mapM_eq_ok.2 (.inr ⟨_, _, h.seq, hseq, rfl⟩)
  have hsaid : (Json.lookup "command" fields).mapM textOf = .ok (some request.command) :=
    mapM_eq_ok.2 (.inr ⟨_, _, h.command, hcommand, rfl⟩)
  rw [ofFields, hfound, hsaid, hkind]
  simp only [bind, Except.bind, pure, Except.pure, ← h.arguments, hgiven]

/-- The request in an object, if there is one. -/
theorem decode_eq_ok_iff_givenBy (h : Json.parse body = .ok (.object fields)) :
    decode body = .ok request ↔ GivenBy fields request := by
  rw [decode_eq_ok, h]
  constructor
  · rintro ⟨value, ⟨⟩, hrequest⟩
    exact givenBy_of_ofFields hrequest
  · intro hgiven
    exact ⟨.object fields, rfl, ofFields_of_givenBy hgiven⟩

example : ["1", "1.0", "1e3", "-0", "9223372036854775808"].map (fun number =>
    (decode (Utf8.encode ("\x7b\"command\":\"threads\",\"seq\":" ++ number ++ "\x7d"))).isOk) =
      [true, false, false, false, false] := by
  decide +kernel

/-- Which objects are requests. -/
theorem exists_givenBy_iff :
    (∃ request, GivenBy fields request) ↔
      (∃ seq, Json.lookup "seq" fields = some (.ofInt64 seq)) ∧
      (∃ command, Json.lookup "command" fields = some (.string command)) ∧
      (Json.lookup "type" fields = none ∨ Json.lookup "type" fields = some .null ∨
        ∃ kind, Json.lookup "type" fields = some (.string kind)) := by
  constructor
  · rintro ⟨request, hseq, hcommand, -, hkind⟩
    refine ⟨⟨_, hseq⟩, ⟨_, hcommand⟩, ?_⟩
    cases htype : Json.lookup "type" fields with
    | none => exact .inl rfl
    | some value =>
      rw [htype, Option.getD_some] at hkind
      cases hgiven : request.kind with
      | none =>
        rw [hkind, hgiven]
        exact .inr (.inl rfl)
      | some kind =>
        rw [hkind, hgiven]
        exact .inr (.inr ⟨kind, rfl⟩)
  · rintro ⟨⟨seq, hseq⟩, ⟨command, hcommand⟩, htype⟩
    have hkind : ∃ kind : Option String,
        (Json.lookup "type" fields).getD .null = kind.elim .null .string := by
      rcases htype with htype | htype | ⟨kind, htype⟩
      · exact ⟨none, by rw [htype]; rfl⟩
      · exact ⟨none, by rw [htype]; rfl⟩
      · exact ⟨some kind, by rw [htype]; rfl⟩
    obtain ⟨kind, hkind⟩ := hkind
    let arguments := (Json.lookup "arguments" fields).getD .null
    exact ⟨{ seq, command, arguments, kind }, hseq, hcommand, rfl, hkind⟩

/-- Of an object that is no request the number and the command are kept. -/
theorem eq_of_decode_object_eq_error {rejection : Rejection}
    (h : Json.parse body = .ok (.object fields)) (hdecode : decode body = .error rejection) :
    rejection.seq = (Json.lookup "seq" fields).bind Json.asInt64? ∧
      rejection.command = (Json.lookup "command" fields).bind Json.asString? := by
  cases hrequest : ofJson (.object fields) with
  | ok request => simp [decode, h, hrequest] at hdecode
  | error mismatch =>
    simp only [decode, h, hrequest, Except.error.injEq] at hdecode
    rw [← hdecode]
    exact ⟨rfl, rfl⟩

theorem bind_asInt64?_eq_some {field : Option Json} {seq : Int64} :
    field.bind Json.asInt64? = some seq ↔ field = some (.ofInt64 seq) := by
  cases field with
  | none => simp
  | some value => rw [Option.bind_some, Json.asInt64?_eq_some, Option.some_inj]

theorem bind_asString?_eq_some {field : Option Json} {text : String} :
    field.bind Json.asString? = some text ↔ field = some (.string text) := by
  cases field with
  | none => simp
  | some value => cases value <;> simp [Json.asString?]

end DebugAdapter.Request
