import DebugAdapter.Channel
import DebugAdapter.Proofs.Frame.RoundTrip
import DebugAdapter.Proofs.Json.RoundTrip

/-!
# Messages on the wire

A client who cuts the stream into frames and reads each body has all messages back, in order.
-/

namespace DebugAdapter.Message

/-- The object of a numbered message, with its fields in order. -/
def envelope (seq : Nat) : Message → Json
  | .response ⟨requestSeq, command, .ok body⟩ => .object [
      ("body", body),
      ("command", .string command),
      ("request_seq", .ofInt64 requestSeq),
      ("seq", .int seq),
      ("success", .bool true),
      ("type", .string "response")]
  | .response ⟨requestSeq, command, .error message⟩ => .object [
      ("command", .string command),
      ("message", .string message),
      ("request_seq", .ofInt64 requestSeq),
      ("seq", .int seq),
      ("success", .bool false),
      ("type", .string "response")]
  | .event name body => .object [
      ("body", body),
      ("event", .string name),
      ("seq", .int seq),
      ("type", .string "event")]

/-- Nothing but the order is changed about the fields. -/
theorem ofFields_eq_envelope (seq : Nat) (message : Message) :
    Json.ofFields (("seq", .int seq) :: message.fields) = message.envelope seq := by
  match message with
  | .response ⟨_, _, .ok _⟩ => rfl
  | .response ⟨_, _, .error _⟩ => rfl
  | .event _ _ => rfl

/-- The body of a message. -/
def body? : Message → Option Json
  | .response ⟨_, _, .ok body⟩ => some body
  | .response ⟨_, _, .error _⟩ => none
  | .event _ body => some body

/-- Nothing is lost of the body of a message inside the object of the message. -/
def Lossless (message : Message) : Prop :=
  ∀ body ∈ message.body?, body.Exact (Json.Reader.maxDepth - 1)

theorem exact_ofInt64 (depth : Nat) (i : Int64) : (Json.ofInt64 i).Exact depth := by
  have hlow := i.le_toInt
  have hhigh := i.toInt_lt
  exact .int depth (by omega) (by omega)

theorem Lossless.exact_fields {message : Message} (h : message.Lossless) {seq : Nat}
    (hseq : seq < 0x10000000000000000) :
    ∀ field ∈ ("seq", .int seq) :: message.fields,
      field.2.Exact (Json.Reader.maxDepth - 1) := by
  have hint : (Json.int seq).Exact (Json.Reader.maxDepth - 1) :=
    .int _ (by omega) (by omega)
  match message, h with
  | .response ⟨requestSeq, command, .ok body⟩, h =>
    have hbody := h body rfl
    simp [fields, hint, hbody, exact_ofInt64, Json.Exact.string, Json.Exact.bool]
  | .response ⟨requestSeq, command, .error message⟩, h =>
    simp [fields, hint, exact_ofInt64, Json.Exact.string, Json.Exact.bool]
  | .event name body, h =>
    have hbody := h body rfl
    simp [fields, hint, hbody, Json.Exact.string]

/-- The text of a message is read as its object. -/
theorem parse_payload {message : Message} (h : message.Lossless) {seq : Nat}
    (hseq : seq < 0x10000000000000000) :
    Json.parse (Utf8.encode (message.payload seq)) = .ok (message.envelope seq) := by
  rw [payload, Json.parse_render_object (h.exact_fields hseq), ofFields_eq_envelope]

/-- The number and the message that an object tells. -/
def ofEnvelope? (value : Json) : Option (Nat × Message) := do
  let .int seq ← value.field? "seq" | none
  match ← value.field? "type" with
  | .string "response" =>
    let requestSeq ← (← value.field? "request_seq").asInt64?
    let command ← (← value.field? "command").asString?
    if ← (← value.field? "success").asBool? then
      pure (seq.toNat, .response ⟨requestSeq, command, .ok (← value.field? "body")⟩)
    else
      let message ← (← value.field? "message").asString?
      pure (seq.toNat, .response ⟨requestSeq, command, .error message⟩)
  | .string "event" =>
    let name ← (← value.field? "event").asString?
    pure (seq.toNat, .event name (← value.field? "body"))
  | _ => none

theorem ofEnvelope?_envelope (seq : Nat) (message : Message) :
    ofEnvelope? (message.envelope seq) = some (seq, message) := by
  have hint (i : Int64) : (Json.ofInt64 i).asInt64? = some i :=
    Json.asInt64?_eq_some.2 rfl
  match message with
  | .response ⟨requestSeq, command, .ok body⟩ =>
    simp [ofEnvelope?, envelope, Json.field?, Json.lookup, hint, Json.asString?,
      Json.asBool?]
  | .response ⟨requestSeq, command, .error message⟩ =>
    simp [ofEnvelope?, envelope, Json.field?, Json.lookup, hint, Json.asString?,
      Json.asBool?]
  | .event name body =>
    simp [ofEnvelope?, envelope, Json.field?, Json.lookup, Json.asString?]

/-- What a client makes of a body. -/
def read? (body : Bytes) : Option (Nat × Message) :=
  match Json.parse body with
  | .ok value => ofEnvelope? value
  | .error _ => none

theorem read?_payload {message : Message} (h : message.Lossless) {seq : Nat}
    (hseq : seq < 0x10000000000000000) :
    read? (Utf8.encode (message.payload seq)) = some (seq, message) := by
  rw [read?, parse_payload h hseq]
  exact ofEnvelope?_envelope seq message

/-- The text of a message has no control character, and is read as one object with the number of
the message, its kind and its fields, unless a number of the body is no integer of 64 bits or the
body is nested too deep. So a client who reads frames from the stream and objects from
their bodies recovers all messages that were sent, in order and with their numbers. -/
theorem recovered_from_the_wire :
    (∀ (seq : Nat) (message : Message), ∀ b ∈ Utf8.encode (message.payload seq),
      Ascii.space ≤ b) ∧
    (∀ (seq : Nat) (message : Message), seq < 0x10000000000000000 → message.Lossless →
      Json.parse (Utf8.encode (message.payload seq)) = .ok (message.envelope seq)) ∧
    ∀ (attempts : List Attempt) (ending : Frame.Ending),
      (∀ attempt ∈ attempts, attempt.seq < 0x10000000000000000 ∧ attempt.message.Lossless ∧
        (Utf8.encode attempt.payload).length < UInt64.size) →
      (Frame.bodies (attempts.flatMap Attempt.frame) ending).map read? =
        attempts.map fun attempt => some (attempt.seq, attempt.message) := by
  refine ⟨?_, fun seq message hseq hlossless => parse_payload hlossless hseq, ?_⟩
  · intro seq message b hb
    exact (printable_payload seq message).space_le_of_mem_encodeChars hb
  · intro attempts ending h
    let payloads := attempts.map fun attempt => Utf8.encode attempt.payload
    have hframes : attempts.flatMap Attempt.frame = payloads.flatMap Frame.encode := by
      rw [List.flatMap_map]
      rfl
    have hlength : ∀ payload ∈ payloads, payload.length ≤ Frame.maxLength := by
      intro payload hpayload
      obtain ⟨attempt, hattempt, rfl⟩ := List.mem_map.1 hpayload
      exact Nat.le_of_lt_succ (h attempt hattempt).2.2
    rw [hframes, Frame.bodies_flatMap_encode hlength, List.map_map]
    refine List.map_congr_left fun attempt hattempt => ?_
    obtain ⟨hseq, hlossless, -⟩ := h attempt hattempt
    exact read?_payload hlossless hseq

/-- A success and a failure with texts that need escapes. -/
theorem recovered_from_the_wire_escaped :
    let success : Message := .response ⟨-1, "line\nbreak", .ok (.array [
      .object [("", .int 18446744073709551615), ("\"", .null)], .string "\u0001\u00e9"])⟩
    let failure : Message := .response ⟨7, "\\", .error "\t"⟩
    let attempts : List Attempt := [
      { offer := 1, seq := 1, message := success, isEcho := false, refusal := none },
      { offer := 2, seq := 2, message := failure, isEcho := false, refusal := none }]
    success.Lossless ∧ Json.parse (Utf8.encode (success.payload 1)) = .ok (success.envelope 1) ∧
      (∀ attempt ∈ attempts, attempt.seq < 0x10000000000000000 ∧ attempt.message.Lossless ∧
        (Utf8.encode attempt.payload).length < UInt64.size) ∧
      (Frame.bodies (attempts.flatMap Attempt.frame) .closed).map read? =
        [some (1, success), some (2, failure)] := by
  intro success failure attempts
  have hsuccess : success.Lossless := by
    intro body hbody
    obtain rfl := Option.some.inj hbody
    have hobject : (Json.object [("", .int 18446744073709551615), ("\"", .null)]).Exact 125 := by
      refine .object (by unfold Json.Sorted; decide) ?_
      simp only [List.forall_mem_cons]
      exact ⟨.int 124 (by decide) (by decide), .null 124, fun _ h => absurd h List.not_mem_nil⟩
    refine .array ?_
    simp only [List.forall_mem_cons]
    exact ⟨hobject, .string 125 _, fun _ h => absurd h List.not_mem_nil⟩
  have hfailure : failure.Lossless := by
    intro body hbody
    cases hbody
  have hattempts : ∀ attempt ∈ attempts, attempt.seq < 0x10000000000000000 ∧
      attempt.message.Lossless ∧ (Utf8.encode attempt.payload).length < UInt64.size := by
    simp only [attempts, List.forall_mem_cons]
    exact ⟨⟨by decide, hsuccess, by decide +kernel⟩, ⟨by decide, hfailure, by decide +kernel⟩,
      fun _ h => absurd h List.not_mem_nil⟩
  obtain ⟨-, hparse, hrecovered⟩ := recovered_from_the_wire
  exact ⟨hsuccess, hparse 1 success (by decide) hsuccess, hattempts,
    hrecovered attempts .closed hattempts⟩

end DebugAdapter.Message
