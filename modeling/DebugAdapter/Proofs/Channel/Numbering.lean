import DebugAdapter.Proofs.Channel.Course
import DebugAdapter.Proofs.Text.WholeNumber

/-!
# The numbering of messages

A channel numbers its messages in the order in which it offers them, echoes among them, and gives a
number to a message that is refused as well.
-/

namespace DebugAdapter

/-! ## The number in a message -/

namespace Message

/-- How the text of a message begins. -/
def opening : List Char :=
  ['{', '"', 's', 'e', 'q', '"', ':']

/-- The number that the text of a message shows. -/
def shownSeq? (payload : String) : Option Nat :=
  (opening.isPrefixOf? payload.toList).map fun rest =>
    Nat.ofDigitChars 10 (rest.takeWhile Char.isDigit) 0

theorem fields_ne_nil (message : Message) : message.fields ≠ [] := by
  cases message <;> simp [fields]

/-- The text of a message is its number and what does not depend on it. -/
theorem exists_payload_eq (message : Message) :
    ∃ rest, ∀ seq, message.payload seq =
      String.ofList (opening ++ (Nat.toDigits 10 seq ++ ',' :: rest)) := by
  obtain ⟨⟨name, value⟩, others, hfields⟩ := List.exists_cons_of_ne_nil message.fields_ne_nil
  have hquote : Json.quote "seq" = ['"', 's', 'e', 'q', '"'] := by decide
  refine ⟨Json.fieldChars ((name, value) :: others) ++ ['}'], fun seq => ?_⟩
  have hseq : Json.chars (.int (seq : Int)) = Nat.toDigits 10 seq := rfl
  rw [payload, Json.render, Json.chars, hfields, Json.fieldChars, hquote, hseq]
  simp [opening]

theorem shownSeq?_payload (seq : Nat) (message : Message) :
    shownSeq? (message.payload seq) = some seq := by
  obtain ⟨rest, hpayload⟩ := message.exists_payload_eq
  have hdigits : ∀ c ∈ Nat.toDigits 10 seq, c.isDigit := fun c hc =>
    WholeNumber.isDigit_of_mem_toDigits hc
  have hcomma : ¬ ','.isDigit := by decide
  rw [shownSeq?, hpayload, String.toList_ofList, List.isPrefixOf?_eq_some_iff_append_eq.2 rfl,
    Option.map_some, List.takeWhile_append_of_pos hdigits, List.takeWhile_cons_of_neg hcomma,
    List.append_nil, Nat.ofDigitChars_ten_toDigits]

end Message

/-- The number that a frame shows. -/
def Attempt.shownSeq? (attempt : Attempt) : Option Nat :=
  Message.shownSeq? attempt.payload

@[simp]
theorem Attempt.shownSeq?_eq (attempt : Attempt) : attempt.shownSeq? = some attempt.seq :=
  Message.shownSeq?_payload attempt.seq attempt.message

namespace Channel

open Effect

/-! ## Going on with the numbering -/

/-- Effects that go on with the numbering of a channel and leave it to `last`. -/
structure Numbers (channel : Channel) (effects : List Effect) (last : Channel) : Prop where
  lastSeq : last.lastSeq = channel.lastSeq + (attempts effects).length
  offers : last.sink.offers = channel.sink.offers + (attempts effects).length
  refusal : last.sink.refusal = channel.sink.refusal
  attempt : ∀ k attempt, (attempts effects)[k]? = some attempt →
    attempt.seq = channel.lastSeq + k + 1 ∧ attempt.offer = channel.sink.offers + k + 1 ∧
      attempt.refusal = channel.sink.refusal (channel.sink.offers + k + 1)

namespace Numbers

variable {channel middle last : Channel} {effects others : List Effect}

theorem of_attempts_eq_nil (h : attempts effects = []) (hseq : last.lastSeq = channel.lastSeq)
    (hsink : last.sink = channel.sink) : Numbers channel effects last := by
  refine ⟨?_, ?_, ?_, ?_⟩ <;> simp [h, hseq, hsink]

theorem trans (h : Numbers channel effects middle) (h' : Numbers middle others last) :
    Numbers channel (effects ++ others) last := by
  refine ⟨?_, ?_, h'.refusal.trans h.refusal, ?_⟩
  · rw [h'.lastSeq, h.lastSeq, attempts_append, List.length_append, Nat.add_assoc]
  · rw [h'.offers, h.offers, attempts_append, List.length_append, Nat.add_assoc]
  · intro k attempt hk
    rw [attempts_append, List.getElem?_append] at hk
    split at hk
    · exact h.attempt k attempt hk
    · next hlength =>
      -- a frame of the second part: its place counts from the end of the first
      obtain ⟨hseq, hoffer, hrefusal⟩ := h'.attempt _ attempt hk
      rw [h.lastSeq] at hseq
      rw [h.offers] at hoffer hrefusal
      rw [h.refusal] at hrefusal
      have hindex (n : Nat) : n + (attempts effects).length + (k - (attempts effects).length) + 1 =
          n + k + 1 := by omega
      rw [hindex] at hseq hoffer hrefusal
      exact ⟨hseq, hoffer, hrefusal⟩

/-- A frame goes on with the numbering, refused or not. -/
theorem offer (channel : Channel) (message : Message) (isEcho : Bool) :
    Numbers channel [.offers (channel.offer message isEcho).2]
      (channel.offer message isEcho).1 := by
  refine ⟨rfl, rfl, rfl, ?_⟩
  intro k attempt hk
  cases k with
  | zero =>
    obtain rfl : (channel.offer message isEcho).2 = attempt := by
      simpa [attempts, attempt?] using hk
    exact ⟨rfl, rfl, rfl⟩
  | succ k => simp [attempts, attempt?] at hk

/-- A noted text takes a number if it is echoed, and none otherwise. -/
theorem note (channel : Channel) (direction : Direction) (text : String) :
    Numbers channel (channel.note direction text).2 (channel.note direction text).1 := by
  rw [Channel.note]
  split
  · exact of_attempts_eq_nil rfl rfl rfl
  · exact offer channel (echo (direction.line text)) true
  · exact of_attempts_eq_nil rfl rfl rfl
  · exact of_attempts_eq_nil rfl rfl rfl

theorem send (channel : Channel) (message : Message) :
    Numbers channel (channel.send message).2.1 (channel.send message).1 := by
  have hoffer := offer channel message false
  cases hrefusal : (channel.offer message false).2.refusal with
  | some reason =>
    rw [send_of_refused hrefusal]
    exact hoffer
  | none =>
    rw [send_of_accepted hrefusal]
    exact hoffer.trans (note _ message.direction (channel.offer message false).2.payload)

theorem use (channel : Channel) (first : Use) :
    Numbers channel (channel.use first).2 (channel.use first).1 := by
  cases first with
  | send message => exact send channel message
  | note text => exact note channel .command text

end Numbers

theorem Course.numbers {channel last : Channel} {effects : List Effect}
    (h : Course channel effects last) : Numbers channel effects last := by
  induction h with
  | done => exact .of_attempts_eq_nil rfl rfl rfl
  | use first _ ih => exact (Numbers.use _ first).trans ih
  | @takes channel _ _ body _ ih =>
    have hfirst : Numbers channel [.takes body] channel := .of_attempts_eq_nil rfl rfl rfl
    exact hfirst.trans ih
  | @calls channel _ _ operation _ ih =>
    have hfirst : Numbers channel [.calls operation] channel := .of_attempts_eq_nil rfl rfl rfl
    exact hfirst.trans ih

/-! ## From the beginning -/

/-- A channel that has sent nothing, whose client refuses offers by their numbers. -/
def fresh (refusal : Nat → Option String) (traffic : TrafficLog) : Channel :=
  { sink := { refusal }, traffic }

/-- The numbering of all frames from the beginning. The number of a frame is the one that
its text shows. -/
structure Numbered (refusal : Nat → Option String) (effects : List Effect) : Prop where
  /-- The frame that is offered in the k-th place shows the number k. -/
  attempt : ∀ k attempt, (attempts effects)[k]? = some attempt →
    attempt.offer = k + 1 ∧ attempt.shownSeq? = some (k + 1) ∧ attempt.refusal = refusal (k + 1)
  /-- The numbers of the frames that reach the client increase. -/
  increasing : ((deliveries effects).filterMap (·.shownSeq?)).Pairwise (· < ·)
  /-- The client misses the numbers of the refused frames and no others. -/
  mem_iff : ∀ seq, seq ∈ (deliveries effects).filterMap (·.shownSeq?) ↔
    1 ≤ seq ∧ seq ≤ (attempts effects).length ∧ refusal seq = none

theorem Course.numbered {refusal : Nat → Option String} {traffic : TrafficLog}
    {effects : List Effect} {last : Channel} (h : Course (fresh refusal traffic) effects last) :
    Numbered refusal effects := by
  have hattempt : ∀ k attempt, (attempts effects)[k]? = some attempt →
      attempt.seq = k + 1 ∧ attempt.offer = k + 1 ∧ attempt.refusal = refusal (k + 1) := by
    intro k attempt hk
    simpa [fresh] using h.numbers.attempt k attempt hk
  have hshown : (deliveries effects).filterMap (·.shownSeq?) =
      (deliveries effects).map (·.seq) := by
    simp
  have hseqs : (attempts effects).map (·.seq) = List.range' 1 (attempts effects).length := by
    refine List.ext_getElem (by simp) fun k hk _ => ?_
    have hlength : k < (attempts effects).length := by simpa using hk
    rw [List.getElem_map, List.getElem_range',
      (hattempt k _ (List.getElem?_eq_getElem hlength)).1]
    omega
  refine ⟨?_, ?_, ?_⟩
  · intro k attempt hk
    obtain ⟨hseq, hoffer, hrefusal⟩ := hattempt k attempt hk
    exact ⟨hoffer, by rw [attempt.shownSeq?_eq, hseq], hrefusal⟩
  · -- the numbers that arrive are some of 1, 2, 3, ... in that order
    have hsome : ((deliveries effects).map (·.seq)).Sublist
        (List.range' 1 (attempts effects).length) := by
      rw [deliveries_eq_filter, ← hseqs]
      exact List.filter_sublist.map _
    rw [hshown]
    exact List.Pairwise.sublist hsome List.pairwise_lt_range'
  · intro seq
    rw [hshown, deliveries_eq_filter, List.mem_map]
    constructor
    · rintro ⟨attempt, hmem, rfl⟩
      obtain ⟨hmem, hdelivered⟩ := List.mem_filter.1 hmem
      obtain ⟨k, hk, rfl⟩ := List.getElem_of_mem hmem
      obtain ⟨hseq, -, hrefusal⟩ := hattempt k _ (List.getElem?_eq_getElem hk)
      rw [Attempt.delivered, hrefusal, Option.isNone_iff_eq_none] at hdelivered
      rw [hseq]
      exact ⟨by omega, by omega, hdelivered⟩
    · rintro ⟨hpos, hle, hrefusal⟩
      -- the frame in the place of the number has the number and is not refused
      have hk : seq - 1 < (attempts effects).length := by omega
      obtain ⟨hseq, -, hrefused⟩ := hattempt (seq - 1) _ (List.getElem?_eq_getElem hk)
      rw [Nat.sub_add_cancel hpos] at hseq hrefused
      refine ⟨_, List.mem_filter.2 ⟨List.getElem_mem hk, ?_⟩, hseq⟩
      rw [Attempt.delivered, hrefused, hrefusal, Option.isNone_none]

/-! ## The result of sending -/

/-- Notes offer nothing but echoes. -/
theorem echo_of_mem_note {channel : Channel} {direction : Direction} {text : String}
    {attempt : Attempt} (h : attempt ∈ attempts (channel.note direction text).2) :
    attempt.isEcho = true ∧ attempt.message = echo (direction.line text) := by
  rw [Channel.note] at h
  split at h
  · simp at h
  · obtain rfl : attempt = (channel.offer (echo (direction.line text)) true).2 := by
      simpa [attempt?] using h
    exact ⟨rfl, rfl⟩
  · simp at h
  · simp [attempt?] at h

/-- Sending offers the message first and then at most an echo, and yields a number if and
only if the frame of the message itself arrives with that number in it. -/
theorem send_result (channel : Channel) (message : Message) :
    ∃ own noted, (channel.send message).2.1 = .offers own :: noted ∧
      own.message = message ∧ own.isEcho = false ∧
      (∀ attempt ∈ attempts noted, attempt.isEcho = true) ∧
      ∀ seq, (channel.send message).2.2 = .ok seq ↔
        own.delivered = true ∧ own.shownSeq? = some seq := by
  cases hrefusal : (channel.offer message false).2.refusal with
  | some reason =>
    rw [send_of_refused hrefusal]
    refine ⟨_, [], rfl, rfl, rfl, by simp, fun seq => ?_⟩
    simp [Attempt.delivered, hrefusal]
  | none =>
    rw [send_of_accepted hrefusal]
    refine ⟨_, _, rfl, rfl, rfl, fun attempt h => (echo_of_mem_note h).1, fun seq => ?_⟩
    simp [Attempt.delivered, hrefusal]

theorem message_of_mem_send {channel : Channel} {message : Message} {attempt : Attempt}
    (hmem : attempt ∈ attempts (channel.send message).2.1) (hecho : attempt.isEcho = true) :
    ∃ line, attempt.message = echo line := by
  -- the message itself is not an echo, so the frame belongs to the note
  have hown : attempt ≠ (channel.offer message false).2 := by
    rintro rfl
    cases hecho
  cases hrefusal : (channel.offer message false).2.refusal with
  | some reason =>
    rw [send_of_refused hrefusal] at hmem
    exact absurd (by simpa [attempt?] using hmem) hown
  | none =>
    rw [send_of_accepted hrefusal, attempts_cons, List.mem_append] at hmem
    rcases hmem with hmem | hmem
    · exact absurd (by simpa [attempt?] using hmem) hown
    · exact ⟨_, (echo_of_mem_note hmem).2⟩

/-- What passes for an echo along a course is one. -/
theorem Course.message_of_isEcho {channel last : Channel} {effects : List Effect}
    (h : Course channel effects last) {attempt : Attempt} (hmem : attempt ∈ attempts effects)
    (hecho : attempt.isEcho = true) : ∃ line, attempt.message = echo line := by
  induction h with
  | done => cases hmem
  | use first _ ih =>
    rw [attempts_append, List.mem_append] at hmem
    rcases hmem with hmem | hmem
    · cases first with
      | note text => exact ⟨_, (echo_of_mem_note hmem).2⟩
      | send message => exact message_of_mem_send hmem hecho
    · exact ih hmem
  | takes body _ ih => exact ih (by simpa [attempt?] using hmem)
  | calls operation _ ih => exact ih (by simpa [attempt?] using hmem)

end Channel

end DebugAdapter
