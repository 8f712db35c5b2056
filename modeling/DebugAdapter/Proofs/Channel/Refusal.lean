import DebugAdapter.Proofs.Channel.Delivery

/-!
# Channels whose frames are refused

A channel whose client refuses some frames, beside one whose client refuses none. A refused frame
uses up its number all the same, so the two stay aligned; on the client's console they would not,
because a frame that is refused has no echo there.
-/

namespace DebugAdapter

/-! ## Effects in the face of refusals -/

/-- A frame that is offered to a client who refuses frames by the numbers of their offers. -/
def Attempt.facing (refusal : Nat → Option String) (attempt : Attempt) : Attempt :=
  { attempt with refusal := refusal attempt.offer }

namespace Effect

variable (refusal : Nat → Option String)

/-- An effect if the client refuses frames by their numbers. Notes in a log file are left out. -/
def facing? : Effect → Option Effect
  | .offers attempt => some (.offers (attempt.facing refusal))
  | .logs _ => none
  | effect => some effect

/-- Effects if the client refuses frames by their numbers, without the notes in a log file. -/
def facing (effects : List Effect) : List Effect :=
  effects.filterMap (facing? refusal)

variable (effects others : List Effect)

@[simp] theorem facing_nil : facing refusal [] = [] := rfl

@[simp]
theorem facing_append :
    facing refusal (effects ++ others) = facing refusal effects ++ facing refusal others :=
  List.filterMap_append

@[simp]
theorem facing_cons (effect : Effect) :
    facing refusal (effect :: effects) =
      (effect.facing? refusal).toList ++ facing refusal effects := by
  cases h : effect.facing? refusal <;> simp [facing, h]

@[simp]
theorem operations_facing : operations (facing refusal effects) = operations effects := by
  induction effects with
  | nil => rfl
  | cons effect effects ih => cases effect <;> simp [facing?, operation?, ih]

@[simp]
theorem taken_facing : taken (facing refusal effects) = taken effects := by
  induction effects with
  | nil => rfl
  | cons effect effects ih => cases effect <;> simp [facing?, taken?, ih]

theorem attempts_facing :
    attempts (facing refusal effects) = (attempts effects).map (·.facing refusal) := by
  induction effects with
  | nil => rfl
  | cons effect effects ih => cases effect <;> simp [facing?, attempt?, ih]

variable {refusal effects others}

/-- What the client misses is just what it refuses; the other frames are the same. -/
theorem deliveries_of_facing (h : facing refusal others = facing refusal effects)
    (hreliable : ∀ attempt ∈ attempts effects, attempt.refusal = none)
    (hrefusal : ∀ attempt ∈ attempts others, attempt.refusal = refusal attempt.offer) :
    deliveries others =
      (deliveries effects).filter fun attempt => (refusal attempt.offer).isNone := by
  have hself : ∀ attempt ∈ attempts others, attempt.facing refusal = attempt := by
    intro attempt hmem
    rw [Attempt.facing, ← hrefusal attempt hmem]
  have hothers : attempts others = (attempts effects).map (·.facing refusal) := by
    rw [← attempts_facing, ← h, attempts_facing, List.map_congr_left hself, List.map_id']
  have hall : deliveries effects = attempts effects := by
    rw [deliveries_eq_filter, List.filter_eq_self]
    intro attempt hmem
    rw [Attempt.delivered, hreliable attempt hmem]
    rfl
  rw [deliveries_eq_filter, hothers, hall, List.filter_map]
  -- a frame that is not refused is the same either way
  have hsame : ∀ attempt ∈ (attempts effects).filter fun attempt => (refusal attempt.offer).isNone,
      attempt.facing refusal = attempt := by
    intro attempt hmem
    obtain ⟨hmem, hnone⟩ := List.mem_filter.1 hmem
    rw [Attempt.facing, Option.isNone_iff_eq_none.1 hnone, ← hreliable attempt hmem]
  exact (List.map_congr_left hsame).trans (List.map_id' _)

end Effect

namespace Channel

open Effect

/-! ## Two channels side by side -/

/-- A channel whose client refuses frames as `refusal` has it, beside one whose client refuses
none. Both have offered equally many frames, each under the number of its offer, and
neither notes on the client's console. -/
structure Shadows (refusal : Nat → Option String) (clean real : Channel) : Prop where
  reliable : clean.Reliable
  refusal : real.sink.refusal = refusal
  offers : real.sink.offers = clean.sink.offers
  lastSeq : clean.lastSeq = clean.sink.offers ∧ real.lastSeq = real.sink.offers
  quiet : clean.traffic ≠ .console ∧ real.traffic ≠ .console

/-- What sending comes to for the message of a number. -/
def verdict (refusal : Nat → Option String) (seq : Nat) : Except SessionError Nat :=
  match refusal seq with
  | none => .ok seq
  | some reason => .error (.io reason)

theorem shadows_fresh (refusal : Nat → Option String) {traffic : TrafficLog}
    (h : traffic ≠ .console) :
    Shadows refusal (fresh (fun _ => none) traffic) (fresh refusal traffic) :=
  ⟨fun _ => rfl, rfl, rfl, ⟨rfl, rfl⟩, h, h⟩

/-- From the beginning, a frame is refused as its number has it. -/
theorem Course.refusal_eq {refusal : Nat → Option String} {traffic : TrafficLog}
    {effects : List Effect} {last : Channel} (h : Course (fresh refusal traffic) effects last) :
    ∀ attempt ∈ attempts effects, attempt.refusal = refusal attempt.offer := by
  intro attempt hmem
  obtain ⟨k, hk⟩ := List.mem_iff_getElem?.1 hmem
  obtain ⟨hoffer, -, hrefusal⟩ := h.numbered.attempt k attempt hk
  rw [hrefusal, hoffer]

/-- A channel that does not note on the console notes without a frame. -/
theorem note_of_quiet {channel : Channel} (h : channel.traffic ≠ .console) (direction : Direction)
    (text : String) :
    ∃ traffic logged, channel.note direction text = ({ channel with traffic }, logged) ∧
      traffic ≠ .console ∧ ∀ refusal, facing refusal logged = [] := by
  obtain ⟨lastSeq, sink, traffic⟩ := channel
  match traffic with
  | .console => exact absurd rfl h
  | .disabled => exact ⟨.disabled, [], rfl, h, fun _ => rfl⟩
  | .file content false => exact ⟨.file content false, [], rfl, h, fun _ => rfl⟩
  | .file content true => exact ⟨_, [.logs (direction.line text)], rfl, nofun, fun _ => rfl⟩

namespace Shadows

variable {refusal : Nat → Option String} {clean real : Channel} (h : Shadows refusal clean real)
include h

theorem offer (message : Message) (isEcho : Bool) :
    Shadows refusal (clean.offer message isEcho).1 (real.offer message isEcho).1 ∧
      (real.offer message isEcho).2.facing refusal = (clean.offer message isEcho).2.facing refusal ∧
      (clean.offer message isEcho).2.refusal = none ∧
      (real.offer message isEcho).2.refusal = refusal (clean.offer message isEcho).2.seq ∧
      (real.offer message isEcho).2.seq = (clean.offer message isEcho).2.seq := by
  obtain ⟨hclean, hreal⟩ := h.lastSeq
  have hnext : real.lastSeq + 1 = clean.lastSeq + 1 := by rw [hreal, hclean, h.offers]
  have hoffers : real.sink.offers + 1 = clean.sink.offers + 1 := by rw [h.offers]
  refine ⟨⟨h.reliable, h.refusal, hoffers, ⟨?_, ?_⟩, h.quiet⟩, ?_, h.reliable _, ?_, hnext⟩
  · simp only [Channel.offer, Sink.offer, hclean]
  · simp only [Channel.offer, Sink.offer, hreal]
  · simp only [Attempt.facing, Channel.offer, Sink.offer, hnext, hoffers]
  · simp only [Channel.offer, Sink.offer, h.refusal, hclean, hoffers]

/-- A note of one channel does not matter to the other. -/
theorem note_clean (direction : Direction) (text : String) :
    Shadows refusal (clean.note direction text).1 real ∧
      facing refusal (clean.note direction text).2 = [] := by
  obtain ⟨traffic, logged, hnote, hquiet, hlogged⟩ := note_of_quiet h.quiet.1 direction text
  rw [hnote]
  exact ⟨⟨h.reliable, h.refusal, h.offers, h.lastSeq, hquiet, h.quiet.2⟩, hlogged refusal⟩

theorem note_real (direction : Direction) (text : String) :
    Shadows refusal clean (real.note direction text).1 ∧
      facing refusal (real.note direction text).2 = [] := by
  obtain ⟨traffic, logged, hnote, hquiet, hlogged⟩ := note_of_quiet h.quiet.2 direction text
  rw [hnote]
  exact ⟨⟨h.reliable, h.refusal, h.offers, h.lastSeq, h.quiet.1, hquiet⟩, hlogged refusal⟩

theorem noteInbound (text : String) :
    Shadows refusal (clean.noteInbound text).1 (real.noteInbound text).1 ∧
      facing refusal (real.noteInbound text).2 = facing refusal (clean.noteInbound text).2 := by
  obtain ⟨hclean, hlogged⟩ := h.note_clean .command text
  obtain ⟨hboth, hlogged'⟩ := hclean.note_real .command text
  exact ⟨hboth, hlogged'.trans hlogged.symm⟩

/-- A message is sent under the same number, and whether it arrives depends on the number. -/
theorem send (message : Message) :
    Shadows refusal (clean.send message).1 (real.send message).1 ∧
      facing refusal (real.send message).2.1 = facing refusal (clean.send message).2.1 ∧
      ∃ seq, (clean.send message).2.2 = .ok seq ∧
        (real.send message).2.2 = verdict refusal seq := by
  obtain ⟨hoffer, hfacing, haccepted, hrefusal, hseq⟩ := h.offer message false
  obtain ⟨hclean, hlogged⟩ :=
    hoffer.note_clean message.direction (clean.offer message false).2.payload
  rw [send_of_accepted haccepted]
  cases hverdict : refusal (clean.offer message false).2.seq with
  | some reason =>
    -- the frame that is refused is noted by one channel only
    rw [send_of_refused (hrefusal.trans hverdict)]
    refine ⟨hclean, ?_, _, rfl, by rw [verdict, hverdict]⟩
    simp [facing?, hfacing, hlogged]
  | none =>
    obtain ⟨hboth, hlogged'⟩ :=
      hclean.note_real message.direction (real.offer message false).2.payload
    rw [send_of_accepted (hrefusal.trans hverdict)]
    refine ⟨hboth, ?_, _, rfl, by rw [verdict, hverdict, ← hseq]⟩
    simp [facing?, hfacing, hlogged, hlogged']

theorem raiseAll (events : List Event) :
    Shadows refusal (clean.raiseAll events).1 (real.raiseAll events).1 ∧
      facing refusal (real.raiseAll events).2 = facing refusal (clean.raiseAll events).2 := by
  induction events generalizing clean real with
  | nil => exact ⟨h, rfl⟩
  | cons event events ih =>
    obtain ⟨hfirst, hevent, -⟩ := h.send (.ofEvent event)
    obtain ⟨hothers, hevents⟩ := ih hfirst
    refine ⟨hothers, ?_⟩
    rw [Channel.raiseAll, Channel.raiseAll, facing_append, facing_append]
    exact congrArg₂ (· ++ ·) hevent hevents

end Shadows

end Channel

end DebugAdapter
