import DebugAdapter.Proofs.Channel.Numbering

/-!
# Channels that refuse nothing

Without a frame that is refused, every message arrives, once and in order.
-/

namespace DebugAdapter

open Effect

namespace Channel

/-- Notes are not messages. -/
@[simp]
theorem sent_note (channel : Channel) (direction : Direction) (text : String) :
    sent (channel.note direction text).2 = [] := by
  have hecho : ∀ attempt ∈ deliveries (channel.note direction text).2, attempt.isEcho = true := by
    intro attempt hmem
    rw [deliveries_eq_filter] at hmem
    exact (echo_of_mem_note (List.mem_filter.1 hmem).1).1
  rw [sent, List.map_eq_nil_iff, List.filter_eq_nil_iff]
  intro attempt hmem
  simp [hecho attempt hmem]

/-- A channel that refuses nothing. -/
def Reliable (channel : Channel) : Prop :=
  ∀ k, channel.sink.refusal k = none

theorem Course.reliable {channel last : Channel} {effects : List Effect}
    (h : Course channel effects last) (hreliable : channel.Reliable) : last.Reliable := by
  intro k
  rw [h.numbers.refusal]
  exact hreliable k

namespace Reliable

variable {channel : Channel} (h : channel.Reliable)
include h

theorem delivered_offer (message : Message) (isEcho : Bool) :
    (channel.offer message isEcho).2.delivered = true :=
  congrArg Option.isNone (h _)

/-- A message arrives under its number and is noted. -/
theorem send (message : Message) :
    ∃ own noted, (channel.send message).2 = (.offers own :: noted, .ok own.seq) ∧
      own.message = message ∧ own.delivered = true ∧ own.isEcho = false ∧ sent noted = [] ∧
      operations noted = [] ∧ taken noted = [] := by
  have haccepted : (channel.offer message false).2.refusal = none := h _
  rw [send_of_accepted haccepted]
  exact ⟨_, _, rfl, rfl, by rw [Attempt.delivered, haccepted]; rfl, rfl, sent_note ..,
    operations_note .., taken_note ..⟩

theorem sent_send (message : Message) : sent (channel.send message).2.1 = [message] := by
  obtain ⟨own, noted, hsend, hmessage, hdelivered, hecho, hnoted, -, -⟩ := h.send message
  rw [hsend, sent_cons, hnoted, List.append_nil]
  simp [sent, delivered?, hdelivered, hecho, hmessage]

theorem sent_raiseAll (events : List Event) :
    sent (channel.raiseAll events).2 = events.map .ofEvent := by
  induction events generalizing channel with
  | nil => rfl
  | cons event events ih =>
    have hrest := ih ((Course.send channel (.ofEvent event)).reliable h)
    rw [raiseAll, sent_append, raise, h.sent_send, hrest]
    rfl

end Reliable

end Channel

end DebugAdapter
