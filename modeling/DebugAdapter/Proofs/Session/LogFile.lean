import DebugAdapter.Proofs.Session.Alike
import DebugAdapter.Proofs.Session.Taken

/-!
# Sessions with a log in a file

A log in a file adds its lines to what a session does, and changes nothing else.
-/

namespace DebugAdapter

variable {σ : Type}

namespace Effect

/-- An effect, and the line about it if lines can be written. -/
def noted (writable : Bool) (effect : Effect) : List Effect :=
  effect :: if writable then effect.line?.toList.map .logs else []

variable (writable : Bool) (effects : List Effect)

/-- Whoever does not look at lines sees the same with them as without. -/
theorem filterMap_flatMap_noted {α : Type} (see? : Effect → Option α)
    (hlogs : ∀ line, see? (.logs line) = none) :
    (effects.flatMap (noted writable)).filterMap see? = effects.filterMap see? := by
  induction effects with
  | nil => rfl
  | cons effect effects ih =>
    have hnoted : (noted writable effect).filterMap see? = [effect].filterMap see? := by
      rw [noted, ← List.singleton_append, List.filterMap_append]
      cases writable with
      | false => simp
      | true => cases effect.line? <;> simp [hlogs]
    rw [List.flatMap_cons, List.filterMap_append, hnoted, ih]
    exact (List.filterMap_append).symm

theorem logged_flatMap_noted (h : logged effects = []) :
    logged (effects.flatMap (noted true)) = effects.filterMap line? := by
  induction effects with
  | nil => rfl
  | cons effect effects ih =>
    rw [logged_cons, List.append_eq_nil_iff] at h
    rw [List.flatMap_cons, logged_append, ih h.2, noted, logged_cons, h.1]
    cases hline : effect.line? with
    | none => simp [hline]
    | some line => simp [hline, log?]

end Effect

namespace Channel

open Effect

/-- A channel without a log, and the same channel with a log in a file. -/
structure Keeps (writable : Bool) (channel other : Channel) : Prop where
  disabled : channel.traffic = .disabled
  file : ∃ content, other = { channel with traffic := .file content writable }

namespace Keeps

variable {writable : Bool} {channel other : Channel} (h : Keeps writable channel other)
include h

theorem note (direction : Direction) (text : String) :
    Keeps writable channel (other.note direction text).1 ∧
      (other.note direction text).2 = if writable then [.logs (direction.line text)] else [] := by
  obtain ⟨hdisabled, content, rfl⟩ := h
  cases writable with
  | true =>
    rw [note_of_file rfl]
    exact ⟨⟨hdisabled, _, rfl⟩, rfl⟩
  | false =>
    rw [note_of_unwritable rfl]
    exact ⟨⟨hdisabled, content, rfl⟩, rfl⟩

theorem offer (message : Message) :
    Keeps writable (channel.offer message false).1 (other.offer message false).1 ∧
      (other.offer message false).2 = (channel.offer message false).2 := by
  obtain ⟨hdisabled, content, rfl⟩ := h
  exact ⟨⟨hdisabled, content, rfl⟩, rfl⟩

theorem send (message : Message) :
    Keeps writable (channel.send message).1 (other.send message).1 ∧
      (other.send message).2.1 = (channel.send message).2.1.flatMap (noted writable) ∧
      (other.send message).2.2 = (channel.send message).2.2 := by
  obtain ⟨hoffer, hown⟩ := h.offer message
  rw [send_of_disabled h.disabled]
  cases hrefusal : (channel.offer message false).2.refusal with
  | some reason =>
    -- of a frame that is refused there is no line
    have hrefused : (other.offer message false).2.refusal = some reason := by rw [hown, hrefusal]
    rw [send_of_refused hrefused, hown]
    refine ⟨hoffer, ?_, rfl⟩
    simp [noted, line?, Attempt.delivered, hrefusal]
  | none =>
    have haccepted : (other.offer message false).2.refusal = none := by rw [hown, hrefusal]
    obtain ⟨hnote, hlines⟩ := hoffer.note message.direction (other.offer message false).2.payload
    have hline : message.direction.line (channel.offer message false).2.payload =
        LogLine.ofFrame (channel.offer message false).2 :=
      LogLine.direction_line (channel.offer message false).2
    rw [hown, hline] at hlines
    rw [send_of_accepted haccepted, hown]
    rw [hown] at hnote
    refine ⟨hnote, ?_, rfl⟩
    simp [hlines, noted, line?, Attempt.delivered, hrefusal]

end Keeps

/-- A log in a file adds lines, and changes nothing about what becomes of messages. -/
theorem mimics_keeps (writable : Bool) : Mimics (noted writable) (Keeps writable) where
  act := by
    intro channel other h intent
    cases intent with
    | takes body =>
      obtain ⟨hnote, hlines⟩ := h.note .command (Utf8.decodeLossy body)
      rw [act, act, noteInbound, noteInbound, note_of_disabled h.disabled, hlines]
      exact ⟨hnote, by cases writable <;> rfl⟩
    | calls operation => exact ⟨h, by cases writable <;> rfl⟩
    | sends origin message =>
      obtain ⟨hsend, heffects, -⟩ := h.send message
      exact ⟨hsend, heffects⟩
  result h message := (h.send message).2.2

end Channel

namespace Session

open Effect

/-- A log in a file makes no difference to what the client is offered and receives, what the
debugger is asked, whether the client left and the result, whatever frames are refused and
whether the file can be written to or not. If it can, a line comes behind each body that is taken
up and each frame that reaches the client, and in the end these lines stand in the file behind
what was there before, in that order, and nothing else does. The bodies that are taken up are the
first ones of the stream, up to the one with which the client leaves at most, and all of these if
the session ends well. -/
theorem log_file_is_transparent (debugger : Debugger σ) (settings : LaunchSettings)
    (refusal : Nat → Option String) (content : Bytes) (state : σ) (arrivals : List Arrival)
    (ending : Frame.Ending) :
    let quiet := run debugger settings (fresh refusal .disabled state) arrivals ending
    let kept := fun writable =>
      run debugger settings (fresh refusal (.file content writable) state) arrivals ending
    let bodies := untilLeaving (Frame.bodies (Arrival.stream arrivals) ending)
    (∀ writable,
      attempts (kept writable).2 = attempts quiet.2 ∧
      deliveries (kept writable).2 = deliveries quiet.2 ∧
      operations (kept writable).2 = operations quiet.2 ∧
      taken (kept writable).2 = taken quiet.2 ∧
      (kept writable).1.adapter.exiting = quiet.1.adapter.exiting ∧
      (kept writable).1.result = quiet.1.result) ∧
    (kept true).2 = quiet.2.flatMap (noted true) ∧
    (kept true).1.adapter.channel.traffic =
      .file (content ++ (quiet.2.filterMap line?).flatMap LogLine.written) true ∧
    taken quiet.2 <+: bodies ∧ (quiet.1.result = some (.ok ()) → taken quiet.2 = bodies) := by
  intro quiet kept bodies
  have hkept (writable : Bool) : Alike (Channel.Keeps writable) quiet.1 (kept writable).1 ∧
      (kept writable).2 = quiet.2.flatMap (noted writable) := by
    have hfresh : Alike (Channel.Keeps writable) (fresh refusal .disabled state)
        (fresh refusal (.file content writable) state) :=
      ⟨⟨⟨rfl, content, rfl⟩, rfl, rfl⟩, rfl⟩
    exact (Channel.mimics_keeps writable).run debugger settings hfresh rfl arrivals ending
  have hquiet : logged quiet.2 = [] :=
    (course_run debugger settings (fresh refusal .disabled state) arrivals
      ending).logged_of_disabled rfl
  obtain ⟨hfirst, hall, -⟩ := taken_run debugger settings
    (fresh refusal .disabled state).adapter.channel state arrivals ending
  refine ⟨fun writable => ?_, (hkept true).2, ?_, hfirst, hall⟩
  · obtain ⟨halike, heffects⟩ := hkept writable
    have hseen {α : Type} (see? : Effect → Option α) (hlogs : ∀ line, see? (.logs line) = none) :
        (kept writable).2.filterMap see? = quiet.2.filterMap see? := by
      rw [heffects, filterMap_flatMap_noted writable quiet.2 see? hlogs]
    exact ⟨hseen _ fun _ => rfl, hseen _ fun _ => rfl, hseen _ fun _ => rfl, hseen _ fun _ => rfl,
      halike.adapter.exiting, halike.result⟩
  · have hfile := (course_run debugger settings (fresh refusal (.file content true) state) arrivals
      ending).traffic_of_file rfl
    rw [← logged_flatMap_noted quiet.2 hquiet, ← (hkept true).2]
    exact hfile

end Session

end DebugAdapter
