import DebugAdapter.Proofs.Channel.Numbering
import DebugAdapter.Proofs.Session.Moment

/-!
# The numbering of a session

Whatever a session meets with, its channel only runs a course.
-/

namespace DebugAdapter.Session

open Channel

variable {σ : Type} (debugger : Debugger σ) (settings : LaunchSettings) (session : Session σ)

theorem course_conclude (result : Except SessionError Unit) :
    Course session.adapter.channel (session.conclude debugger result).2
      (session.conclude debugger result).1.adapter.channel := by
  cases h : session.adapter.exiting with
  | true =>
    rw [conclude_of_exiting debugger session h]
    exact .done _
  | false =>
    rw [conclude_of_staying debugger session h]
    exact session.adapter.course_perform debugger _

theorem course_serve (body : Bytes) :
    Course session.adapter.channel (session.serve debugger settings body).2
      (session.serve debugger settings body).1.adapter.channel := by
  have hhandle := session.adapter.course_handle debugger settings body
  rcases serve_cases debugger settings session body with ⟨-, hserve⟩ | ⟨result, hserve⟩
  · rw [hserve]
    exact hhandle
  · rw [hserve]
    exact hhandle.trans (course_conclude debugger
      { session with adapter := (session.adapter.handle debugger settings body).1 } result)

theorem course_meet (moment : Moment) :
    Course session.adapter.channel (session.meet debugger settings moment).2
      (session.meet debugger settings moment).1.adapter.channel := by
  cases moment with
  | hears body =>
    rw [meet]
    split
    · exact .done _
    · exact course_serve debugger settings session body
  | raises event => exact Course.send _ _

theorem course_meetAll (moments : List Moment) :
    Course session.adapter.channel (session.meetAll debugger settings moments).2
      (session.meetAll debugger settings moments).1.adapter.channel := by
  induction moments generalizing session with
  | nil => exact .done _
  | cons moment moments ih => exact (course_meet debugger settings session moment).trans (ih _)

theorem course_settle :
    Course session.adapter.channel (session.settle debugger).2
      (session.settle debugger).1.adapter.channel := by
  rw [settle]
  split
  · exact .done _
  · exact course_conclude debugger session (.ok ())

theorem course_run (arrivals : List Arrival) (ending : Frame.Ending) :
    Course session.adapter.channel (session.run debugger settings arrivals ending).2
      (session.run debugger settings arrivals ending).1.adapter.channel := by
  obtain ⟨heffects, reader, hlast⟩ := run_eq_experience debugger settings session arrivals ending
  rw [heffects, hlast]
  exact (course_meetAll debugger settings session _).trans (course_settle debugger _)

/-- Every frame of a channel that has sent nothing is numbered by its place among all frames,
however the channel is used and whatever frames are refused, and so is every frame of a
session. A message that is sent yields a number if and only if the frame of the message itself
arrives, and that frame shows the number. -/
theorem numbered_from_the_beginning (refusal : Nat → Option String) (traffic : TrafficLog) :
    (∀ uses, Numbered refusal ((fresh refusal traffic).useAll uses).2) ∧
    (∀ (channel : Channel) (message : Message),
      ∃ own noted, (channel.send message).2.1 = .offers own :: noted ∧
        own.message = message ∧ own.isEcho = false ∧
        (∀ attempt ∈ Effect.attempts noted, attempt.isEcho = true) ∧
        ∀ seq, (channel.send message).2.2 = .ok seq ↔
          own.delivered = true ∧ own.shownSeq? = some seq) ∧
    ∀ (state : σ) (arrivals : List Arrival) (ending : Frame.Ending),
      let session : Session σ :=
        { adapter := { channel := fresh refusal traffic, debugger := state } }
      Numbered refusal (session.run debugger settings arrivals ending).2 := by
  refine ⟨fun uses => ?_, send_result, fun state arrivals ending => ?_⟩
  · exact (Course.useAll (fresh refusal traffic) uses).numbered
  · have hcourse := course_run debugger settings
      { adapter := { channel := fresh refusal traffic, debugger := state } } arrivals ending
    exact hcourse.numbered

/-- A session that begins, with a client who refuses frames by their numbers. -/
def fresh (refusal : Nat → Option String) (traffic : TrafficLog) (state : σ) : Session σ :=
  { adapter := { channel := .fresh refusal traffic, debugger := state } }

end DebugAdapter.Session
