import DebugAdapter.Proofs.Request.Envelope
import DebugAdapter.Proofs.Session.Rejection

/-!
# Objects in a session

An object whose fields do not make a request is rejected. If its number can be told, the client gets
an answer to it, and otherwise a notice; the debugger never hears of it.
-/

namespace DebugAdapter.Session

open Effect

variable {σ : Type} {debugger : Debugger σ} {settings : LaunchSettings} {body : Bytes}

/-- Wherever a session takes up a body that is no request, the body is rejected then and there, and
the client stays or has left as before. -/
theorem exists_rejects_of_taken {rejection : Rejection}
    (hdecode : Request.decode body = .error rejection) {session : Session σ}
    {arrivals : List Arrival} {ending : Frame.Ending} {earlier later : List Effect}
    (h : (session.run debugger settings arrivals ending).2 = earlier ++ .takes body :: later) :
    ∃ front back met rest,
      let handled := met.adapter.handle debugger settings body
      Arrival.moments ending session.reader arrivals = front ++ .hears body :: back ∧
      session.meetAll debugger settings front = (met, earlier) ∧ met.result = none ∧
      .takes body :: later = handled.2.1 ++ rest ∧
      met.adapter.Rejects rejection handled.1 handled.2.1 ∧
      (met.serve debugger settings body).1.adapter.exiting = met.adapter.exiting := by
  obtain ⟨front, back, hmoments, hopen, hmet, rest, hserved⟩ := exists_moment_of_taken h
  obtain ⟨last, hserve, -⟩ := exists_serve_eq_append debugger settings
    (session.meetAll debugger settings front).1 body
  have hrejects := Adapter.rejects_of_decode_eq_error debugger settings hdecode
    (session.meetAll debugger settings front).1.adapter
  rw [hserve, List.append_assoc] at hserved
  refine ⟨front, back, _, _, hmoments, Prod.ext rfl hmet, hopen, hserved, hrejects, ?_⟩
  rw [serve_exiting, hrejects.exiting]

/-- The value of a field of an object is that of the last member of its name in the text. An object
is a request if and only if it has a number, which is an integer of 64 bits with sign, and a
command, and its kind is a text or null or not there. All that the request says is in these fields
and in the arguments, which are null if they are not there. Of any other object the number
is kept if and only if it is one, and the command if and only if it is one, whatever is wrong with
the rest. Wherever a session takes up such a body, whatever the debugger does, whatever frames are
refused and wherever messages are noted, it is answered with a failure if the number is kept, and
otherwise comes to a notice on the client's console; the debugger is not asked for anything. -/
theorem object_is_request_or_answered (debugger : Debugger σ) (settings : LaunchSettings)
    {body : Bytes} {fields : List (String × Json)} (h : Json.parse body = .ok (.object fields)) :
    (∃ members, Json.IsObject body members ∧
      ∀ name, Json.lookup name fields = Json.lookup name members.reverse) ∧
    (∀ request, Request.decode body = .ok request ↔ Request.GivenBy fields request) ∧
    ((∃ request, Request.decode body = .ok request) ↔
      (∃ seq, Json.lookup "seq" fields = some (.ofInt64 seq)) ∧
      (∃ command, Json.lookup "command" fields = some (.string command)) ∧
      (Json.lookup "type" fields = none ∨ Json.lookup "type" fields = some .null ∨
        ∃ kind, Json.lookup "type" fields = some (.string kind))) ∧
    ∀ rejection, Request.decode body = .error rejection →
      (∀ seq, rejection.seq = some seq ↔ Json.lookup "seq" fields = some (.ofInt64 seq)) ∧
      (∀ command, rejection.command = some command ↔
        Json.lookup "command" fields = some (.string command)) ∧
      ∀ (session : Session σ) (arrivals : List Arrival) (ending : Frame.Ending)
        (earlier later : List Effect),
        (session.run debugger settings arrivals ending).2 = earlier ++ .takes body :: later →
        ∃ front back met rest,
          let handled := met.adapter.handle debugger settings body
          Arrival.moments ending session.reader arrivals = front ++ .hears body :: back ∧
          session.meetAll debugger settings front = (met, earlier) ∧ met.result = none ∧
          .takes body :: later = handled.2.1 ++ rest ∧
          met.adapter.Rejects rejection handled.1 handled.2.1 ∧
          (met.serve debugger settings body).1.adapter.exiting = met.adapter.exiting := by
  have hdecode (request : Request) :
      Request.decode body = .ok request ↔ Request.GivenBy fields request :=
    Request.decode_eq_ok_iff_givenBy h
  refine ⟨Json.exists_members_of_parse h, hdecode, ?_, ?_⟩
  · simp only [hdecode]
    exact Request.exists_givenBy_iff
  · intro rejection hrejected
    obtain ⟨hseq, hcommand⟩ := Request.eq_of_decode_object_eq_error h hrejected
    refine ⟨?_, ?_, ?_⟩
    · intro seq
      rw [hseq, Request.bind_asInt64?_eq_some]
    · intro command
      rw [hcommand, Request.bind_asString?_eq_some]
    · intro session arrivals ending earlier later hrun
      exact exists_rejects_of_taken hrejected hrun

/-- An object with two numbers, of which the last counts, and a command that is no text. -/
theorem object_is_request_or_answered_repeated_number :
    let body := Utf8.encode "\x7b\"seq\":1,\"command\":5,\"seq\":7\x7d"
    let fields := [("command", Json.int 5), ("seq", Json.int 7)]
    let session : Session Unit := { adapter := { channel := {}, debugger := () } }
    let effects :=
      (run (.unable .notImplemented) {} session [.bytes (Frame.encode body)] .closed).2
    Json.parse body = .ok (.object fields) ∧ body ∈ taken effects ∧
      ∃ rejection answer, Request.decode body = .error rejection ∧ rejection.seq = some 7 ∧
        rejection.command = none ∧ answer ∈ attempts effects ∧
        answer.message =
          .ofResult 7 "" (.error (.invalidArgument rejection.fault.message)) := by
  intro body fields session effects
  have hparse : Json.parse body = .ok (.object fields) := by decide +kernel
  have htaken : body ∈ taken effects := by decide +kernel
  obtain ⟨earlier, later, hplace⟩ := exists_of_mem_taken htaken
  obtain ⟨-, -, hrequest, hrejected⟩ :=
    object_is_request_or_answered (.unable .notImplemented) {} hparse
  cases hdecode : Request.decode body with
  | ok request =>
    obtain ⟨-, ⟨command, hcommand⟩, -⟩ := hrequest.1 ⟨request, hdecode⟩
    cases hcommand
  | error rejection =>
    obtain ⟨hseq, hcommand, hsession⟩ := hrejected rejection hdecode
    have hseven : rejection.seq = some 7 := (hseq 7).2 rfl
    have hnone : rejection.command = none := by
      rw [Option.eq_none_iff_forall_ne_some]
      intro command hsome
      cases (hcommand command).1 hsome
    obtain ⟨_, _, _, rest, -, -, -, hown, hrejects, -⟩ :=
      hsession session [.bytes (Frame.encode body)] .closed earlier later hplace
    obtain ⟨answer, hanswer, hmessage⟩ := hrejects.answer 7 hseven
    rw [hnone] at hmessage
    have hmem := List.mem_singleton_self answer
    rw [← hanswer] at hmem
    refine ⟨hparse, htaken, rejection, answer, rfl, hseven, hnone, ?_, hmessage⟩
    rw [hplace, hown, attempts_append, attempts_append]
    exact List.mem_append_right _ (List.mem_append_left _ (List.mem_filter.1 hmem).1)

end DebugAdapter.Session
