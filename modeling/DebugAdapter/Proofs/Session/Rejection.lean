import DebugAdapter.Proofs.Adapter.Dispatch
import DebugAdapter.Proofs.Channel.Numbering
import DebugAdapter.Proofs.Request.Shape
import DebugAdapter.Proofs.Session.Moment

/-!
# Bodies that are no requests

A body is taken up at one place in the effects of a session, and what it comes to follows right
behind. If it is no request and its number cannot be told, that is a notice.
-/

namespace DebugAdapter

open Effect

variable {σ : Type} {debugger : Debugger σ} {settings : LaunchSettings} {body : Bytes}

/-! ## Places at which bodies are taken up -/

/-- The place of a body is either behind effects in front or among them. -/
theorem Effect.append_eq_takes {front rest earlier later : List Effect}
    (h : front ++ rest = earlier ++ .takes body :: later) :
    (∃ middle, earlier = front ++ middle ∧ rest = middle ++ .takes body :: later) ∨
      ∃ middle, front = earlier ++ .takes body :: middle ∧ later = middle ++ rest := by
  rcases List.append_eq_append_iff.1 h with ⟨middle, hearlier, hrest⟩ | ⟨middle, hfront, hlater⟩
  · exact .inl ⟨middle, hearlier, hrest⟩
  · cases middle with
    | nil => exact .inl ⟨[], by simpa using hfront.symm, by simpa using hlater.symm⟩
    | cons effect middle =>
      obtain ⟨rfl, hbehind⟩ := List.cons.inj hlater
      exact .inr ⟨middle, hfront, hbehind⟩

theorem Effect.exists_of_mem_taken {effects : List Effect} (h : body ∈ taken effects) :
    ∃ earlier later, effects = earlier ++ .takes body :: later := by
  obtain ⟨effect, hmem, heffect⟩ := List.mem_filterMap.1 h
  obtain rfl : effect = .takes body := by
    cases effect <;> simp [taken?] at heffect
    rw [heffect]
  exact List.append_of_mem hmem

theorem Effect.taken_ne_nil (earlier later : List Effect) :
    taken (earlier ++ .takes body :: later) ≠ [] := by
  simp [taken?]

theorem Adapter.exists_handle_eq_takes (debugger : Debugger σ) (settings : LaunchSettings)
    (adapter : Adapter σ) (body : Bytes) :
    ∃ others, (adapter.handle debugger settings body).2.1 = .takes body :: others ∧
      taken others = [] := by
  have htaken := Adapter.taken_handle debugger settings adapter body
  rw [handle_eq] at htaken ⊢
  refine ⟨_, rfl, ?_⟩
  simpa [taken?] using htaken

namespace Session

/-- What a body comes to stands in front of what else a session does about it. -/
theorem exists_serve_eq_append (debugger : Debugger σ) (settings : LaunchSettings)
    (session : Session σ) (body : Bytes) :
    ∃ last, (session.serve debugger settings body).2 =
        (session.adapter.handle debugger settings body).2.1 ++ last ∧ taken last = [] := by
  rcases session.serve_cases debugger settings body with ⟨-, hserve⟩ | ⟨result, hserve⟩
  · exact ⟨[], by rw [hserve, List.append_nil], rfl⟩
  · exact ⟨_, by rw [hserve], taken_conclude debugger _ result⟩

/-- A moment at which a body is taken up is the body, and this is what happens first. -/
theorem eq_hears_of_meet {session : Session σ} {moment : Moment} {earlier later : List Effect}
    (h : (session.meet debugger settings moment).2 = earlier ++ .takes body :: later) :
    moment = .hears body ∧ session.result = none ∧ earlier = [] := by
  have htaken : taken (session.meet debugger settings moment).2 ≠ [] := by
    rw [h]
    exact taken_ne_nil earlier later
  cases moment with
  | raises event => exact absurd (taken_raise session event) htaken
  | hears heard =>
    by_cases hover : session.result.isSome
    · rw [meet_hears_of_over hover] at htaken
      exact absurd rfl htaken
    · have hopen : session.result = none := by simpa using hover
      obtain ⟨last, hserve, hlast⟩ := exists_serve_eq_append debugger settings session heard
      obtain ⟨others, hhandle, hothers⟩ :=
        session.adapter.exists_handle_eq_takes debugger settings heard
      rw [meet_hears_of_open hopen, hserve, hhandle, List.cons_append] at h
      cases earlier with
      | nil =>
        obtain ⟨hheard, -⟩ := List.cons.inj h
        cases hheard
        exact ⟨rfl, hopen, rfl⟩
      | cons effect earlier =>
        -- the body would be taken up a second time
        obtain ⟨-, hbehind⟩ := List.cons.inj h
        have hnone : taken (others ++ last) = [] := by rw [taken_append, hothers, hlast]; rfl
        rw [hbehind] at hnone
        exact absurd hnone (taken_ne_nil earlier later)

theorem exists_moment_of_experience {session : Session σ} {moments : List Moment}
    {earlier later : List Effect}
    (h : (session.experience debugger settings moments).2 = earlier ++ .takes body :: later) :
    ∃ front back, moments = front ++ .hears body :: back ∧
      (session.meetAll debugger settings front).1.result = none ∧
      (session.meetAll debugger settings front).2 = earlier ∧
      ∃ rest, .takes body :: later =
        ((session.meetAll debugger settings front).1.serve debugger settings body).2 ++ rest := by
  induction moments generalizing session earlier with
  | nil =>
    have hsettle : taken (session.settle debugger).2 = [] := taken_settle
    rw [experience_nil] at h
    rw [h] at hsettle
    exact absurd hsettle (taken_ne_nil earlier later)
  | cons moment moments ih =>
    rw [experience_cons] at h
    rcases append_eq_takes h with ⟨middle, rfl, hrest⟩ | ⟨middle, hmeet, rfl⟩
    · obtain ⟨front, back, rfl, hopen, rfl, hserved⟩ := ih hrest
      exact ⟨moment :: front, back, rfl, hopen, rfl, hserved⟩
    · obtain ⟨rfl, hopen, rfl⟩ := eq_hears_of_meet hmeet
      have hserve : (session.serve debugger settings body).2 = .takes body :: middle := by
        rw [← meet_hears_of_open hopen]
        exact hmeet
      exact ⟨[], moments, rfl, hopen, rfl, _, by rw [meetAll, hserve, List.cons_append]⟩

/-- Wherever a body is taken up, a session has met with the moments before the body and serves
it. -/
theorem exists_moment_of_taken {session : Session σ} {arrivals : List Arrival}
    {ending : Frame.Ending} {earlier later : List Effect}
    (h : (session.run debugger settings arrivals ending).2 = earlier ++ .takes body :: later) :
    ∃ front back, Arrival.moments ending session.reader arrivals = front ++ .hears body :: back ∧
      (session.meetAll debugger settings front).1.result = none ∧
      (session.meetAll debugger settings front).2 = earlier ∧
      ∃ rest, .takes body :: later =
        ((session.meetAll debugger settings front).1.serve debugger settings body).2 ++ rest := by
  obtain ⟨heffects, -⟩ := run_eq_experience debugger settings session arrivals ending
  rw [heffects] at h
  exact exists_moment_of_experience h

theorem serve_exiting (session : Session σ) (body : Bytes) :
    (session.serve debugger settings body).1.adapter.exiting =
      (session.adapter.handle debugger settings body).1.exiting := by
  rcases session.serve_cases debugger settings body with ⟨-, hserve⟩ | ⟨result, hserve⟩
  · rw [hserve]
  · rw [hserve, conclude_exiting]

end Session

/-! ## Notices and answers -/

/-- A body that is no request and comes to a notice: the debugger is left alone, the client has
not left by it, and of all frames only the one with the notice is more than an echo. -/
structure Adapter.Drops (fault : RequestFault) (before after : Adapter σ)
    (effects : List Effect) : Prop where
  debugger : after.debugger = before.debugger
  exiting : after.exiting = before.exiting
  operations : operations effects = []
  notice : ∃ notice, (attempts effects).filter (!·.isEcho) = [notice] ∧
    notice.message = .ofEvent (droppedNotice fault)

/-- A body that is no request and what it comes to: the debugger is left alone, the client has
not left by it, and of all frames only one is more than an echo. If the number can be told, it
carries the answer, which is a failure, and otherwise a notice. -/
structure Adapter.Rejects (rejection : Rejection) (before after : Adapter σ)
    (effects : List Effect) : Prop where
  debugger : after.debugger = before.debugger
  exiting : after.exiting = before.exiting
  operations : operations effects = []
  answer : ∀ seq, rejection.seq = some seq →
    ∃ answer, (attempts effects).filter (!·.isEcho) = [answer] ∧
      answer.message = .ofResult seq (rejection.command.getD "")
        (.error (.invalidArgument rejection.fault.message))
  notice : rejection.seq = none →
    ∃ notice, (attempts effects).filter (!·.isEcho) = [notice] ∧
      notice.message = .ofEvent (droppedNotice rejection.fault)

namespace Adapter

theorem filter_of_echoes {echoes : List Attempt} (h : ∀ attempt ∈ echoes, attempt.isEcho = true) :
    echoes.filter (!·.isEcho) = [] := by
  rw [List.filter_eq_nil_iff]
  intro attempt hmem
  simp [h attempt hmem]

/-- Of what is offered for a message, only the message itself is no echo. -/
theorem exists_attempts_send_filter (channel : Channel) (message : Message) :
    ∃ own, (attempts (channel.send message).2.1).filter (!·.isEcho) = [own] ∧
      own.message = message := by
  obtain ⟨own, noted, hsend, hmessage, hown, hechoes, -⟩ := Channel.send_result channel message
  refine ⟨own, ?_, hmessage⟩
  rw [hsend]
  simp [attempt?, hown, filter_of_echoes hechoes]

/-- What becomes of a body that is no request. -/
theorem rejects_of_decode_eq_error (debugger : Debugger σ) (settings : LaunchSettings)
    {rejection : Rejection} (h : Request.decode body = .error rejection) (before : Adapter σ) :
    Rejects rejection before (before.handle debugger settings body).1
      (before.handle debugger settings body).2.1 := by
  have hanswer : debugger.answer settings before.debugger body =
      { state := before.debugger, result := rejectionMessage rejection } := by
    rw [Debugger.answer, h]
  let noted := before.channel.noteInbound (Utf8.decodeLossy body)
  obtain ⟨reply, hreply, hmessage⟩ :=
    exists_attempts_send_filter noted.1 (rejectionMessage rejection)
  have hnoted : (attempts noted.2).filter (!·.isEcho) = [] :=
    filter_of_echoes fun attempt hmem => (Channel.echo_of_mem_note hmem).1
  have hcarry := carry_result { before with channel := noted.1 } (rejectionMessage rejection)
  have hattempts : (attempts (before.handle debugger settings body).2.1).filter (!·.isEcho) =
      [reply] := by
    rw [handle_eq, hanswer]
    simp only [noted] at hnoted hreply hcarry
    simp [hcarry, attempt?, hnoted, hreply]
  refine ⟨by simp [hanswer], by simp [hanswer], by simp [hanswer], ?_, ?_⟩
  · intro seq hseq
    refine ⟨reply, hattempts, ?_⟩
    rw [hmessage, rejectionMessage, hseq]
  · intro hseq
    refine ⟨reply, hattempts, ?_⟩
    rw [hmessage, rejectionMessage, hseq]

/-- What becomes of a body that is no request and has no number. -/
theorem drops_of_decode_eq_error (debugger : Debugger σ) (settings : LaunchSettings)
    {fault : RequestFault} (h : Request.decode body = .error { fault }) (before : Adapter σ) :
    Drops fault before (before.handle debugger settings body).1
      (before.handle debugger settings body).2.1 := by
  have hrejects := rejects_of_decode_eq_error debugger settings h before
  exact ⟨hrejects.debugger, hrejects.exiting, hrejects.operations, hrejects.notice rfl⟩

end Adapter

namespace Session

/-- A body whose value is no object, or that is no text of a value, is a request if and only if it
is an array that lists one. If it is not, it is rejected with neither a number nor a command;
and wherever a session takes it up, whatever the debugger does, whatever frames are refused and
wherever messages are noted, nothing comes of it but a notice on the client's console. -/
theorem object_or_list_is_request (debugger : Debugger σ) (settings : LaunchSettings)
    (body : Bytes) (h : ∀ fields, Json.parse body ≠ .ok (.object fields)) :
    (∀ request, Request.decode body = .ok request ↔
      ∃ items, Json.parse body = .ok (.array items) ∧ Request.Lists items request) ∧
    ((∀ items request, Json.parse body = .ok (.array items) → ¬ Request.Lists items request) →
      ∃ fault, Request.decode body = .error { fault } ∧
        ∀ (session : Session σ) (arrivals : List Arrival) (ending : Frame.Ending)
          (earlier later : List Effect),
          (session.run debugger settings arrivals ending).2 = earlier ++ .takes body :: later →
          ∃ front back met rest,
            let handled := met.adapter.handle debugger settings body
            Arrival.moments ending session.reader arrivals = front ++ .hears body :: back ∧
            session.meetAll debugger settings front = (met, earlier) ∧ met.result = none ∧
            .takes body :: later = handled.2.1 ++ rest ∧
            met.adapter.Drops fault handled.1 handled.2.1 ∧
            (met.serve debugger settings body).1.adapter.exiting = met.adapter.exiting) := by
  refine ⟨Request.decode_eq_ok_of_not_object h, fun hlists => ?_⟩
  cases hdecode : Request.decode body with
  | ok request =>
    obtain ⟨items, hparse, hlisted⟩ := (Request.decode_eq_ok_of_not_object h request).1 hdecode
    exact absurd hlisted (hlists items request hparse)
  | error rejection =>
    have hfault := Request.eq_of_decode_eq_error h hdecode
    rw [hfault] at hdecode
    refine ⟨rejection.fault, by rw [hfault], ?_⟩
    intro session arrivals ending earlier later hrun
    obtain ⟨front, back, hmoments, hopen, hmet, rest, hserved⟩ := exists_moment_of_taken hrun
    obtain ⟨last, hserve, -⟩ := exists_serve_eq_append debugger settings
      (session.meetAll debugger settings front).1 body
    have hdrops := Adapter.drops_of_decode_eq_error debugger settings hdecode
      (session.meetAll debugger settings front).1.adapter
    rw [hserve, List.append_assoc] at hserved
    refine ⟨front, back, _, _, hmoments, Prod.ext rfl hmet, hopen, hserved, hdrops, ?_⟩
    rw [serve_exiting, hdrops.exiting]

/-- A list that breaks off behind the number. -/
theorem object_or_list_is_request_short_list :
    let body := Utf8.encode "[1]"
    let session : Session Unit := { adapter := { channel := {}, debugger := () } }
    let effects :=
      (run (.unable .notImplemented) {} session [.bytes (Frame.encode body)] .closed).2
    (∀ fields, Json.parse body ≠ .ok (.object fields)) ∧
      (∀ items request, Json.parse body = .ok (.array items) → ¬ Request.Lists items request) ∧
      body ∈ taken effects ∧
      ∃ fault notice, Request.decode body = .error { fault } ∧ notice ∈ attempts effects ∧
        notice.message = .ofEvent (Adapter.droppedNotice fault) := by
  intro body session effects
  have hparse : Json.parse body = .ok (.array [.int 1]) := by decide +kernel
  have hobject : ∀ fields, Json.parse body ≠ .ok (.object fields) := by simp [hparse]
  have hlists : ∀ items request, Json.parse body = .ok (.array items) →
      ¬ Request.Lists items request := by
    intro items request hitems hlisted
    obtain rfl : [Json.int 1] = items := by simpa [hparse] using hitems
    have hlength := hlisted.two_le_length
    simp at hlength
  have htaken : body ∈ taken effects := by decide +kernel
  obtain ⟨earlier, later, hplace⟩ := exists_of_mem_taken htaken
  obtain ⟨-, hrejected⟩ :=
    object_or_list_is_request (.unable .notImplemented) {} body hobject
  obtain ⟨fault, hdecode, hsession⟩ := hrejected hlists
  obtain ⟨_, _, _, rest, -, -, -, hown, hdrops, -⟩ :=
    hsession session [.bytes (Frame.encode body)] .closed earlier later hplace
  obtain ⟨notice, hnotice, hmessage⟩ := hdrops.notice
  have hmem := List.mem_singleton_self notice
  rw [← hnotice] at hmem
  refine ⟨hobject, hlists, htaken, fault, notice, hdecode, ?_, hmessage⟩
  rw [hplace, hown, attempts_append, attempts_append]
  exact List.mem_append_right _ (List.mem_append_left _ (List.mem_filter.1 hmem).1)

/-- That only objects are requests is false: an array can ask for something, and is answered. -/
theorem not_only_objects_are_requests :
    ¬ ∀ body : Bytes, (∀ fields, Json.parse body ≠ .ok (.object fields)) →
      ∃ fault, Request.decode body = .error { fault } := by
  intro hrejected
  have hparse : Json.parse (Utf8.encode "[1,\"threads\"]") =
      .ok (.array [.int 1, .string "threads"]) := by decide +kernel
  have hdecode : Request.decode (Utf8.encode "[1,\"threads\"]") =
      .ok { seq := 1, command := "threads" } := by decide +kernel
  obtain ⟨fault, hfault⟩ := hrejected (Utf8.encode "[1,\"threads\"]") (by simp [hparse])
  rw [hdecode] at hfault
  cases hfault

end Session

end DebugAdapter
