import DebugAdapter.Proofs.Adapter.Dispatch
import DebugAdapter.Proofs.Channel.Refusal
import DebugAdapter.Proofs.Frame.RoundTrip
import DebugAdapter.Proofs.Session.Dialogue
import DebugAdapter.Proofs.Session.Teardown

/-!
# Sessions with frames that are refused

A session whose client refuses some frames, beside the same session with a client who refuses none.
A refused event is missed and no more; a refused reply ends the session.
-/

namespace DebugAdapter

open Effect

variable {σ ρ : Type}

/-! ## Adapters side by side -/

/-- An adapter whose client refuses frames as `refusal` has it, beside one whose client refuses
none. -/
structure Adapter.Shadows (refusal : Nat → Option String) (clean real : Adapter σ) : Prop where
  channel : Channel.Shadows refusal clean.channel real.channel
  debugger : real.debugger = clean.debugger
  exiting : real.exiting = clean.exiting

namespace Adapter.Shadows

variable {refusal : Nat → Option String} {clean real : Adapter σ}
  (h : Adapter.Shadows refusal clean real)
include h

theorem raiseAll (events : List Event) :
    Adapter.Shadows refusal { clean with channel := (clean.channel.raiseAll events).1 }
        { real with channel := (real.channel.raiseAll events).1 } ∧
      facing refusal (real.channel.raiseAll events).2 =
        facing refusal (clean.channel.raiseAll events).2 := by
  obtain ⟨hchannel, hfacing⟩ := h.channel.raiseAll events
  exact ⟨⟨hchannel, h.debugger, h.exiting⟩, hfacing⟩

/-- What follows from the request and the state of the debugger is carried all the same. -/
theorem carry (reaction : Reaction σ ρ) :
    Adapter.Shadows refusal (clean.carry reaction).1 (real.carry reaction).1 ∧
      facing refusal (real.carry reaction).2 = facing refusal (clean.carry reaction).2 := by
  obtain ⟨hannounced, hfirst⟩ := h.channel.raiseAll reaction.announces
  obtain ⟨hraised, hsecond⟩ := hannounced.raiseAll reaction.raises
  refine ⟨⟨hraised, rfl, by rw [carry_exiting, carry_exiting, h.exiting]⟩, ?_⟩
  simp only [Adapter.carry, facing_append, hfirst, hsecond]

theorem perform (debugger : Debugger σ) (operation : Operation) :
    Adapter.Shadows refusal (clean.perform debugger operation).1
        (real.perform debugger operation).1 ∧
      facing refusal (real.perform debugger operation).2.1 =
        facing refusal (clean.perform debugger operation).2.1 := by
  obtain ⟨hraised, hfacing⟩ :=
    h.channel.raiseAll (debugger.perform clean.debugger operation).events
  simp only [Adapter.perform, h.debugger]
  exact ⟨⟨hraised, rfl, h.exiting⟩, by rw [facing_cons, facing_cons, hfacing]⟩

/-- A body is handled all the same, except that its reply may be refused. -/
theorem handle (debugger : Debugger σ) (settings : LaunchSettings) (body : Bytes) :
    Adapter.Shadows refusal (clean.handle debugger settings body).1
        (real.handle debugger settings body).1 ∧
      facing refusal (real.handle debugger settings body).2.1 =
        facing refusal (clean.handle debugger settings body).2.1 ∧
      ∃ seq, (clean.handle debugger settings body).2.2 = .ok seq ∧
        (real.handle debugger settings body).2.2 = Channel.verdict refusal seq := by
  obtain ⟨hnoted, hfirst⟩ := h.channel.noteInbound (Utf8.decodeLossy body)
  have hwaiting : Adapter.Shadows refusal
      { clean with channel := (clean.channel.noteInbound (Utf8.decodeLossy body)).1 }
      { real with channel := (real.channel.noteInbound (Utf8.decodeLossy body)).1 } :=
    ⟨hnoted, h.debugger, h.exiting⟩
  obtain ⟨hcarried, hsecond⟩ := hwaiting.carry (debugger.answer settings clean.debugger body)
  obtain ⟨hsent, hthird, hresult⟩ :=
    hcarried.channel.send (debugger.answer settings clean.debugger body).result
  have hanswer : debugger.answer settings real.debugger body =
      debugger.answer settings clean.debugger body := by rw [h.debugger]
  simp only [handle_eq, hanswer]
  refine ⟨⟨hsent, hcarried.debugger, hcarried.exiting⟩, ?_, hresult⟩
  simp only [facing_cons, facing_append, hfirst, hsecond, hthird]

end Adapter.Shadows

/-- The reply of a turn is offered under its number. -/
theorem Turn.Answers.reply_offer {debugger : Debugger σ} {settings : LaunchSettings}
    {before after : Adapter σ} {turn : Turn} (h : turn.Answers debugger settings before after)
    {waiting : Adapter σ}
    (hwaiting : waiting = { before with channel := (before.channel.raiseAll turn.outside).1 })
    (haligned : waiting.channel.lastSeq = waiting.channel.sink.offers) :
    turn.reply.offer = turn.reply.seq := by
  have hnumbers := (waiting.course_handle debugger settings turn.body).numbers
  have hmem : turn.reply ∈ attempts (waiting.handle debugger settings turn.body).2.1 := by
    rw [hwaiting, h.handled]
    simp [attempt?]
  obtain ⟨k, hk⟩ := List.mem_iff_getElem?.1 hmem
  obtain ⟨hseq, hoffer, -⟩ := hnumbers.attempt k turn.reply hk
  rw [hseq, hoffer, haligned]

/-- A turn of the adapter whose client refuses no frame, and what the other adapter does with its
body. -/
theorem Adapter.Shadows.turn {debugger : Debugger σ} {settings : LaunchSettings}
    {refusal : Nat → Option String} {before after clean real : Adapter σ} {turn : Turn}
    {idle : List Effect} (h : Adapter.Shadows refusal clean real)
    (answers : turn.Answers debugger settings before after)
    (hclean : clean = { before with channel := (before.channel.raiseAll turn.outside).1 })
    (hidle : facing refusal idle = facing refusal (before.channel.raiseAll turn.outside).2) :
    Adapter.Shadows refusal after (real.handle debugger settings turn.body).1 ∧
      facing refusal (idle ++ (real.handle debugger settings turn.body).2.1) =
        facing refusal turn.effects ∧
      (real.handle debugger settings turn.body).2.2 =
        Channel.verdict refusal turn.reply.offer := by
  have hoffer := answers.reply_offer hclean h.channel.lastSeq.1
  obtain ⟨hafter, hfacing, seq, hseq, hverdict⟩ := h.handle debugger settings turn.body
  have hhandled := answers.handled
  rw [← hclean] at hhandled
  rw [hhandled] at hafter hfacing hseq
  obtain rfl : turn.reply.seq = seq := Except.ok.inj hseq
  refine ⟨hafter, ?_, by rw [hverdict, hoffer]⟩
  rw [facing_append, hidle, hfacing, ← answers.idle, ← facing_append, Turn.effects]

/-! ## The bodies of a dialogue -/

theorem Turn.Answers.taken_effects {debugger : Debugger σ} {settings : LaunchSettings}
    {before after : Adapter σ} {turn : Turn} (h : turn.Answers debugger settings before after) :
    taken turn.effects = [turn.body] := by
  have hhandled := Adapter.taken_handle debugger settings
    { before with channel := (before.channel.raiseAll turn.outside).1 } turn.body
  rw [h.handled] at hhandled
  rw [Turn.effects, taken_append, hhandled, h.idle, Channel.taken_raiseAll, List.nil_append]

theorem Dialogue.taken_effects {debugger : Debugger σ} {settings : LaunchSettings}
    {before last : Adapter σ} {turns : List Turn}
    (h : Dialogue debugger settings before turns last) :
    ∀ turn ∈ turns, taken turn.effects = [turn.body] := by
  induction h with
  | done adapter => exact fun _ hmem => absurd hmem List.not_mem_nil
  | turn first _ ih =>
    intro other hmem
    rcases List.mem_cons.1 hmem with rfl | hmem
    · exact first.taken_effects
    · exact ih other hmem

theorem taken_flatMap_effects {turns : List Turn}
    (h : ∀ turn ∈ turns, taken turn.effects = [turn.body]) :
    taken (turns.flatMap Turn.effects) = turns.map (·.body) := by
  induction turns with
  | nil => rfl
  | cons turn turns ih =>
    rw [List.flatMap_cons, taken_append, h turn (.head _),
      ih fun other hother => h other (.tail _ hother)]
    rfl

/-! ## Sessions side by side -/

namespace Session

variable {debugger : Debugger σ} {settings : LaunchSettings} {refusal : Nat → Option String}

/-- What becomes of the turns of a session, `clean`, if the client refuses frames: `real`. A
session and its effects stand side by side. -/
structure Fares (refusal : Nat → Option String) (turns : List Turn)
    (clean real : Session σ × List Effect) : Prop where
  /-- Nothing but frames is missed if no reply is refused. -/
  unbroken : (∀ turn ∈ turns, refusal turn.reply.offer = none) →
    facing refusal real.2 = facing refusal clean.2 ∧
      real.1.adapter.exiting = clean.1.adapter.exiting ∧ real.1.result = some (.ok ())
  /-- The first reply that is refused ends the session. -/
  broken : ∀ front turn back reason, turns = front ++ turn :: back →
    (∀ earlier ∈ front, refusal earlier.reply.offer = none) →
    refusal turn.reply.offer = some reason →
    real.1.result = some (.error (.io reason)) ∧
      real.1.adapter.exiting = (leaving? turn.body).isSome ∧
      ∃ served after, real.2 = served ++ after ∧
        facing refusal served = facing refusal ((front ++ [turn]).flatMap Turn.effects) ∧
        taken after = [] ∧
        operations after = if (leaving? turn.body).isSome then [] else [.disconnect .default]

namespace Fares

variable {turn : Turn} {turns : List Turn} {clean real : Session σ} {effects others : List Effect}

theorem done (hfacing : facing refusal others = facing refusal effects)
    (hexiting : real.adapter.exiting = clean.adapter.exiting)
    (hresult : real.result = some (.ok ())) : Fares refusal [] (clean, effects) (real, others) := by
  refine ⟨fun _ => ⟨hfacing, hexiting, hresult⟩, ?_⟩
  intro front turn back reason hturns
  simp at hturns

/-- A turn in front of the others, with a reply that is not refused. -/
theorem accepted {served : List Effect} (haccepted : refusal turn.reply.offer = none)
    (hserved : facing refusal served = facing refusal turn.effects)
    (h : Fares refusal turns (clean, effects) (real, others)) :
    Fares refusal (turn :: turns) (clean, turn.effects ++ effects) (real, served ++ others) := by
  refine ⟨fun hall => ?_, fun front broken back reason hturns hfront hrefused => ?_⟩
  · obtain ⟨hfacing, hrest⟩ := h.unbroken fun other hother => hall other (.tail _ hother)
    refine ⟨?_, hrest⟩
    simp only [facing_append, hserved] at hfacing ⊢
    rw [hfacing]
  · cases front with
    | nil =>
      obtain ⟨rfl, rfl⟩ := List.cons.inj hturns
      rw [haccepted] at hrefused
      cases hrefused
    | cons first front =>
      obtain ⟨rfl, hbehind⟩ := List.cons.inj hturns
      obtain ⟨hresult, hexiting, middle, after, hothers, hmiddle, htaken, hoperations⟩ :=
        h.broken front broken back reason hbehind
          (fun earlier hearlier => hfront earlier (.tail _ hearlier)) hrefused
      refine ⟨hresult, hexiting, served ++ middle, after, ?_, ?_, htaken, hoperations⟩
      · simp only [List.append_assoc] at hothers ⊢
        rw [hothers]
      · rw [facing_append, hserved, hmiddle, List.cons_append, List.flatMap_cons, facing_append]

/-- A turn with a reply that is refused. -/
theorem refused {clean : Session σ × List Effect} {served after : List Effect} {reason : String}
    (hrefused : refusal turn.reply.offer = some reason)
    (hresult : real.result = some (.error (.io reason)))
    (hexiting : real.adapter.exiting = (leaving? turn.body).isSome)
    (hserved : facing refusal served = facing refusal turn.effects) (htaken : taken after = [])
    (hoperations :
      operations after = if (leaving? turn.body).isSome then [] else [.disconnect .default]) :
    Fares refusal (turn :: turns) clean (real, served ++ after) := by
  refine ⟨fun hall => ?_, fun front broken back reason' hturns hfront hbroken => ?_⟩
  · have hnone := hall turn (.head _)
    rw [hrefused] at hnone
    cases hnone
  · cases front with
    | nil =>
      obtain ⟨rfl, rfl⟩ := List.cons.inj hturns
      obtain rfl : reason = reason' := Option.some.inj (hrefused.symm.trans hbroken)
      refine ⟨hresult, hexiting, served, after, rfl, ?_, htaken, hoperations⟩
      rw [hserved, List.nil_append, List.flatMap_singleton]
    | cons first front =>
      obtain ⟨rfl, -⟩ := List.cons.inj hturns
      have hnone := hfront turn (.head _)
      rw [hrefused] at hnone
      cases hnone

section Effects

variable {clean real : Session σ × List Effect}

/-- What can be seen of a session if no reply is refused. -/
theorem seen_of_unbroken (h : Fares refusal turns clean real)
    (hreliable : ∀ attempt ∈ attempts clean.2, attempt.refusal = none)
    (hrefusal : ∀ attempt ∈ attempts real.2, attempt.refusal = refusal attempt.offer)
    (hall : ∀ turn ∈ turns, refusal turn.reply.offer = none) :
    operations real.2 = operations clean.2 ∧
      deliveries real.2 =
        (deliveries clean.2).filter (fun attempt => (refusal attempt.offer).isNone) ∧
      real.1.adapter.exiting = clean.1.adapter.exiting ∧ real.1.result = some (.ok ()) := by
  obtain ⟨hfacing, hexiting, hresult⟩ := h.unbroken hall
  refine ⟨?_, deliveries_of_facing hfacing hreliable hrefusal, hexiting, hresult⟩
  rw [← operations_facing refusal real.2, hfacing, operations_facing]

/-- What can be seen of a session up to the first reply that is refused. -/
theorem seen_of_broken {front back : List Turn} {reason : String} {rest : List Effect}
    (h : Fares refusal turns clean real)
    (hreliable : ∀ attempt ∈ attempts clean.2, attempt.refusal = none)
    (hrefusal : ∀ attempt ∈ attempts real.2, attempt.refusal = refusal attempt.offer)
    (hclean : clean.2 = turns.flatMap Turn.effects ++ rest)
    (hbodies : ∀ turn ∈ turns, taken turn.effects = [turn.body])
    (hturns : turns = front ++ turn :: back)
    (hfront : ∀ earlier ∈ front, refusal earlier.reply.offer = none)
    (hrefused : refusal turn.reply.offer = some reason) :
    taken real.2 = (front ++ [turn]).map (·.body) ∧
      ∃ served after, real.2 = served ++ after ∧
        operations served = operations ((front ++ [turn]).flatMap Turn.effects) ∧
        deliveries served = (deliveries ((front ++ [turn]).flatMap Turn.effects)).filter
          (fun attempt => (refusal attempt.offer).isNone) ∧
        taken after = [] ∧
        operations after = if (leaving? turn.body).isSome then [] else [.disconnect .default] := by
  obtain ⟨-, -, served, after, hreal, hfacing, hafter, hoperations⟩ :=
    h.broken front turn back reason hturns hfront hrefused
  rw [hturns, List.append_cons] at hclean hbodies
  have htaken : taken served = (front ++ [turn]).map (·.body) := by
    rw [← taken_facing refusal served, hfacing, taken_facing]
    exact taken_flatMap_effects fun other hother => hbodies other (List.mem_append_left _ hother)
  refine ⟨?_, served, after, hreal, ?_, ?_, hafter, hoperations⟩
  · rw [hreal, taken_append, hafter, List.append_nil, htaken]
  · rw [← operations_facing refusal served, hfacing, operations_facing]
  · refine deliveries_of_facing hfacing (fun attempt hmem => hreliable attempt ?_)
      (fun attempt hmem => hrefusal attempt ?_)
    · rw [hclean, List.flatMap_append, attempts_append, attempts_append]
      exact List.mem_append_left _ (List.mem_append_left _ hmem)
    · rw [hreal, attempts_append]
      exact List.mem_append_left _ hmem

end Effects

end Fares

section Transcript

variable {before last : Adapter σ} {outside remaining : List Event} {moments : List Moment}
  {turns : List Turn} {session real : Session σ} {idle : List Effect}

/-- A reply that is refused ends a session, whatever comes behind. -/
theorem fares_of_refused {after : Adapter σ} {turn : Turn} {reason : String}
    {clean : Session σ × List Effect} (answers : turn.Answers debugger settings before after)
    (hexiting : before.exiting = false) (hreal : real.result = none)
    (hafter : Adapter.Shadows refusal after (real.adapter.handle debugger settings turn.body).1)
    (hserved : facing refusal (idle ++ (real.adapter.handle debugger settings turn.body).2.1) =
      facing refusal turn.effects)
    (hresult : (real.adapter.handle debugger settings turn.body).2.2 = .error (.io reason))
    (hrefused : refusal turn.reply.offer = some reason) (moments : List Moment) :
    Fares refusal (turn :: turns) clean
      ((real.experience debugger settings (.hears turn.body :: moments)).1,
        idle ++ (real.experience debugger settings (.hears turn.body :: moments)).2) := by
  let handled : Session σ :=
    { real with adapter := (real.adapter.handle debugger settings turn.body).1 }
  have hleaving : handled.adapter.exiting = (leaving? turn.body).isSome := by
    rw [hafter.exiting, answers.exiting, hexiting, Bool.false_or]
  have hover : (handled.conclude debugger (.error (.io reason))).1.result.isSome := by
    rw [result_conclude]
    rfl
  rw [experience_cons, meet_hears_of_open hreal, serve_of_refused real hresult,
    experience_of_over debugger settings hover, List.append_assoc, ← List.append_assoc idle]
  refine .refused hrefused (result_conclude debugger handled _) ?_ hserved ?_ ?_
  · exact (conclude_exiting debugger handled _).trans hleaving
  · rw [taken_append, taken_conclude, Channel.taken_raiseAll, List.append_nil]
  · rw [operations_append, Channel.operations_raiseAll, List.append_nil, ← hleaving]
    cases hexits : handled.adapter.exiting with
    | true => rw [conclude_of_exiting debugger handled hexits]; rfl
    | false => rw [conclude_of_staying debugger handled hexits, Adapter.operations_perform]; rfl

/-- Two sessions over the same moments, of which the client of one refuses no frame and has
its transcript. Since the last reply the other has done `idle`. -/
theorem fares_of_transcript
    (h : Transcript debugger settings before outside moments turns last remaining)
    (hexiting : before.exiting = false) (hopen : session.result = none)
    (hadapter : session.adapter =
      { before with channel := (before.channel.raiseAll outside).1 })
    (hreal : real.result = none) (hshadows : Adapter.Shadows refusal session.adapter real.adapter)
    (hidle : facing refusal idle = facing refusal (before.channel.raiseAll outside).2) :
    Fares refusal turns
      ((session.experience debugger settings moments).1,
        (before.channel.raiseAll outside).2 ++ (session.experience debugger settings moments).2)
      ((real.experience debugger settings moments).1,
        idle ++ (real.experience debugger settings moments).2) := by
  induction h generalizing session real idle with
  | done before outside =>
    have hstays : session.adapter.exiting = false := by rw [hadapter, hexiting]
    obtain ⟨hperformed, hfacing⟩ := hshadows.perform debugger (.disconnect .default)
    rw [experience_nil, experience_nil, settle_of_open hopen, settle_of_open hreal,
      conclude_of_staying debugger session hstays,
      conclude_of_staying debugger real (hshadows.exiting.trans hstays)]
    refine .done ?_ hperformed.exiting rfl
    rw [facing_append, facing_append, hidle, hfacing]
  | @raises before last outside remaining moments turns event _ ih =>
    obtain ⟨hraise, heffects⟩ := raise_of_waiting hadapter event
    obtain ⟨hsent, hfacing, -⟩ := hshadows.channel.send (.ofEvent event)
    have hopen' : (session.raise event).1.result = none := hopen
    have hreal' : (real.raise event).1.result = none := hreal
    have hraised : Adapter.Shadows refusal (session.raise event).1.adapter
        (real.raise event).1.adapter := ⟨hsent, hshadows.debugger, hshadows.exiting⟩
    have hlonger : facing refusal (idle ++ (real.raise event).2.1) =
        facing refusal (before.channel.raiseAll (outside ++ [event])).2 := by
      rw [heffects, facing_append, facing_append, hidle]
      exact congrArg _ hfacing
    have hrest := ih hexiting hopen' hraise hreal' hraised hlonger
    rw [experience_cons, experience_cons, meet_raises, meet_raises, ← List.append_assoc,
      ← List.append_assoc, ← heffects]
    exact hrest
  | @leaves before after turn moments answers leaves =>
    obtain ⟨heffects, hserved⟩ := serve_of_answers answers hexiting hopen hadapter
    obtain ⟨hafter, hfacing, hverdict⟩ := hshadows.turn answers hadapter hidle
    cases hreply : refusal turn.reply.offer with
    | some reason =>
      rw [Channel.verdict, hreply] at hverdict
      exact fares_of_refused answers hexiting hreal hafter hfacing hverdict hreply moments
    | none =>
      rw [Channel.verdict, hreply] at hverdict
      have hexits : (real.adapter.handle debugger settings turn.body).1.exiting = true := by
        rw [hafter.exiting, answers.exiting, leaves, Bool.or_true]
      obtain ⟨hraised, hlast⟩ := hafter.raiseAll (Moment.events moments)
      rw [leaves] at hserved
      rw [experience_cons, experience_cons, meet_hears_of_open hopen, meet_hears_of_open hreal,
        serve_of_leaving real hverdict hexits, ← List.append_assoc, ← List.append_assoc, heffects,
        hserved, experience_of_over _ _ rfl, experience_of_over _ _ rfl]
      exact .accepted hreply hfacing (.done hlast hraised.exiting rfl)
  | @stays before after last turn remaining moments turns answers stays _ ih =>
    obtain ⟨heffects, hserved⟩ := serve_of_answers answers hexiting hopen hadapter
    obtain ⟨hafter, hfacing, hverdict⟩ := hshadows.turn answers hadapter hidle
    cases hreply : refusal turn.reply.offer with
    | some reason =>
      rw [Channel.verdict, hreply] at hverdict
      exact fares_of_refused answers hexiting hreal hafter hfacing hverdict hreply moments
    | none =>
      rw [Channel.verdict, hreply] at hverdict
      have hgoes : after.exiting = false := by rw [answers.exiting, stays, hexiting]; rfl
      have hstays : (real.adapter.handle debugger settings turn.body).1.exiting = false := by
        rw [hafter.exiting, hgoes]
      rw [stays] at hserved
      let next : Session σ :=
        { real with adapter := (real.adapter.handle debugger settings turn.body).1 }
      have hnext : next.result = none := hreal
      have hopen' : (session.serve debugger settings turn.body).1.result = none := by
        rw [hserved]
        rfl
      have hadapter' : (session.serve debugger settings turn.body).1.adapter = after := by
        rw [hserved]
      have hshadows' : Adapter.Shadows refusal (session.serve debugger settings turn.body).1.adapter
          next.adapter := by rwa [hadapter']
      -- the next turn begins with no event behind this one
      have hidle' : facing refusal [] = facing refusal (after.channel.raiseAll []).2 := rfl
      have hrest := ih hgoes hopen' hadapter' hnext hshadows' hidle'
      rw [experience_cons, experience_cons, meet_hears_of_open hopen, meet_hears_of_open hreal,
        serve_of_staying real hverdict hstays, ← List.append_assoc, ← List.append_assoc, heffects]
      exact .accepted hreply hfacing hrest

end Transcript

theorem fares_run {traffic : TrafficLog} (hquiet : traffic ≠ .console) (state : σ)
    (arrivals : List Arrival) (ending : Frame.Ending) {turns : List Turn} {last : Adapter σ}
    {remaining : List Event}
    (h : Transcript debugger settings (fresh (fun _ => none) traffic state).adapter []
      (Arrival.moments ending .start arrivals) turns last remaining) :
    Fares refusal turns
      (run debugger settings (fresh (fun _ => none) traffic state) arrivals ending)
      (run debugger settings (fresh refusal traffic state) arrivals ending) := by
  have hshadows : Adapter.Shadows refusal (fresh (fun _ => none) traffic state).adapter
      (fresh refusal traffic state).adapter := ⟨Channel.shadows_fresh refusal hquiet, rfl, rfl⟩
  have hidle : facing refusal [] = facing refusal
      ((fresh (fun _ => none) traffic state).adapter.channel.raiseAll []).2 := rfl
  have hfares := fares_of_transcript h rfl rfl rfl rfl hshadows hidle
  let session := fresh (fun _ => none) traffic state
  let other := fresh refusal traffic state
  let moments := Arrival.moments ending .start arrivals
  obtain ⟨heffects, reader, hlast⟩ := run_eq_experience debugger settings session arrivals ending
  obtain ⟨heffects', reader', hlast'⟩ := run_eq_experience debugger settings other arrivals ending
  -- the reader that is left at the end has no part in it
  have hclean : run debugger settings session arrivals ending =
      ({ (experience debugger settings session moments).1 with reader },
        (experience debugger settings session moments).2) := Prod.ext hlast heffects
  have hreal : run debugger settings other arrivals ending =
      ({ (experience debugger settings other moments).1 with reader := reader' },
        (experience debugger settings other moments).2) := Prod.ext hlast' heffects'
  rw [hclean, hreal]
  exact ⟨hfares.unbroken, hfares.broken⟩

/-- A session with the traffic log off or in a file, once with a client who refuses no frame and
once with one who refuses frames by their numbers, whatever the numbers and the reasons. If
the first is a dialogue in which no reply has such a number, the second asks the debugger for
the same, ends the same, and the client misses just the frames that it refuses. Otherwise
the first reply that is refused ends the session with the reason. Until then it does the same,
but for the frames that are refused; behind that it takes up no body, and the debugger is
only disconnected by default, unless the client has left with the body of that reply. -/
theorem ends_only_at_refused_reply (debugger : Debugger σ) (settings : LaunchSettings)
    (refusal : Nat → Option String) {traffic : TrafficLog} (hquiet : traffic ≠ .console)
    (state : σ) (arrivals : List Arrival) (ending : Frame.Ending) :
    let clean := run debugger settings (fresh (fun _ => none) traffic state) arrivals ending
    let real := run debugger settings (fresh refusal traffic state) arrivals ending
    ∃ turns last rest remaining,
      Dialogue debugger settings (fresh (fun _ => none) traffic state).adapter turns last ∧
      turns.map (·.body) = untilLeaving (Frame.bodies (Arrival.stream arrivals) ending) ∧
      clean.2 = turns.flatMap Turn.effects ++ rest ∧ taken rest = [] ∧
      sent rest = (remaining ++ courtesy debugger last).map .ofEvent ∧
      clean.1.result = some (.ok ()) ∧
      ((∀ turn ∈ turns, refusal turn.reply.offer = none) →
        operations real.2 = operations clean.2 ∧
        deliveries real.2 =
          (deliveries clean.2).filter (fun attempt => (refusal attempt.offer).isNone) ∧
        real.1.adapter.exiting = clean.1.adapter.exiting ∧ real.1.result = some (.ok ())) ∧
      ∀ front turn back reason, turns = front ++ turn :: back →
        (∀ earlier ∈ front, refusal earlier.reply.offer = none) →
        refusal turn.reply.offer = some reason →
        real.1.result = some (.error (.io reason)) ∧
        real.1.adapter.exiting = (leaving? turn.body).isSome ∧
        taken real.2 = (front ++ [turn]).map (·.body) ∧
        ∃ served after, real.2 = served ++ after ∧
          operations served = operations ((front ++ [turn]).flatMap Turn.effects) ∧
          deliveries served = (deliveries ((front ++ [turn]).flatMap Turn.effects)).filter
            (fun attempt => (refusal attempt.offer).isNone) ∧
          taken after = [] ∧
          operations after =
            if (leaving? turn.body).isSome then [] else [.disconnect .default] := by
  intro clean real
  have hopen : (fresh (fun _ => none) traffic state).result = none := rfl
  have hadapter : (fresh (fun _ => none) traffic state).adapter =
      { (fresh (fun _ => none) traffic state).adapter with
        channel := ((fresh (fun _ => none) traffic state).adapter.channel.raiseAll []).1 } := rfl
  obtain ⟨turns, last, remaining, htranscript⟩ :=
    exists_transcript debugger settings (fresh (fun _ => none) traffic state).adapter
      (fun _ => rfl) [] (Arrival.moments ending .start arrivals)
  obtain ⟨rest, heffects, htaken, hsent⟩ :=
    effects_of_transcript htranscript (fun _ => rfl) rfl hopen hadapter
  have hbodies := htranscript.bodies_eq
  rw [Arrival.bodies_moments] at hbodies
  have hclean : clean.2 = turns.flatMap Turn.effects ++ rest := by
    obtain ⟨hrun, -, -⟩ :=
      run_eq_experience debugger settings (fresh (fun _ => none) traffic state) arrivals ending
    rw [← heffects]
    exact hrun
  have hreliable : ∀ attempt ∈ attempts clean.2, attempt.refusal = none :=
    (course_run debugger settings (fresh (fun _ => none) traffic state) arrivals
      ending).refusal_eq
  have hrefusal : ∀ attempt ∈ attempts real.2, attempt.refusal = refusal attempt.offer :=
    (course_run debugger settings (fresh refusal traffic state) arrivals ending).refusal_eq
  have hself : Fares (fun _ => none) turns clean clean :=
    fares_run hquiet state arrivals ending htranscript
  have hfares : Fares refusal turns clean real := fares_run hquiet state arrivals ending htranscript
  have hresult : clean.1.result = some (.ok ()) := (hself.unbroken fun _ _ => rfl).2.2
  refine ⟨turns, last, rest, remaining, htranscript.dialogue, hbodies, hclean, htaken, hsent,
    hresult, hfares.seen_of_unbroken hreliable hrefusal, ?_⟩
  intro front turn back reason hturns hfront hrefused
  obtain ⟨hends, hexiting, -⟩ := hfares.broken front turn back reason hturns hfront hrefused
  exact ⟨hends, hexiting, hfares.seen_of_broken hreliable hrefusal hclean
    htranscript.dialogue.taken_effects hturns hfront hrefused⟩

/-- Two bodies from a client who refuses all frames: the second is not taken up. -/
theorem ends_only_at_refused_reply_first :
    let bodies := [Utf8.encode "1", Utf8.encode "2"]
    let arrivals := [Arrival.bytes (bodies.flatMap Frame.encode)]
    let real := run (.unable .notImplemented) {} (fresh (fun _ => some "broken pipe") .disabled ())
      arrivals .closed
    TrafficLog.disabled ≠ .console ∧
      real.1.result = some (.error (.io "broken pipe")) ∧ taken real.2 = [Utf8.encode "1"] := by
  intro bodies arrivals real
  have hquiet : TrafficLog.disabled ≠ .console := nofun
  have hbodies : Frame.bodies (Arrival.stream arrivals) .closed = bodies := by
    simp only [arrivals, Arrival.stream, List.append_nil]
    exact Frame.bodies_flatMap_encode (by decide) .closed
  obtain ⟨turns, last, rest, remaining, -, hturns, -, -, -, -, -, hbroken⟩ :=
    ends_only_at_refused_reply (.unable .notImplemented) {} (fun _ => some "broken pipe") hquiet ()
      arrivals .closed
  rw [hbodies] at hturns
  have hfirst : untilLeaving bodies = [Utf8.encode "1", Utf8.encode "2"] := by decide
  rw [hfirst] at hturns
  obtain ⟨first, others, rfl⟩ : ∃ first others, turns = first :: others :=
    List.exists_cons_of_ne_nil (by rintro rfl; cases hturns)
  have hends := hbroken [] first others "broken pipe" rfl (by simp) rfl
  have hbody : first.body = Utf8.encode "1" := (List.cons.inj hturns).1
  simp only [real]
  exact ⟨hquiet, hends.1, by rw [hends.2.2.1, List.nil_append, List.map_singleton, hbody]⟩

end Session

end DebugAdapter
