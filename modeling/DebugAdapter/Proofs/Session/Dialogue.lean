import DebugAdapter.Proofs.Channel.Delivery
import DebugAdapter.Proofs.Session.Numbering
import DebugAdapter.Proofs.Session.Taken

/-!
# The dialogue with a client

If no frame is refused, each body has its reply before the next is taken up. What the debugger is
asked on behalf of a body, and the events that it raises meanwhile, stand between the reply to the
body before and the reply to the body.
-/

namespace DebugAdapter

open Effect

variable {σ : Type} (debugger : Debugger σ) (settings : LaunchSettings)

/-! ## Replies -/

namespace Adapter

/-- The fields in front of a response. -/
def responseHead (seq : Int64) (command : String) : List (String × Json) :=
  [("type", .string "response"), ("request_seq", .ofInt64 seq), ("command", .string command)]

/-- What the client reads in the reply to a body. A request is answered by a response with
its number and its command, and with a body if the command succeeds and a message if it
fails. A body that is not a request is answered by a failure if its number can be told, and
by a text on the console otherwise. -/
def Replies (adapter : Adapter σ) (body : Bytes) (fields : List (String × Json)) : Prop :=
  match Request.decode body with
  | .ok request =>
    match (adapter.dispatch debugger settings request.command request.arguments).2.2 with
    | .ok result =>
      fields = responseHead request.seq request.command ++
        [("success", .bool true), ("body", result)]
    | .error failure =>
      fields = responseHead request.seq request.command ++
        [("success", .bool false), ("message", .string (failure.reply request.command))]
  | .error rejection =>
    match rejection.seq with
    | some seq =>
      fields = responseHead seq (rejection.command.getD "") ++
        [("success", .bool false), ("message", .string rejection.fault.message)]
    | none =>
      fields = [("type", .string "event"), ("event", .string "output"),
        ("body", (Event.output .console
          ("Dropped malformed request: " ++ rejection.fault.message ++ "\n")).body)]

/-- The reply of the reaction to a body is the one that the client reads. -/
theorem replies_answer (adapter : Adapter σ) (body : Bytes) :
    adapter.Replies debugger settings body
      (debugger.answer settings adapter.debugger body).result.fields := by
  unfold Replies Debugger.answer
  cases Request.decode body with
  | ok request =>
    simp only [dispatch_eq, Reaction.map]
    cases (debugger.react settings adapter.debugger request.command request.arguments).result with
    | ok result => rfl
    | error failure => rfl
  | error rejection =>
    obtain ⟨seq, command, fault⟩ := rejection
    cases seq with
    | some seq => rfl
    | none => rfl

/-! ## What happens until the reply -/

/-- What happens on behalf of a body until its reply: nothing that the client sees if the
debugger is not called, and otherwise one call, behind it the events that the debugger raises
meanwhile, and in front of it the events that announce it. -/
def Caused (state : σ) (effects : List Effect) : Prop :=
  (operations effects = [] ∧ sent effects = []) ∨
  ∃ front operation raised, effects = front ++ .calls operation :: raised ∧
    operations front = [] ∧ operations raised = [] ∧
    (∃ announced : List Event, sent front = announced.map .ofEvent) ∧
    sent raised = (debugger.perform state operation).events.map .ofEvent

/-- A reaction that is carried through a channel without refusals is what happens. -/
theorem caused_carry (adapter : Adapter σ) (h : adapter.channel.Reliable) (body : Bytes)
    {noted : List Effect} (hoperations : operations noted = []) (hsent : sent noted = []) :
    Caused debugger adapter.debugger
      (noted ++ (adapter.carry (debugger.answer settings adapter.debugger body)).2) := by
  have hannounced := Channel.Course.raiseAll adapter.channel
    (debugger.answer settings adapter.debugger body).announces
  cases hcall : (debugger.answer settings adapter.debugger body).call with
  | none =>
    -- without a call there are no events either
    obtain ⟨hannounces, hraises⟩ := debugger.answer_of_call_eq_none settings _ body hcall
    refine .inl ⟨?_, ?_⟩
    · rw [operations_append, hoperations, operations_carry, hcall]
      rfl
    · simp [carry, hcall, hannounces, hraises, Channel.raiseAll, hsent]
  | some operation =>
    have hraises := debugger.answer_of_call_eq_some settings _ body hcall
    let announced := adapter.channel.raiseAll
      (debugger.answer settings adapter.debugger body).announces
    let raised := announced.1.raiseAll (debugger.perform adapter.debugger operation).events
    have hcarry : (adapter.carry (debugger.answer settings adapter.debugger body)).2 =
        announced.2 ++ .calls operation :: raised.2 := by
      simp [carry, hcall, hraises, announced, raised]
    have hraised : sent raised.2 =
        (debugger.perform adapter.debugger operation).events.map .ofEvent :=
      (hannounced.reliable h).sent_raiseAll _
    refine .inr ⟨noted ++ announced.2, operation, raised.2, ?_, ?_,
      Channel.operations_raiseAll _ _, ⟨(debugger.answer settings adapter.debugger body).announces,
        ?_⟩, hraised⟩
    · rw [hcarry, List.append_assoc]
    · rw [operations_append, hoperations, Channel.operations_raiseAll, List.append_nil]
    · rw [sent_append, hsent, h.sent_raiseAll, List.nil_append]

end Adapter

/-! ## Turns -/

/-- From one reply to the next: events from outside and their effects, a body, what happens
until the reply to it, the reply, and what is noted of the reply. -/
structure Turn where
  outside : List Event
  idle : List Effect
  body : Bytes
  caused : List Effect
  reply : Attempt
  echoed : List Effect

/-- All effects of a turn. -/
def Turn.effects (turn : Turn) : List Effect :=
  turn.idle ++ .takes turn.body :: (turn.caused ++ .offers turn.reply :: turn.echoed)

/-- A turn of an adapter in which the body is answered. -/
structure Turn.Answers (before : Adapter σ) (turn : Turn) (after : Adapter σ) : Prop where
  /-- The events from outside come first. -/
  idle : turn.idle = (before.channel.raiseAll turn.outside).2
  outside : sent turn.idle = turn.outside.map .ofEvent
  /-- The body is handled, and the reply is sent under its number. -/
  handled :
    ({ before with channel := (before.channel.raiseAll turn.outside).1 } : Adapter σ).handle
        debugger settings turn.body =
      (after, .takes turn.body :: (turn.caused ++ .offers turn.reply :: turn.echoed),
        .ok turn.reply.seq)
  caused : Adapter.Caused debugger before.debugger turn.caused
  /-- The reply arrives, and it is no echo. -/
  delivered : turn.reply.delivered = true
  isEcho : turn.reply.isEcho = false
  replies : before.Replies debugger settings turn.body turn.reply.message.fields
  echoed : sent turn.echoed = [] ∧ operations turn.echoed = []

/-- A body is taken up and answered in one turn. -/
theorem Adapter.exists_answers {before : Adapter σ} (h : before.channel.Reliable)
    (outside : List Event) (body : Bytes) :
    ∃ turn after, turn.outside = outside ∧ turn.body = body ∧
      Turn.Answers debugger settings before turn after ∧ after.channel.Reliable := by
  let waiting : Adapter σ := { before with channel := (before.channel.raiseAll outside).1 }
  let noted := waiting.channel.noteInbound (Utf8.decodeLossy body)
  let reaction := debugger.answer settings before.debugger body
  let carried := ({ waiting with channel := noted.1 } : Adapter σ).carry reaction
  have hwaiting : waiting.channel.Reliable :=
    (Channel.Course.raiseAll before.channel outside).reliable h
  have hnoted : noted.1.Reliable := (Channel.Course.noteInbound _ _).reliable hwaiting
  have hcarried : carried.1.channel.Reliable := (Adapter.course_carry _ reaction).reliable hnoted
  obtain ⟨own, echoed, hsend, hmessage, hdelivered, hecho, hsent, hoperations, -⟩ :=
    hcarried.send reaction.result
  have hhandle : waiting.handle debugger settings body =
      ({ carried.1 with channel := (carried.1.channel.send reaction.result).1 },
        .takes body :: (noted.2 ++ carried.2 ++ .offers own :: echoed), .ok own.seq) := by
    rw [handle_eq]
    simp only [waiting, noted, reaction, carried] at hsend ⊢
    rw [hsend]
  refine ⟨⟨outside, _, body, noted.2 ++ carried.2, own, echoed⟩, _, rfl, rfl,
    ⟨rfl, h.sent_raiseAll outside, hhandle, ?_, hdelivered, hecho, ?_, hsent, hoperations⟩, ?_⟩
  · exact caused_carry debugger settings { waiting with channel := noted.1 } hnoted body
      (Channel.operations_note _ _ _) (Channel.sent_note _ _ _)
  · rw [hmessage]
    exact replies_answer debugger settings before body
  · exact (Channel.Course.send _ _).reliable hcarried

namespace Turn.Answers

variable {debugger settings} {before after : Adapter σ} {turn : Turn}

theorem reliable (h : turn.Answers debugger settings before after)
    (hbefore : before.channel.Reliable) : after.channel.Reliable := by
  have hcourse := Adapter.course_handle debugger settings
    { before with channel := (before.channel.raiseAll turn.outside).1 } turn.body
  rw [h.handled] at hcourse
  exact hcourse.reliable ((Channel.Course.raiseAll before.channel turn.outside).reliable hbefore)

theorem exiting (h : turn.Answers debugger settings before after) :
    after.exiting = (before.exiting || (leaving? turn.body).isSome) := by
  have hexiting := Adapter.handle_exiting debugger settings
    { before with channel := (before.channel.raiseAll turn.outside).1 } turn.body
  rwa [h.handled, Debugger.answer_leaves] at hexiting

end Turn.Answers

/-- Turns in a row, each from the adapter that the one before has left. -/
inductive Dialogue : Adapter σ → List Turn → Adapter σ → Prop where
  | done (adapter : Adapter σ) : Dialogue adapter [] adapter
  | turn {before after last : Adapter σ} {turn : Turn} {turns : List Turn}
      (first : turn.Answers debugger settings before after) (rest : Dialogue after turns last) :
      Dialogue before (turn :: turns) last

/-! ## Transcripts -/

/-- How the moments of a session come in turns, from the adapter as the last reply has left it
and with the events from outside since then. Behind the last turn there are events of the
last list. -/
inductive Transcript :
    Adapter σ → List Event → List Moment → List Turn → Adapter σ → List Event → Prop where
  | done (before : Adapter σ) (outside : List Event) :
      Transcript before outside [] [] before outside
  /-- An event waits for the next body. -/
  | raises {before last : Adapter σ} {outside remaining : List Event} {moments : List Moment}
      {turns : List Turn} (event : Event)
      (rest : Transcript before (outside ++ [event]) moments turns last remaining) :
      Transcript before outside (.raises event :: moments) turns last remaining
  /-- The client leaves, and no body behind it is heard. -/
  | leaves {before after : Adapter σ} {turn : Turn} (moments : List Moment)
      (answers : turn.Answers debugger settings before after)
      (leaves : (leaving? turn.body).isSome) :
      Transcript before turn.outside (.hears turn.body :: moments) [turn] after
        (Moment.events moments)
  | stays {before after last : Adapter σ} {turn : Turn} {remaining : List Event}
      {moments : List Moment} {turns : List Turn}
      (answers : turn.Answers debugger settings before after) (stays : leaving? turn.body = none)
      (rest : Transcript after [] moments turns last remaining) :
      Transcript before turn.outside (.hears turn.body :: moments) (turn :: turns) last remaining

namespace Transcript

variable {debugger settings} {before last : Adapter σ} {outside remaining : List Event}
  {moments : List Moment} {turns : List Turn}

theorem dialogue (h : Transcript debugger settings before outside moments turns last remaining) :
    Dialogue debugger settings before turns last := by
  induction h with
  | done before outside => exact .done before
  | raises event _ ih => exact ih
  | leaves moments answers _ => exact .turn answers (.done _)
  | stays answers _ _ ih => exact .turn answers ih

theorem bodies_eq (h : Transcript debugger settings before outside moments turns last remaining) :
    turns.map (·.body) = untilLeaving (Moment.bodies moments) := by
  induction h with
  | done before outside => rfl
  | raises event _ ih => exact ih
  | leaves moments answers leaves => rw [Moment.bodies, untilLeaving_of_leaving leaves]; rfl
  | stays answers stays _ ih =>
    rw [Moment.bodies, untilLeaving_of_staying stays, List.map_cons, ih]

theorem outside_eq (h : Transcript debugger settings before outside moments turns last remaining) :
    turns.flatMap (·.outside) ++ remaining = outside ++ Moment.events moments := by
  induction h with
  | done before outside => simp [Moment.events]
  | raises event _ ih => rw [ih, Moment.events, List.append_assoc]; rfl
  | leaves moments answers _ => simp [Moment.events]
  | stays answers _ _ ih => rw [List.flatMap_cons, List.append_assoc, ih]; rfl

end Transcript

/-- If no frame is refused, the moments of a session come in turns. -/
theorem exists_transcript (before : Adapter σ) (h : before.channel.Reliable)
    (outside : List Event) (moments : List Moment) :
    ∃ turns last remaining,
      Transcript debugger settings before outside moments turns last remaining := by
  induction moments generalizing before outside with
  | nil => exact ⟨[], before, outside, .done before outside⟩
  | cons moment moments ih =>
    cases moment with
    | raises event =>
      obtain ⟨turns, last, remaining, hrest⟩ := ih before h (outside ++ [event])
      exact ⟨turns, last, remaining, .raises event hrest⟩
    | hears body =>
      obtain ⟨turn, after, rfl, rfl, hanswers, hafter⟩ :=
        Adapter.exists_answers debugger settings h outside body
      cases hleaving : leaving? turn.body with
      | some what => exact ⟨_, _, _, .leaves moments hanswers (by rw [hleaving]; rfl)⟩
      | none =>
        obtain ⟨turns, last, remaining, hrest⟩ := ih after hafter []
        exact ⟨_, _, _, .stays hanswers hleaving hrest⟩

namespace Session

/-- What the debugger raises when it is disconnected at the end of a session that the client
has not left. -/
def courtesy (debugger : Debugger σ) (adapter : Adapter σ) : List Event :=
  if adapter.exiting then []
  else (debugger.perform adapter.debugger (.disconnect .default)).events

theorem sent_settle (debugger : Debugger σ) {session : Session σ}
    (h : session.adapter.channel.Reliable) (hopen : session.result = none)
    (hexiting : session.adapter.exiting = false) :
    sent (session.settle debugger).2 = (courtesy debugger session.adapter).map .ofEvent := by
  rw [settle_of_open hopen, conclude_of_staying debugger session hexiting, courtesy, hexiting]
  exact h.sent_raiseAll _

/-- Effects of a dialogue about `bodies`, with events from outside among them, and behind it
but events. -/
def Converses (debugger : Debugger σ) (settings : LaunchSettings) (before : Adapter σ)
    (bodies : List Bytes) (events : List Event) (effects : List Effect) : Prop :=
  ∃ turns last rest remaining, Dialogue debugger settings before turns last ∧
    turns.map (·.body) = bodies ∧
    effects = turns.flatMap Turn.effects ++ rest ∧
    taken rest = [] ∧
    turns.flatMap (·.outside) ++ remaining = events ∧
    sent rest = (remaining ++ courtesy debugger last).map .ofEvent

section Transcript

variable {debugger settings} {before last : Adapter σ} {outside remaining : List Event}
  {moments : List Moment} {turns : List Turn} {session : Session σ}

/-- An event from outside joins those that wait for the next body. -/
theorem raise_of_waiting
    (hadapter : session.adapter = { before with channel := (before.channel.raiseAll outside).1 })
    (event : Event) :
    (session.raise event).1.adapter =
        { before with channel := (before.channel.raiseAll (outside ++ [event])).1 } ∧
      (before.channel.raiseAll (outside ++ [event])).2 =
        (before.channel.raiseAll outside).2 ++ (session.raise event).2.1 := by
  rw [Channel.raiseAll_append, raise, Adapter.raise, Adapter.send, hadapter]
  exact ⟨rfl, by simp [Channel.raiseAll, Channel.raise]⟩

/-- A session that waits for a body serves it in a turn. -/
theorem serve_of_answers {after : Adapter σ} {turn : Turn}
    (h : turn.Answers debugger settings before after) (hexiting : before.exiting = false)
    (hopen : session.result = none)
    (hadapter : session.adapter =
      { before with channel := (before.channel.raiseAll turn.outside).1 }) :
    (before.channel.raiseAll turn.outside).2 ++ (session.serve debugger settings turn.body).2 =
        turn.effects ∧
      (session.serve debugger settings turn.body).1 =
        { session with
          adapter := after
          result := if (leaving? turn.body).isSome then some (.ok ()) else none } := by
  have hhandled := h.handled
  rw [← hadapter] at hhandled
  have hexit : (session.adapter.handle debugger settings turn.body).1.exiting =
      (leaving? turn.body).isSome := by
    rw [hhandled, h.exiting, hexiting, Bool.false_or]
  have hresult : (session.adapter.handle debugger settings turn.body).2.2 =
      .ok turn.reply.seq := by rw [hhandled]
  cases hleaving : leaving? turn.body with
  | some what =>
    rw [hleaving, Option.isSome_some] at hexit
    rw [serve_of_leaving session hresult hexit, hhandled, Turn.effects, h.idle]
    exact ⟨rfl, rfl⟩
  | none =>
    rw [hleaving, Option.isSome_none] at hexit
    rw [serve_of_staying session hresult hexit, hhandled, Turn.effects, h.idle, hopen]
    exact ⟨rfl, rfl⟩

/-- The effects of a session over moments are those of the turns, and behind them there are
but events. The session has raised the events of `outside` since the last reply, behind which
the adapter was as `before`. -/
theorem effects_of_transcript
    (h : Transcript debugger settings before outside moments turns last remaining)
    (hreliable : before.channel.Reliable) (hexiting : before.exiting = false)
    (hopen : session.result = none)
    (hadapter : session.adapter =
      { before with channel := (before.channel.raiseAll outside).1 }) :
    ∃ rest, (before.channel.raiseAll outside).2 ++
        (session.experience debugger settings moments).2 = turns.flatMap Turn.effects ++ rest ∧
      taken rest = [] ∧ sent rest = (remaining ++ courtesy debugger last).map .ofEvent := by
  induction h generalizing session with
  | done before outside =>
    have hwaiting : session.adapter.channel.Reliable := by
      rw [hadapter]
      exact (Channel.Course.raiseAll before.channel outside).reliable hreliable
    have hsettle := sent_settle debugger hwaiting hopen (by rw [hadapter, hexiting])
    refine ⟨(before.channel.raiseAll outside).2 ++ (session.settle debugger).2, rfl, ?_, ?_⟩
    · rw [taken_append, Channel.taken_raiseAll, taken_settle, List.append_nil]
    · rw [sent_append, hreliable.sent_raiseAll, hsettle, hadapter, List.map_append]
      rfl
  | raises event _ ih =>
    obtain ⟨hraise, heffects⟩ := raise_of_waiting hadapter event
    have hraised : (session.raise event).1.result = none := hopen
    obtain ⟨rest, hrest, htaken, hsent⟩ := ih hreliable hexiting hraised hraise
    refine ⟨rest, ?_, htaken, hsent⟩
    rw [← hrest, heffects, experience_cons, meet_raises, List.append_assoc]
  | @leaves before after turn moments answers leaves =>
    obtain ⟨heffects, hserved⟩ := serve_of_answers answers hexiting hopen hadapter
    have hafter : after.exiting = true := by rw [answers.exiting, leaves, Bool.or_true]
    refine ⟨(after.channel.raiseAll (Moment.events moments)).2, ?_, Channel.taken_raiseAll _ _, ?_⟩
    · -- the session is over, and only events from outside are left
      rw [experience_cons, meet_hears_of_open hopen, ← List.append_assoc, heffects, hserved, leaves,
        experience_of_over _ _ rfl, List.flatMap_cons, List.flatMap_nil, List.append_nil]
    · rw [(answers.reliable hreliable).sent_raiseAll, courtesy, if_pos hafter, List.append_nil]
  | @stays before after last turn remaining moments turns answers stays _ ih =>
    obtain ⟨heffects, hserved⟩ := serve_of_answers answers hexiting hopen hadapter
    have hafter : after.exiting = false := by rw [answers.exiting, stays, hexiting]; rfl
    rw [stays] at hserved
    -- the next turn begins with no event behind this one
    have hresult : (session.serve debugger settings turn.body).1.result = none := by
      rw [hserved]
      rfl
    have hnext : (session.serve debugger settings turn.body).1.adapter = after := by rw [hserved]
    obtain ⟨rest, hrest, htaken, hsent⟩ :=
      ih (answers.reliable hreliable) hafter hresult hnext
    refine ⟨rest, ?_, htaken, hsent⟩
    rw [experience_cons, meet_hears_of_open hopen, ← List.append_assoc, heffects,
      List.flatMap_cons, List.append_assoc, ← hrest]
    rfl

end Transcript

/-- A session over moments is a dialogue. The session has raised the events of `outside`
since the last reply, behind which the adapter was as `before`. -/
theorem converses_experience (debugger : Debugger σ) (settings : LaunchSettings)
    (before : Adapter σ) (h : before.channel.Reliable) (hexiting : before.exiting = false)
    (outside : List Event) (session : Session σ) (hopen : session.result = none)
    (hadapter : session.adapter =
      { before with channel := (before.channel.raiseAll outside).1 }) (moments : List Moment) :
    Converses debugger settings before (untilLeaving (Moment.bodies moments))
      (outside ++ Moment.events moments)
      ((before.channel.raiseAll outside).2 ++
        (session.experience debugger settings moments).2) := by
  obtain ⟨turns, last, remaining, htranscript⟩ :=
    exists_transcript debugger settings before h outside moments
  obtain ⟨rest, heffects, htaken, hsent⟩ :=
    effects_of_transcript htranscript h hexiting hopen hadapter
  exact ⟨turns, last, rest, remaining, htranscript.dialogue, htranscript.bodies_eq, heffects,
    htaken, htranscript.outside_eq, hsent⟩

/-- If no frame is refused, the bodies of a stream up to the one with which the client leaves,
or all of them, are answered one by one and in order, whatever the debugger does and whatever
events come from outside. Everything else that the client is sent is an echo or an event:
one that the debugger raises on behalf of a body, between the reply to the body before and
the reply to the body; one from outside; or one of the debugger that is disconnected
because the client did not leave. -/
theorem answers_every_body (debugger : Debugger σ) (settings : LaunchSettings)
    (lastSeq offers : Nat) (traffic : TrafficLog) (state : σ) (arrivals : List Arrival)
    (ending : Frame.Ending) :
    let adapter : Adapter σ :=
      { channel := { lastSeq, sink := { offers }, traffic }, debugger := state }
    let run := Session.run debugger settings { adapter } arrivals ending
    ∃ turns last rest remaining, Dialogue debugger settings adapter turns last ∧
      turns.map (·.body) = untilLeaving (Frame.bodies (Arrival.stream arrivals) ending) ∧
      run.2 = turns.flatMap Turn.effects ++ rest ∧
      taken rest = [] ∧
      turns.flatMap (·.outside) ++ remaining = Arrival.events arrivals ∧
      sent rest = (remaining ++ courtesy debugger last).map .ofEvent ∧
      ∀ attempt ∈ attempts run.2, attempt.isEcho = true →
        ∃ line, attempt.message = Channel.echo line := by
  intro adapter run
  obtain ⟨heffects, -, -⟩ := run_eq_experience debugger settings { adapter } arrivals ending
  obtain ⟨turns, last, rest, remaining, hdialogue, hbodies, hturns, htaken, houtside, hsent⟩ :=
    converses_experience debugger settings adapter (fun _ => rfl) rfl [] { adapter } rfl rfl
      (Arrival.moments ending .start arrivals)
  rw [Arrival.bodies_moments] at hbodies
  rw [Arrival.events_moments, List.nil_append] at houtside
  rw [Channel.raiseAll, List.nil_append, ← heffects] at hturns
  exact ⟨turns, last, rest, remaining, hdialogue, hbodies, hturns, htaken, houtside, hsent,
    fun attempt => (course_run debugger settings { adapter } arrivals ending).message_of_isEcho⟩

end Session

end DebugAdapter
