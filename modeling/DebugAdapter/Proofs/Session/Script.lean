import DebugAdapter.Proofs.Adapter.Leaving
import DebugAdapter.Proofs.Channel.Log
import DebugAdapter.Proofs.Session.Numbering

/-!
# The script of a session

What a session means to do follows from its moments and from the debugger. As long as no frame is
refused, the channel has no say in it and only plays the script.
-/

namespace DebugAdapter

variable {σ ρ : Type}

/-! ## Intents -/

/-- On whose behalf a message is sent. -/
inductive Origin where
  /-- The adapter replies, or announces an operation. -/
  | adapter
  /-- The debugger raises an event during an operation. -/
  | debugger
  /-- An event comes from outside, between two pieces of the stream. -/
  | outside
  deriving DecidableEq, Repr

/-- Something that a session means to do, whatever the channel makes of it. -/
inductive Intent where
  | takes (body : Bytes)
  | calls (operation : Operation)
  | sends (origin : Origin) (message : Message)

/-- An event that is to be sent. -/
def Intent.raises (origin : Origin) (event : Event) : Intent :=
  .sends origin (.ofEvent event)

/-- What a reaction comes to in front of the reply. -/
def Reaction.conduct (reaction : Reaction σ ρ) : List Intent :=
  reaction.announces.map (.raises .adapter) ++
    (reaction.call.toList.map .calls ++ reaction.raises.map (.raises .debugger))

/-- What a reaction comes to, down to the reply. -/
def Reaction.intents (reaction : Reaction σ Message) : List Intent :=
  reaction.conduct ++ [.sends .adapter reaction.result]

/-- What a session means to do over moments, from a state of the debugger. Behind the body with
which the client leaves there are only events from outside; if the client does not leave, the
debugger is disconnected at the end. -/
def Debugger.script (debugger : Debugger σ) (settings : LaunchSettings) :
    σ → List Moment → List Intent
  | state, [] =>
    .calls (.disconnect .default) ::
      (debugger.perform state (.disconnect .default)).events.map (.raises .debugger)
  | state, .raises event :: moments =>
    .raises .outside event :: script debugger settings state moments
  | state, .hears body :: moments =>
    let reaction := debugger.answer settings state body
    .takes body :: (reaction.intents ++
      if reaction.leaves then (Moment.events moments).map (.raises .outside)
      else script debugger settings reaction.state moments)

/-! ## Intents on a channel -/

namespace Channel

/-- An intent on a channel. -/
def act (channel : Channel) : Intent → Channel × List Effect
  | .takes body =>
    let noted := channel.noteInbound (Utf8.decodeLossy body)
    (noted.1, .takes body :: noted.2)
  | .calls operation => (channel, [.calls operation])
  | .sends _ message => ((channel.send message).1, (channel.send message).2.1)

/-- Intents on a channel, one after another. -/
def play (channel : Channel) : List Intent → Channel × List Effect
  | [] => (channel, [])
  | intent :: intents =>
    (((channel.act intent).1.play intents).1,
      (channel.act intent).2 ++ ((channel.act intent).1.play intents).2)

variable (channel : Channel)

@[simp]
theorem play_nil : channel.play [] = (channel, []) :=
  rfl

theorem play_append (intents others : List Intent) :
    channel.play (intents ++ others) =
      (((channel.play intents).1.play others).1,
        (channel.play intents).2 ++ ((channel.play intents).1.play others).2) := by
  induction intents generalizing channel with
  | nil => rfl
  | cons intent intents ih => simp [play, ih]

@[simp]
theorem play_raises (origin : Origin) (events : List Event) :
    channel.play (events.map (.raises origin)) = channel.raiseAll events := by
  induction events generalizing channel with
  | nil => rfl
  | cons event events ih =>
    rw [List.map_cons, play, ih]
    rfl

@[simp]
theorem play_calls (operations : List Operation) :
    channel.play (operations.map .calls) = (channel, operations.map .calls) := by
  induction operations with
  | nil => rfl
  | cons operation operations ih =>
    rw [List.map_cons, play]
    simp [act, ih]

theorem Course.play (intents : List Intent) :
    Course channel (channel.play intents).2 (channel.play intents).1 := by
  induction intents generalizing channel with
  | nil => exact .done channel
  | cons intent intents ih =>
    rw [Channel.play]
    cases intent with
    | takes body =>
      exact .takes body ((Course.noteInbound channel (Utf8.decodeLossy body)).trans (ih _))
    | calls operation => exact .calls operation (ih channel)
    | sends origin message => exact (Course.send channel message).trans (ih _)

end Channel

/-! ## Intents without a log -/

namespace Intent

open Effect

/-- The message that is to be sent. -/
def message? : Intent → Option Message
  | .sends _ message => some message
  | _ => none

/-- What the debugger is to be asked. -/
def operation? : Intent → Option Operation
  | .calls operation => some operation
  | _ => none

/-- The body that is to be taken up. -/
def body? : Intent → Option Bytes
  | .takes body => some body
  | _ => none

/-- The messages of intents. -/
def messages (intents : List Intent) : List Message :=
  intents.filterMap message?

/-- Intents on a channel without a log whose client refuses no frame, behind `n` messages. -/
def numbered : Nat → List Intent → List Effect
  | _, [] => []
  | n, .takes body :: intents => .takes body :: numbered n intents
  | n, .calls operation :: intents => .calls operation :: numbered n intents
  | n, .sends _ message :: intents =>
    .offers { offer := n + 1, seq := n + 1, message, isEcho := false, refusal := none } ::
      numbered (n + 1) intents

theorem numbered_append (n : Nat) (intents others : List Intent) :
    numbered n (intents ++ others) =
      numbered n intents ++ numbered (n + (messages intents).length) others := by
  induction intents generalizing n with
  | nil => rfl
  | cons intent intents ih =>
    cases intent with
    | takes body => exact congrArg _ (ih n)
    | calls operation => exact congrArg _ (ih n)
    | sends origin message =>
      have hlength : n + (messages (.sends origin message :: intents)).length =
          n + 1 + (messages intents).length := by
        simp [messages, message?]
        omega
      rw [hlength]
      exact congrArg _ (ih (n + 1))

theorem operations_numbered (n : Nat) (intents : List Intent) :
    operations (numbered n intents) = intents.filterMap Intent.operation? := by
  induction intents generalizing n with
  | nil => rfl
  | cons intent intents ih =>
    cases intent with
    | takes body => exact ih n
    | calls operation => exact congrArg _ (ih n)
    | sends origin message => exact ih (n + 1)

theorem taken_numbered (n : Nat) (intents : List Intent) :
    taken (numbered n intents) = intents.filterMap body? := by
  induction intents generalizing n with
  | nil => rfl
  | cons intent intents ih =>
    cases intent with
    | takes body => exact congrArg _ (ih n)
    | calls operation => exact ih n
    | sends origin message => exact ih (n + 1)

end Intent

namespace Channel

/-- Without a log, messages are numbered and that is all. -/
theorem play_of_disabled {channel : Channel} (h : channel.Reliable)
    (htraffic : channel.traffic = .disabled) {n : Nat} (hseq : channel.lastSeq = n)
    (hoffers : channel.sink.offers = n) (intents : List Intent) :
    (channel.play intents).2 = Intent.numbered n intents := by
  induction intents generalizing channel n with
  | nil => rfl
  | cons intent intents ih =>
    rw [play]
    cases intent with
    | takes body =>
      rw [act, noteInbound, note_of_disabled htraffic, ih h htraffic hseq hoffers]
      rfl
    | calls operation =>
      rw [act, ih h htraffic hseq hoffers]
      rfl
    | sends origin message =>
      -- the number of the message and the number of its offer go up together
      have hnext : (channel.offer message false).1.Reliable := h
      have hrefusal : channel.sink.refusal (n + 1) = none := h _
      rw [act, send_of_disabled htraffic, ih hnext htraffic (congrArg (· + 1) hseq)
        (congrArg (· + 1) hoffers)]
      simp only [offer, Sink.offer, hseq, hoffers, hrefusal]
      rfl

end Channel

/-! ## Sessions play their script -/

namespace Adapter

variable (debugger : Debugger σ) (settings : LaunchSettings) (adapter : Adapter σ) (body : Bytes)

theorem play_conduct (reaction : Reaction σ ρ) :
    adapter.channel.play reaction.conduct =
      ((adapter.carry reaction).1.channel, (adapter.carry reaction).2) := by
  simp [Reaction.conduct, Channel.play_append, carry]

/-- A body is noted, what follows from it is played, and the reply is sent. -/
theorem handle_eq_play :
    let reaction := debugger.answer settings adapter.debugger body
    let played := adapter.channel.play (.takes body :: reaction.conduct)
    let replied := played.1.send reaction.result
    adapter.handle debugger settings body =
      ({ channel := replied.1, debugger := reaction.state,
         exiting := adapter.exiting || reaction.leaves },
        played.2 ++ replied.2.1, replied.2.2) := by
  intro reaction played replied
  let noted := adapter.channel.noteInbound (Utf8.decodeLossy body)
  have hcarried := play_conduct { adapter with channel := noted.1 } reaction
  have hplayed : played =
      ((noted.1.play reaction.conduct).1,
        .takes body :: (noted.2 ++ (noted.1.play reaction.conduct).2)) := rfl
  simp only [handle_eq, replied, hplayed, hcarried]
  rfl

/-- A body is handled as what it comes to. -/
theorem play_answer :
    adapter.channel.play (.takes body :: (debugger.answer settings adapter.debugger body).intents) =
      ((adapter.handle debugger settings body).1.channel,
        (adapter.handle debugger settings body).2.1) := by
  rw [handle_eq_play, Reaction.intents, ← List.cons_append, Channel.play_append]
  simp [Channel.play, Channel.act]

theorem perform_eq_play (operation : Operation) :
    let performed := debugger.perform adapter.debugger operation
    let played :=
      adapter.channel.play (.calls operation :: performed.events.map (.raises .debugger))
    adapter.perform debugger operation =
      ({ adapter with channel := played.1, debugger := performed.state }, played.2,
        performed.outcome) := by
  intro performed played
  have hplayed : played = ((adapter.channel.raiseAll performed.events).1,
      .calls operation :: (adapter.channel.raiseAll performed.events).2) := by
    simp [played, Channel.play, Channel.act]
  rw [hplayed]
  rfl

/-- A reply arrives if no frame is refused. -/
theorem exists_handle_eq_ok (h : adapter.channel.Reliable) :
    ∃ seq, (adapter.handle debugger settings body).2.2 = .ok seq := by
  let reaction := debugger.answer settings adapter.debugger body
  have hplayed : (adapter.channel.play (.takes body :: reaction.conduct)).1.Reliable :=
    (Channel.Course.play _ _).reliable h
  obtain ⟨own, _, hsend, -⟩ := hplayed.send reaction.result
  rw [handle_eq_play]
  exact ⟨own.seq, congrArg (·.2) hsend⟩

end Adapter

namespace Session

variable (debugger : Debugger σ) (settings : LaunchSettings)

/-- A session whose client refuses no frame plays its script, and the client has left if one of
the bodies is such that it leaves. -/
theorem experience_eq_play (session : Session σ) (h : session.adapter.channel.Reliable)
    (hopen : session.result = none) (hexiting : session.adapter.exiting = false)
    (moments : List Moment) :
    (session.experience debugger settings moments).2 =
        (session.adapter.channel.play
          (debugger.script settings session.adapter.debugger moments)).2 ∧
      (session.experience debugger settings moments).1.adapter.exiting =
        ((Moment.bodies moments).findSome? leaving?).isSome ∧
      (session.experience debugger settings moments).1.result = some (.ok ()) := by
  induction moments generalizing session with
  | nil =>
    rw [experience_nil, settle_of_open hopen, conclude_of_staying debugger session hexiting,
      Adapter.perform_eq_play]
    exact ⟨rfl, hexiting, rfl⟩
  | cons moment moments ih =>
    rw [experience_cons]
    cases moment with
    | raises event =>
      have hraised : (session.raise event).1.adapter.channel.Reliable :=
        (Channel.Course.send _ _).reliable h
      obtain ⟨heffects, hend⟩ := ih (session.raise event).1 hraised hopen hexiting
      refine ⟨?_, hend⟩
      rw [meet_raises, heffects]
      rfl
    | hears body =>
      obtain ⟨seq, hseq⟩ := session.adapter.exists_handle_eq_ok debugger settings body h
      have hplayed := session.adapter.play_answer debugger settings body
      have hleaves : (debugger.answer settings session.adapter.debugger body).leaves =
          (leaving? body).isSome := debugger.answer_leaves settings session.adapter.debugger
      have hexits : (session.adapter.handle debugger settings body).1.exiting =
          (leaving? body).isSome := by
        rw [Adapter.handle_exiting, hexiting, Bool.false_or, hleaves]
      rw [meet_hears_of_open hopen, Debugger.script, ← List.cons_append, Channel.play_append,
        hplayed, hleaves, Moment.bodies, List.findSome?_cons]
      cases hleaving : leaving? body with
      | some what =>
        -- the session is over, and all that is left of the script are events from outside
        rw [hleaving] at hexits
        rw [serve_of_leaving session hseq hexits, experience_of_over debugger settings rfl]
        refine ⟨?_, hexits, rfl⟩
        simp
      | none =>
        rw [hleaving] at hexits
        have hafter : (session.adapter.handle debugger settings body).1.channel.Reliable :=
          (session.adapter.course_handle debugger settings body).reliable h
        rw [serve_of_staying session hseq hexits]
        obtain ⟨heffects, hend⟩ := ih
          { session with adapter := (session.adapter.handle debugger settings body).1 } hafter hopen
          hexits
        refine ⟨?_, hend⟩
        rw [heffects, Adapter.handle_debugger]
        rfl

variable (traffic : TrafficLog) (state : σ) (arrivals : List Arrival) (ending : Frame.Ending)

theorem run_eq_play :
    let run := run debugger settings (fresh (fun _ => none) traffic state) arrivals ending
    run.2 = ((Channel.fresh (fun _ => none) traffic).play
        (debugger.script settings state (Arrival.moments ending .start arrivals))).2 ∧
      run.1.adapter.exiting =
        ((Frame.bodies (Arrival.stream arrivals) ending).findSome? leaving?).isSome ∧
      run.1.result = some (.ok ()) := by
  intro run
  obtain ⟨heffects, reader, hlast⟩ :=
    run_eq_experience debugger settings (fresh (fun _ => none) traffic state) arrivals ending
  rw [heffects, hlast, ← Arrival.bodies_moments]
  exact experience_eq_play debugger settings (fresh (fun _ => none) traffic state) (fun _ => rfl)
    rfl rfl (Arrival.moments ending .start arrivals)

/-- A session without a log numbers the messages of its script from the beginning. -/
theorem run_eq_numbered :
    (run debugger settings (fresh (fun _ => none) .disabled state) arrivals ending).2 =
      Intent.numbered 0
        (debugger.script settings state (Arrival.moments ending .start arrivals)) := by
  obtain ⟨heffects, -⟩ := run_eq_play debugger settings .disabled state arrivals ending
  rw [heffects]
  exact Channel.play_of_disabled (fun _ => rfl) rfl rfl rfl _

end Session

end DebugAdapter
