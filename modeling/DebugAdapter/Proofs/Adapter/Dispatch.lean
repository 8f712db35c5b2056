import DebugAdapter.Proofs.Adapter.Reaction

/-!
# Commands and their operations

A command is either refused, and then nothing has happened, or it comes to one operation, which is
the command's own, and reports what the operation ends with.
-/

namespace DebugAdapter

namespace Operation

/-- The command that an operation is performed for. -/
def command : Operation → Command
  | prepare => .initialise
  | insertExceptionBreakpoint .. => .setExceptionBreakpoints
  | finishConfiguration => .configurationDone
  | exceptionInfo _ => .exceptionInfo
  | setBreakpoints .. => .setBreakpoints
  | setFunctionBreakpoints _ => .setFunctionBreakpoints
  | launch _ => .launch
  | attach _ => .attach
  | threads => .threads
  | disconnect _ => .disconnect
  | stackTrace .. => .stackTrace
  | resume _ => .continue
  | pause => .pause
  | step _ .over => .next
  | step _ .into => .stepIn
  | step _ .out => .stepOut
  | scopes _ => .scopes
  | listVariables .. => .listVariables
  | evaluate .. => .evaluate
  | setVariable .. => .setVariable

/-- What an operation ends with, as a success or a failure. To disconnect never fails. -/
def result : (operation : Operation) → operation.Outcome → Except Failure operation.Reply
  | disconnect _, _ => .ok ()
  | prepare, outcome
  | insertExceptionBreakpoint .., outcome
  | finishConfiguration, outcome
  | exceptionInfo _, outcome
  | setBreakpoints .., outcome
  | setFunctionBreakpoints _, outcome
  | launch _, outcome
  | attach _, outcome
  | threads, outcome
  | stackTrace .., outcome
  | resume _, outcome
  | pause, outcome
  | step .., outcome
  | scopes _, outcome
  | listVariables .., outcome
  | evaluate .., outcome
  | setVariable .., outcome => outcome

/-- What an operation ends with if it fails, where it can fail. -/
def fail (failure : Failure) : (operation : Operation) → operation.Outcome
  | disconnect _ => ()
  | prepare
  | insertExceptionBreakpoint ..
  | finishConfiguration
  | exceptionInfo _
  | setBreakpoints ..
  | setFunctionBreakpoints _
  | launch _
  | attach _
  | threads
  | stackTrace ..
  | resume _
  | pause
  | step ..
  | scopes _
  | listVariables ..
  | evaluate ..
  | setVariable .. => .error failure

/-- The mode in which the debugger stops on exceptions, if a reply tells it. -/
def breakMode? : (operation : Operation) → operation.Reply → Option BreakMode
  | exceptionInfo _, info => some info.breakMode
  | _, _ => none

/-- What the client is told of a failure. -/
def reported (failure : Failure) : Operation → Failure
  | exceptionInfo _ => ⟨.genericFailure, failure.message⟩
  | _ => failure

/-- Whether a result tells the client what an operation ends with. -/
structure Reports (operation : Operation) (outcome : operation.Outcome)
    (told : Except Failure Json) : Prop where
  /-- A failure is passed on. -/
  failed : ∀ failure, operation.result outcome = .error failure →
    told = .error (operation.reported failure)
  /-- A success is a body, unless it has to tell a mode for which there is no word. -/
  succeeded : ∀ reply, operation.result outcome = .ok reply →
    ((∃ body, told = .ok body) ↔
      ∀ mode, operation.breakMode? reply = some mode → mode.keyword?.isSome)

/-- Nothing is hard to tell but a mode. -/
theorem Reports.map {operation : Operation} (h : operation.command ≠ .exceptionInfo)
    (outcome : operation.Outcome) (f : operation.Reply → Json) :
    operation.Reports outcome ((operation.result outcome).map f) := by
  have hmode (reply : operation.Reply) : operation.breakMode? reply = none := by
    cases operation with
    | exceptionInfo _ => exact absurd rfl h
    | _ => rfl
  have hreported (failure : Failure) : operation.reported failure = failure := by
    cases operation with
    | exceptionInfo _ => exact absurd rfl h
    | _ => rfl
  refine ⟨fun failure hfailure => ?_, fun reply hreply => ?_⟩
  · rw [hfailure, hreported]
    rfl
  · simp [hreply, hmode, Except.map]

end Operation

/-- A debugger that is able to do nothing. -/
def Debugger.unable (failure : Failure) : Debugger Unit where
  perform _ operation := { events := [], outcome := operation.fail failure, state := () }
  lastStopped _ := 0

/-! ## What the commands come to -/

section Gives

variable {ε α β : Type} {P : β → Prop}

/-- Whatever a computation gives satisfies `P`. -/
def Gives (P : β → Prop) (result : Except ε β) : Prop :=
  ∀ b, result = .ok b → P b

theorem Gives.pure {b : β} (h : P b) : Gives P (pure b : Except ε β) := by
  rintro b' ⟨⟩
  exact h

theorem Gives.bind {x : Except ε α} {f : α → Except ε β} (h : ∀ a, Gives P (f a)) :
    Gives P (x >>= f) := by
  intro b hb
  cases x with
  | error e => cases hb
  | ok a => exact h a b hb

end Gives

/-- An action that performs the operation of a command and reports what it ends with. The
session is over behind one command only. -/
structure Action.Faithful (command : Command) (action : Action) : Prop where
  operation : action.operation.command = command
  leaves : action.leaves = decide (command = .disconnect)
  reports : ∀ outcome, action.operation.Reports outcome (action.body outcome)

namespace Command

theorem ofName?_eq_some {name : String} {command : Command} :
    ofName? name = some command ↔ command.name = name := by
  constructor
  · intro h
    simpa using List.find?_some h
  · rintro rfl
    cases command <;> decide

/-- What an operation ends with is easily told, except for the one on exceptions. -/
theorem faithful_map {command : Command} {action : Action}
    (hcommand : action.operation.command = command) (hplain : command ≠ .exceptionInfo)
    (hleaves : action.leaves = decide (command = .disconnect))
    (f : action.operation.Reply → Json)
    (hbody : ∀ outcome, action.body outcome = (action.operation.result outcome).map f) :
    action.Faithful command := by
  refine ⟨hcommand, hleaves, fun outcome => ?_⟩
  rw [hbody]
  exact .map (by rwa [hcommand]) outcome f

theorem reports_exceptionBody (threadId : Int64)
    (outcome : (Operation.exceptionInfo threadId).Outcome) :
    Operation.Reports (.exceptionInfo threadId) outcome (do
      exceptionBody (← outcome.mapError fun failure => ⟨.genericFailure, failure.message⟩)) := by
  cases outcome with
  | error failure =>
    refine ⟨fun told htold => ?_, nofun⟩
    cases htold
    rfl
  | ok info =>
    have hbody : (∃ body, exceptionBody info = .ok body) ↔ info.breakMode.keyword?.isSome := by
      rw [exceptionBody]
      cases info.breakMode.keyword? <;> simp
    refine ⟨nofun, fun reply hreply => hbody.trans ?_⟩
    cases hreply
    exact ⟨fun hword mode hmode => Option.some.inj hmode ▸ hword, fun hwords => hwords _ rfl⟩

example : BreakMode.keyword? ⟨8⟩ = none := by decide

theorem action_faithful (settings : LaunchSettings) (currentFrame : Int64) (args : Arguments)
    (command : Command) :
    Gives (Action.Faithful command) (command.action settings currentFrame args) := by
  -- as many binds as the command has arguments, and the action behind them
  cases command with
  | initialise | configurationDone | threads | pause =>
    exact .pure (faithful_map rfl (by decide) rfl _ fun _ => rfl)
  | setExceptionBreakpoints | «continue» | scopes | attach | next | stepIn | stepOut =>
    exact .bind fun _ => .pure (faithful_map rfl (by decide) rfl _ fun _ => rfl)
  | disconnect =>
    exact .bind fun _ => .pure (faithful_map rfl (by decide) rfl (fun _ => emptyBody) fun _ => rfl)
  | exceptionInfo => exact .bind fun threadId => .pure ⟨rfl, rfl, reports_exceptionBody threadId⟩
  | setFunctionBreakpoints | evaluate =>
    exact .bind fun _ => .bind fun _ => .pure (faithful_map rfl (by decide) rfl _ fun _ => rfl)
  | setVariable | stackTrace =>
    exact .bind fun _ => .bind fun _ => .bind fun _ =>
      .pure (faithful_map rfl (by decide) rfl _ fun _ => rfl)
  | setBreakpoints | listVariables =>
    exact .bind fun _ => .bind fun _ => .bind fun _ => .bind fun _ =>
      .pure (faithful_map rfl (by decide) rfl _ fun _ => rfl)
  | launch =>
    exact .bind fun _ => .bind fun _ => .bind fun (_, _) =>
      .pure (faithful_map rfl (by decide) rfl _ fun _ => rfl)

end Command

/-! ## Requests carried out -/

variable {σ : Type} (debugger : Debugger σ) (settings : LaunchSettings)

/-- The reaction to a command that is refused, and to one that is carried out. -/
theorem Debugger.react_cases (state : σ) (command : String) (arguments : Json) :
    (∃ failure, debugger.react settings state command arguments =
        { state, result := .error failure } ∧
      if Command.supports command then ∃ message, failure = .invalidArgument message
      else failure = .notImplemented) ∨
    ∃ operation, operation.command.name = command ∧
      (debugger.react settings state command arguments).call = some operation ∧
      (debugger.react settings state command arguments).state =
        (debugger.perform state operation).state ∧
      (debugger.react settings state command arguments).leaves =
        decide (command = "disconnect") ∧
      operation.Reports (debugger.perform state operation).outcome
        (debugger.react settings state command arguments).result := by
  cases hname : Command.ofName? command with
  | none => exact .inl ⟨.notImplemented, by simp [react, hname], by simp [Command.supports, hname]⟩
  | some known =>
    cases haction : known.action settings (debugger.currentFrame state) ⟨arguments⟩ with
    | error error =>
      refine .inl ⟨error.toFailure, by simp [react, hname, haction], ?_⟩
      rw [Command.supports, hname, Option.isSome_some, if_pos rfl]
      exact ⟨error.message, rfl⟩
    | ok action =>
      obtain ⟨hoperation, hleaves, hreports⟩ :=
        Command.action_faithful settings _ _ known action haction
      have hknown : known.name = command := Command.ofName?_eq_some.1 hname
      have hdisconnect : known = .disconnect ↔ command = "disconnect" := by
        rw [← hknown]
        cases known <;> decide
      refine .inr ⟨action.operation, by rw [hoperation, hknown], ?_⟩
      simp only [react, hname, haction, hleaves, hdisconnect, true_and]
      exact hreports _

namespace Adapter

open Effect

/-- Whatever the client asks for by whatever name and with whatever arguments, the adapter asks
the debugger for at most one operation. If it asks for none, the command does not exist or its
arguments are not acceptable, the client is told so, and nothing else has happened. If it asks for
one, this is the command's own, the client is told what it ends with, and the adapter knows that
the client has left if and only if that is what the command was for. None of this depends on
the channel: frames may be refused or not. -/
theorem acts_at_most_once (adapter : Adapter σ) (command : String) (arguments : Json) :
    let dispatched := adapter.dispatch debugger settings command arguments
    ((∃ failure, dispatched = (adapter, [], .error failure) ∧
        if Command.supports command then ∃ message, failure = .invalidArgument message
        else failure = .notImplemented) ∨
      ∃ operation, operations dispatched.2.1 = [operation] ∧
        operation.command.name = command ∧
        operation.Reports (debugger.perform adapter.debugger operation).outcome dispatched.2.2 ∧
        dispatched.1.debugger = (debugger.perform adapter.debugger operation).state ∧
        dispatched.1.exiting = (adapter.exiting || decide (command = "disconnect"))) ∧
    ∀ channel : Channel,
      let other :=
        ({ adapter with channel } : Adapter σ).dispatch debugger settings command arguments
      other.2.2 = dispatched.2.2 ∧ operations other.2.1 = operations dispatched.2.1 ∧
        other.1.debugger = dispatched.1.debugger ∧ other.1.exiting = dispatched.1.exiting := by
  intro dispatched
  refine ⟨?_, fun channel => ?_⟩
  · simp only [dispatched, dispatch_eq]
    rcases debugger.react_cases settings adapter.debugger command arguments with
      ⟨failure, hreact, hfailure⟩ | ⟨operation, hname, hcall, hstate, hleaves, hreports⟩
    · exact .inl ⟨failure, by rw [hreact, carry_result], hfailure⟩
    · refine .inr ⟨operation, ?_, hname, hreports, hstate, ?_⟩
      · rw [operations_carry, hcall]
        rfl
      · rw [carry_exiting, hleaves]
  · simp [dispatched, dispatch_eq]

end Adapter

end DebugAdapter
