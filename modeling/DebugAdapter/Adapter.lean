import DebugAdapter.Channel
import DebugAdapter.Command
import DebugAdapter.Request

/-!
# Adapters

An adapter stands between the client and a debugger and carries out one request at a time. All that
it does is reported as a list of effects, first effect first.
-/

namespace DebugAdapter

/-- The state of an adapter with a debugger whose states are of type `σ`: the
channel, the debugger and whether the client has asked to leave. -/
structure Adapter (σ : Type) where
  channel : Channel
  debugger : σ
  exiting : Bool := false

namespace Adapter

variable {σ : Type} (debugger : Debugger σ)

/-- An operation performed: the events that the debugger raises are passed on
before the operation ends, whether they arrive or not. -/
def perform (adapter : Adapter σ) (operation : Operation) :
    Adapter σ × List Effect × operation.Outcome :=
  let performed := debugger.perform adapter.debugger operation
  let (channel, raised) := adapter.channel.raiseAll performed.events
  ({ adapter with channel, debugger := performed.state }, .calls operation :: raised,
    performed.outcome)

/-- An action carried out: its events, its operation and the body that follows. -/
def carryOut (adapter : Adapter σ) (action : Action) :
    Adapter σ × List Effect × Except Failure Json :=
  let (channel, announced) := adapter.channel.raiseAll action.announces
  let (adapter, called, outcome) := perform debugger { adapter with channel } action.operation
  ({ adapter with exiting := adapter.exiting || action.leaves }, announced ++ called,
    action.body outcome)

/-- A command carried out by name, or refused. -/
def dispatch (settings : LaunchSettings) (adapter : Adapter σ) (command : String)
    (arguments : Json) : Adapter σ × List Effect × Except Failure Json :=
  match Command.ofName? command with
  | none => (adapter, [], .error .notImplemented)
  | some command =>
    match command.action settings (debugger.currentFrame adapter.debugger) ⟨arguments⟩ with
    | .error error => (adapter, [], .error error.toFailure)
    | .ok action => adapter.carryOut debugger action

/-- A message to the client. -/
def send (adapter : Adapter σ) (message : Message) :
    Adapter σ × List Effect × Except SessionError Nat :=
  let (channel, effects, result) := adapter.channel.send message
  ({ adapter with channel }, effects, result)

/-- An event to the client. -/
def raise (adapter : Adapter σ) (event : Event) :
    Adapter σ × List Effect × Except SessionError Nat :=
  adapter.send (.ofEvent event)

/-- The notice about a body that cannot be answered. -/
def droppedNotice (fault : RequestFault) : Event :=
  .output .console ("Dropped malformed request: " ++ fault.message ++ "\n")

/-- A body that is not a request is answered with a failure if its number can be
told, and with a notice otherwise. -/
def rejectionMessage (rejection : Rejection) : Message :=
  match rejection.seq with
  | some seq =>
    .ofResult seq (rejection.command.getD "")
      (.error (.invalidArgument rejection.fault.message))
  | none => .ofEvent (droppedNotice rejection.fault)

/-- A body carried out up to its reply, which is not sent yet. -/
def serve (settings : LaunchSettings) (adapter : Adapter σ) (body : Bytes) :
    Adapter σ × List Effect × Message :=
  match Request.decode body with
  | .ok request =>
    let (adapter, effects, result) :=
      adapter.dispatch debugger settings request.command request.arguments
    (adapter, effects, .ofResult request.seq request.command result)
  | .error rejection => (adapter, [], rejectionMessage rejection)

/-- A body taken up: it is noted, carried out and answered. The result is an
error if the answer cannot be sent. -/
def handle (settings : LaunchSettings) (adapter : Adapter σ) (body : Bytes) :
    Adapter σ × List Effect × Except SessionError Nat :=
  let (channel, noted) := adapter.channel.noteInbound (Utf8.decodeLossy body)
  let (adapter, served, reply) := serve debugger settings { adapter with channel } body
  let (adapter, sent, result) := adapter.send reply
  (adapter, .takes body :: (noted ++ served ++ sent), result)

end Adapter

end DebugAdapter
