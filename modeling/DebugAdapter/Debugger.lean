import DebugAdapter.Event
import DebugAdapter.Failure
import DebugAdapter.FunctionBreakpoint
import DebugAdapter.Record.ExceptionInfo
import DebugAdapter.Record.StackFrame
import DebugAdapter.Record.Variable

/-!
# Debuggers

What the adapter asks of the debugger behind it. A debugger is a state and a function that performs
an operation on it.
-/

namespace DebugAdapter

/-- A program to start under the debugger. -/
structure LaunchRequest where
  executable : String
  arguments : List String
  environment : List (String × String)
  workingDirectory : String
  stopAtEntry : Bool
  deriving DecidableEq, Repr

/-- What becomes of the program when the client leaves. -/
inductive DisconnectAction where
  | default
  | terminate
  | detach
  deriving DecidableEq, Repr

/-- How far a step goes. -/
inductive StepKind where
  | over
  | into
  | out
  deriving DecidableEq, Repr

/-- Which parts of a variable are wanted. -/
inductive VariablesFilter where
  | named
  | indexed
  | both
  deriving DecidableEq, Repr

/-- Something that the debugger is asked to do. -/
inductive Operation where
  | prepare
  | insertExceptionBreakpoint (mode : BreakMode) (scope : String)
  | finishConfiguration
  | exceptionInfo (threadId : Int64)
  | setBreakpoints (path : String) (breakpoints : List SourceBreakpoint)
  | setFunctionBreakpoints (breakpoints : List FunctionBreakpoint)
  | launch (request : LaunchRequest)
  | attach (processId : Int64)
  | threads
  | disconnect (action : DisconnectAction)
  | stackTrace (threadId startFrame levels : Int64)
  | resume (threadId : Int64)
  | pause
  | step (threadId : Int64) (kind : StepKind)
  | scopes (frameId : Int64)
  | listVariables (reference : Int64) (filter : VariablesFilter) (start count : Int64)
  | evaluate (frameId : Int64) (expression : String)
  | setVariable (name value : String) (reference : Int64)
  deriving DecidableEq, Repr

/-- What an operation yields when it succeeds. -/
abbrev Operation.Reply : Operation → Type
  | .exceptionInfo _ => ExceptionInfo
  | .setBreakpoints .. => List Breakpoint
  | .setFunctionBreakpoints _ => List Breakpoint
  | .threads => List Thread
  | .stackTrace .. => StackTrace
  | .scopes _ => List Scope
  | .listVariables .. => List Variable
  | .evaluate .. => Variable
  | .setVariable .. => String
  | _ => Unit

/-- What an operation ends with. Every operation but one may fail. -/
abbrev Operation.Outcome : Operation → Type
  | .disconnect _ => Unit
  | operation => Except Failure operation.Reply

/-- An operation performed: the events that the debugger raised before it ended,
what it ended with, and the state of the debugger behind it. -/
structure Performed (σ : Type) (operation : Operation) where
  events : List Event
  outcome : operation.Outcome
  state : σ

/-- A debugger with states of type `σ`. -/
structure Debugger (σ : Type) where
  /-- Performs an operation. -/
  perform : σ → (operation : Operation) → Performed σ operation
  /-- The thread that stopped last. -/
  lastStopped : σ → Int64
  /-- The number of the frame at a level of a thread's stack. -/
  frameId : σ → (threadId level : Int64) → Int64 := fun _ => StackFrame.defaultId

/-- The number of the topmost frame of the thread that stopped last. -/
def Debugger.currentFrame {σ : Type} (debugger : Debugger σ) (state : σ) : Int64 :=
  debugger.frameId state (debugger.lastStopped state) 0

end DebugAdapter
