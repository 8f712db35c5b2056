import DebugAdapter.Record.Breakpoint
import DebugAdapter.Record.Capabilities

/-!
# Events

What the debugger, or the adapter itself, tells the client without being asked.
-/

namespace DebugAdapter

/-- Why the program stopped. -/
inductive StopReason where
  | step
  | breakpoint
  | exception
  | pause
  | entry
  deriving DecidableEq, Repr

/-- The word for a reason. -/
def StopReason.name : StopReason → String
  | .step => "step"
  | .breakpoint => "breakpoint"
  | .exception => "exception"
  | .pause => "pause"
  | .entry => "entry"

/-- What happened to a thread. -/
inductive ThreadReason where
  | started
  | exited
  deriving DecidableEq, Repr

/-- The word for what happened to a thread. -/
def ThreadReason.name : ThreadReason → String
  | .started => "started"
  | .exited => "exited"

/-- What happened to a module or a breakpoint. -/
inductive ChangeReason where
  | new
  | changed
  | removed
  deriving DecidableEq, Repr

/-- The word for a change. -/
def ChangeReason.name : ChangeReason → String
  | .new => "new"
  | .changed => "changed"
  | .removed => "removed"

/-- Whether the symbols of a module are known. -/
inductive SymbolStatus where
  | skipped
  | loaded
  | notFound
  deriving DecidableEq, Repr

/-- The sentence about a module's symbols. -/
def SymbolStatus.sentence : SymbolStatus → String
  | .skipped => "Skipped loading symbols."
  | .loaded => "Symbols loaded."
  | .notFound => "Symbols not found."

/-- A module of the program. -/
structure Module where
  id : String
  name : String
  path : String
  symbolStatus : SymbolStatus
  deriving DecidableEq, Repr

/-- A module in a message. -/
def Module.toJson (m : Module) : Json :=
  .ofFields [
    ("id", .string m.id),
    ("name", .string m.name),
    ("path", .string m.path),
    ("symbolStatus", .string m.symbolStatus.sentence)]

/-- What kind of output a text is. -/
inductive OutputCategory where
  | console
  | important
  | stdout
  | stderr
  | telemetry
  /-- A kind of the debugger's own. -/
  | custom (name : String)
  deriving DecidableEq, Repr

/-- The word for a kind of output. -/
def OutputCategory.name : OutputCategory → String
  | .console => "console"
  | .important => "important"
  | .stdout => "stdout"
  | .stderr => "stderr"
  | .telemetry => "telemetry"
  | .custom name => name

/-- Something that the client is told without asking. -/
inductive Event where
  /-- The program runs on; without a thread, all of it does. -/
  | continued (threadId : Option Int64)
  /-- The program stopped on a thread. -/
  | stopped (reason : StopReason) (threadId : Int64) (description text : String)
      (allThreadsStopped : Bool)
  /-- The program ended with an exit code. -/
  | exited (exitCode : Int64)
  /-- Debugging ended. -/
  | terminated
  /-- A thread began or ended. -/
  | thread (reason : ThreadReason) (threadId : Int64)
  /-- A module came, changed or went. -/
  | module (reason : ChangeReason) (module : Module)
  /-- There is output to show. -/
  | output (category : OutputCategory) (text : String)
  /-- A breakpoint came, changed or went. -/
  | breakpoint (reason : ChangeReason) (breakpoint : Breakpoint)
  /-- The adapter is ready for breakpoints. -/
  | initialized
  /-- What the adapter can do. -/
  | capabilities (capabilities : Capabilities)

namespace Event

/-- The name of an event. -/
def name : Event → String
  | continued _ => "continued"
  | stopped .. => "stopped"
  | exited _ => "exited"
  | terminated => "terminated"
  | thread .. => "thread"
  | module .. => "module"
  | output .. => "output"
  | breakpoint .. => "breakpoint"
  | initialized => "initialized"
  | capabilities _ => "capabilities"

/-- The body of an event. An output event lists all its fields, those without a
value as null. -/
def body : Event → Json
  | continued threadId =>
    .ofSome [("threadId", threadId.map .ofInt64), ("allThreadsContinued", some (.bool true))]
  | stopped reason threadId description text allThreadsStopped =>
    .ofFields [
      ("reason", .string reason.name),
      ("description", .string description),
      ("threadId", .ofInt64 threadId),
      ("text", .string text),
      ("allThreadsStopped", .bool allThreadsStopped)]
  | exited exitCode => .ofFields [("exitCode", .ofInt64 exitCode)]
  | terminated => .ofFields []
  | thread reason threadId =>
    .ofFields [("reason", .string reason.name), ("threadId", .ofInt64 threadId)]
  | module reason m => .ofFields [("reason", .string reason.name), ("module", m.toJson)]
  | output category text =>
    .ofFields [
      ("category", .string category.name),
      ("output", .string text),
      ("group", .null),
      ("variablesReference", .null),
      ("source", .null),
      ("line", .null),
      ("column", .null),
      ("data", .null)]
  | breakpoint reason b => .ofFields [("reason", .string reason.name), ("breakpoint", b.toJson)]
  | initialized => .ofFields []
  | capabilities c => .ofFields [("capabilities", c.toJson)]

end Event

end DebugAdapter
