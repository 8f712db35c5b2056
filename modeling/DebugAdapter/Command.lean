import DebugAdapter.Arguments
import DebugAdapter.Debugger
import DebugAdapter.Text.Blank

/-!
# Commands

A command with its arguments is either refused or comes to one operation of the debugger. All
arguments are looked at before that, so a command that is refused has done nothing.
-/

namespace DebugAdapter

/-- Something that the client can ask for. -/
inductive Command where
  | initialise
  | setExceptionBreakpoints
  | configurationDone
  | exceptionInfo
  | setBreakpoints
  | launch
  | threads
  | disconnect
  | stackTrace
  | continue
  | pause
  | next
  | stepIn
  | stepOut
  | scopes
  | listVariables
  | evaluate
  | attach
  | setVariable
  | setFunctionBreakpoints
  deriving DecidableEq, Repr

/-- A program that runs in place of the one the client asks for. -/
structure ExecOverride where
  program : String
  args : List String := []
  deriving DecidableEq, Repr

/-- What the adapter's user decides about programs to launch: a program in place
of the client's, or one that runs the client's program as its first argument. -/
structure LaunchSettings where
  execOverride : Option ExecOverride := none
  launcher : Option String := none
  deriving DecidableEq, Repr

/-- An operation of the debugger on behalf of a command, the events to raise
before it, the body that follows from what it ends with, and whether the session
is over behind it. -/
structure Action where
  operation : Operation
  announces : List Event := []
  body : operation.Outcome → Except Failure Json
  leaves : Bool := false

namespace Command

/-- The name of a command in requests. -/
def name : Command → String
  | initialise => "initialize"
  | setExceptionBreakpoints => "setExceptionBreakpoints"
  | configurationDone => "configurationDone"
  | exceptionInfo => "exceptionInfo"
  | setBreakpoints => "setBreakpoints"
  | launch => "launch"
  | threads => "threads"
  | disconnect => "disconnect"
  | stackTrace => "stackTrace"
  | .continue => "continue"
  | pause => "pause"
  | next => "next"
  | stepIn => "stepIn"
  | stepOut => "stepOut"
  | scopes => "scopes"
  | listVariables => "variables"
  | evaluate => "evaluate"
  | attach => "attach"
  | setVariable => "setVariable"
  | setFunctionBreakpoints => "setFunctionBreakpoints"

/-- All commands. -/
def all : List Command :=
  [initialise, setExceptionBreakpoints, configurationDone, exceptionInfo, setBreakpoints, launch,
    threads, disconnect, stackTrace, .continue, pause, next, stepIn, stepOut, scopes,
    listVariables, evaluate, attach, setVariable, setFunctionBreakpoints]

/-- The command of a name. -/
def ofName? (name : String) : Option Command :=
  all.find? (·.name = name)

/-- Whether there is a command of a name. -/
def supports (name : String) : Bool :=
  (ofName? name).isSome

/-! ## What the commands come to -/

/-- A body without fields. -/
def emptyBody : Json :=
  .ofFields []

/-- The body of an operation that yields nothing. -/
def done (outcome : Except Failure Unit) : Except Failure Json :=
  outcome.map fun () => emptyBody

/-- The scope of all exception breakpoints. -/
def everywhere : String := "*"

/-- The body for an exception, if its break mode has a word. -/
def exceptionBody (info : ExceptionInfo) : Except Failure Json :=
  match info.breakMode.keyword? with
  | none =>
    .error (.generic ("Unrecognized exception break mode " ++
      hexadecimal 2 info.breakMode.bits.toNat))
  | some keyword =>
    .ok (.ofFields [
      ("breakMode", .string keyword),
      ("exceptionId", .string info.exceptionId),
      ("description", .string info.description),
      ("details", info.details.toJson)])

/-- The exception of a thread. A debugger that fails to tell is reported without
the class of its failure. -/
def exceptionAction (args : Arguments) : Except ArgumentError Action := do
  let threadId ← args.int64 "threadId"
  pure {
    operation := .exceptionInfo threadId
    body := fun outcome => do
      exceptionBody (← outcome.mapError fun failure => ⟨.genericFailure, failure.message⟩) }

/-- One entry of the breakpoints of a source. -/
def sourceBreakpoint (entry : Json) : Except ArgumentError SourceBreakpoint := do
  let entry : Arguments := ⟨entry⟩
  let line ← entry.int64 "line"
  let condition ← entry.stringD "condition" ""
  pure { line, condition }

/-- One entry of the breakpoints on functions. -/
def functionBreakpoint (entry : Json) : Except ArgumentError FunctionBreakpoint := do
  let entry : Arguments := ⟨entry⟩
  let name ← entry.string "name"
  let condition ← entry.stringD "condition" ""
  pure { FunctionBreakpoint.ofName name with condition }

/-- The body that lists breakpoints. -/
def breakpointsBody (breakpoints : List Breakpoint) : Json :=
  .ofFields [("breakpoints", .array (breakpoints.map Breakpoint.toJson))]

/-- The breakpoints of a source, all of them or none. -/
def breakpointsAction (args : Arguments) : Except ArgumentError Action := do
  let path ← (← args.object "source").string "path"
  let requested ← (← args.array "breakpoints").mapM sourceBreakpoint
  pure {
    operation := .setBreakpoints path requested
    body := fun outcome => outcome.map breakpointsBody }

/-- The breakpoints on functions, all of them or none. -/
def functionBreakpointsAction (args : Arguments) : Except ArgumentError Action := do
  let requested ← (← args.array "breakpoints").mapM functionBreakpoint
  pure {
    operation := .setFunctionBreakpoints requested
    body := fun outcome => outcome.map breakpointsBody }

/-- A field of an environment. -/
def environmentField : String × Json → Option (String × String)
  | (name, .string value) => some (name, value)
  | _ => none

/-- The environment of a program. What is not an object of strings is no
environment at all. -/
def environment : Option Json → List (String × String)
  | some (.object fields) => (fields.mapM environmentField).getD []
  | _ => []

/-- The program to start and its arguments. -/
def programAndArguments (settings : LaunchSettings) (args : Arguments) :
    Except ArgumentError (String × List String) :=
  match settings.execOverride with
  | some exec => .ok (exec.program, exec.args)
  | none => do
    let program ← args.string "program"
    let others ← args.stringsOrEmpty "args"
    pure (settings.launcher.getD program, program :: others)

/-- The start of a program. -/
def launchAction (settings : LaunchSettings) (args : Arguments) : Except ArgumentError Action := do
  let workingDirectory ← args.string "cwd"
  let environment := environment (args.get? "env")
  let stopAtEntry := (← args.bool? "stopAtEntry").getD false
  let (executable, arguments) ← programAndArguments settings args
  pure {
    operation := .launch { executable, arguments, environment, workingDirectory, stopAtEntry }
    body := done }

/-- The number of a process, as a number or as a text. -/
def processId (args : Arguments) : Except ArgumentError Int64 :=
  match args.get? "processId" with
  | none => .error (.missing "processId")
  | some (.string text) =>
    match WholeNumber.signed (trimBlank text.toList) with
    | .ok n => .ok (Int64.ofInt n)
    | .error fault => .error (.processText text fault)
  | some (.int n) =>
    match (Json.int n).asInt64? with
    | some id => .ok id
    | none => .error (.processNumber (.int n))
  | some (.double x) => .error (.processNumber (.double x))
  | some other => .error (.processKind other)

/-- The end of the session. The client may say what becomes of the program. -/
def disconnectAction (args : Arguments) : Except ArgumentError Action := do
  let action := match ← args.bool? "terminateDebuggee" with
    | none => .default
    | some true => .terminate
    | some false => .detach
  pure {
    operation := .disconnect action
    body := fun () => .ok emptyBody
    leaves := true }

/-- A step of a thread. -/
def stepAction (kind : StepKind) (args : Arguments) : Except ArgumentError Action := do
  let threadId ← args.int64 "threadId"
  pure { operation := .step threadId kind, body := done }

/-- A stretch of a thread's stack. -/
def stackTraceAction (args : Arguments) : Except ArgumentError Action := do
  let threadId ← args.int64 "threadId"
  let startFrame ← args.int64D "startFrame" 0
  let levels ← args.int64D "levels" 0
  pure {
    operation := .stackTrace threadId startFrame levels
    body := fun outcome => outcome.map fun trace => .ofFields [
      ("stackFrames", .array (trace.frames.map StackFrame.toJson)),
      ("totalFrames", .ofInt64 trace.totalFrames)] }

/-- The parts of a variable that a filter word asks for. -/
def variablesFilter (word : String) : VariablesFilter :=
  if word = "named" then .named else if word = "indexed" then .indexed else .both

/-- The parts of a variable. -/
def variablesAction (args : Arguments) : Except ArgumentError Action := do
  let reference ← args.int64 "variablesReference"
  let filter := variablesFilter (← args.stringD "filter" "")
  let start ← args.int64D "start" 0
  let count ← args.int64D "count" 0
  pure {
    operation := .listVariables reference filter start count
    body := fun outcome => outcome.map fun vars =>
      .ofFields [("variables", .array (vars.map Variable.toJson))] }

/-- The body for the value of an expression. How many named parts it has is said
only of a value with parts. -/
def valueBody (v : Variable) : Json :=
  .ofFields ([
    ("result", .string v.value),
    ("type", (v.type.map .string).getD .null),
    ("variablesReference", .ofInt64 v.variablesReference)] ++
    if 0 < v.variablesReference then
      [("namedVariables", (v.namedVariables.map .ofInt64).getD .null)]
    else [])

/-- The value of an expression in a frame; `currentFrame` is the frame if the
client names none. -/
def evaluateAction (currentFrame : Int64) (args : Arguments) : Except ArgumentError Action := do
  let expression ← args.string "expression"
  let frameId ← args.int64D "frameId" currentFrame
  pure {
    operation := .evaluate frameId expression
    body := fun outcome => outcome.map valueBody }

/-- What a command comes to, given the user's settings and the frame in which
expressions are evaluated by default. -/
def action (settings : LaunchSettings) (currentFrame : Int64) (args : Arguments) :
    Command → Except ArgumentError Action
  | initialise =>
    pure {
      operation := .prepare
      announces := [.capabilities .offered]
      body := fun outcome => outcome.map fun () => Capabilities.offered.toJson }
  | setExceptionBreakpoints => do
    let filters ← args.stringsOrEmpty "filters"
    pure {
      operation := .insertExceptionBreakpoint (.ofFilters filters) everywhere
      body := fun outcome => outcome.map fun () =>
        .ofFields [("supportsExceptionOptions", .bool false)] }
  | configurationDone => pure { operation := .finishConfiguration, body := done }
  | exceptionInfo => exceptionAction args
  | setBreakpoints => breakpointsAction args
  | launch => launchAction settings args
  | threads =>
    pure {
      operation := .threads
      body := fun outcome => outcome.map fun threads =>
        .ofFields [("threads", .array (threads.map Thread.toJson))] }
  | disconnect => disconnectAction args
  | stackTrace => stackTraceAction args
  | .continue => do
    let threadId ← args.int64 "threadId"
    pure {
      operation := .resume threadId
      body := fun outcome => outcome.map fun () =>
        .ofFields [("allThreadsContinued", .bool true), ("threadId", .ofInt64 threadId)] }
  | pause => pure { operation := .pause, body := done }
  | next => stepAction .over args
  | stepIn => stepAction .into args
  | stepOut => stepAction .out args
  | scopes => do
    let frameId ← args.int64 "frameId"
    pure {
      operation := .scopes frameId
      body := fun outcome => outcome.map fun scopes =>
        .ofFields [("scopes", .array (scopes.map Scope.toJson))] }
  | listVariables => variablesAction args
  | evaluate => evaluateAction currentFrame args
  | attach => do
    let id ← processId args
    pure { operation := .attach id, body := done }
  | setVariable => do
    let name ← args.string "name"
    let value ← args.string "value"
    let reference ← args.int64 "variablesReference"
    pure {
      operation := .setVariable name value reference
      body := fun outcome => outcome.map fun value => .ofFields [("value", .string value)] }
  | setFunctionBreakpoints => functionBreakpointsAction args

end Command

end DebugAdapter
