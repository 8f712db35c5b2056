import DebugAdapter.Record.Source

/-!
# Threads and stack frames

What the debugger reports about the threads of a program and their stacks.
-/

namespace DebugAdapter

/-- A thread of the program. -/
structure Thread where
  id : Int64
  name : String
  deriving DecidableEq, Repr

/-- A thread in a message. -/
def Thread.toJson (t : Thread) : Json :=
  .ofFields [("id", .ofInt64 t.id), ("name", .string t.name)]

/-- The module that a frame belongs to, by number or by name. -/
inductive ModuleId where
  | number (n : Int64)
  | name (s : String)
  deriving DecidableEq, Repr

/-- A module's identity in a message. -/
def ModuleId.toJson : ModuleId → Json
  | .number n => .ofInt64 n
  | .name s => .string s

/-- How a frame is shown. -/
inductive FrameHint where
  | normal
  | label
  | subtle
  deriving DecidableEq, Repr

/-- The name of a hint. -/
def FrameHint.name : FrameHint → String
  | .normal => "normal"
  | .label => "label"
  | .subtle => "subtle"

/-- A frame of a thread's stack. -/
structure StackFrame where
  id : Int64
  name : String
  source : Option Source := none
  line : Int64
  column : Int64
  endLine : Option Int64 := none
  endColumn : Option Int64 := none
  canRestart : Option Bool := none
  instructionPointerReference : Option String := none
  moduleId : Option ModuleId := none
  presentationHint : Option FrameHint := none

namespace StackFrame

/-- A frame in a message. -/
def toJson (f : StackFrame) : Json :=
  .ofSome [
    ("id", some (.ofInt64 f.id)),
    ("name", some (.string f.name)),
    ("source", f.source.map Source.toJson),
    ("line", some (.ofInt64 f.line)),
    ("column", some (.ofInt64 f.column)),
    ("endLine", f.endLine.map .ofInt64),
    ("endColumn", f.endColumn.map .ofInt64),
    ("canRestart", f.canRestart.map .bool),
    ("instructionPointerReference", f.instructionPointerReference.map .string),
    ("moduleId", f.moduleId.map ModuleId.toJson),
    ("presentationHint", f.presentationHint.map fun hint => .string hint.name)]

/-- The number of the frame at a level of a thread's stack: the thread in the
upper half of 64 bits and the level in the lower. -/
def defaultId (threadId level : Int64) : Int64 :=
  (threadId <<< 32) ||| (level &&& 0xFFFFFFFF)

end StackFrame

/-- A stretch of a stack and how many frames the whole has. -/
structure StackTrace where
  frames : List StackFrame
  totalFrames : Int64

end DebugAdapter
