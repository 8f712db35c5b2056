import DebugAdapter.Record.Source

/-!
# Breakpoints

Breakpoints as the client asks for them in a source, and as the debugger reports them.
-/

namespace DebugAdapter

/-- A breakpoint asked for at a line of a source. -/
structure SourceBreakpoint where
  line : Int64
  condition : String
  deriving DecidableEq, Repr

/-- A breakpoint as the debugger reports it. -/
structure Breakpoint where
  id : Option Int64 := none
  verified : Bool := false
  message : Option String := none
  source : Option Source := none
  line : Option Int64 := none
  column : Option Int64 := none
  endLine : Option Int64 := none
  endColumn : Option Int64 := none
  instructionReference : Option String := none
  offset : Option Int64 := none

/-- A breakpoint in a message. -/
def Breakpoint.toJson (b : Breakpoint) : Json :=
  .ofSome [
    ("id", b.id.map .ofInt64),
    ("verified", some (.bool b.verified)),
    ("message", b.message.map .string),
    ("source", b.source.map Source.toJson),
    ("line", b.line.map .ofInt64),
    ("column", b.column.map .ofInt64),
    ("end_line", b.endLine.map .ofInt64),
    ("end_column", b.endColumn.map .ofInt64),
    ("instruction_reference", b.instructionReference.map .string),
    ("offset", b.offset.map .ofInt64)]

end DebugAdapter
