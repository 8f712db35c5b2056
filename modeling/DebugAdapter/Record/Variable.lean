import DebugAdapter.Record.Source

/-!
# Scopes and variables

What the debugger reports about the variables of a frame. A variable with parts has a reference by
which the client asks for them.
-/

namespace DebugAdapter

/-- A group of variables of a frame. -/
structure Scope where
  name : String
  presentationHint : Option String := none
  variablesReference : Int64
  namedVariables : Option Int64 := none
  indexedVariables : Option Int64 := none
  expensive : Bool := false
  source : Option Source := none
  line : Option Int64 := none
  column : Option Int64 := none
  endLine : Option Int64 := none
  endColumn : Option Int64 := none

/-- A scope in a message. -/
def Scope.toJson (s : Scope) : Json :=
  .ofSome [
    ("name", some (.string s.name)),
    ("presentationHint", s.presentationHint.map .string),
    ("variablesReference", some (.ofInt64 s.variablesReference)),
    ("namedVariables", s.namedVariables.map .ofInt64),
    ("indexedVariables", s.indexedVariables.map .ofInt64),
    ("expensive", some (.bool s.expensive)),
    ("source", s.source.map Source.toJson),
    ("line", s.line.map .ofInt64),
    ("column", s.column.map .ofInt64),
    ("endLine", s.endLine.map .ofInt64),
    ("endColumn", s.endColumn.map .ofInt64)]

/-- How a variable is shown. -/
structure VariableHint where
  kind : Option String := none
  attributes : Option (List String) := none
  visibility : Option String := none
  isLazy : Option Bool := none
  deriving DecidableEq, Repr

/-- A hint in a message. -/
def VariableHint.toJson (h : VariableHint) : Json :=
  .ofSome [
    ("kind", h.kind.map .string),
    ("attributes", h.attributes.map .ofStrings),
    ("visibility", h.visibility.map .string),
    ("lazy", h.isLazy.map .bool)]

/-- A variable or the value of an expression. -/
structure Variable where
  name : String
  value : String
  type : Option String := none
  presentationHint : Option VariableHint := none
  evaluateName : Option String := none
  variablesReference : Int64
  namedVariables : Option Int64 := none
  indexedVariables : Option Int64 := none
  memoryReference : Option String := none
  deriving DecidableEq, Repr

/-- A variable in a message. -/
def Variable.toJson (v : Variable) : Json :=
  .ofSome [
    ("name", some (.string v.name)),
    ("value", some (.string v.value)),
    ("type", v.type.map .string),
    ("presentationHint", v.presentationHint.map VariableHint.toJson),
    ("evaluateName", v.evaluateName.map .string),
    ("variablesReference", some (.ofInt64 v.variablesReference)),
    ("namedVariables", v.namedVariables.map .ofInt64),
    ("indexedVariables", v.indexedVariables.map .ofInt64),
    ("memoryReference", v.memoryReference.map .string)]

end DebugAdapter
