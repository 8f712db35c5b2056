import DebugAdapter.Json.Basic
import DebugAdapter.BreakMode

/-!
# Exceptions

What the debugger reports about the exception that a thread stopped on. An exception may hold
several inner ones; the client gets the chain of the first ones.
-/

namespace DebugAdapter

/-- An exception with the exceptions inside it. -/
structure ExceptionDetails where
  message : String := ""
  typeName : String := ""
  fullTypeName : String := ""
  evaluateName : String := ""
  stackTrace : String := ""
  inner : List ExceptionDetails := []
  deriving Repr, Inhabited

namespace ExceptionDetails

/-- One exception in a message, with the array of its inner exceptions given. -/
def levelToJson (message typeName fullTypeName evaluateName stackTrace : String)
    (inner : List Json) : Json :=
  .ofFields [
    ("message", .string message),
    ("typeName", .string typeName),
    ("fullTypeName", .string fullTypeName),
    ("evaluateName", .string evaluateName),
    ("stackTrace", .string stackTrace),
    ("innerException", .array inner)]

/-- An exception in a message; of its inner exceptions only the first is kept, at
every level. -/
def toJson : ExceptionDetails → Json
  | ⟨message, typeName, fullTypeName, evaluateName, stackTrace, []⟩ =>
    levelToJson message typeName fullTypeName evaluateName stackTrace []
  | ⟨message, typeName, fullTypeName, evaluateName, stackTrace, first :: _⟩ =>
    levelToJson message typeName fullTypeName evaluateName stackTrace [first.toJson]

end ExceptionDetails

/-- The exception that a thread stopped on, and why it stopped there. -/
structure ExceptionInfo where
  breakMode : BreakMode
  exceptionId : String
  description : String
  details : ExceptionDetails

end DebugAdapter
