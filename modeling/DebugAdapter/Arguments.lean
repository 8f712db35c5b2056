import DebugAdapter.Failure
import DebugAdapter.Json.Printer
import DebugAdapter.Text.WholeNumber

/-!
# Arguments of requests

Typed access to the arguments of a request. A field that is null counts as absent, arguments that
are not an object have no fields, and nothing is converted from one type to another.
-/

namespace DebugAdapter

/-- What a field has to be. -/
inductive ArgumentKind where
  | integer
  | string
  | boolean
  | array
  | object
  | strings
  deriving DecidableEq, Repr

/-- The wording of a kind. -/
def ArgumentKind.describe : ArgumentKind → String
  | .integer => "an integer"
  | .string => "a string"
  | .boolean => "a boolean"
  | .array => "an array"
  | .object => "an object"
  | .strings => "an array of strings"

/-- Why arguments are not acceptable. -/
inductive ArgumentError where
  /-- A field that has to be there is absent. -/
  | missing (name : String)
  /-- A field is of the wrong kind. -/
  | mismatch (name : String) (expected : ArgumentKind) (found : Json)
  /-- A process is named by a text that is not a number in range. -/
  | processText (text : String) (fault : WholeNumber.Fault)
  /-- A process is named by a number that is not an integer in range. -/
  | processNumber (number : Json)
  /-- A process is named by neither a text nor a number. -/
  | processKind (found : Json)
  deriving DecidableEq, Repr

namespace ArgumentError

/-- The wording of an argument error. -/
def message : ArgumentError → String
  | missing name => "Missing argument '" ++ name ++ "'"
  | mismatch name expected found =>
    "Argument '" ++ name ++ "' must be " ++ expected.describe ++ ", found " ++ found.render
  | processText text fault => "Invalid processId '" ++ text ++ "': " ++ fault.message
  | processNumber number => "Invalid processId " ++ number.render
  | processKind found => "processId must be a string or a number, found " ++ found.render

/-- An argument error as the failure of the command. -/
def toFailure (error : ArgumentError) : Failure :=
  .invalidArgument error.message

end ArgumentError

/-- The arguments of a request. -/
structure Arguments where
  value : Json
  deriving DecidableEq, Repr

namespace Arguments

variable {α : Type}

/-- A field that is there and not null. -/
def get? (args : Arguments) (name : String) : Option Json :=
  (args.value.field? name).filter (· ≠ .null)

/-- A value taken as one of a kind. -/
def convert (name : String) (kind : ArgumentKind) (view : Json → Option α) (value : Json) :
    Except ArgumentError α :=
  match view value with
  | some a => .ok a
  | none => .error (.mismatch name kind value)

/-- A field that has to be there and of a kind. -/
def required (args : Arguments) (name : String) (kind : ArgumentKind) (view : Json → Option α) :
    Except ArgumentError α :=
  match args.get? name with
  | some value => convert name kind view value
  | none => .error (.missing name)

/-- A field that has to be of a kind if it is there. -/
def optional (args : Arguments) (name : String) (kind : ArgumentKind) (view : Json → Option α) :
    Except ArgumentError (Option α) :=
  match args.get? name with
  | some value => some <$> convert name kind view value
  | none => .ok none

/-- A 64-bit integer. -/
def int64 (args : Arguments) (name : String) : Except ArgumentError Int64 :=
  args.required name .integer Json.asInt64?

/-- A 64-bit integer, if it is there. -/
def int64? (args : Arguments) (name : String) : Except ArgumentError (Option Int64) :=
  args.optional name .integer Json.asInt64?

/-- A 64-bit integer with a default. -/
def int64D (args : Arguments) (name : String) (default : Int64) : Except ArgumentError Int64 :=
  (·.getD default) <$> args.int64? name

/-- A string. -/
def string (args : Arguments) (name : String) : Except ArgumentError String :=
  args.required name .string Json.asString?

/-- A string with a default. -/
def stringD (args : Arguments) (name default : String) : Except ArgumentError String :=
  (·.getD default) <$> args.optional name .string Json.asString?

/-- A boolean, if it is there. -/
def bool? (args : Arguments) (name : String) : Except ArgumentError (Option Bool) :=
  args.optional name .boolean Json.asBool?

/-- An array. -/
def array (args : Arguments) (name : String) : Except ArgumentError (List Json) :=
  args.required name .array Json.asArray?

/-- An object, whose fields are arguments in turn. -/
def object (args : Arguments) (name : String) : Except ArgumentError Arguments :=
  args.required name .object fun value =>
    match value with
    | .object _ => some ⟨value⟩
    | _ => none

/-- An array of strings, empty by default. -/
def stringsOrEmpty (args : Arguments) (name : String) : Except ArgumentError (List String) :=
  (·.getD []) <$> args.optional name .strings Json.asStrings?

end Arguments

end DebugAdapter
