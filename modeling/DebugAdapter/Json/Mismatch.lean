import DebugAdapter.Json.Basic
import DebugAdapter.Text.Quoted
import DebugAdapter.Binary64.Shortest

/-!
# Values of the wrong shape

Why a well-formed value is not one of the kind asked for. Message envelopes and settings share the
causes and their wording.
-/

namespace DebugAdapter.Json

/-- What was found in the place of an expected value. -/
inductive Found where
  | null
  | bool (b : Bool)
  | int (i : Int)
  | double (x : Binary64)
  | string (s : String)
  | sequence
  | map
  /-- A name alone where it has to come with a value. -/
  | bareName
  deriving DecidableEq, Repr

/-- A value as something found. -/
def Found.of : Json → Found
  | .null => .null
  | .bool b => .bool b
  | .int i => .int i
  | .double x => .double x
  | .string s => .string s
  | .array _ => .sequence
  | .object _ => .map

/-- The wording of something found. -/
def Found.describe : Found → String
  | .null => "null"
  | .bool b => "boolean `" ++ toString b ++ "`"
  | .int i => "integer `" ++ toString i ++ "`"
  | .double x => "floating point `" ++ String.ofList (x.render .message) ++ "`"
  | .string s => "string " ++ Quoted.quote s
  | .sequence => "sequence"
  | .map => "map"
  | .bareName => "unit variant"

/-- Why a value is not of the kind asked for. -/
inductive Mismatch where
  /-- A value of another type. -/
  | wrongType (found : Found) (expected : String)
  /-- A value of the right type that is out of range. -/
  | outOfRange (found : Found) (expected : String)
  /-- A sequence of the wrong length. -/
  | wrongLength (length : Nat) (expected : String)
  /-- A field that has to be there is not. -/
  | missingField (name : String)
  /-- A field is given twice. -/
  | duplicateField (name : String)
  /-- A name that is none of the known ones. -/
  | unknownName (name : String) (known : List String)
  deriving DecidableEq, Repr

/-- The known names as an expectation: two with an "or", more as a list. -/
def expectedOneOf (known : List String) : String :=
  let quoted := known.map fun name => "`" ++ name ++ "`"
  match quoted with
  | [first, second] => first ++ " or " ++ second
  | names => "one of " ++ ", ".intercalate names

/-- The wording of a mismatch. -/
def Mismatch.message : Mismatch → String
  | .wrongType found expected => "invalid type: " ++ found.describe ++ ", expected " ++ expected
  | .outOfRange found expected => "invalid value: " ++ found.describe ++ ", expected " ++ expected
  | .wrongLength length expected =>
    "invalid length " ++ toString length ++ ", expected " ++ expected
  | .missingField name => "missing field `" ++ name ++ "`"
  | .duplicateField name => "duplicate field `" ++ name ++ "`"
  | .unknownName name known =>
    "unknown variant `" ++ name ++ "`, expected " ++ expectedOneOf known

end DebugAdapter.Json
