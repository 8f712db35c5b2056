import DebugAdapter.Json.Mismatch
import DebugAdapter.Json.Parser

/-!
# Requests

A body has to be JSON text, and its value an envelope with a number and a command: an object, or an
array with the fields in order. Of a body that is rejected, the number and the command are kept if
they can be told.
-/

namespace DebugAdapter

/-- A request of the client. -/
structure Request where
  seq : Int64
  command : String
  arguments : Json := .null
  kind : Option String := none
  deriving DecidableEq, Repr

namespace Request

/-- What is expected of an envelope as a whole. -/
def expected : String := "struct Request"

/-- What is expected of an envelope that is an array. -/
def expectedItems : String := "struct Request with 4 elements"

/-- The number of a request. -/
def seqOf : Json → Except Json.Mismatch Int64
  | .int i =>
    match (Json.int i).asInt64? with
    | some seq => .ok seq
    | none => .error (.outOfRange (.int i) "i64")
  | value => .error (.wrongType (.of value) "i64")

/-- A text in an envelope. -/
def textOf : Json → Except Json.Mismatch String
  | .string s => .ok s
  | value => .error (.wrongType (.of value) "a string")

/-- The kind of a message, which may be null. -/
def kindOf : Json → Except Json.Mismatch (Option String)
  | .null => .ok none
  | value => some <$> textOf value

/-- The envelope in an object. The fields that are there are looked at in order of
their names before any field is missed. -/
def ofFields (fields : List (String × Json)) : Except Json.Mismatch Request := do
  let command ← (Json.lookup "command" fields).mapM textOf
  let seq ← (Json.lookup "seq" fields).mapM seqOf
  let kind ← (Json.lookup "type" fields).mapM kindOf
  match seq, command with
  | none, _ => .error (.missingField "seq")
  | _, none => .error (.missingField "command")
  | some seq, some command =>
    pure {
      seq
      command
      arguments := (Json.lookup "arguments" fields).getD .null
      kind := kind.getD none }

/-- The envelope in an array: number, command, arguments and kind, of which the
last two may be left out. -/
def ofItems : List Json → Except Json.Mismatch Request
  | [] => .error (.wrongLength 0 expectedItems)
  | [seq] => do
    let _ ← seqOf seq
    .error (.wrongLength 1 expectedItems)
  | [seq, command] => do
    pure { seq := ← seqOf seq, command := ← textOf command }
  | [seq, command, arguments] => do
    pure { seq := ← seqOf seq, command := ← textOf command, arguments }
  | seq :: command :: arguments :: kind :: rest => do
    let request : Request :=
      { seq := ← seqOf seq, command := ← textOf command, arguments, kind := ← kindOf kind }
    if rest.isEmpty then pure request
    else .error (.wrongLength (rest.length + 4) "fewer elements in array")

/-- The envelope in a value. -/
def ofJson : Json → Except Json.Mismatch Request
  | .object fields => ofFields fields
  | .array items => ofItems items
  | value => .error (.wrongType (.of value) expected)

end Request

/-- Why a body is not a request. -/
inductive RequestFault where
  /-- The body is not JSON text. -/
  | notJson (body : Bytes) (fault : Json.Fault)
  /-- The value in the body is not an envelope. -/
  | notEnvelope (mismatch : Json.Mismatch)
  deriving DecidableEq, Repr

/-- The wording of a request fault. -/
def RequestFault.message : RequestFault → String
  | .notJson body fault => "invalid JSON: " ++ fault.message body
  | .notEnvelope mismatch => "invalid request envelope: " ++ mismatch.message

/-- A body that is not a request, with what can be told of its number and its
command. -/
structure Rejection where
  seq : Option Int64 := none
  command : Option String := none
  fault : RequestFault
  deriving DecidableEq, Repr

/-- The request in a body. -/
def Request.decode (body : Bytes) : Except Rejection Request :=
  match Json.parse body with
  | .error fault => .error { fault := .notJson body fault }
  | .ok value =>
    match Request.ofJson value with
    | .ok request => .ok request
    | .error mismatch =>
      .error {
        seq := (value.field? "seq").bind Json.asInt64?
        command := (value.field? "command").bind Json.asString?
        fault := .notEnvelope mismatch }

end DebugAdapter
