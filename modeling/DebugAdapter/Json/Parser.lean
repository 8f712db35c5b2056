import DebugAdapter.Json.Number
import DebugAdapter.Json.StringLiteral

/-!
# Reading JSON text

The value that a text spells. Arrays and objects may be nested 127 deep, and of several fields with
one name the last counts. A value whose content does not matter is passed over, however deep.
-/

namespace DebugAdapter.Json.Reader

open Ascii

/-- White space between the parts of a text. -/
def isSpace (b : UInt8) : Bool :=
  b = space || b = tab || b = carriageReturn || b = lineFeed

/-- A text without the white space at its front. -/
def skipSpace (text : Bytes) : Bytes :=
  text.dropWhile isSpace

/-- The rest behind the letters of a word. -/
def word : (letters : Bytes) → Bytes → Except Fault Bytes
  | [], rest => .ok rest
  | _ :: _, [] => .error ⟨.endInValue, []⟩
  | c :: letters, b :: rest =>
    if b = c then word letters rest else .error ⟨.misspelledWord, rest⟩

/-- The letters of `null` behind the first. -/
def nullTail : Bytes := [letterU, letterL, letterL]

/-- The letters of `true` behind the first. -/
def trueTail : Bytes := [letterR, letterU, letterE]

/-- The letters of `false` behind the first. -/
def falseTail : Bytes := [letterA, letterL, letterS, letterE]

/-! ## Values -/

/-- The items of an array from its next item on, put behind those in `acc`, which
is in reverse. As many bytes as are left bound the number of items by `room`. -/
def items (value : Bytes → Except Fault (Json × Bytes)) :
    (room : Nat) → (acc : List Json) → Bytes → Except Fault (List Json × Bytes)
  | 0, _, text => .error ⟨.endInValue, text⟩
  | room + 1, acc, text => do
    let (v, rest) ← value text
    match skipSpace rest with
    | [] => .error ⟨.endInArray, []⟩
    | b :: rest =>
      if b = closeBracket then .ok ((v :: acc).reverse, rest)
      else if b = comma then
        match skipSpace rest with
        | [] => .error ⟨.endInValue, []⟩
        | b :: rest =>
          if b = closeBracket then .error ⟨.trailingComma, rest⟩
          else items value room (v :: acc) (b :: rest)
      else .error ⟨.noItemSeparator, rest⟩

/-- The items of an array behind its opening bracket. -/
def array (value : Bytes → Except Fault (Json × Bytes)) (text : Bytes) :
    Except Fault (List Json × Bytes) :=
  match skipSpace text with
  | [] => .error ⟨.endInArray, []⟩
  | b :: rest =>
    if b = closeBracket then .ok ([], rest)
    else items value (rest.length + 1) [] (b :: rest)

/-- The value of a field behind its name. -/
def fieldValue (value : Bytes → Except Fault (Json × Bytes)) (text : Bytes) :
    Except Fault (Json × Bytes) :=
  match skipSpace text with
  | [] => .error ⟨.endInObject, []⟩
  | b :: rest => if b = colon then value rest else .error ⟨.noColon, rest⟩

/-- The fields of an object from the name of its next field on, behind the quote
that opens the name, put into `acc`. As many bytes as are left bound the number
of fields by `room`. -/
def fields (value : Bytes → Except Fault (Json × Bytes)) :
    (room : Nat) → (acc : List (String × Json)) → Bytes →
      Except Fault (List (String × Json) × Bytes)
  | 0, _, text => .error ⟨.endInObject, text⟩
  | room + 1, acc, text => do
    let (name, rest) ← stringLiteral text
    let (v, rest) ← fieldValue value rest
    let acc := insertField name v acc
    match skipSpace rest with
    | [] => .error ⟨.endInObject, []⟩
    | b :: rest =>
      if b = closeBrace then .ok (acc, rest)
      else if b = comma then
        match skipSpace rest with
        | [] => .error ⟨.endInValue, []⟩
        | b :: rest =>
          if b = quotationMark then fields value room acc rest
          else if b = closeBrace then .error ⟨.trailingComma, rest⟩
          else .error ⟨.keyNotString, rest⟩
      else .error ⟨.noFieldSeparator, rest⟩

/-- The fields of an object behind its opening brace. -/
def object (value : Bytes → Except Fault (Json × Bytes)) (text : Bytes) :
    Except Fault (List (String × Json) × Bytes) :=
  match skipSpace text with
  | [] => .error ⟨.endInObject, []⟩
  | b :: rest =>
    if b = closeBrace then .ok ([], rest)
    else if b = quotationMark then fields value (rest.length + 1) [] rest
    else .error ⟨.keyNotString, rest⟩

/-- How deep arrays and objects may be nested. -/
def maxDepth : Nat := 127

/-- The value at the front of a text and the rest behind it, with at most `depth`
arrays and objects inside one another. -/
def value (depth : Nat) (text : Bytes) : Except Fault (Json × Bytes) :=
  match skipSpace text with
  | [] => .error ⟨.endInValue, []⟩
  | b :: rest =>
    if b = letterN then (Json.null, ·) <$> word nullTail rest
    else if b = letterT then (Json.bool true, ·) <$> word trueTail rest
    else if b = letterF then (Json.bool false, ·) <$> word falseTail rest
    else if b = minus then number true rest
    else if isDigit b then number false (b :: rest)
    else if b = quotationMark then (fun (s, rest) => (Json.string s, rest)) <$> stringLiteral rest
    else if b = openBracket then
      match depth with
      | 0 => .error ⟨.tooDeep, rest⟩
      | depth + 1 =>
        (fun (items, rest) => (Json.array items, rest)) <$> array (value depth) rest
    else if b = openBrace then
      match depth with
      | 0 => .error ⟨.tooDeep, rest⟩
      | depth + 1 =>
        (fun (fields, rest) => (Json.object fields, rest)) <$> object (value depth) rest
    else .error ⟨.noValue, rest⟩

/-- Nothing but white space may follow the value of a text. -/
def finish (rest : Bytes) : Except Fault Unit :=
  match skipSpace rest with
  | [] => .ok ()
  | _ :: rest => .error ⟨.trailingCharacters, rest⟩

/-! ## Values that are passed over -/

/-- An array or an object that is open. -/
inductive Container where
  | array
  | object
  deriving DecidableEq, Repr

namespace Container

/-- The byte that closes a container. -/
def close : Container → UInt8
  | .array => closeBracket
  | .object => closeBrace

/-- The fault of a text that ends inside a container. -/
def endInside : Container → Flaw
  | .array => .endInArray
  | .object => .endInObject

/-- The fault of a byte that neither separates nor closes. -/
def noSeparator : Container → Flaw
  | .array => .noItemSeparator
  | .object => .noFieldSeparator

end Container

/-- What is due next while a value is passed over. -/
inductive Due where
  /-- A value. -/
  | value
  /-- An item of the innermost container, with its name if it is a field. -/
  | item
  /-- A first item or the end of the innermost container. -/
  | first
  /-- A comma or the end of the innermost container. -/
  | next
  deriving DecidableEq, Repr

/-- The text behind a value that is neither an array nor an object and begins
with the byte `b`. -/
def skipScalar (b : UInt8) (rest : Bytes) : Except Fault Bytes :=
  if b = letterN then word nullTail rest
  else if b = letterT then word trueTail rest
  else if b = letterF then word falseTail rest
  else if b = minus then skipNumber rest
  else if isDigit b then skipNumber (b :: rest)
  else if b = quotationMark then skipString rest
  else .error ⟨.noValue, rest⟩

/-- The name of a field that is passed over, and the colon behind it. -/
def skipName (text : Bytes) : Except Fault Bytes :=
  match skipSpace text with
  | [] => .error ⟨.endInObject, []⟩
  | b :: rest =>
    if b = quotationMark then do
      match skipSpace (← skipString rest) with
      | [] => .error ⟨.endInObject, []⟩
      | b :: rest => if b = colon then .ok rest else .error ⟨.noColon, rest⟩
    else .error ⟨.keyNotString, rest⟩

/-- The text behind a value that is passed over, with the containers that are
open, innermost first. No byte is looked at more than three times, which bounds
the number of steps by `room`. -/
def skipDue : (room : Nat) → Due → List Container → Bytes → Except Fault Bytes
  | 0, _, _, text => .error ⟨.endInValue, text⟩
  | _ + 1, .item, [], text | _ + 1, .first, [], text | _ + 1, .next, [], text => .ok text
  | room + 1, .value, stack, text =>
    match skipSpace text with
    | [] => .error ⟨.endInValue, []⟩
    | b :: rest =>
      if b = openBracket then skipDue room .first (.array :: stack) rest
      else if b = openBrace then skipDue room .first (.object :: stack) rest
      else do skipDue room .next stack (← skipScalar b rest)
  | room + 1, .item, .array :: stack, text => skipDue room .value (.array :: stack) text
  | room + 1, .item, .object :: stack, text => do
    skipDue room .value (.object :: stack) (← skipName text)
  | room + 1, .first, top :: stack, text =>
    match skipSpace text with
    | [] => .error ⟨top.endInside, []⟩
    | b :: rest =>
      if b = top.close then skipDue room .next stack rest
      else skipDue room .item (top :: stack) (b :: rest)
  | room + 1, .next, top :: stack, text =>
    match skipSpace text with
    | [] => .error ⟨top.endInside, []⟩
    | b :: rest =>
      if b = top.close then skipDue room .next stack rest
      else if b = comma then skipDue room .item (top :: stack) rest
      else .error ⟨top.noSeparator, rest⟩

/-- The text behind the value at its front, whatever the value. -/
def skipValue (text : Bytes) : Except Fault Bytes :=
  skipDue (3 * text.length + 3) .value [] text

end DebugAdapter.Json.Reader

namespace DebugAdapter.Json

/-- The value that a whole text spells. -/
def parse (text : Bytes) : Except Fault Json := do
  let (v, rest) ← Reader.value Reader.maxDepth text
  Reader.finish rest
  pure v

end DebugAdapter.Json
