import DebugAdapter.Json.Mismatch
import DebugAdapter.Json.Parser

/-!
# Records with places

Records are read from JSON text in one pass, so that an error can say where in the text it is. An
error about a value is placed behind the value if it is a scalar, and before its bracket if it is an
array or an object; one about the record itself gets the place at which the reader stands after
trying to close the bracket of the record.
-/

namespace DebugAdapter.Settings

open Ascii

/-- What is wrong with a text. -/
inductive Cause where
  /-- The text is not JSON. -/
  | text (flaw : Json.Flaw)
  /-- A value is not of the kind asked for. -/
  | shape (mismatch : Json.Mismatch)
  deriving DecidableEq, Repr

/-- The wording of a cause. -/
def Cause.message : Cause → String
  | .text flaw => flaw.message
  | .shape mismatch => mismatch.message

/-- A cause, and what is left of the text behind its place or, if it has no place
yet, where reading stopped. -/
structure Fault where
  cause : Cause
  rest : Bytes
  placed : Bool := true
  deriving DecidableEq, Repr

/-- The wording of a fault in a text. -/
def Fault.message (text : Bytes) (fault : Fault) : String :=
  fault.cause.message ++ (Json.Place.of text fault.rest).suffix

variable {α δ : Type}

/-- A fault of the text itself. -/
def flawed (flaw : Json.Flaw) (rest : Bytes) : Except Fault α :=
  .error ⟨.text flaw, rest, true⟩

/-- What the reader of the text tells, with its faults as faults of settings. -/
def ofText (result : Except Json.Fault α) : Except Fault α :=
  result.mapError fun fault => ⟨.text fault.flaw, fault.rest, true⟩

/-- The fault of a value of the wrong type, given the text from the value on. -/
def wrongType (expected : String) (text : Bytes) : Fault :=
  match text with
  | [] => ⟨.text .endInValue, [], true⟩
  | b :: _ =>
    if b = openBracket then ⟨.shape (.wrongType .sequence expected), text, true⟩
    else if b = openBrace then ⟨.shape (.wrongType .map expected), text, true⟩
    else
      match Json.Reader.value 0 text with
      | .error fault => ⟨.text fault.flaw, fault.rest, true⟩
      | .ok (value, rest) => ⟨.shape (.wrongType (.of value) expected), rest, true⟩

/-! ## Fields -/

/-- A text. -/
def string (expected : String) (text : Bytes) : Except Fault (String × Bytes) :=
  match Json.Reader.skipSpace text with
  | [] => flawed .endInValue []
  | b :: rest =>
    if b = quotationMark then ofText (Json.Reader.stringLiteral rest)
    else .error (wrongType expected (b :: rest))

/-- Nothing but null. -/
def null (text : Bytes) : Except Fault Bytes :=
  match Json.Reader.skipSpace text with
  | [] => flawed .endInValue []
  | b :: rest =>
    if b = letterN then ofText (Json.Reader.word Json.Reader.nullTail rest)
    else .error (wrongType "unit" (b :: rest))

/-- A value that may be null. -/
def nullable (read : Bytes → Except Fault (α × Bytes)) (text : Bytes) :
    Except Fault (Option α × Bytes) :=
  let text := Json.Reader.skipSpace text
  match text with
  | [] => (fun (a, rest) => (some a, rest)) <$> read []
  | b :: rest =>
    if b = letterN then do
      pure (none, ← ofText (Json.Reader.word Json.Reader.nullTail rest))
    else (fun (a, rest) => (some a, rest)) <$> read text

/-- The colon behind a name. -/
def colonBehind (text : Bytes) : Except Fault Bytes :=
  match Json.Reader.skipSpace text with
  | [] => flawed .endInObject []
  | b :: rest => if b = colon then .ok rest else flawed .noColon rest

/-- What stands in front of the next item of an array. -/
inductive NextItem where
  /-- There is one more item, at the front of the text. -/
  | item (text : Bytes)
  /-- There are no more items; the text begins with the closing bracket. -/
  | none (text : Bytes)

/-- The next item of an array. -/
def nextItem (isFirst : Bool) (text : Bytes) : Except Fault NextItem :=
  match Json.Reader.skipSpace text with
  | [] => flawed .endInArray []
  | b :: rest =>
    if b = closeBracket then .ok (.none (b :: rest))
    else if isFirst then .ok (.item (b :: rest))
    else if b = comma then
      match Json.Reader.skipSpace rest with
      | [] => flawed .endInValue []
      | b :: rest =>
        if b = closeBracket then flawed .trailingComma rest else .ok (.item (b :: rest))
    else flawed .noItemSeparator rest

/-- The end of an array whose items have been read. -/
def endArray (text : Bytes) : Except Fault Bytes :=
  match Json.Reader.skipSpace text with
  | [] => flawed .endInArray []
  | b :: rest =>
    if b = closeBracket then .ok rest
    else if b = comma then
      match Json.Reader.skipSpace rest with
      | [] => flawed .trailingCharacters []
      | b :: rest =>
        flawed (if b = closeBracket then .trailingComma else .trailingCharacters) rest
    else flawed .trailingCharacters rest

/-- Texts from the next item of an array on, put behind those in `acc`, which is
in reverse. The bytes that are left bound the number of items by `room`. -/
def stringItems : (room : Nat) → (isFirst : Bool) → (acc : List String) → Bytes →
    Except Fault (List String × Bytes)
  | 0, _, _, text => flawed .endInArray text
  | room + 1, isFirst, acc, text => do
    match ← nextItem isFirst text with
    | .none text => pure (acc.reverse, ← endArray text)
    | .item text =>
      let (s, rest) ← string "a string" text
      stringItems room false (s :: acc) rest

/-- An array of texts. -/
def strings (text : Bytes) : Except Fault (List String × Bytes) :=
  match Json.Reader.skipSpace text with
  | [] => flawed .endInValue []
  | b :: rest =>
    if b = openBracket then stringItems (rest.length + 1) true [] rest
    else .error (wrongType "a sequence" (b :: rest))

/-! ## Choices -/

/-- One of several alternatives, told by its name. -/
inductive Alternative (α : Type) where
  /-- The name says it all. -/
  | plain (a : α)
  /-- The name comes with a value. -/
  | carrying (read : Bytes → Except Fault (α × Bytes))

/-- The alternative that a name chooses, behind the quote that opens the name. -/
def alternative (alternatives : List (String × Alternative α)) (text : Bytes) :
    Except Fault (Alternative α × Bytes) := do
  let (name, rest) ← ofText (Json.Reader.stringLiteral text)
  match alternatives.lookup name with
  | some chosen => pure (chosen, rest)
  | none => .error ⟨.shape (.unknownName name (alternatives.map (·.1))), rest, true⟩

/-- What stands behind the quote that opens the name of an object's only field. An
object without a field chooses nothing. -/
def onlyName (text : Bytes) : Except Fault Bytes :=
  match Json.Reader.skipSpace text with
  | [] => flawed .endInObject []
  | b :: rest =>
    if b = quotationMark then .ok rest
    else flawed (if b = closeBrace then .noValue else .keyNotString) rest

/-- One of several alternatives: the name alone, or an object whose only field has
that name and holds the value, which is null if there is none to hold. -/
def choice (alternatives : List (String × Alternative α)) (text : Bytes) :
    Except Fault (α × Bytes) :=
  match Json.Reader.skipSpace text with
  | [] => flawed .endInValue []
  | b :: rest =>
    if b = quotationMark then do
      match ← alternative alternatives rest with
      | (.plain a, rest) => pure (a, rest)
      | (.carrying _, rest) =>
        .error ⟨.shape (.wrongType .bareName "newtype variant"), rest, false⟩
    else if b = openBrace then do
      let (chosen, rest) ← alternative alternatives (← onlyName rest)
      let rest ← colonBehind rest
      let (a, rest) ←
        match chosen with
        | .plain a => (a, ·) <$> null rest
        | .carrying read => read rest
      match Json.Reader.skipSpace rest with
      | [] => flawed .endInObject []
      | b :: rest => if b = closeBrace then pure (a, rest) else flawed .noValue (b :: rest)
    else flawed .noValue rest

/-! ## Records -/

/-- A field of a record that is read into a draft of type `δ`. -/
structure Slot (δ : Type) where
  name : String
  /-- Whether the draft has the field already. -/
  isSet : δ → Bool
  /-- Whether an array has to hold the field. -/
  isRequired : Bool := false
  /-- Reads the field into the draft. -/
  read : δ → Bytes → Except Fault (δ × Bytes)

/-- The slot of a field that a draft may hold: how to look it up, how to put it in
and how to read its value. -/
def Slot.of (name : String) (get : δ → Option α) (put : α → δ → δ)
    (readValue : Bytes → Except Fault (α × Bytes)) : Slot δ where
  name
  isSet draft := (get draft).isSome
  read draft text := (fun (a, rest) => (put a draft, rest)) <$> readValue text

/-- Where a reader stands after trying to close an object. -/
def closedObject (text : Bytes) : Bytes :=
  match Json.Reader.skipSpace text with
  | [] => []
  | b :: rest => if b = closeBrace then rest else b :: rest

/-- Where a reader stands after trying to close an array. -/
def closedArray (text : Bytes) : Bytes :=
  match Json.Reader.skipSpace text with
  | [] => []
  | b :: rest =>
    if b = closeBracket then rest
    else if b = comma then Json.Reader.skipSpace rest
    else b :: rest

/-- A result whose fault, if it has no place yet, gets the one behind `close`. -/
def settle (close : Bytes → Bytes) (result : Except Fault α) : Except Fault α :=
  result.mapError fun fault =>
    if fault.placed then fault else ⟨fault.cause, close fault.rest, true⟩

/-- A record from its next item on; `index` items have been read. -/
def recordItems (expected : String) :
    (index : Nat) → (isFirst : Bool) → δ → List (Slot δ) → Bytes → Except Fault (δ × Bytes)
  | _, _, draft, [], text => .ok (draft, text)
  | index, isFirst, draft, slot :: slots, text => do
    match ← nextItem isFirst text with
    | .none text =>
      if slot.isRequired then .error ⟨.shape (.wrongLength index expected), text, false⟩
      else recordItems expected (index + 1) isFirst draft slots text
    | .item text =>
      let (draft, rest) ← slot.read draft text
      recordItems expected (index + 1) false draft slots rest

/-- A field of a record behind the quote that opens its name. -/
def recordField (slots : List (Slot δ)) (draft : δ) (text : Bytes) : Except Fault (δ × Bytes) := do
  let (name, rest) ← ofText (Json.Reader.stringLiteral text)
  match slots.find? (·.name = name) with
  | none => pure (draft, ← ofText (Json.Reader.skipValue (← colonBehind rest)))
  | some slot =>
    if slot.isSet draft then .error ⟨.shape (.duplicateField name), rest, false⟩
    else slot.read draft (← colonBehind rest)

/-- A record from its next field on, up to its closing brace. The bytes that are
left bound the number of fields by `room`. -/
def recordFields (slots : List (Slot δ)) :
    (room : Nat) → (isFirst : Bool) → δ → Bytes → Except Fault (δ × Bytes)
  | 0, _, _, text => flawed .endInObject text
  | room + 1, isFirst, draft, text =>
    match Json.Reader.skipSpace text with
    | [] => flawed .endInObject []
    | b :: rest =>
      if b = closeBrace then .ok (draft, b :: rest)
      else if isFirst then
        if b = quotationMark then do
          let (draft, rest) ← recordField slots draft rest
          recordFields slots room false draft rest
        else flawed .keyNotString rest
      else if b = comma then
        match Json.Reader.skipSpace rest with
        | [] => flawed .endInValue []
        | b :: rest =>
          if b = quotationMark then do
            let (draft, rest) ← recordField slots draft rest
            recordFields slots room false draft rest
          else if b = closeBrace then flawed .trailingComma rest
          else flawed .keyNotString rest
      else flawed .noFieldSeparator rest

/-- A record: an object, or an array with the fields in order. `finish` makes the
record of a draft, or tells what the draft lacks. -/
def record (name : String) (slots : List (Slot δ)) (draft : δ)
    (finish : δ → Except Json.Mismatch α) (text : Bytes) : Except Fault (α × Bytes) :=
  match Json.Reader.skipSpace text with
  | [] => flawed .endInValue []
  | b :: rest =>
    let complete (draft : δ) (text : Bytes) : Except Fault α :=
      (finish draft).mapError fun mismatch => ⟨.shape mismatch, text, false⟩
    if b = openBracket then do
      let expected := name ++ " with " ++ toString slots.length ++ " elements"
      let (a, rest) ← settle closedArray do
        let (draft, rest) ← recordItems expected 0 true draft slots rest
        pure (← complete draft rest, rest)
      pure (a, ← endArray rest)
    else if b = openBrace then do
      let (a, rest) ← settle closedObject do
        let (draft, rest) ← recordFields slots (rest.length + 1) true draft rest
        pure (← complete draft rest, rest)
      pure (a, closedObject rest)
    else .error (wrongType name (b :: rest))

end DebugAdapter.Settings
