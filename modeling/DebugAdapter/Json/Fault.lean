import DebugAdapter.Text.Utf8
import DebugAdapter.Text.Ascii

/-!
# Faults in JSON text

Why a text is not JSON and where. A reader consumes bytes from the front, so a place in the text is
given by what is left of it there.
-/

namespace DebugAdapter.Json

/-- Why a text is not JSON. -/
inductive Flaw where
  | endInValue
  | endInObject
  | endInArray
  | endInString
  | noValue
  | misspelledWord
  | keyNotString
  | trailingComma
  | noColon
  | noFieldSeparator
  | noItemSeparator
  | trailingCharacters
  | badNumber
  | numberOutOfRange
  | controlCharacter
  | badEscape
  | loneSurrogate
  | brokenSurrogatePair
  | badEncoding
  | tooDeep
  deriving DecidableEq, Repr

/-- The wording of a cause. -/
def Flaw.message : Flaw → String
  | .endInValue => "EOF while parsing a value"
  | .endInObject => "EOF while parsing an object"
  | .endInArray => "EOF while parsing a list"
  | .endInString => "EOF while parsing a string"
  | .noValue => "expected value"
  | .misspelledWord => "expected ident"
  | .keyNotString => "key must be a string"
  | .trailingComma => "trailing comma"
  | .noColon => "expected `:`"
  | .noFieldSeparator => "expected `,` or `\x7d`"
  | .noItemSeparator => "expected `,` or `]`"
  | .trailingCharacters => "trailing characters"
  | .badNumber => "invalid number"
  | .numberOutOfRange => "number out of range"
  | .controlCharacter => "control character (\\u0000-\\u001F) found while parsing a string"
  | .badEscape => "invalid escape"
  | .loneSurrogate => "lone leading surrogate in hex escape"
  | .brokenSurrogatePair => "unexpected end of hex escape"
  | .badEncoding => "invalid unicode code point"
  | .tooDeep => "recursion limit exceeded"

/-- A place in a text: lines count from one, columns are the bytes since the
last line feed. -/
structure Place where
  line : Nat
  column : Nat
  deriving DecidableEq, Repr

/-- The place one byte further on. -/
def Place.advance (p : Place) (b : UInt8) : Place :=
  if b = Ascii.lineFeed then ⟨p.line + 1, 0⟩ else ⟨p.line, p.column + 1⟩

/-- The place of `text` behind which `rest` is left. -/
def Place.of (text rest : Bytes) : Place :=
  (text.take (text.length - rest.length)).foldl Place.advance ⟨1, 0⟩

/-- The wording of a place behind a message. -/
def Place.suffix (p : Place) : String :=
  " at line " ++ toString p.line ++ " column " ++ toString p.column

/-- A cause and the bytes behind the place at which it is reported. -/
structure Fault where
  flaw : Flaw
  rest : Bytes
  deriving DecidableEq, Repr

/-- The wording of a fault in a text. -/
def Fault.message (text : Bytes) (fault : Fault) : String :=
  fault.flaw.message ++ (Place.of text fault.rest).suffix

end DebugAdapter.Json
