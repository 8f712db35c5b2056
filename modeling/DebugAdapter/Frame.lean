import DebugAdapter.Text.Utf8
import DebugAdapter.Text.Ascii
import DebugAdapter.Text.Blank
import DebugAdapter.Text.WholeNumber

/-!
# Frames

A frame is a block of header lines that ends at an empty line, one of them saying how many bytes the
body has, and then the body. A reader takes the stream byte by byte and delivers a body with its
last byte.
-/

namespace DebugAdapter.Frame

/-- The name of the header field that holds the length of the body. -/
def lengthField : List Char := "Content-Length:".toList

/-- The header block of a body of a given length. -/
def header (length : Nat) : Bytes :=
  Utf8.encodeChars (lengthField ++ ' ' :: (Nat.toDigits 10 length ++ ['\r', '\n', '\r', '\n']))

/-- A body in its frame. -/
def encode (body : Bytes) : Bytes :=
  header body.length ++ body

/-- What a header line says. -/
inductive HeaderLine where
  /-- The line is empty and ends the block. -/
  | blank
  /-- The line gives the length of the body. -/
  | length (n : Nat)
  /-- The line says nothing of interest. -/
  | other
  deriving DecidableEq, Repr

/-- Whether a character ends a line. -/
def isLineEnd (c : Char) : Bool :=
  c = '\r' || c = '\n'

/-- The largest length that a header can give. -/
def maxLength : Nat := 0xFFFFFFFFFFFFFFFF

/-- The meaning of a header line, given with its line end. A length that is not a
number in range says nothing. -/
def HeaderLine.ofBytes (line : Bytes) : HeaderLine :=
  let text := dropTrailing isLineEnd (Utf8.decodeLossy line).toList
  if text.isEmpty then .blank
  else
    match lengthField.isPrefixOf? text with
    | none => .other
    | some value =>
      match WholeNumber.unsigned maxLength (trimBlank value) with
      | .ok n => .length n
      | .error _ => .other

/-- A reader between two bytes. -/
inductive Reader where
  /-- In a header block: the bytes of the line so far, last byte first, and the
  length that the block has given so far. -/
  | header (line : Bytes) (length : Option Nat)
  /-- In a body: how many bytes are owed after the next one, and the bytes so
  far, last byte first. -/
  | body (owed : Nat) (received : Bytes)
  deriving DecidableEq, Repr

namespace Reader

/-- A reader at the start of a header block. -/
def start : Reader :=
  .header [] none

/-- A reader at the end of a header block, and the body if it is empty. A block
without a length is passed over. -/
def afterHeader : (length : Option Nat) → Reader × Option Bytes
  | none => (start, none)
  | some 0 => (start, some [])
  | some (n + 1) => (.body n [], none)

/-- One more byte: the reader behind it, and the body that it completes. The last
length of a block counts. -/
def feed (reader : Reader) (b : UInt8) : Reader × Option Bytes :=
  match reader with
  | .header line length =>
    if b ≠ Ascii.lineFeed then (.header (b :: line) length, none)
    else
      match HeaderLine.ofBytes (b :: line).reverse with
      | .blank => afterHeader length
      | .length n => (.header [] (some n), none)
      | .other => (.header [] length, none)
  | .body 0 received => (start, some (b :: received).reverse)
  | .body (owed + 1) received => (.body owed (b :: received), none)

end Reader

/-- How a byte stream ends. -/
inductive Ending where
  /-- There are no more bytes. -/
  | closed
  /-- Reading on is impossible. -/
  | failed
  deriving DecidableEq, Repr

/-- The body that the end of the stream completes. A stream that closes inside a
line ends the line there, so an unfinished line of carriage returns ends its
block, and an empty body needs no more than that. -/
def Reader.finish : Reader → Ending → Option Bytes
  | .header (b :: line) (some 0), .closed =>
    if HeaderLine.ofBytes (b :: line).reverse = .blank then some [] else none
  | _, _ => none

/-- A reader behind a stretch of bytes, and the bodies completed on the way. -/
def Reader.feedAll (reader : Reader) (bytes : Bytes) : Reader × List Bytes :=
  let (reader, completed) := bytes.foldl (fun (reader, completed) b =>
    let (reader, next) := reader.feed b
    (reader, next.toList ++ completed)) (reader, [])
  (reader, completed.reverse)

/-- All bodies of a stream. -/
def bodies (stream : Bytes) (ending : Ending) : List Bytes :=
  let (reader, completed) := Reader.start.feedAll stream
  completed ++ (reader.finish ending).toList

end DebugAdapter.Frame
