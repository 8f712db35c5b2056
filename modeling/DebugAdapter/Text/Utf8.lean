/-!
# UTF-8

Decoding feeds the bytes one at a time to a decoder, which reports every well-formed character and
every maximal stretch of bytes that is none.
-/

namespace DebugAdapter

/-- A stretch of a byte stream, first byte first. -/
abbrev Bytes := List UInt8

namespace Utf8

/-- The bytes of a list of characters. -/
def encodeChars (chars : List Char) : Bytes :=
  chars.flatMap String.utf8EncodeChar

/-- The bytes of a text. -/
def encode (text : String) : Bytes :=
  encodeChars text.toList

/-- A character whose first bytes have arrived: how many bytes are owed after
the next one, the range the next one has to lie in, and the bits so far. -/
structure Pending where
  owed : Nat
  low : UInt8
  high : UInt8
  bits : Nat
  deriving DecidableEq, Repr

/-- What a byte says when no character is under way. -/
inductive Lead where
  /-- The byte is a character of its own. -/
  | single (c : Char)
  /-- The byte begins a longer character. -/
  | begins (p : Pending)
  /-- No character begins with the byte. -/
  | stray
  deriving DecidableEq, Repr

/-- First bytes by range. The second byte of a character is narrowed so that
overlong forms, surrogates and code points past U+10FFFF cannot be spelled. -/
def Lead.ofByte (b : UInt8) : Lead :=
  if b < 0x80 then .single (Char.ofNat b.toNat)
  else if b < 0xC2 then .stray
  else if b < 0xE0 then .begins ⟨0, 0x80, 0xBF, b.toNat - 0xC0⟩
  else if b < 0xF0 then
    .begins ⟨1, if b = 0xE0 then 0xA0 else 0x80, if b = 0xED then 0x9F else 0xBF, b.toNat - 0xE0⟩
  else if b < 0xF5 then
    .begins ⟨2, if b = 0xF0 then 0x90 else 0x80, if b = 0xF4 then 0x8F else 0xBF, b.toNat - 0xF0⟩
  else .stray

/-- A decoder between two bytes: what it has read, newest first, with `none`
for a stray stretch, and the character under way. -/
structure Decoder where
  read : List (Option Char) := []
  pending : Option Pending := none
  deriving DecidableEq, Repr

/-- A byte that arrives between characters, after `read`. -/
def Decoder.start (read : List (Option Char)) (b : UInt8) : Decoder :=
  match Lead.ofByte b with
  | .single c => ⟨some c :: read, none⟩
  | .begins p => ⟨read, some p⟩
  | .stray => ⟨none :: read, none⟩

/-- One more byte. A byte that cannot continue the character under way ends a
stray stretch and is looked at afresh. -/
def Decoder.feed (d : Decoder) (b : UInt8) : Decoder :=
  match d.pending with
  | none => start d.read b
  | some p =>
    if p.low ≤ b ∧ b ≤ p.high then
      let bits := p.bits * 64 + (b.toNat - 0x80)
      match p.owed with
      | 0 => ⟨some (Char.ofNat bits) :: d.read, none⟩
      | n + 1 => ⟨d.read, some ⟨n, 0x80, 0xBF, bits⟩⟩
    else start (none :: d.read) b

/-- Everything read once the bytes have ended; an unfinished character is a
stray stretch. -/
def Decoder.finish (d : Decoder) : List (Option Char) :=
  match d.pending with
  | none => d.read.reverse
  | some _ => (none :: d.read).reverse

/-- The characters that the bytes spell, with `none` for each maximal stretch
that spells none. -/
def decode (bytes : Bytes) : List (Option Char) :=
  (bytes.foldl Decoder.feed {}).finish

/-- The text that the bytes spell, if all of them are well-formed. -/
def decode? (bytes : Bytes) : Option String :=
  let read := decode bytes
  if read.all Option.isSome then some (String.ofList (read.filterMap id)) else none

/-- The characters in front of the first stray stretch. -/
def front (bytes : Bytes) : List Char :=
  ((decode bytes).takeWhile Option.isSome).filterMap id

/-- The bytes from the first one on that belongs to no character. -/
def fromStray (bytes : Bytes) : Bytes :=
  bytes.drop (encodeChars (front bytes)).length

/-- The text that the bytes spell, with U+FFFD for each stray stretch. -/
def decodeLossy (bytes : Bytes) : String :=
  String.ofList ((decode bytes).map (·.getD '\uFFFD'))

end Utf8

end DebugAdapter
