import DebugAdapter.Text.Utf8

/-!
# Named bytes

The ASCII characters that structure a message, as bytes.
-/

namespace DebugAdapter.Ascii

abbrev tab : UInt8 := 0x09
abbrev lineFeed : UInt8 := 0x0A
abbrev carriageReturn : UInt8 := 0x0D
abbrev space : UInt8 := 0x20
abbrev quotationMark : UInt8 := 0x22
abbrev plus : UInt8 := 0x2B
abbrev comma : UInt8 := 0x2C
abbrev minus : UInt8 := 0x2D
abbrev point : UInt8 := 0x2E
abbrev slash : UInt8 := 0x2F
abbrev zero : UInt8 := 0x30
abbrev nine : UInt8 := 0x39
abbrev colon : UInt8 := 0x3A
abbrev capitalA : UInt8 := 0x41
abbrev capitalE : UInt8 := 0x45
abbrev capitalF : UInt8 := 0x46
abbrev openBracket : UInt8 := 0x5B
abbrev backslash : UInt8 := 0x5C
abbrev closeBracket : UInt8 := 0x5D
abbrev letterA : UInt8 := 0x61
abbrev letterB : UInt8 := 0x62
abbrev letterE : UInt8 := 0x65
abbrev letterF : UInt8 := 0x66
abbrev letterL : UInt8 := 0x6C
abbrev letterN : UInt8 := 0x6E
abbrev letterR : UInt8 := 0x72
abbrev letterS : UInt8 := 0x73
abbrev letterT : UInt8 := 0x74
abbrev letterU : UInt8 := 0x75
abbrev openBrace : UInt8 := 0x7B
abbrev closeBrace : UInt8 := 0x7D

/-- Whether a byte is a decimal digit. -/
def isDigit (b : UInt8) : Bool :=
  zero ≤ b && b ≤ nine

/-- The value of a decimal digit. -/
def digitValue (b : UInt8) : Nat :=
  b.toNat - zero.toNat

/-- The value of a hexadecimal digit in either case. -/
def hexValue? (b : UInt8) : Option Nat :=
  if isDigit b then some (digitValue b)
  else if letterA ≤ b ∧ b ≤ letterF then some (b.toNat - letterA.toNat + 10)
  else if capitalA ≤ b ∧ b ≤ capitalF then some (b.toNat - capitalA.toNat + 10)
  else none

end DebugAdapter.Ascii
