import DebugAdapter.Json.Basic
import DebugAdapter.Json.Fault
import DebugAdapter.Binary64.Decimal

/-!
# Numbers in JSON text

Without fraction and exponent a number is an integer as long as it fits in 64 bits; every other
number is floating-point. A digit that no longer fits counts as a power of ten in the whole part,
and is dropped in the fraction.
-/

namespace DebugAdapter.Json.Reader

open Ascii

/-- Whether a text begins with a digit. -/
def beginsWithDigit : Bytes → Bool
  | [] => false
  | b :: _ => isDigit b

/-- Digits appended to `n` while they fit in 64 bits: the number, how many digits
it took, and the rest of the text. -/
def keepDigits (n : Nat) : Bytes → Nat × Nat × Bytes
  | [] => (n, 0, [])
  | b :: rest =>
    if isDigit b ∧ n * 10 + digitValue b < 0x10000000000000000 then
      let (m, count, rest) := keepDigits (n * 10 + digitValue b) rest
      (m, count + 1, rest)
    else (n, 0, b :: rest)

/-- A floating-point number, unless it lies beyond the largest one. -/
def finite (negative : Bool) (significand : Nat) (exponent : Int) (rest : Bytes) :
    Except Fault (Json × Bytes) :=
  match Binary64.ofDecimal? significand exponent with
  | some x => .ok (.double (x.withSign negative), rest)
  | none => .error ⟨.numberOutOfRange, rest⟩

/-- An integer without fraction and exponent. A negative zero and a number below
the 64-bit range are floating-point. -/
def integer (negative : Bool) (n : Nat) (rest : Bytes) : Except Fault (Json × Bytes) :=
  if !negative then .ok (.int n, rest)
  else if n = 0 ∨ 0x8000000000000000 < n then finite negative n 0 rest
  else .ok (.int (-n), rest)

/-- The digits of an exponent behind its first ones, whose value is `e`; `none`
with the rest of the text as soon as the value exceeds 31 bits. -/
def exponentDigits (e : Nat) : Bytes → Option Nat × Bytes
  | [] => (some e, [])
  | b :: rest =>
    if isDigit b then
      if e * 10 + digitValue b < 0x80000000 then exponentDigits (e * 10 + digitValue b) rest
      else (none, rest)
    else (some e, b :: rest)

/-- The sign of an exponent. -/
def exponentSign : Bytes → Bool × Bytes
  | [] => (false, [])
  | b :: rest =>
    if b = plus then (false, rest) else if b = minus then (true, rest) else (false, b :: rest)

/-- A number from its exponent on, behind the letter. An exponent of more than 31
bits makes zero of a number unless it is positive and the number is not zero. -/
def fromExponent (negative : Bool) (significand : Nat) (exponent : Int) (text : Bytes) :
    Except Fault (Json × Bytes) :=
  let (below, text) := exponentSign text
  match text with
  | [] => .error ⟨.endInValue, []⟩
  | b :: rest =>
    if !isDigit b then .error ⟨.badNumber, rest⟩
    else
      match exponentDigits (digitValue b) rest with
      | (some e, rest) =>
        finite negative significand (if below then exponent - e else exponent + e) rest
      | (none, rest) =>
        if significand ≠ 0 ∧ !below then .error ⟨.numberOutOfRange, rest⟩
        else .ok (.double (Binary64.zero.withSign negative), rest.dropWhile isDigit)

/-- A number from its fraction on, behind the point. -/
def fromFraction (negative : Bool) (significand : Nat) (exponent : Int) (text : Bytes) :
    Except Fault (Json × Bytes) :=
  if !beginsWithDigit text then
    .error ⟨if text.isEmpty then .endInValue else .badNumber, text.drop 1⟩
  else
    let (significand, count, rest) := keepDigits significand text
    match rest.dropWhile isDigit with
    | [] => finite negative significand (exponent - count) []
    | b :: rest =>
      if b = letterE ∨ b = capitalE then fromExponent negative significand (exponent - count) rest
      else finite negative significand (exponent - count) (b :: rest)

/-- A number behind its whole part, of which `dropped` digits no longer fit. -/
def afterWhole (negative : Bool) (significand dropped : Nat) (text : Bytes) :
    Except Fault (Json × Bytes) :=
  let plain (rest : Bytes) :=
    if dropped = 0 then integer negative significand rest
    else finite negative significand dropped rest
  match text with
  | [] => plain []
  | b :: rest =>
    if b = point then fromFraction negative significand dropped rest
    else if b = letterE ∨ b = capitalE then fromExponent negative significand dropped rest
    else plain (b :: rest)

/-- The number at the front of a text, its sign already read. No digit follows a
leading zero. -/
def number (negative : Bool) : Bytes → Except Fault (Json × Bytes)
  | [] => .error ⟨.endInValue, []⟩
  | b :: rest =>
    if b = zero then
      if beginsWithDigit rest then .error ⟨.badNumber, rest.drop 1⟩
      else afterWhole negative 0 0 rest
    else if isDigit b then
      let (n, _, rest) := keepDigits (digitValue b) rest
      afterWhole negative n (rest.takeWhile isDigit).length (rest.dropWhile isDigit)
    else .error ⟨.badNumber, rest⟩

/-- The text behind an exponent that is passed over. -/
def skipExponent (text : Bytes) : Except Fault Bytes :=
  match (exponentSign text).2 with
  | [] => .error ⟨.badNumber, []⟩
  | b :: rest => if isDigit b then .ok (rest.dropWhile isDigit) else .error ⟨.badNumber, rest⟩

/-- The text behind an exponent, if one begins there. -/
def skipOptionalExponent : Bytes → Except Fault Bytes
  | [] => .ok []
  | b :: rest => if b = letterE ∨ b = capitalE then skipExponent rest else .ok (b :: rest)

/-- The text behind fraction and exponent, if there are any. -/
def skipAfterWhole : Bytes → Except Fault Bytes
  | [] => .ok []
  | b :: rest =>
    if b = point then
      if beginsWithDigit rest then skipOptionalExponent (rest.dropWhile isDigit)
      else .error ⟨.badNumber, rest.drop 1⟩
    else skipOptionalExponent (b :: rest)

/-- The text behind a number that is passed over, its sign already read. Only the
form of such a number matters, not its size. -/
def skipNumber : Bytes → Except Fault Bytes
  | [] => .error ⟨.badNumber, []⟩
  | b :: rest =>
    if b = zero then
      if beginsWithDigit rest then .error ⟨.badNumber, rest.drop 1⟩ else skipAfterWhole rest
    else if isDigit b then skipAfterWhole (rest.dropWhile isDigit)
    else .error ⟨.badNumber, rest⟩

end DebugAdapter.Json.Reader
