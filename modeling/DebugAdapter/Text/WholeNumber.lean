/-!
# Whole numbers in texts

Whole numbers that have to fit a machine word: an optional sign and ASCII digits, from left to
right. Of several faults the leftmost counts.
-/

namespace DebugAdapter.WholeNumber

/-- Why a text is not a whole number within its bounds. -/
inductive Fault where
  /-- The text is empty. -/
  | empty
  /-- A character is not a digit, or nothing follows the sign. -/
  | strayCharacter
  /-- The number lies above the upper bound. -/
  | tooLarge
  /-- The number lies below the lower bound. -/
  | tooSmall
  deriving DecidableEq, Repr

/-- The wording of a fault. -/
def Fault.message : Fault → String
  | .empty => "cannot parse integer from empty string"
  | .strayCharacter => "invalid digit found in string"
  | .tooLarge => "number too large to fit in target type"
  | .tooSmall => "number too small to fit in target type"

/-- The value of an ASCII digit. -/
def digit? (c : Char) : Option Nat :=
  if c.isDigit then some (c.toNat - '0'.toNat) else none

/-- The number that digits append to `n`, as long as it stays within `limit`. -/
def magnitude (limit : Nat) (beyond : Fault) (n : Nat) : List Char → Except Fault Nat
  | [] => .ok n
  | c :: rest =>
    match digit? c with
    | none => .error .strayCharacter
    | some d =>
      if n * 10 + d ≤ limit then magnitude limit beyond (n * 10 + d) rest else .error beyond

/-- A number from `0` to `limit`, with an optional plus sign. -/
def unsigned (limit : Nat) : List Char → Except Fault Nat
  | [] => .error .empty
  | ['+'] => .error .strayCharacter
  | '+' :: digits => magnitude limit .tooLarge 0 digits
  | digits => magnitude limit .tooLarge 0 digits

/-- A 64-bit integer, with an optional sign. -/
def signed : List Char → Except Fault Int
  | [] => .error .empty
  | ['+'] => .error .strayCharacter
  | ['-'] => .error .strayCharacter
  | '+' :: digits => Int.ofNat <$> magnitude 0x7FFFFFFFFFFFFFFF .tooLarge 0 digits
  | '-' :: digits => (fun n => -Int.ofNat n) <$> magnitude 0x8000000000000000 .tooSmall 0 digits
  | digits => Int.ofNat <$> magnitude 0x7FFFFFFFFFFFFFFF .tooLarge 0 digits

end DebugAdapter.WholeNumber
