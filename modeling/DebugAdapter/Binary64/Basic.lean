/-!
# Finite binary floating-point numbers

Floating-point numbers of 53 significant bits, without infinities and NaN, with rounding to nearest
carried out in exact natural-number arithmetic. A result too large for the format is `none`.
-/

namespace DebugAdapter

/-- The number `± significand * 2 ^ exponent`. Rounding produces the form with
`significand < 2 ^ 53` whose exponent is at least `-1074` and as small as the 53
bits allow. -/
structure Binary64 where
  negative : Bool
  significand : Nat
  exponent : Int
  deriving DecidableEq, Repr, Inhabited

namespace Binary64

/-- The exponent of the smallest positive number. -/
def minExponent : Int := -1074

/-- The exponent of the largest numbers. -/
def maxExponent : Int := 971

/-- The least significand with all 53 bits, `2 ^ 52`. -/
def leastFull : Nat := 0x10000000000000

/-- The least significand that no longer fits, `2 ^ 53`. -/
def tooWide : Nat := 0x20000000000000

/-- Positive zero. -/
def zero : Binary64 := ⟨false, 0, minExponent⟩

/-- The number with its sign chosen. -/
def withSign (negative : Bool) (x : Binary64) : Binary64 :=
  { x with negative }

/-- Numerator and denominator of `num / den / 2 ^ e`. -/
def scaled (num den : Nat) (e : Int) : Nat × Nat :=
  if 0 ≤ e then (num, den * Nat.pow 2 e.toNat) else (num * Nat.pow 2 (-e).toNat, den)

/-- The integer nearest to `num / den`; a half goes to the even neighbour. -/
def roundEven (num den : Nat) : Nat :=
  let q := num / den
  let r := num % den
  if 2 * r < den then q
  else if den < 2 * r then q + 1
  else q + q % 2

/-- The exponent at which `num / den` has 53 significant bits, or the least
exponent if that is larger. -/
def exponentOf (num den : Nat) : Int :=
  let guess := max minExponent (Int.ofNat num.log2 - Int.ofNat den.log2 - 53)
  let (n, d) := scaled num den guess
  if n / d < tooWide then guess else guess + 1

/-- The number nearest to `num / den`, if the format reaches that far. -/
def ofQuotient? (num den : Nat) : Option Binary64 :=
  if num = 0 then some zero
  else
    let e := exponentOf num den
    let (n, d) := scaled num den e
    let m := roundEven n d
    let (m, e) := if m = tooWide then (leastFull, e + 1) else (m, e)
    if e ≤ maxExponent then some ⟨false, m, e⟩ else none

/-- The magnitude as a quotient of natural numbers. -/
def quotient (x : Binary64) : Nat × Nat :=
  if 0 ≤ x.exponent then (x.significand * Nat.pow 2 x.exponent.toNat, 1)
  else (x.significand, Nat.pow 2 (-x.exponent).toNat)

/-- The rounded product of two magnitudes. -/
def times? (x y : Binary64) : Option Binary64 :=
  ofQuotient? (x.quotient.1 * y.quotient.1) (x.quotient.2 * y.quotient.2)

/-- The rounded quotient of two magnitudes. -/
def over? (x y : Binary64) : Option Binary64 :=
  ofQuotient? (x.quotient.1 * y.quotient.2) (x.quotient.2 * y.quotient.1)

end Binary64

end DebugAdapter
