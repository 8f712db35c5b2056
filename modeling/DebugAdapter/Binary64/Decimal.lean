import DebugAdapter.Binary64.Basic

/-!
# Floating-point numbers from decimal notation

The value of a significand and a power of ten, rounded twice: first the significand, then its
product with the rounded power. This may differ in the last bit from rounding once, and it is what
the format of the messages prescribes.
-/

namespace DebugAdapter.Binary64

/-- The largest power of ten that is a finite number. -/
def maxPower : Nat := 308

/-- The number nearest to `10 ^ k`. -/
def tenPower? (k : Nat) : Option Binary64 :=
  ofQuotient? (Nat.pow 10 k) 1

/-- The value of `significand * 10 ^ exponent` in rounded arithmetic, if it is
finite. Powers below `10 ^ -308` are divided out in two steps. -/
def ofDecimal? (significand : Nat) (exponent : Int) : Option Binary64 := do
  let x ← ofQuotient? significand 1
  if x.significand = 0 then pure x
  else if 0 ≤ exponent then
    if exponent ≤ maxPower then x.times? (← tenPower? exponent.toNat) else none
  else if -(maxPower : Int) ≤ exponent then x.over? (← tenPower? (-exponent).toNat)
  else if -(2 * maxPower : Int) ≤ exponent then
    (← x.over? (← tenPower? maxPower)).over? (← tenPower? (-exponent - maxPower).toNat)
  else pure zero

end DebugAdapter.Binary64
