import DebugAdapter.Binary64.Basic

/-!
# Shortest decimal notation

As few digits as identify a number among its neighbours, and of those the nearest. They are found on
the decimal grids `10 ^ j`, coarsest first, in exact arithmetic.
-/

namespace DebugAdapter.Binary64

/-- Numbers `low / scale ≤ value / scale ≤ high / scale` around a number: every
decimal between the outer two reads back as it. The ends belong to the interval
when `closed`. -/
structure Neighbourhood where
  low : Nat
  value : Nat
  high : Nat
  scale : Nat
  closed : Bool
  deriving Repr

/-- The halfway points towards the two adjacent numbers. The lower neighbour of
a power of two is only half as far away. -/
def neighbourhood (x : Binary64) : Neighbourhood :=
  let m := 4 * x.significand
  let below := if x.significand = leastFull ∧ minExponent < x.exponent then 1 else 2
  let up := Nat.pow 2 (x.exponent - 2).toNat
  { low := (m - below) * up
    value := m * up
    high := (m + 2) * up
    scale := Nat.pow 2 (2 - x.exponent).toNat
    closed := x.significand % 2 = 0 }

/-- Whether the decimal `c * 10 ^ j` reads back as the number. -/
def Neighbourhood.holds (n : Neighbourhood) (c : Nat) (j : Int) : Bool :=
  let point := c * Nat.pow 10 j.toNat * n.scale
  let unit := Nat.pow 10 (-j).toNat
  if n.closed then n.low * unit ≤ point && point ≤ n.high * unit
  else n.low * unit < point && point < n.high * unit

/-- The grid point of step `10 ^ j` that stands for the number, if there is one:
the nearer of its two neighbours on the grid, the even one on a tie. -/
def Neighbourhood.onGrid? (n : Neighbourhood) (j : Int) : Option Nat :=
  let num := n.value * Nat.pow 10 (-j).toNat
  let den := n.scale * Nat.pow 10 j.toNat
  let floor := num / den
  let nearest := roundEven num den
  let other := if nearest = floor then floor + 1 else floor
  if 0 < nearest ∧ n.holds nearest j then some nearest
  else if 0 < other ∧ n.holds other j then some other
  else none

/-- The first grid, of `count` grids from step `10 ^ j` down, with a point that
stands for the number. -/
def Neighbourhood.search (n : Neighbourhood) : (count : Nat) → (j : Int) → Nat × Int
  | 0, j => (0, j)
  | count + 1, j =>
    match n.onGrid? j with
    | some c => (c, j)
    | none => n.search count (j - 1)

/-- Digits `c` and exponent `j` of the shortest decimal `c * 10 ^ j` that reads
back as the magnitude of a number other than zero. The search begins above its
leading digit and ends, at the latest, at the seventeenth digit. -/
def shortest (x : Binary64) : Nat × Int :=
  let bits := x.exponent + Int.ofNat x.significand.log2
  x.neighbourhood.search 24 (bits * 30103 / 100000 + 2)

/-- How numbers are written: the decimal exponents, from `lowest` and below
`ending`, that get positional notation. -/
structure Layout where
  lowest : Int
  ending : Int

/-- The layout of numbers in messages: positional from `1e-5` and below `1e16`. -/
def Layout.message : Layout := ⟨-5, 16⟩

/-- The digits of a decimal in positional or scientific notation. Positional
notation always has a point with a digit on either side of it. -/
def Layout.place (layout : Layout) (digits : List Char) (j : Int) : List Char :=
  let leading := j + Int.ofNat digits.length - 1
  if layout.lowest ≤ leading ∧ leading < layout.ending then
    if leading < 0 then
      '0' :: '.' :: (List.replicate (-leading - 1).toNat '0' ++ digits)
    else
      let whole := leading.toNat + 1
      let digits := digits ++ List.replicate (whole - digits.length) '0'
      digits.take whole ++ '.' :: (if digits.length = whole then ['0'] else digits.drop whole)
  else
    let mantissa := match digits with
      | first :: second :: rest => first :: '.' :: second :: rest
      | short => short
    let sign := if leading < 0 then '-' else '+'
    mantissa ++ 'e' :: sign :: Nat.toDigits 10 leading.natAbs

/-- The text of a number. -/
def render (layout : Layout) (x : Binary64) : List Char :=
  let magnitude :=
    if x.significand = 0 then ['0', '.', '0']
    else
      let (c, j) := x.shortest
      layout.place (Nat.toDigits 10 c) j
  if x.negative then '-' :: magnitude else magnitude

end DebugAdapter.Binary64
