import Reckoner.Decimal.Binary

/-!
# The shortest decimal that reads back

Many decimals round to one binary64 word. They form an interval around its value that reaches
half way to the next word on either side. The shortest of them lies on the coarsest grid
`{d · 10 ^ k}` that meets the interval: this file walks down the grids from one that is
coarser than the value and takes the first that has a point inside.

All comparisons are between natural numbers. The interval is measured in quarters of the
value's last bit, and both sides of a comparison are multiplied by the powers of two and ten
that make them whole.

* `Numeral.shortest` is the decimal found for `mantissa · 2 ^ exponent`.
-/

namespace Reckoner.Decimal

/-- The decimal `digits · 10 ^ exponent`. -/
structure Numeral where
  digits : Nat
  exponent : Int
deriving DecidableEq, Repr

/-- The decimals that round to one word, as multiples of `2 ^ scale`. The ends belong to it iff
`closed`. -/
structure Interval where
  low : Nat
  centre : Nat
  high : Nat
  scale : Int
  closed : Bool
deriving DecidableEq, Repr

namespace Interval

/-- The interval of `mantissa · 2 ^ exponent`. The gap below a power of two is half as wide as
the gap above it, except at the least exponent. A number half way between two words is read as
the one with the even mantissa, so the ends count iff the mantissa is even. -/
def around (mantissa : Nat) (exponent : Int) : Interval where
  low :=
    if mantissa = Binary.hiddenBit ∧ Binary.leastExponent < exponent then 4 * mantissa - 1
    else 4 * mantissa - 2
  centre := 4 * mantissa
  high := 4 * mantissa + 2
  scale := exponent - 2
  closed := mantissa % 2 == 0

/-! ## Points of a grid -/

/-- The size of one unit of the interval, on the common scale of the grid `10 ^ k`. -/
def unit (I : Interval) (k : Int) : Nat :=
  Nat.pow 2 I.scale.toNat * Nat.pow 10 (-k).toNat

/-- The distance of two points of the grid `10 ^ k`, on the same common scale. -/
def step (I : Interval) (k : Int) : Nat :=
  Nat.pow 10 k.toNat * Nat.pow 2 (-I.scale).toNat

/-- Whether the point `d · 10 ^ k` lies in the interval. -/
def contains (I : Interval) (k : Int) (d : Nat) : Bool :=
  let point := d * I.step k
  let low := I.low * I.unit k
  let high := I.high * I.unit k
  if I.closed then decide (low ≤ point ∧ point ≤ high) else decide (low < point ∧ point < high)

/-- The point of the grid `10 ^ k` in the interval that is nearest to its centre, if any. If the
grid has a point in the interval then one of the centre's two neighbours is such a point. Of two
equally near points the upper one is taken. -/
def nearest? (I : Interval) (k : Int) : Option Nat :=
  let below := I.centre * I.unit k / I.step k
  let above := below + 1
  match I.contains k below, I.contains k above with
  | true, true =>
    some (if 2 * (I.centre * I.unit k) < (below + above) * I.step k then below else above)
  | true, false => some below
  | false, true => some above
  | false, false => none

end Interval

namespace Numeral

/-- Walks down from the grid `10 ^ k`, at most `steps` grids. The last grid of the walk has to
be one that the centre lies on. -/
def search (I : Interval) : Nat → Int → Numeral
  | 0, k => ⟨I.centre * I.unit k / I.step k, k⟩
  | steps + 1, k =>
    match I.nearest? k with
    | some d => ⟨d, k⟩
    | none => search I steps (k - 1)

/-- The shortest decimal that reads back as `mantissa · 2 ^ exponent`, for a positive mantissa.
The walk starts at a power of ten above the value. It ends at the grid `10 ^ exponent`, or at
the integers if the exponent is not negative: the value itself is a point of that grid. -/
def shortest (mantissa : Nat) (exponent : Int) : Numeral :=
  let start := (Nat.toDigits 10 (Binary.wholePart mantissa exponent)).length
  search (Interval.around mantissa exponent) (start + (-exponent).toNat) start

end Numeral

end Reckoner.Decimal
