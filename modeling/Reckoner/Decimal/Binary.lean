/-!
# Exact values of binary64 words

A binary64 word is a sign, eleven bits of exponent and fifty-two bits of fraction. This file
reads the word as what it stands for: not a number, an infinity, or the exact value
`± mantissa · 2 ^ exponent`. The text of a number (`Decimal/Layout.lean`) and its integer part
are computed from this reading in exact integer arithmetic.

* `Binary.ofFloat` reads a word.
* `Binary.truncate` drops the fraction and saturates at the ends of a signed 64-bit word.
-/

namespace Reckoner.Decimal

/-- What a binary64 word stands for. A finite word is `mantissa · 2 ^ exponent`, negated if
`negative`; both zeros have mantissa `0`. -/
inductive Binary where
  | notANumber
  | infinite (negative : Bool)
  | finite (negative : Bool) (mantissa : Nat) (exponent : Int)
deriving DecidableEq, Repr

namespace Binary

/-- The exponent of the smallest positive word. -/
def leastExponent : Int := -1074

/-- The bit `2 ^ 52` that a mantissa has in addition to its fraction, unless its exponent is the
least. -/
def hiddenBit : Nat := 0x10000000000000

/-- The bit that marks a negative word. -/
def signBit : Nat := 0x8000000000000000

/-- Reads the three parts of a word. The all-ones exponent marks infinities and what is not a
number, and the zero exponent marks the words without hidden bit. -/
def ofBits (bits : UInt64) : Binary :=
  let word := bits.toNat
  let negative := decide (signBit ≤ word)
  let biased : Nat := word / hiddenBit % 2048
  let fraction : Nat := word % hiddenBit
  if biased = 2047 then
    if fraction = 0 then .infinite negative else .notANumber
  else if biased = 0 then
    .finite negative fraction leastExponent
  else
    .finite negative (hiddenBit + fraction) ((biased : Int) - 1 + leastExponent)

/-- The value of a floating-point number. -/
def ofFloat (x : Float) : Binary :=
  ofBits x.toBits

/-! ## Integer part -/

/-- The integer part of `mantissa · 2 ^ exponent`. -/
def wholePart (mantissa : Nat) (exponent : Int) : Nat :=
  if 0 ≤ exponent then mantissa * Nat.pow 2 exponent.toNat
  else mantissa / Nat.pow 2 (-exponent).toNat

/-- Drops the fraction, rounding toward zero. Values outside the signed 64-bit range, the
infinities included, become the nearest end of the range. -/
def truncate : Binary → Int64
  | notANumber => 0
  | infinite true => Int64.minValue
  | infinite false => Int64.maxValue
  | finite true m e => Int64.ofIntClamp (-(wholePart m e : Int))
  | finite false m e => Int64.ofIntClamp (wholePart m e)

end Binary

end Reckoner.Decimal
