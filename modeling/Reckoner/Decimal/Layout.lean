import Reckoner.Decimal.Shortest

/-!
# Written form of a number

A number is written with the digits of its shortest decimal. A `Layout` settles what is left
open: which numbers get an exponent, and whether a whole number keeps a point.

* `Layout.plain` is the form in which results are shown: positional always, `42`, `0.25`, `-0`.
* `Layout.field` is the form of operands in diagnostics: `5.0`, `0.0001`, `1e16`, `1.5e-7`.
* `Layout.write` is the text of a number in a layout.
-/

namespace Reckoner.Decimal

/-- The decisions of a written form that the digits leave open. -/
structure Layout where
  /-- Whether a whole number in positional form ends in `.0`. -/
  keepPoint : Bool
  /-- Whether a number whose first digit stands at `10 ^ e` is written with an exponent. -/
  usesExponent : Int → Bool

namespace Layout

/-- Results are written without exponent and whole results without point. -/
def plain : Layout where
  keepPoint := false
  usesExponent _ := false

/-- Field values are written with an exponent below `10 ^ -4` and from `10 ^ 16` on, and always
with a point otherwise. -/
def field : Layout where
  keepPoint := true
  usesExponent e := decide (e < -4 ∨ 16 ≤ e)

/-- Decimal digits of a natural number. -/
def digitsOf (n : Nat) : List Char :=
  Nat.toDigits 10 n

/-- Decimal digits of an integer, after its sign if it is negative. -/
def integerOf (n : Int) : List Char :=
  if n < 0 then '-' :: digitsOf n.natAbs else digitsOf n.natAbs

/-- What follows the last digit of a whole number. -/
def wholeTail (layout : Layout) : List Char :=
  if layout.keepPoint then ['.', '0'] else []

/-- The digits `ds` with the last one at `10 ^ exponent`, filled up with zeros. -/
def positional (layout : Layout) (ds : List Char) (exponent : Int) : List Char :=
  if 0 ≤ exponent then
    ds ++ List.replicate exponent.toNat '0' ++ layout.wholeTail
  else
    let places := (-exponent).toNat
    if places < ds.length then
      ds.take (ds.length - places) ++ '.' :: ds.drop (ds.length - places)
    else
      '0' :: '.' :: (List.replicate (places - ds.length) '0' ++ ds)

/-- One digit, the others after a point, and the exponent of the first digit. -/
def withExponent (ds : List Char) (leading : Int) : List Char :=
  let fraction := match ds.drop 1 with
    | [] => []
    | rest => '.' :: rest
  ds.take 1 ++ fraction ++ 'e' :: integerOf leading

/-- The text of a positive decimal. -/
def numeral (layout : Layout) (n : Numeral) : List Char :=
  let ds := digitsOf n.digits
  let leading := n.exponent + ds.length - 1
  if layout.usesExponent leading then withExponent ds leading
  else layout.positional ds n.exponent

/-- The sign of a number; zero has one too. -/
def signOf (negative : Bool) : List Char :=
  if negative then ['-'] else []

/-- The text of a number. What is not a number has no sign. -/
def writeChars (layout : Layout) : Binary → List Char
  | .notANumber => ['N', 'a', 'N']
  | .infinite negative => signOf negative ++ ['i', 'n', 'f']
  | .finite negative mantissa exponent =>
    signOf negative ++
      if mantissa = 0 then '0' :: layout.wholeTail
      else layout.numeral (Numeral.shortest mantissa exponent)

/-- The text of a floating-point number. -/
def write (layout : Layout) (x : Float) : String :=
  String.ofList (layout.writeChars (Binary.ofFloat x))

end Layout

/-- The text of an integer. -/
def writeInteger (n : Int) : String :=
  String.ofList (Layout.integerOf n)

end Reckoner.Decimal
