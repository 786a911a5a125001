import TileScript.Number.Power

/-!
Double-precision numbers (IEEE 754 binary64), given by their bits. The classes, the numeric order,
the total order and the way to and from integers are integer arithmetic on the bit pattern, so
their laws can be stated and proved for every number.
-/

namespace TileScript

/-- A double-precision number by its 64 bits. -/
structure Double where
  bits : UInt64
  deriving DecidableEq, Repr, Inhabited

namespace Double

/-- The sign bit, two to the power 63. -/
def signBit : Nat := 0x8000000000000000

/-- The bit above the stored part of a significand, two to the power 52. -/
def hiddenBit : Nat := 0x10000000000000

/-- Whether the sign bit is set; NaN and zero have a sign too. -/
def isNegative (d : Double) : Bool := decide (signBit ≤ d.bits.toNat)

/-- The bits without the sign. Among numbers that are not NaN a larger magnitude is a larger
absolute value. -/
def magnitude (d : Double) : Nat := d.bits.toNat % signBit

/-- The magnitude of the infinities; every larger one is a NaN. -/
def infiniteMagnitude : Nat := 0x7ff0000000000000

def isNaN (d : Double) : Bool := decide (infiniteMagnitude < d.magnitude)

def isFinite (d : Double) : Bool := decide (d.magnitude < infiniteMagnitude)

/-- The digits of a finite number, which is `±significand · 2 ^ exponent`. -/
def significand (d : Double) : Nat :=
  if d.magnitude < hiddenBit then d.magnitude else d.magnitude % hiddenBit + hiddenBit

/-- The place of the last digit of the significand. -/
def exponent (d : Double) : Int := (max 1 (d.magnitude / hiddenBit) : Nat) - 1075

def zero : Double := ⟨0⟩

def ofSignMagnitude (negative : Bool) (magnitude : Nat) : Double :=
  ⟨UInt64.ofNat (if negative then signBit + magnitude else magnitude)⟩

/-- The other sign, also of zero and NaN. -/
def negate (d : Double) : Double := ofSignMagnitude (!d.isNegative) d.magnitude

/-! ### Orders -/

/-- The magnitude with its sign. Both zeros give `0`, so this orders numbers that are not NaN as
their values are ordered. -/
def signedMagnitude (d : Double) : Int :=
  if d.isNegative then -(d.magnitude : Int) else d.magnitude

/-- Numeric equality: NaN differs from everything, and the two zeros are equal. -/
def equals (a b : Double) : Bool :=
  !a.isNaN && !b.isNaN && a.signedMagnitude == b.signedMagnitude

/-- Whether one number is below another; false as soon as one of them is NaN. -/
def less (a b : Double) : Bool :=
  !a.isNaN && !b.isNaN && decide (a.signedMagnitude < b.signedMagnitude)

/-- Whether one number is below another or equal to it; also false for NaN. -/
def lessOrEqual (a b : Double) : Bool :=
  !a.isNaN && !b.isNaN && decide (a.signedMagnitude ≤ b.signedMagnitude)

/-- The place of a number in the total order of all bit patterns: negative NaN, `-∞`, the negative
numbers, `-0`, `0`, the positive numbers, `∞`, NaN. -/
def rank (d : Double) : Int :=
  if d.isNegative then -(d.magnitude : Int) - 1 else d.magnitude

/-! ### Integers -/

/-- How many binary digits a finite number has after the point. -/
def scale (d : Double) : Nat := (-d.exponent).toNat

/-- A finite number without its point: the number is `numerator / 2 ^ scale`. -/
def numerator (d : Double) : Int :=
  let whole : Int := d.significand * twoPow d.exponent.toNat
  if d.isNegative then -whole else whole

/-- Finite and without a fraction. -/
def isWhole (d : Double) : Bool := d.isFinite && d.numerator % twoPow d.scale == 0

/-- The integer part of a finite number, toward zero. -/
def wholePart (d : Double) : Int := d.numerator.tdiv (twoPow d.scale)

/-- The greatest integer not above a finite number. -/
def floor (d : Double) : Int := d.numerator.fdiv (twoPow d.scale)

/-- The least 64-bit integer. -/
def minInteger : Int := -0x8000000000000000

/-- The greatest 64-bit integer. -/
def maxInteger : Int := 0x7fffffffffffffff

/-- The number as a 64-bit integer: the fraction is dropped, what is out of range goes to the nearer
end, and NaN is zero. -/
def truncate (d : Double) : Int :=
  if d.isNaN then 0
  else if d.isFinite then max minInteger (min maxInteger d.wholePart)
  else if d.isNegative then minInteger
  else maxInteger

/-- The integer equal to the number, if it has no fraction and fits 64 bits. -/
def toInteger? (d : Double) : Option Int :=
  if d.isWhole && decide (minInteger ≤ d.wholePart) && decide (d.wholePart ≤ maxInteger) then
    some d.wholePart
  else
    none

/-- `n / 2 ^ s` to the nearest integer, a tie to the even one. -/
def roundShift (n s : Nat) : Nat :=
  let unit := twoPow s
  let quotient := n / unit
  let twice := 2 * (n % unit)
  if unit < twice || (twice == unit && quotient % 2 == 1) then quotient + 1 else quotient

/-- The number nearest to `n / 2 ^ s`, a tie to the even significand. -/
def ofScaled (n : Int) (s : Nat) : Double :=
  let size := n.natAbs
  if size = 0 then zero
  else
    let unit : Int := max ((Nat.log2 size : Int) - s - 52) (-1074)
    let shift : Int := unit + s
    let rounded :=
      if shift < 0 then size * twoPow (-shift).toNat else roundShift size shift.toNat
    let magnitude := (unit + 1074).toNat * hiddenBit + rounded
    ofSignMagnitude (decide (n < 0)) (min magnitude infiniteMagnitude)

/-- The number nearest to an integer, a tie to the even significand. -/
def ofInt (n : Int) : Double := ofScaled n 0

/-- An integer against a number: `n < d`. -/
def intLess (n : Int) (d : Double) : Bool :=
  if d.isFinite then decide (n * twoPow d.scale < d.numerator) else !d.isNaN && !d.isNegative

/-- A number against an integer: `d < n`. -/
def lessInt (d : Double) (n : Int) : Bool :=
  if d.isFinite then decide (d.numerator < n * twoPow d.scale) else !d.isNaN && d.isNegative

/-- A number against an integer: `d = n`. -/
def equalsInt (d : Double) (n : Int) : Bool :=
  d.isFinite && d.numerator == n * twoPow d.scale

end Double
end TileScript
