import TileScript.Number.Double

/-!
Arithmetic of scripts: wrapping 64-bit integers and double-precision numbers. Division and
remainder round toward minus infinity, so a remainder has the sign of the divisor.
-/

namespace TileScript

namespace Double

def ofFloat (x : Float) : Double := ⟨x.toBits⟩

def toFloat (d : Double) : Float := Float.ofBits d.bits

/-- The NaN of an invalid operation; its sign bit is set. -/
def invalid : Double := ⟨0xfff8000000000000⟩

/-- An operation on two numbers, where a NaN operand is the result and a new NaN is `invalid`. -/
def operate (f : Float → Float → Float) (a b : Double) : Double :=
  if a.isNaN then a
  else if b.isNaN then b
  else
    let result := ofFloat (f a.toFloat b.toFloat)
    if result.isNaN then invalid else result

def add : Double → Double → Double := operate (· + ·)

def subtract : Double → Double → Double := operate (· - ·)

def multiply : Double → Double → Double := operate (· * ·)

def divide : Double → Double → Double := operate (· / ·)

/-- Powers, where `x ^ 0` and `1 ^ x` are one even for NaN. -/
def power (a b : Double) : Double :=
  let result := ofFloat (Float.pow a.toFloat b.toFloat)
  if result.isNaN then (if a.isNaN then a else if b.isNaN then b else invalid) else result

/-- The greatest whole number not above the number; infinities and NaN stay. -/
def floorNumber (d : Double) : Double :=
  if d.isWhole || !d.isFinite then d
  else
    let below := ofInt d.floor
    if below.magnitude = 0 && d.isNegative then below.negate else below

/-- Division rounded toward minus infinity. -/
def floorDivide (a b : Double) : Double := (divide a b).floorNumber

/-- The remainder of `floorDivide`, exact, with the sign of the divisor. -/
def modulo (a b : Double) : Double :=
  if a.isNaN then a
  else if b.isNaN then b
  else if !a.isFinite || b.magnitude = 0 then invalid
  else if !b.isFinite then
    if a.magnitude = 0 || a.isNegative == b.isNegative then a else b
  else
    let common := max a.scale b.scale
    let top := a.numerator * twoPow (common - a.scale)
    let bottom := b.numerator * twoPow (common - b.scale)
    let rest := top.tmod bottom
    if rest = 0 then ofSignMagnitude a.isNegative 0
    else if (rest < 0) == (bottom < 0) then ofScaled rest common
    else ofScaled (rest + bottom) common

end Double

/-- A 64-bit integer: arithmetic wraps around. -/
abbrev Integer := Int64

namespace Integer

def toDouble (n : Integer) : Double := Double.ofInt n.toInt

/-- Division rounded toward minus infinity; the divisor is not zero. -/
def floorDivide (a b : Integer) : Integer := Int64.ofInt (a.toInt.fdiv b.toInt)

/-- The remainder of `floorDivide`; the divisor is not zero. -/
def modulo (a b : Integer) : Integer := Int64.ofInt (a.toInt.fmod b.toInt)

/-- The bits of an integer moved toward the high end, zeros behind them; a negative distance moves
them the other way. -/
def shiftLeft (n distance : Integer) : Integer :=
  let amount := distance.toInt
  let bits := n.toUInt64
  let moved : UInt64 :=
    if amount ≤ -64 || 64 ≤ amount then 0
    else if 0 ≤ amount then bits <<< UInt64.ofNat amount.toNat
    else bits >>> UInt64.ofNat (-amount).toNat
  moved.toInt64

end Integer
end TileScript
