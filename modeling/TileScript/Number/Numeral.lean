import TileScript.Number.Arithmetic
import TileScript.Number.Unsigned

/-!
Numerals: decimal and hexadecimal integers and fractions. A decimal integer too large for 64 bits is
read as a double-precision number, a hexadecimal one wraps around.
-/

namespace TileScript

/-- A number of a script. -/
inductive Numeral where
  | integer (value : Integer)
  | number (value : Double)
  deriving DecidableEq, Repr

namespace Numeral

def toDouble : Numeral → Double
  | .integer value => Integer.toDouble value
  | .number value => value

/-- The integer that a number equals. -/
def toInteger? : Numeral → Option Integer
  | .integer value => some value
  | .number value => value.toInteger?.map Int64.ofInt

/-- Digits before and after the point, and what follows them. -/
structure Parts where
  whole : List Nat
  fraction : List Nat
  hasPoint : Bool
  rest : List Char

def parts (digit? : Char → Option Nat) (text : List Char) : Parts :=
  let run (text : List Char) : List Nat × List Char :=
    let digits := text.takeWhile fun c => (digit? c).isSome
    (digits.filterMap digit?, text.drop digits.length)
  let (whole, rest) := run text
  match rest with
  | '.' :: rest =>
    let (fraction, rest) := run rest
    ⟨whole, fraction, true, rest⟩
  | rest => ⟨whole, [], false, rest⟩

def ofDigits (base : Nat) (digits : List Nat) : Nat :=
  digits.foldl (fun value digit => value * base + digit) 0

/-- A signed decimal exponent, up to the end. -/
def exponent? (text : List Char) : Option Int :=
  let (negative, digits) := match text with
    | '-' :: rest => (true, rest)
    | '+' :: rest => (false, rest)
    | rest => (false, rest)
  if digits.isEmpty || !digits.all Char.isDigit then none
  else
    let value : Int := ofDigits 10 (digits.filterMap hexDigit?)
    some (if negative then -value else value)

/-- The exponent after one of `letters`, zero if the text ends before. -/
def exponentAfter? (letters : List Char) : List Char → Option Int
  | [] => some 0
  | c :: rest => if letters.contains c then exponent? rest else none

/-- The number nearest to `digits · 10 ^ exponent`. -/
def decimal (digits : Nat) (exponent : Int) : Double :=
  let magnitude : Int := exponent + (toString digits).length
  if digits = 0 || magnitude < -400 then .zero
  else if 400 < magnitude then .ofSignMagnitude false Double.infiniteMagnitude
  else .ofFloat (Float.ofScientific digits (exponent < 0) exponent.natAbs)

/-- The number nearest to `digits · 2 ^ exponent`. -/
def binary (digits : Nat) (exponent : Int) : Double :=
  let magnitude : Int := exponent + Nat.log2 digits
  if digits = 0 || magnitude < -1100 then .zero
  else if 1100 < magnitude then .ofSignMagnitude false Double.infiniteMagnitude
  else if exponent < 0 then .ofScaled digits exponent.natAbs
  else .ofInt (digits * twoPow exponent.toNat)

/-- An unsigned numeral that is the whole text. -/
def ofChars? (text : List Char) : Option Numeral :=
  match text with
  | '0' :: x :: rest =>
    if x == 'x' || x == 'X' then
      let parts := parts hexDigit? rest
      let digits := parts.whole ++ parts.fraction
      if digits.isEmpty then none
      else if !parts.hasPoint && parts.rest.isEmpty then
        some (.integer (Int64.ofNat (ofDigits 16 digits)))
      else do
        let exponent ← exponentAfter? ['p', 'P'] parts.rest
        return .number (binary (ofDigits 16 digits) (exponent - 4 * parts.fraction.length))
    else decimalOfChars? text
  | _ => decimalOfChars? text
where
  decimalOfChars? (text : List Char) : Option Numeral :=
    let parts := parts (fun c => if c.isDigit then hexDigit? c else none) text
    let digits := parts.whole ++ parts.fraction
    let value := ofDigits 10 digits
    if digits.isEmpty then none
    else if !parts.hasPoint && parts.rest.isEmpty && decide (value < Double.signBit) then
      some (.integer (Int64.ofNat value))
    else do
      let exponent ← exponentAfter? ['e', 'E'] parts.rest
      return .number (decimal value (exponent - parts.fraction.length))

/-- Blanks that may stand around a numeral. -/
def isSpace (c : Char) : Bool := c == ' ' || ('\t' ≤ c && c ≤ '\r')

/-- A signed numeral with blanks around it. -/
def ofText? (text : List Char) : Option Numeral :=
  let trimmed := ((text.dropWhile isSpace).reverse.dropWhile isSpace).reverse
  match trimmed with
  | '-' :: rest => (ofChars? rest).map fun
    | .integer value => .integer (0 - value)
    | .number value => .number value.negate
  | '+' :: rest => ofChars? rest
  | rest => ofChars? rest

end Numeral
end TileScript
