import TileScript.Number.Double

/-!
Decimal texts of numbers, in exact arithmetic: a given count of significant digits, and the fewest
digits that still read back as the same number.
-/

namespace TileScript

/-- The decimal number `digits · 10 ^ exponent`. -/
structure Decimal where
  digits : Nat
  exponent : Int
  deriving DecidableEq, Repr

namespace Decimal

/-- `c · 10 ^ t` against `b · 2 ^ q`. -/
def compareBinary (c : Nat) (t : Int) (b : Nat) (q : Int) : Ordering :=
  compare (c * tenPow t.toNat * twoPow (-q).toNat) (b * twoPow q.toNat * tenPow (-t).toNat)

/-- The count of decimal digits. -/
def width (n : Nat) : Nat := (Nat.toDigits 10 n).length

/-- The `k` with `10 ^ k ≤ b · 2 ^ q < 10 ^ (k + 1)`, for positive `b`. -/
def leading (b : Nat) (q : Int) : Int :=
  let guess := (((Nat.log2 b : Int) + q) * 30103).fdiv 100000
  if compareBinary 1 (guess + 1) b q != .gt then guess + 1
  else if compareBinary 1 guess b q == .gt then guess - 1
  else guess

/-- `b · 2 ^ q · 10 ^ t` as a quotient of natural numbers. -/
def quotient (b : Nat) (q t : Int) : Nat × Nat :=
  (b * twoPow q.toNat * tenPow t.toNat, twoPow (-q).toNat * tenPow (-t).toNat)

/-- `b · 2 ^ q` to `places` significant digits, a tie to the even digit; `b` and `places` are
positive. -/
def significant (b : Nat) (q : Int) (places : Nat) : Decimal :=
  let unit := leading b q - (places - 1 : Nat)
  let (n, d) := quotient b q (-unit)
  let below := n / d
  let twice := 2 * (n % d)
  let digits := if d < twice || (twice == d && below % 2 == 1) then below + 1 else below
  ⟨digits, unit⟩

/-- Whether `c · 10 ^ t` reads back as the positive number `d`: it lies between the middles to the
neighbours, the middles included when the significand is even. -/
def readsBack (d : Double) (c : Nat) (t : Int) : Bool :=
  let m := d.significand
  let q := d.exponent - 2
  let lower :=
    if m = Double.hiddenBit && decide (1 < d.magnitude / Double.hiddenBit) then 4 * m - 1
    else 4 * m - 2
  let above := compareBinary c t lower q
  let below := compareBinary c t (4 * m + 2) q
  if m % 2 = 0 then above != .lt && below != .gt else above == .gt && below == .lt

/-- The decimal with `places` digits next to the positive number `d` that reads back as `d`, of two
the nearer one. -/
def candidate? (d : Double) (places : Nat) : Option Decimal :=
  let unit := leading d.significand d.exponent - (places - 1 : Nat)
  let (n, s) := quotient d.significand d.exponent (-unit)
  let below := n / s
  let twice := 2 * (n % s)
  match readsBack d below unit, readsBack d (below + 1) unit with
  | true, true => some ⟨if twice ≤ s then below else below + 1, unit⟩
  | true, false => some ⟨below, unit⟩
  | false, true => some ⟨below + 1, unit⟩
  | false, false => none

/-- The fewest digits that read back as the positive finite number `d`. -/
def shortest (d : Double) : Decimal :=
  let rec search : Nat → Nat → Decimal
    | 0, places => significant d.significand d.exponent places
    | fuel + 1, places => (candidate? d places).getD (search fuel (places + 1))
  search 16 1

/-- The same number without zeros at the end of its digits. -/
def trim (d : Decimal) : Decimal :=
  let rec strip : Nat → Nat → Int → Decimal
    | 0, digits, exponent => ⟨digits, exponent⟩
    | fuel + 1, digits, exponent =>
      if digits % 10 = 0 && digits != 0 then strip fuel (digits / 10) (exponent + 1)
      else ⟨digits, exponent⟩
  strip (width d.digits) d.digits d.exponent

/-- All places written out, with a point only before a fraction. -/
def positional (d : Decimal) : String :=
  let digits := toString d.digits
  if 0 ≤ d.exponent then digits ++ String.ofList (List.replicate d.exponent.toNat '0')
  else
    let places := (-d.exponent).toNat
    let padded := List.replicate (places + 1 - digits.length) '0' ++ digits.toList
    let whole := padded.length - places
    String.ofList (padded.take whole) ++ "." ++ String.ofList (padded.drop whole)

/-- One digit before the point, and a power of ten with at least two digits. -/
def scientific (d : Decimal) : String :=
  let digits := toString d.digits
  let power := d.exponent + (digits.length - 1 : Nat)
  let fraction := String.ofList (digits.toList.drop 1)
  let size := toString power.natAbs
  String.ofList (digits.toList.take 1) ++ (if fraction.isEmpty then "" else "." ++ fraction) ++
    (if power < 0 then "e-" else "e+") ++ (if size.length < 2 then "0" ++ size else size)

end Decimal

namespace Double

/-- The shortest text that reads back, never with a power of ten. -/
def shortestText (d : Double) : String :=
  if d.isNaN then "NaN"
  else
    let text :=
      if !d.isFinite then "inf"
      else if d.magnitude = 0 then "0"
      else (Decimal.shortest d).trim.positional
    if d.isNegative then "-" ++ text else text

/-- The significant digits of a number in the text of a script. -/
def scriptDigits : Nat := 14

/-- A number as scripts print it: fourteen significant digits without trailing zeros, a power of ten
below `0.0001` and from `1e14` on, and `.0` after what would look like an integer. -/
def scriptText (d : Double) : String :=
  let text :=
    if d.isNaN then "nan"
    else if !d.isFinite then "inf"
    else if d.magnitude = 0 then "0.0"
    else
      let rounded := (Decimal.significant d.significand d.exponent scriptDigits).trim
      let power := rounded.exponent + (Decimal.width rounded.digits - 1 : Nat)
      if power < -4 || (scriptDigits : Int) ≤ power then rounded.scientific
      else if 0 ≤ rounded.exponent then rounded.positional ++ ".0"
      else rounded.positional
  if d.isNegative then "-" ++ text else text

end Double
end TileScript
