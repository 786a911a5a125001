import TileScript.Script.Access

/-!
Loops that count. If the first value and the step are integers, it is known from the start how often
the loop runs, so that no step wraps around; otherwise all is done with double-precision numbers.
-/

namespace TileScript.Script

/-- What a loop that counts keeps: its current value, the limit or how many rounds are left, and the
step. -/
structure Counting where
  current : Raw
  limit : Raw
  step : Raw

namespace Counting

/-- The last integer that a loop may reach, for a limit that may have a fraction or be out of range;
none if there is no such integer. -/
def lastInteger? (ascends : Bool) : Numeral → Option Integer
  | .integer limit => some limit
  | .number limit =>
    let toLeast := if ascends then none else some (Int64.ofInt Double.minInteger)
    let toGreatest := if ascends then some (Int64.ofInt Double.maxInteger) else none
    if limit.isNaN then toLeast
    else if limit.isFinite then
      let whole := if ascends then limit.floor else -limit.negate.floor
      if Double.maxInteger < whole then toGreatest
      else if whole < Double.minInteger then toLeast
      else some (Int64.ofInt whole)
    else if limit.isNegative then toLeast
    else toGreatest

/-- How often a loop over integers goes on after its first round; none if there is no round. -/
def rounds? (first last step : Integer) : Option Nat :=
  if 0 < step then
    if last < first then none else some ((last.toInt - first.toInt) / step.toInt).toNat
  else
    if first < last then none else some ((first.toInt - last.toInt) / -step.toInt).toNat

/-- A number of a loop, which a string may write. -/
def numeral (site : Site) (what : String) (value : Raw) : Eval Numeral := do
  match value.toNumeral? with
  | some value => return value
  | none =>
    let name ← Site.typeName value
    site.failBytes
      (("bad 'for' " ++ what ++ " (number expected, got ").toUTF8 ++ name ++ ")".toUTF8)

def zeroStep : String := "'for' step is zero"

/-- The start of a loop, none if there is no round. -/
def start? (site : Site) (first limit step : Raw) : Eval (Option Counting) := do
  match first, step with
  | .integer first, .integer step =>
    if step = 0 then site.fail zeroStep
    let limit ← numeral site "limit" limit
    return do
      let last ← lastInteger? (0 < step) limit
      let rounds ← rounds? first last step
      return ⟨.integer first, .integer (Int64.ofNat rounds), .integer step⟩
  | first, step =>
    let limit := (← numeral site "limit" limit).toDouble
    let step := (← numeral site "step" step).toDouble
    let first := (← numeral site "initial value" first).toDouble
    if step.magnitude = 0 then site.fail zeroStep
    let isEmpty := if Double.zero.less step then limit.less first else first.less limit
    return if isEmpty then none else some ⟨.number first, .number limit, .number step⟩

/-- The next round of a loop, if there is one. -/
def next? (counting : Counting) : Option Counting :=
  match counting with
  | ⟨.integer current, .integer rounds, .integer step⟩ =>
    if rounds = 0 then none
    else some ⟨.integer (current + step), .integer (rounds - 1), .integer step⟩
  | ⟨.number current, .number limit, .number step⟩ =>
    let next := Double.add current step
    let goesOn := if Double.zero.less step then next.lessOrEqual limit else limit.lessOrEqual next
    if goesOn then some ⟨.number next, .number limit, .number step⟩ else none
  | _ => none

end Counting
end TileScript.Script
