import TileScript.Script.Operand

/-!
Operators between the parts of an expression. Written numbers are computed at once where that cannot
fail; conditions become jumps.
-/

namespace TileScript.Script

inductive BinaryOperator where
  | arithmetic (operator : ArithmeticOperator)
  | concatenate
  | equal
  | notEqual
  | less
  | lessOrEqual
  | greater
  | greaterOrEqual
  | and
  | or
  deriving DecidableEq, Repr

namespace Reading

/-! ### Written numbers -/

/-- Whether a result can stand for its computation: a zero or a NaN keeps its sign only if it is
computed where it is wanted. -/
def isFoldable : Numeral → Bool
  | .integer _ => true
  | .number value => !value.isNaN && value.magnitude != 0

/-- The result of an operator on written numbers, if it is known and cannot fail. -/
def fold? (operator : ArithmeticOperator) (left right : Operand) : Option Numeral := do
  let a ← left.numeral?
  let b ← right.numeral?
  let divides := match operator with
    | .divide | .floorDivide | .modulo => true
    | _ => false
  if divides && b.toDouble.magnitude == 0 then none
  else
    match ← operator.result? a b with
    | .ok result => if isFoldable result then some result else none
    | .error _ => none

/-- The result of an operator on a written number. -/
def foldUnary? (operator : UnaryOperator) (operand : Operand) : Option Numeral := do
  let value ← operand.numeral?
  let result ← match operator, value with
    | .negate, .integer n => some (.integer (0 - n))
    | .negate, .number d => some (.number d.negate)
    | .bitNot, value => value.toInteger?.map fun n => .integer (~~~n)
    | _, _ => none
  if isFoldable result then some result else none

/-! ### Operators with a result -/

/-- Writes an arithmetic instruction; `right` is part of it already. -/
def finishArithmetic (operator : ArithmeticOperator) (left right : Operand) (source : Source)
    (isFlipped : Bool) (line : Nat) : Reading Operand := do
  let (register, left) ← toRegister left
  let place ← emit (.arithmetic operator 0 register source isFlipped)
  releaseOperands left right
  setLine line
  return { left with form := .pending place }

def arithmeticOnRegisters (operator : ArithmeticOperator) (left right : Operand) (line : Nat) :
    Reading Operand := do
  let (register, right) ← toRegister right
  finishArithmetic operator left right (.register register) false line

/-- An arithmetic instruction with a constant on its right if there is one. -/
def arithmeticOnConstant (operator : ArithmeticOperator) (left right : Operand)
    (isFlipped : Bool) (line : Nat) : Reading Operand := do
  match ← (if right.numeral?.isSome then operandConstant? right else pure none) with
  | some value => finishArithmetic operator left right (.constant value) isFlipped line
  | none =>
    if isFlipped then arithmeticOnRegisters operator right left line
    else arithmeticOnRegisters operator left right line

def arithmeticOnShort (operator : ArithmeticOperator) (left right : Operand) (value : Integer)
    (isFlipped : Bool) (line : Nat) : Reading Operand :=
  finishArithmetic operator left right (.constant (.integer value)) isFlipped line

def isShortBothWays (value : Integer) : Bool := -127 ≤ value && value ≤ 127

def arithmetic (operator : ArithmeticOperator) (left right : Operand) (line : Nat) :
    Reading Operand := do
  match operator with
  | .add | .multiply =>
    let isFlipped := left.numeral?.isSome
    let (left, right) := if isFlipped then (right, left) else (left, right)
    match operator, right.shortInteger? with
    | .add, some value => arithmeticOnShort operator left right value isFlipped line
    | _, _ => arithmeticOnConstant operator left right isFlipped line
  | .bitAnd | .bitOr | .bitXor =>
    let isFlipped := left.integer?.isSome
    let (left, right) := if isFlipped then (right, left) else (left, right)
    match ← (if right.integer?.isSome then operandConstant? right else pure none) with
    | some value => finishArithmetic operator left right (.constant value) isFlipped line
    | none =>
      if isFlipped then arithmeticOnRegisters operator right left line
      else arithmeticOnRegisters operator left right line
  | .subtract =>
    match right.integer?.filter isShortBothWays with
    | some value => arithmeticOnShort operator left right value false line
    | none => arithmeticOnConstant operator left right false line
  | .modulo | .power | .divide | .floorDivide =>
    arithmeticOnConstant operator left right false line
  | .shiftLeft =>
    match left.shortInteger?, right.integer?.filter isShortBothWays with
    | some value, _ => arithmeticOnShort operator right left value true line
    | none, some value => arithmeticOnShort operator left right value false line
    | none, none => arithmeticOnRegisters operator left right line
  | .shiftRight =>
    match right.shortInteger? with
    | some value => arithmeticOnShort operator left right value false line
    | none => arithmeticOnRegisters operator left right line

/-- Writes a concatenation, or extends the one on the right of the operator. -/
def concatenate (left right : Operand) (line : Nat) : Reading Operand := do
  let right ← toNextRegister right
  match left.form with
  | .register first =>
    match ← previous? with
    | some (.concatenate _ count) =>
      releaseOperand right
      change ((← draft).place - 1) fun _ => .concatenate first (count + 1)
    | _ =>
      let _ ← emit (.concatenate first 2)
      releaseOperand right
      setLine line
    return left
  | _ => return left

/-! ### Comparisons -/

def compareOrder (operator : OrderOperator) (left right : Operand) : Reading Operand := do
  let finish (left right : Operand) (a b : Source) : Reading Operand := do
    releaseOperands left right
    return { left with form := .condition (← conditionalJump (.order operator a b true)) }
  match right.shortNumeral?, left.shortNumeral? with
  | some value, _ =>
    let (a, left) ← toRegister left
    finish left right (.register a) (.constant (.ofNumeral value))
  | none, some value =>
    let (b, right) ← toRegister right
    finish left right (.constant (.ofNumeral value)) (.register b)
  | none, none =>
    let (a, left) ← toRegister left
    let (b, right) ← toRegister right
    finish left right (.register a) (.register b)

def compareEqual (left right : Operand) (expected : Bool) : Reading Operand := do
  let (left, right) := match left.form with
    | .register _ => (left, right)
    | _ => (right, left)
  let (a, left) ← toRegister left
  let (b, right) ← match right.shortNumeral? with
    | some value => pure (Source.constant (.ofNumeral value), right)
    | none => toSource right
  releaseOperands left right
  return { left with form := .condition (← conditionalJump (.equal a b expected)) }

/-! ### All operators -/

def applyUnary (operator : UnaryOperator) (operand : Operand) (line : Nat) : Reading Operand := do
  let operand ← resolve operand
  match foldUnary? operator operand with
  | some value => return { operand with form := .constant (.ofNumeral value) }
  | none =>
    match operator with
    | .not => negation operand
    | operator =>
      let (register, operand) ← toRegister operand
      releaseOperand operand
      let place ← emit (.unary operator 0 register)
      setLine line
      return { operand with form := .pending place }
where
  negation (operand : Operand) : Reading Operand := do
    let form ← match operand.form with
      | .constant value => pure (Form.constant (.boolean !value.isTrue))
      | .condition jump =>
        negateCondition jump
        pure operand.form
      | _ =>
        let operand ← putAnywhere operand
        releaseOperand operand
        match operand.form with
        | .register register => pure (.pending (← emit (.unary .not 0 register)))
        | form => pure form
    dropValues operand.whenTrue
    dropValues operand.whenFalse
    return ⟨form, operand.whenFalse, operand.whenTrue⟩

/-- What an operator does to its left operand before the right one is read. -/
def beforeRight (operator : BinaryOperator) (left : Operand) : Reading Operand := do
  let left ← resolve left
  match operator with
  | .and => goIfTrue left
  | .or => goIfFalse left
  | .concatenate => toNextRegister left
  | .arithmetic _ =>
    if left.numeral?.isSome then return left else return (← toRegister left).2
  | .equal | .notEqual =>
    if left.numeral?.isSome then return left else return (← toSource left).2
  | .less | .lessOrEqual | .greater | .greaterOrEqual =>
    if left.shortNumeral?.isSome then return left else return (← toRegister left).2

def applyBinary (operator : BinaryOperator) (left right : Operand) (line : Nat) :
    Reading Operand := do
  let right ← resolve right
  match operator with
  | .and => return { right with whenFalse := right.whenFalse ++ left.whenFalse }
  | .or => return { right with whenTrue := right.whenTrue ++ left.whenTrue }
  | .concatenate => concatenate left right line
  | .arithmetic operator =>
    match fold? operator left right with
    | some value => return { left with form := .constant (.ofNumeral value) }
    | none => arithmetic operator left right line
  | .equal => compareEqual left right true
  | .notEqual => compareEqual left right false
  | .less => compareOrder .less left right
  | .lessOrEqual => compareOrder .lessOrEqual left right
  | .greater => compareOrder .less right left
  | .greaterOrEqual => compareOrder .lessOrEqual right left

end Reading
end TileScript.Script
