import TileScript.Script.Raw

/-!
Arithmetic and comparison of plain values. What a metatable can take over is not here: an operation
that plain values do not have has no result.
-/

namespace TileScript.Script

inductive ArithmeticOperator where
  | add
  | subtract
  | multiply
  | modulo
  | power
  | divide
  | floorDivide
  | bitAnd
  | bitOr
  | bitXor
  | shiftLeft
  | shiftRight
  deriving DecidableEq, Repr, Inhabited

namespace ArithmeticOperator

/-- The name of the operation, as metatables and messages call it. -/
def name : ArithmeticOperator → String
  | .add => "add"
  | .subtract => "sub"
  | .multiply => "mul"
  | .modulo => "mod"
  | .power => "pow"
  | .divide => "div"
  | .floorDivide => "idiv"
  | .bitAnd => "band"
  | .bitOr => "bor"
  | .bitXor => "bxor"
  | .shiftLeft => "shl"
  | .shiftRight => "shr"

/-- Whether the operation is on the bits of integers. -/
def isBitwise : ArithmeticOperator → Bool
  | .bitAnd | .bitOr | .bitXor | .shiftLeft | .shiftRight => true
  | _ => false

end ArithmeticOperator

inductive OrderOperator where
  | less
  | lessOrEqual
  deriving DecidableEq, Repr, Inhabited

/-- Division and remainder of integers by zero. -/
inductive ZeroDivision where
  | quotient
  | remainder
  deriving DecidableEq, Repr

def ZeroDivision.message : ZeroDivision → String
  | .quotient => "attempt to divide by zero"
  | .remainder => "attempt to perform 'n%0'"

namespace ArithmeticOperator

def onNumbers (operator : ArithmeticOperator) (a b : Double) : Double :=
  match operator with
  | .add => Double.add a b
  | .subtract => Double.subtract a b
  | .multiply => Double.multiply a b
  | .divide => Double.divide a b
  | .floorDivide => Double.floorDivide a b
  | .modulo => Double.modulo a b
  | .power => Double.power a b
  | _ => a

def onIntegers (operator : ArithmeticOperator) (a b : Integer) : Except ZeroDivision Numeral :=
  match operator with
  | .add => .ok (.integer (a + b))
  | .subtract => .ok (.integer (a - b))
  | .multiply => .ok (.integer (a * b))
  | .floorDivide =>
    if b = 0 then .error .quotient else .ok (.integer (Integer.floorDivide a b))
  | .modulo => if b = 0 then .error .remainder else .ok (.integer (Integer.modulo a b))
  | .divide => .ok (.number (Double.divide a.toDouble b.toDouble))
  | .power => .ok (.number (Double.power a.toDouble b.toDouble))
  | .bitAnd => .ok (.integer (a &&& b))
  | .bitOr => .ok (.integer (a ||| b))
  | .bitXor => .ok (.integer (a ^^^ b))
  | .shiftLeft => .ok (.integer (Integer.shiftLeft a b))
  | .shiftRight => .ok (.integer (Integer.shiftLeft a (0 - b)))

/-- The result for two numbers. Operations on bits have none unless both equal integers. -/
def result? (operator : ArithmeticOperator) (a b : Numeral) :
    Option (Except ZeroDivision Numeral) :=
  if operator.isBitwise then
    match a.toInteger?, b.toInteger? with
    | some a, some b => some (operator.onIntegers a b)
    | _, _ => none
  else
    match a, b with
    | .integer a, .integer b => some (operator.onIntegers a b)
    | a, b => some (.ok (.number (operator.onNumbers a.toDouble b.toDouble)))

end ArithmeticOperator

namespace Raw

/-- The value as a number; a string is none here, whatever it writes. -/
def number? : Raw → Option Numeral
  | .integer value => some (.integer value)
  | .number value => some (.number value)
  | _ => none

def bytesLess : List UInt8 → List UInt8 → Bool
  | _, [] => false
  | [], _ :: _ => true
  | a :: as, b :: bs => a < b || (a == b && bytesLess as bs)

/-- The order of two numbers or of two strings. -/
def compare? (operator : OrderOperator) (a b : Raw) : Option Bool :=
  match a, b with
  | .integer a, .integer b =>
    some (match operator with
      | .less => decide (a < b)
      | .lessOrEqual => decide (a ≤ b))
  | .number a, .number b =>
    some (match operator with
      | .less => a.less b
      | .lessOrEqual => a.lessOrEqual b)
  | .integer a, .number b =>
    some (match operator with
      | .less => Double.intLess a.toInt b
      | .lessOrEqual => Double.intLess a.toInt b || b.equalsInt a.toInt)
  | .number a, .integer b =>
    some (match operator with
      | .less => Double.lessInt a b.toInt
      | .lessOrEqual => Double.lessInt a b.toInt || a.equalsInt b.toInt)
  | .string a, .string b =>
    some (match operator with
      | .less => bytesLess a.toList b.toList
      | .lessOrEqual => !bytesLess b.toList a.toList)
  | _, _ => none

end Raw
end TileScript.Script
