import TileScript.Script.Program

/-!
Access to tables and operators, which a metatable can take over, the text of values, and the end of
tables.
-/

namespace TileScript.Script
namespace Site

variable {α : Type}

/-! ### Metatables -/

/-- The value at a key of the metatable of a value. -/
def metavalue (value : Raw) (name : String) : Eval Raw := do
  match ← Eval.ask (.metatable value) with
  | some metatable => Eval.ask (.get metatable (.ofString name))
  | none => return .nil

/-- The name of the kind of a value in messages: its metatable may have one. -/
def typeName (value : Raw) : Eval ByteArray := do
  let plain := value.typeName.toUTF8
  match value with
  | .table _ | .file | .failure _ _ =>
    match ← metavalue value "__name" with
    | .string name => return upToZero name
    | _ => return plain
  | _ => return plain

/-- Fails because something cannot be done to a value; `mention` says which one it is. -/
def failType (site : Site) (what : String) (value : Raw) (mention : ByteArray) : Eval α := do
  let name ← typeName value
  site.failBytes (("attempt to " ++ what ++ " a ").toUTF8 ++ name ++ " value".toUTF8 ++ mention)

/-- How a fault mentions a value. -/
def mention (site : Site) (subject : Subject) : ByteArray :=
  ((site.naming? subject).map Naming.mention).getD .empty

/-- Fails because something cannot be done to a value. -/
def failOn (site : Site) (what : String) (value : Raw) (subject : Subject) : Eval α :=
  site.failType what value (site.mention subject)

/-! ### Calls -/

/-- How many values may stand in for one another when they are called or indexed. -/
def maxChain : Nat := 2000

/-- The function that is called when a value is called, and its arguments: its metatable may have a
function that takes the value itself as its first argument. -/
def resolve (site : Site) : Nat → (callee : Raw) → (arguments : List Raw) →
    Eval (FunctionRef × List Raw)
  | 0, _, _ => site.fail "stack overflow"
  | fuel + 1, callee, arguments => do
    match callee with
    | .function function => return (function, arguments)
    | callee =>
      match ← metavalue callee "__call" with
      | .nil =>
        site.failType "call" callee ((site.calleeNaming?.map Naming.mention).getD .empty)
      | handler => resolve site fuel handler (callee :: arguments)

/-- What a call comes to before it starts: it may be nested too deep, or its callee may stand for
another one. -/
def prepare (site : Site) (callee : Raw) (arguments : List Raw) :
    Eval (FunctionRef × List Raw) := do
  site.checkNesting
  site.resolve maxChain callee arguments

/-! ### Tables -/

/-- Reads a field, looking in the values that stand in for one another. -/
def indexChain (site : Site) (key : Raw) : Nat → Raw → Subject → Eval Raw
  | 0, _, _ => site.fail "'__index' chain too long; possibly a loop"
  | fuel + 1, object, subject => do
    let value ← match object with
      | .table table => Eval.ask (.get table key)
      | _ => pure .nil
    if !value.isNil then return value
    else
      match ← metavalue object "__index" with
      | .nil =>
        match object with
        | .table _ => return .nil
        | object => site.failOn "index" object subject
      | .function handler => site.callOne (.function handler) [object, key]
      | other => indexChain site key fuel other .other

/-- Reads the field `key` of a value. -/
def index (site : Site) (object key : Raw) (subject : Subject) : Eval Raw :=
  site.indexChain key maxChain object subject

/-- Sets a field past all metatables. -/
def rawSet (site : Site) (table : TableRef) (key value : Raw) : Eval Unit :=
  match key.badKey? with
  | some bad => site.fail bad.message
  | none => Eval.ask (.set table key value)

/-- Sets a field, looking in the values that stand in for one another. -/
def assignChain (site : Site) (key value : Raw) : Nat → Raw → Subject → Eval Unit
  | 0, _, _ => site.fail "'__newindex' chain too long; possibly a loop"
  | fuel + 1, object, subject => do
    let old ← match object with
      | .table table => Eval.ask (.get table key)
      | _ => pure .nil
    match object, old.isNil with
    | .table table, false => site.rawSet table key value
    | object, _ =>
      match ← metavalue object "__newindex" with
      | .nil =>
        match object with
        | .table table => site.rawSet table key value
        | object => site.failOn "index" object subject
      | .function handler =>
        let _ ← site.call (.function handler) [object, key, value]
      | other => assignChain site key value fuel other .other

def assign (site : Site) (object key value : Raw) (subject : Subject) : Eval Unit :=
  site.assignChain key value maxChain object subject

/-- The length of a value as `#` gives it. -/
def length (site : Site) (value : Raw) (subject : Subject) : Eval Raw := do
  match value with
  | .string bytes => return .integer (Int64.ofNat bytes.size)
  | value =>
    match ← metavalue value "__len", value with
    | .nil, .table table => return .integer (Int64.ofNat (← Eval.ask (.border table)))
    | .nil, value => site.failOn "get length of" value subject
    | handler, value => site.callOne handler [value, value]

/-! ### Operators -/

/-- A value with the place that a fault may know it by. -/
structure Operand where
  value : Raw
  subject : Subject

/-- What the metatable of the first operand that has one makes of an operation. -/
def takeOver? (site : Site) (name : String) (left right : Raw) : Eval (Option Raw) := do
  let handler ← match ← metavalue left name with
    | .nil => metavalue right name
    | handler => pure handler
  if handler.isNil then return none else return some (← site.callOne handler [left, right])

/-- Fails because an operation is not possible on two values: the first one is to blame unless it is
a number. -/
def failOnOperands (site : Site) (what : String) (left right : Operand) : Eval α :=
  let culprit := if left.value.isNumber then right else left
  site.failOn what culprit.value culprit.subject

/-- Fails because an operation on bits is not possible: of two numbers, the one to blame equals no
integer. -/
def failOnBits (site : Site) (left right : Operand) : Eval α :=
  if left.value.isNumber && right.value.isNumber then
    let culprit := if left.value.toInteger?.isSome then right else left
    site.failBytes ("number".toUTF8 ++ site.mention culprit.subject ++
      " has no integer representation".toUTF8)
  else site.failOnOperands "perform bitwise operation on" left right

/-- The result of an arithmetic operation on plain values. -/
def plain? (operator : ArithmeticOperator) (left right : Raw) :
    Option (Except ZeroDivision Numeral) :=
  let read (value : Raw) : Option Numeral :=
    if operator.isBitwise then value.toNumeral? else value.number?
  match read left, read right with
  | some left, some right => operator.result? left right
  | _, _ => none

def arithmetic (site : Site) (operator : ArithmeticOperator) (left right : Operand) :
    Eval Raw := do
  match plain? operator left.value right.value with
  | some (.ok result) => return .ofNumeral result
  | some (.error fault) => site.fail fault.message
  | none =>
    match ← site.takeOver? ("__" ++ operator.name) left.value right.value with
    | some result => return result
    | none =>
      if operator.isBitwise then site.failOnBits left right
      else site.failOnOperands "perform arithmetic on" left right

/-- The result of an operator on one value. -/
def unary (site : Site) (operator : UnaryOperator) (operand : Operand) : Eval Raw := do
  let value := operand.value
  match operator, value with
  | .not, value => return .boolean !value.isTrue
  | .length, value => site.length value operand.subject
  | .negate, .integer n => return .integer (0 - n)
  | .negate, .number d => return .number d.negate
  | .negate, value =>
    match ← site.takeOver? "__unm" value value with
    | some result => return result
    | none => site.failOnOperands "perform arithmetic on" operand operand
  | .bitNot, value =>
    match value.toInteger? with
    | some n => return .integer (~~~n)
    | none =>
      match ← site.takeOver? "__bnot" value value with
      | some result => return result
      | none => site.failOnBits operand operand

/-- Joins the texts of two values. -/
def concatenate (site : Site) (left right : Operand) : Eval Raw := do
  match left.value.toBytes?, right.value.toBytes? with
  | some a, some b => return .string (a ++ b)
  | first, _ =>
    match ← site.takeOver? "__concat" left.value right.value with
    | some result => return result
    | none =>
      let culprit := if first.isSome then right else left
      site.failOn "concatenate" culprit.value culprit.subject

/-- Whether two values are equal, where tables can have a say. -/
def equals (site : Site) (left right : Raw) : Eval Bool := do
  match left, right with
  | .table a, .table b =>
    if a = b then return true
    else
      match ← site.takeOver? "__eq" left right with
      | some result => return result.isTrue
      | none => return false
  | left, right => return left.equals right

/-- Whether a value comes before another one. -/
def compare (site : Site) (operator : OrderOperator) (left right : Raw) : Eval Bool := do
  match Raw.compare? operator left right with
  | some result => return result
  | none =>
    let name := match operator with
      | .less => "__lt"
      | .lessOrEqual => "__le"
    match ← site.takeOver? name left right with
    | some result => return result.isTrue
    | none =>
      let a ← typeName left
      let b ← typeName right
      if a = b then site.failBytes ("attempt to compare two ".toUTF8 ++ a ++ " values".toUTF8)
      else
        site.failBytes ("attempt to compare ".toUTF8 ++ a ++ " with ".toUTF8 ++ b)

/-! ### Text -/

/-- How an object without a text of its own is written. -/
def objectText (kind : ByteArray) (index : Nat) : ByteArray :=
  let digits := String.ofList (Nat.toDigits 16 index)
  kind ++ (": 0x" ++ String.ofList (List.replicate (14 - digits.length) '0') ++ digits).toUTF8

/-- The text of a value without a metatable that has a say. -/
def plainText (value : Raw) : Eval ByteArray := do
  let object (index : Nat) : Eval ByteArray := do
    let name ← match ← metavalue value "__name" with
      | .string name => pure (upToZero name)
      | _ => pure value.typeName.toUTF8
    return objectText name index
  match value with
  | .nil => return "nil".toUTF8
  | .boolean value => return (if value then "true" else "false").toUTF8
  | .string bytes => return bytes
  | .integer value => return (toString value.toInt).toUTF8
  | .number value => return value.scriptText.toUTF8
  | .table table => object table.index
  | .function function => object function.index
  | .thread number | .failure _ number => object number
  | .file => object 0

/-- The text of a value, which a metatable can choose, for a function called from `caller`. -/
def text (site caller : Site) (value : Raw) : Eval ByteArray := do
  match ← metavalue value "__tostring" with
  | .nil => plainText value
  | handler =>
    match (← site.callOne handler [value]).toBytes? with
    | some bytes => return bytes
    | none =>
      site.raise (.string (caller.label ++ "'__tostring' must return a string").toUTF8)

/-! ### The end of tables -/

/-- Tells tables of their end, each in a call of its own. What is raised there is lost. -/
def finalize (site : Site) : List TableRef → Eval Unit
  | [] => return
  | table :: rest => do
    let handler ← metavalue (.table table) "__gc"
    if !handler.isNil then
      let _ ← Eval.attempt (.call handler [.table table] { site with handler := none }.nested)
    finalize site rest

end Site
end TileScript.Script
