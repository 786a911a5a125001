import TileScript.Script.Draft

/-!
What the parts of an expression have come to while it is read. A value is put into a register as
late as possible, so that a constant, a variable or a condition can take part in an instruction as
it is.
-/

namespace TileScript.Script

/-- Where a value is, or what has yet to be done to get it. -/
inductive Form where
  | void
  | constant (value : Raw)
  | register (index : Nat)
  /-- A local variable, by its register and its place among the variables. -/
  | localVariable (register place : Nat)
  | upvalue (index : Nat)
  /-- A variable that takes no register. -/
  | known (name : String) (value : Raw)
  | global (upvalue : Nat) (key : ByteArray)
  | indexed (table key : Nat)
  | item (table key : Nat)
  | field (table : Nat) (key : ByteArray)
  /-- The outcome of a condition, by the jump behind it. -/
  | condition (jump : Nat)
  /-- The result of an instruction that has no register for it yet. -/
  | pending (place : Nat)
  | call (place : Nat)
  | varargs (place : Nat)
  deriving Inhabited

/-- A value, and the jumps that leave its expression before with a true or with a false value. -/
structure Operand where
  form : Form
  whenTrue : List Nat
  whenFalse : List Nat
  deriving Inhabited

namespace Operand

def ofForm (form : Form) : Operand := ⟨form, [], []⟩

def void : Operand := .ofForm .void

def ofString (bytes : ByteArray) : Operand := .ofForm (.constant (.string bytes))

def hasJumps (operand : Operand) : Bool :=
  !operand.whenTrue.isEmpty || !operand.whenFalse.isEmpty

/-- Whether the count of values is not known yet. -/
def isOpen (operand : Operand) : Bool :=
  match operand.form with
  | .call _ | .varargs _ => true
  | _ => false

def isVoid (operand : Operand) : Bool :=
  match operand.form with
  | .void => true
  | _ => false

/-- Whether an assignment can set it. -/
def isVariable (operand : Operand) : Bool :=
  match operand.form with
  | .localVariable .. | .upvalue _ | .known .. => true
  | .global .. | .indexed .. | .item .. | .field .. => true
  | _ => false

/-- A written number. -/
def numeral? (operand : Operand) : Option Numeral :=
  if operand.hasJumps then none
  else
    match operand.form with
    | .constant value => value.number?
    | _ => none

def integer? (operand : Operand) : Option Integer :=
  match operand.numeral? with
  | some (.integer value) => some value
  | _ => none

/-- A written integer that is short enough to stand in an instruction. -/
def shortInteger? (operand : Operand) : Option Integer :=
  operand.integer?.filter fun value => -127 ≤ value && value ≤ 128

/-- A written number that is short enough to stand in an instruction. -/
def shortNumeral? (operand : Operand) : Option Numeral :=
  operand.numeral?.filter fun value =>
    match value.toInteger? with
    | some value => -127 ≤ value && value ≤ 128
    | none => false

end Operand

namespace Reading

/-- The greatest number of a constant that an instruction can refer to as an operand. -/
def maxOperandConstant : Nat := 255

/-- The greatest length of a text that can be the key of a field in an instruction. -/
def maxKeyLength : Nat := 40

/-- Gives up the register of an operand, if it has one of its own. -/
def releaseOperand (operand : Operand) : Reading Unit := do
  match operand.form with
  | .register register => release register
  | _ => return

/-- Gives up two registers, the later one first. -/
def releaseBoth (a b : Nat) : Reading Unit := do
  release (max a b)
  release (min a b)

/-- Gives up the registers of two operands, the later one first. -/
def releaseOperands (a b : Operand) : Reading Unit := do
  match a.form, b.form with
  | .register a, .register b => releaseBoth a b
  | .register a, _ => release a
  | _, .register b => release b
  | _, _ => return

/-! ### Counts of results -/

/-- Gives an open operand a count of values, or all if there is none. -/
def setResults (operand : Operand) (count : Option Nat) : Reading Unit := do
  match operand.form with
  | .call place => change place (.withResults count)
  | .varargs place =>
    let free := (← draft).free
    change place fun instruction => (instruction.withResults count).retarget free
    reserve 1
  | _ => return

/-- Gives an open operand one value. -/
def setOneResult (operand : Operand) : Reading Operand := do
  match operand.form with
  | .call place =>
    match ← instruction place with
    | .call function _ _ => return { operand with form := .register function }
    | _ => return operand
  | .varargs place =>
    change place (.withResults (some 1))
    return { operand with form := .pending place }
  | _ => return operand

/-! ### Values in registers -/

/-- Reads a variable, so that what remains is a value. -/
def resolve (operand : Operand) : Reading Operand := do
  let pend (instruction : Instruction) : Reading Operand := do
    return { operand with form := .pending (← emit instruction) }
  match operand.form with
  | .known _ value => return { operand with form := .constant value }
  | .localVariable register _ => return { operand with form := .register register }
  | .upvalue index => pend (.getUpvalue 0 index)
  | .global upvalue key => pend (.getGlobal 0 upvalue key)
  | .item table key =>
    release table
    pend (.getInteger 0 table key)
  | .field table key =>
    release table
    pend (.getField 0 table key)
  | .indexed table key =>
    releaseBoth table key
    pend (.get 0 table key)
  | .call _ | .varargs _ => setOneResult operand
  | _ => return operand

/-- Whether an integer is short enough to be loaded without a constant. -/
def isLoadable (value : Integer) : Bool := -65535 ≤ value && value ≤ 65536

/-- Loads a constant, which is taken up unless it is short. -/
def loadConstant (register : Nat) (value : Raw) : Reading Unit := do
  let keep (value : Raw) : Reading Unit := do
    let _ ← constant value
    let _ ← emit (.load register value)
  match value with
  | .nil => loadNil register 1
  | .integer n =>
    if isLoadable n then
      let _ ← emit (.load register value)
    else keep value
  | .number d =>
    match d.toInteger? with
    | some n =>
      if isLoadable (Int64.ofInt n) then
        let _ ← emit (.load register (.number (Double.ofInt n)))
      else keep value
    | none => keep value
  | .string _ => keep value
  | value =>
    let _ ← emit (.load register value)

/-- Puts a value into a register; a condition stays one. -/
def put (operand : Operand) (register : Nat) : Reading Operand := do
  let operand ← resolve operand
  let done : Operand := { operand with form := .register register }
  match operand.form with
  | .constant value =>
    loadConstant register value
    return done
  | .pending place =>
    change place (.retarget register)
    return done
  | .register source =>
    if source ≠ register then
      let _ ← emit (.move register source)
    return done
  | _ => return operand

/-- Puts a value into a register if it is in none. -/
def putAnywhere (operand : Operand) : Reading Operand := do
  match operand.form with
  | .register _ => return operand
  | _ =>
    reserve 1
    put operand ((← draft).free - 1)

/-- Writes the two instructions that early exits without a value lead to, the one for false first.
-/
def loadBooleans (isCondition : Bool) (register : Nat) : Reading (Nat × Nat) := do
  let past ← if isCondition then pure [] else do pure [← jump]
  let _ ← here
  let first ← emit (.loadFalse register)
  let _ ← here
  let second ← emit (.load register (.boolean true))
  settleHere past
  return (first, second)

/-- Puts the whole value of an expression into a register, its early exits included. -/
def finishIn (operand : Operand) (register : Nat) : Reading Operand := do
  let operand ← put operand register
  let (isCondition, whenTrue) := match operand.form with
    | .condition jump => (true, operand.whenTrue ++ [jump])
    | _ => (false, operand.whenTrue)
  if !whenTrue.isEmpty || !operand.whenFalse.isEmpty then
    let (first, second) ←
      if (← needsValue whenTrue) || (← needsValue operand.whenFalse) then
        loadBooleans isCondition register
      else pure (0, 0)
    let final ← here
    settleJumps (some register) final first operand.whenFalse
    settleJumps (some register) final second whenTrue
  return .ofForm (.register register)

/-- Puts a value into the next free register. -/
def toNextRegister (operand : Operand) : Reading Operand := do
  let operand ← resolve operand
  releaseOperand operand
  reserve 1
  finishIn operand ((← draft).free - 1)

/-- Puts a value into some register, where it may be already. -/
def toRegister (operand : Operand) : Reading (Nat × Operand) := do
  let operand ← resolve operand
  let next : Reading (Nat × Operand) := do
    let operand ← toNextRegister operand
    match operand.form with
    | .register register => return (register, operand)
    | _ => return (0, operand)
  match operand.form with
  | .register register =>
    if !operand.hasJumps then return (register, operand)
    else if (← draft).variableRegisters ≤ register then
      return (register, ← finishIn operand register)
    else next
  | _ => next

/-- Puts a value into some register, unless it is an upvalue. -/
def toRegisterOrUpvalue (operand : Operand) : Reading Operand := do
  match operand.form, operand.hasJumps with
  | .upvalue _, false => return operand
  | _, _ => return (← toRegister operand).2

/-- Makes a value of an expression, a constant as it is. -/
def toValue (operand : Operand) : Reading Operand := do
  match operand.form, operand.hasJumps with
  | .condition _, _ | _, true => return (← toRegister operand).2
  | _, false => resolve operand

/-- A constant that an instruction can take as an operand. -/
def operandConstant? (operand : Operand) : Reading (Option Raw) := do
  match operand.form, operand.hasJumps with
  | .constant value, false =>
    if (← constant value) ≤ maxOperandConstant then return some value else return none
  | _, _ => return none

/-- A value as an operand: a constant as it is, everything else in a register. -/
def toSource (operand : Operand) : Reading (Source × Operand) := do
  match ← operandConstant? operand with
  | some value => return (.constant value, operand)
  | none =>
    let (register, operand) ← toRegister operand
    return (.register register, operand)

/-! ### Variables -/

/-- Sets a variable to a value. -/
def store (target value : Operand) : Reading Unit := do
  let put (instruction : Source → Instruction) : Reading Unit := do
    let (source, value) ← toSource value
    let _ ← emit (instruction source)
    releaseOperand value
  match target.form with
  | .localVariable register _ =>
    releaseOperand value
    let _ ← finishIn value register
  | .upvalue index =>
    let (register, value) ← toRegister value
    let _ ← emit (.setUpvalue register index)
    releaseOperand value
  | .global upvalue key => put (.setGlobal upvalue key)
  | .item table key => put (.setInteger table key)
  | .field table key => put (.setField table key)
  | .indexed table key => put (.set table key)
  | _ => return

/-- A text that can be the key of a field in an instruction. -/
def fieldKey? (key : Operand) : Reading (Option ByteArray) := do
  match key.form, key.hasJumps with
  | .constant (.string bytes), false =>
    if (← constant (.string bytes)) ≤ maxOperandConstant && decide (bytes.size ≤ maxKeyLength) then
      return some bytes
    else return none
  | _, _ => return none

/-- The field of a table, which is in a register or an upvalue, at a key. -/
def index (table key : Operand) : Reading Operand := do
  let inRegister (register : Nat) (table : Operand) : Reading Operand := do
    match ← fieldKey? key with
    | some bytes => return { table with form := .field register bytes }
    | none =>
      match key.integer? with
      | some n =>
        if 0 ≤ n && n ≤ 255 then return { table with form := .item register n.toInt.toNat }
        else computed register table
      | none => computed register table
  match table.form with
  | .upvalue upvalue =>
    match ← fieldKey? key with
    | some bytes => return { table with form := .global upvalue bytes }
    | none =>
      let (register, table) ← toRegister table
      inRegister register table
  | .localVariable register _ | .register register => inRegister register table
  | _ => return table
where
  computed (register : Nat) (table : Operand) : Reading Operand := do
    let (key, _) ← toRegister key
    return { table with form := .indexed register key }

/-- Reads a method of a value, which becomes the first argument of the call to follow. -/
def selectMethod (object : Operand) (name : ByteArray) : Reading Operand := do
  let (register, object) ← toRegister object
  releaseOperand object
  let function := (← draft).free
  reserve 2
  let (source, key) ← toSource (.ofString name)
  let _ ← emit (.method function register source)
  releaseOperand key
  return .ofForm (.register function)

/-! ### Conditions -/

/-- Gives the condition before a jump the opposite expectation. -/
def negateCondition (jump : Nat) : Reading Unit := do
  change (← controlOf jump) .negate

/-- Writes a jump that is made if the truth of a value is as expected, and keeps the value. -/
def jumpIf (operand : Operand) (expected : Bool) : Reading Nat := do
  let keep (operand : Operand) : Reading Nat := do
    let operand ← putAnywhere operand
    releaseOperand operand
    match operand.form with
    | .register register => conditionalJump (.testSet none register expected)
    | _ => jump
  match operand.form with
  | .pending place =>
    match ← instruction place with
    | .unary .not _ source =>
      modifyDraft fun draft => { draft with code := draft.code.pop, lines := draft.lines.pop }
      conditionalJump (.test source (!expected))
    | _ => keep operand
  | _ => keep operand

/-- Goes on if the value is true, and leaves the expression otherwise. -/
def goIfTrue (operand : Operand) : Reading Operand := do
  let operand ← resolve operand
  let leave : Reading (List Nat) := do return [← jumpIf operand false]
  let jumps ← match operand.form with
    | .condition jump =>
      negateCondition jump
      pure [jump]
    | .constant value => if value.isTrue then pure [] else leave
    | _ => leave
  settleHere operand.whenTrue
  return { operand with whenTrue := [], whenFalse := operand.whenFalse ++ jumps }

/-- Goes on if the value is false, and leaves the expression otherwise. -/
def goIfFalse (operand : Operand) : Reading Operand := do
  let operand ← resolve operand
  let jumps ← match operand.form with
    | .condition jump => pure [jump]
    | .constant .nil | .constant (.boolean false) => pure []
    | _ => do pure [← jumpIf operand true]
  settleHere operand.whenFalse
  return { operand with whenFalse := [], whenTrue := operand.whenTrue ++ jumps }

end Reading
end TileScript.Script
