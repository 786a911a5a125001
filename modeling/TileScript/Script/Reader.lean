import TileScript.Script.Scope

/-!
Reading a script: one token of lookahead decides every choice, so the first fault is found at the
first token that cannot go on. The instructions are written along the way.
-/

namespace TileScript.Script
namespace Reading

/-! ### Operators -/

/-- An operator with how strongly it binds on its left and on its right. -/
structure Joining where
  operator : BinaryOperator
  left : Nat
  right : Nat

def joining? : String → Option Joining
  | "or" => some ⟨.or, 1, 1⟩
  | "and" => some ⟨.and, 2, 2⟩
  | "<" => some ⟨.less, 3, 3⟩
  | ">" => some ⟨.greater, 3, 3⟩
  | "<=" => some ⟨.lessOrEqual, 3, 3⟩
  | ">=" => some ⟨.greaterOrEqual, 3, 3⟩
  | "~=" => some ⟨.notEqual, 3, 3⟩
  | "==" => some ⟨.equal, 3, 3⟩
  | "|" => some ⟨.arithmetic .bitOr, 4, 4⟩
  | "~" => some ⟨.arithmetic .bitXor, 5, 5⟩
  | "&" => some ⟨.arithmetic .bitAnd, 6, 6⟩
  | "<<" => some ⟨.arithmetic .shiftLeft, 7, 7⟩
  | ">>" => some ⟨.arithmetic .shiftRight, 7, 7⟩
  | ".." => some ⟨.concatenate, 9, 8⟩
  | "+" => some ⟨.arithmetic .add, 10, 10⟩
  | "-" => some ⟨.arithmetic .subtract, 10, 10⟩
  | "*" => some ⟨.arithmetic .multiply, 11, 11⟩
  | "/" => some ⟨.arithmetic .divide, 11, 11⟩
  | "//" => some ⟨.arithmetic .floorDivide, 11, 11⟩
  | "%" => some ⟨.arithmetic .modulo, 11, 11⟩
  | "^" => some ⟨.arithmetic .power, 14, 13⟩
  | _ => none

def unaryBinding : Nat := 12

def unary? : String → Option UnaryOperator
  | "not" => some .not
  | "-" => some .negate
  | "~" => some .bitNot
  | "#" => some .length
  | _ => none

/-- The operator that the current token is. -/
def joining : Reading (Option Joining) := do
  match (← current).token with
  | .sign sign => return joining? sign
  | _ => return none

/-- Whether a block ends here; `until` ends one only where its variables stay in scope. -/
def atBlockEnd (withUntil : Bool) : Reading Bool := do
  match (← current).token with
  | .finish => return true
  | .sign "until" => return withUntil
  | .sign sign => return ["else", "elseif", "end"].contains sign
  | _ => return false

/-! ### Tables -/

/-- A table constructor that is being read: the register of the table, the last item, which is not
in a register yet, and how many items are stored, wait to be stored, and have a key. -/
structure Constructor where
  table : Nat
  last : Operand
  stored : Nat
  waiting : Nat
  keyed : Nat

/-- How many items wait before they are stored together. -/
def itemsPerStore : Nat := 50

def storeItems (table stored : Nat) (count : Option Nat) : Reading Unit := do
  let _ ← emit (.setItems table count stored)
  setFree (table + 1)

/-- Puts the last item into a register, and stores the items that wait once they are many. -/
def Constructor.settleItem (form : Constructor) : Reading Constructor := do
  if form.last.isVoid then return form
  let _ ← toNextRegister form.last
  if form.waiting = itemsPerStore then
    storeItems form.table form.stored (some form.waiting)
    return ⟨form.table, .void, form.stored + form.waiting, 0, form.keyed⟩
  else return { form with last := .void }

/-- Stores the items that are left, and gives back how many items are known to be there. -/
def Constructor.settleItems (form : Constructor) : Reading Nat := do
  if form.waiting = 0 then return form.stored
  else if form.last.isOpen then
    setResults form.last none
    storeItems form.table form.stored none
    return form.stored + form.waiting - 1
  else
    if !form.last.isVoid then
      let _ ← toNextRegister form.last
    storeItems form.table form.stored (some form.waiting)
    return form.stored + form.waiting

/-! ### Functions -/

/-- Starts a function inside the current one. -/
def openFunction (definedAt : Nat) : Reading Unit := do
  modify fun state =>
    { state with draft := .empty definedAt, outer := state.draft :: state.outer }
  openBlock false

/-- Writes the return at the end of a function. -/
def finishFunction : Reading Unit := do
  let _ ← emit (.leave (← draft).variableRegisters (some 0))
  closeBlock

/-- Ends a function inside another one, which makes a value of it. -/
def closeFunction : Reading Operand := do
  let line := (← get).lastLine
  finishFunction
  let state ← get
  match state.outer with
  | [] => return .void
  | around :: rest =>
    let made := state.draft.finish state.chunk
    let index := around.functions.size
    let around := { around with functions := around.functions.push made }
    modify fun state => { state with draft := around, outer := rest }
    let place ← emit (.closure 0 index)
    setLine line
    toNextRegister (.ofForm (.pending place))

/-- Lets a function take arguments beyond its parameters. -/
def takeMore : Reading Unit := do
  modifyDraft fun draft => { draft with isVariadic := true }
  let _ ← emit (.separateArguments (← draft).parameters)

/-! ### Assignments -/

/-- Whether a target of an assignment uses a register or an upvalue as its table. -/
def usesTable (isRegister : Bool) (table : Nat) (target : Operand) : Bool :=
  match target.form, isRegister with
  | .indexed register _, true | .item register _, true | .field register _, true =>
    register == table
  | .global upvalue _, false => upvalue == table
  | _, _ => false

def usesKey (register : Nat) (target : Operand) : Bool :=
  match target.form with
  | .indexed _ key => key == register
  | _ => false

/-- The target with a copy in place of a variable that the same assignment sets. -/
def useCopy (isRegister : Bool) (index copy : Nat) (target : Operand) : Operand :=
  let isTable := usesTable isRegister index target
  match target.form with
  | .indexed table key =>
    let form := Form.indexed (if isTable then copy else table)
      (if isRegister && key == index then copy else key)
    { target with form := form }
  | .item _ key => if isTable then { target with form := .item copy key } else target
  | .field _ key => if isTable then { target with form := .field copy key } else target
  | .global _ key => if isTable then { target with form := .field copy key } else target
  | _ => target

/-- Copies a variable that an assignment sets, if targets before it use it. -/
def avoidConflict (targets : List Operand) (target : Operand) : Reading (List Operand) := do
  let settle (isRegister : Bool) (index : Nat) (instruction : Nat → Instruction) :
      Reading (List Operand) := do
    let conflicts := targets.any fun other =>
      usesTable isRegister index other || (isRegister && usesKey index other)
    if conflicts then
      let copy := (← draft).free
      let _ ← emit (instruction copy)
      reserve 1
      return targets.map (useCopy isRegister index copy)
    else return targets
  match target.form with
  | .localVariable register _ => settle true register fun copy => .move copy register
  | .upvalue index => settle false index fun copy => .getUpvalue copy index
  | _ => return targets

def isField (target : Operand) : Bool :=
  match target.form with
  | .global .. | .indexed .. | .item .. | .field .. => true
  | _ => false

/-- Sets targets, the last one first, to the values in the last registers. -/
def storeLast : List Operand → Reading Unit
  | [] => return
  | target :: rest => do
    store target (.ofForm (.register ((← draft).free - 1)))
    storeLast rest

/-- Sets targets, the last one first, to the values of a list of which `last` is the last one. -/
def assign (targets : List Operand) (count : Nat) (last : Operand) : Reading Unit := do
  if count = targets.length then
    match targets with
    | [] => return
    | target :: rest =>
      store target (← setOneResult last)
      storeLast rest
  else
    adjustValues targets.length count last
    storeLast targets

/-- The name of the registers that a loop keeps for itself. -/
def stateName : String := "(for state)"

/-- Passes names up to one that no comma follows, and declares them. -/
def declareMore : Nat → (count : Nat) → Reading Nat
  | 0, count => return count
  | fuel + 1, count => do
    if ← accept "," then
      declare (← name)
      declareMore fuel (count + 1)
    else return count

/-- What may be done to the variable whose name was read last. -/
def variableAttribute : Reading VariableKind := do
  if ← accept "<" then
    let found ← name
    expect ">"
    match found with
    | "const" => return .fixed
    | "close" => return .closing
    | _ => failPlain ("unknown attribute '" ++ found ++ "'")
  else return .plain

/-- Passes the names that a statement declares. Gives back their count, and the place of one whose
value is told at the end. -/
def declareLocals : Nat → (count : Nat) → (closing : Option Nat) → Reading (Nat × Option Nat)
  | 0, count, closing => return (count, closing)
  | fuel + 1, count, closing => do
    declare (← name)
    let kind ← variableAttribute
    setLastKind kind
    if kind = .closing && closing.isSome then
      failPlain "multiple to-be-closed variables in local list"
    let place := (← draft).active + count
    let closing := if kind = .closing then some place else closing
    if ← accept "," then declareLocals fuel (count + 1) closing
    else return (count + 1, closing)

/-- The value of an expression that is known without running it. -/
def knownValue? (operand : Operand) : Option Raw :=
  if operand.hasJumps then none
  else
    match operand.form with
    | .constant value | .known _ value => some value
    | _ => none

/-- Notes that something is to be done when the innermost block ends. -/
def markClosing : Reading Unit :=
  modifyDraft fun draft =>
    match draft.blocks with
    | [] => draft
    | block :: rest =>
      { draft with blocks := { block with hasUpvalue := true, insideClosing := true } :: rest }

/-- Brings the variables of a declaration into scope; `last` is the last of their values. -/
def finishLocals (wanted : Nat) (closing : Option Nat) (count : Nat) (last : Operand) :
    Reading Unit := do
  let known := match (← draft).declared.back? with
    | some ⟨_, .fixed, _, _⟩ => if wanted = count then knownValue? last else none
    | _ => none
  match known with
  | some value =>
    setLastKind (.known value)
    activate (wanted - 1)
    modifyDraft fun draft => { draft with active := draft.active + 1 }
  | none =>
    adjustValues wanted count last
    activate wanted
  match closing with
  | none => return
  | some place =>
    markClosing
    let _ ← emit (.closeLater ((← draft).registersOf place))

/-! ### Grammar

`fuel` bounds the depth of the reading; a multiple of the count of tokens is always enough. -/

def exhausted {α : Type} : Reading α := throw .tooDeep

mutual

def expression : Nat → (binding : Nat) → Reading Operand
  | 0, _ => exhausted
  | fuel + 1, binding => nested do
    let operator : Option UnaryOperator := match (← current).token with
      | .sign sign => unary? sign
      | _ => none
    let first ← match operator with
      | some operator =>
        let operatorLine ← line
        advance
        let operand ← expression fuel unaryBinding
        applyUnary operator operand operatorLine
      | none => simple fuel
    further fuel binding first

/-- Joins `first` to the operands that follow and bind more strongly than `binding`. -/
def further : Nat → (binding : Nat) → Operand → Reading Operand
  | 0, _, _ => exhausted
  | fuel + 1, binding, first => do
    match ← joining with
    | none => return first
    | some join =>
      if join.left ≤ binding then return first
      else
        let operatorLine ← line
        advance
        let first ← beforeRight join.operator first
        let second ← expression fuel join.right
        further fuel binding (← applyBinary join.operator first second operatorLine)

def simple : Nat → Reading Operand
  | 0 => exhausted
  | fuel + 1 => do
    let constant (value : Raw) : Reading Operand := do
      advance
      return .ofForm (.constant value)
    match (← current).token with
    | .integer value => constant (.integer value)
    | .number value => constant (.number value)
    | .string value => constant (.string value)
    | .sign "nil" => constant .nil
    | .sign "true" => constant (.boolean true)
    | .sign "false" => constant (.boolean false)
    | .sign "..." =>
      if !(← draft).isVariadic then fail "cannot use '...' outside a vararg function"
      let place ← emit (.varargs 0 (some 0))
      advance
      return .ofForm (.varargs place)
    | .sign "\x7b" => table fuel
    | .sign "function" =>
      advance
      function fuel false (← line)
    | _ => suffixed fuel

def suffixed : Nat → Reading Operand
  | 0 => exhausted
  | fuel + 1 => do
    match (← current).token with
    | .name found =>
      advance
      suffixes fuel (← variableOf found)
    | .sign "(" =>
      let opened ← line
      advance
      let inner ← expression fuel 0
      expectClosing ")" "(" opened
      suffixes fuel (← resolve inner)
    | _ => fail "unexpected symbol"

def namedField : Nat → Operand → Reading Operand
  | 0, _ => exhausted
  | _ + 1, object => do
    let object ← toRegisterOrUpvalue object
    advance
    index object (.ofString (← name).toUTF8)

/-- Fields, calls and methods after an expression. -/
def suffixes : Nat → Operand → Reading Operand
  | 0, _ => exhausted
  | fuel + 1, first => do
    match (← current).token with
    | .sign "." => suffixes fuel (← namedField fuel first)
    | .sign "[" =>
      let first ← toRegisterOrUpvalue first
      suffixes fuel (← index first (← computedKey fuel))
    | .sign ":" =>
      advance
      let function ← selectMethod first (← name).toUTF8
      suffixes fuel (← call fuel function)
    | .sign "(" | .sign "\x7b" | .string _ =>
      suffixes fuel (← call fuel (← toNextRegister first))
    | _ => return first

def computedKey : Nat → Reading Operand
  | 0 => exhausted
  | fuel + 1 => do
    advance
    let key ← toValue (← expression fuel 0)
    expect "]"
    return key

/-- A call of the function in a register, which the arguments follow. -/
def call : Nat → Operand → Reading Operand
  | 0, _ => exhausted
  | fuel + 1, function => do
    let opened ← line
    let arguments ← match (← current).token with
      | .string value =>
        advance
        pure (.ofString value)
      | .sign "\x7b" => table fuel
      | .sign "(" =>
        advance
        if ← isSign ")" then
          advance
          pure .void
        else
          let (_, last) ← expressions fuel
          if last.isOpen then setResults last none
          expectClosing ")" "(" opened
          pure last
      | _ => fail "function arguments expected"
    match function.form with
    | .register base =>
      let count ←
        if arguments.isOpen then pure none
        else do
          if !arguments.isVoid then
            let _ ← toNextRegister arguments
          pure (some ((← draft).free - (base + 1)))
      let place ← emit (.call base count (some 1))
      setLine opened
      setFree (base + 1)
      return .ofForm (.call place)
    | _ => return function

/-- A list of expressions: their count, and the last one. Those before it are in registers. -/
def expressions : Nat → Reading (Nat × Operand)
  | 0 => exhausted
  | fuel + 1 => do
    moreExpressions fuel 1 (← expression fuel 0)

def moreExpressions : Nat → (count : Nat) → Operand → Reading (Nat × Operand)
  | 0, _, _ => exhausted
  | fuel + 1, count, last => do
    if ← accept "," then
      let _ ← toNextRegister last
      moreExpressions fuel (count + 1) (← expression fuel 0)
    else return (count, last)

def table : Nat → Reading Operand
  | 0 => exhausted
  | fuel + 1 => do
    let opened ← line
    let place ← emit (.newTable 0 0 0)
    let register := (← draft).free
    reserve 1
    expect "\x7b"
    let form ← fields fuel ⟨register, .void, 0, 0, 0⟩
    expectClosing "\x7d" "\x7b" opened
    let items ← form.settleItems
    change place fun _ => .newTable register items form.keyed
    return .ofForm (.register register)

def fields : Nat → Constructor → Reading Constructor
  | 0, _ => exhausted
  | fuel + 1, form => do
    if ← isSign "\x7d" then return form
    else
      let form ← form.settleItem
      let form ← field fuel form
      if (← accept ",") || (← accept ";") then fields fuel form else return form

def field : Nat → Constructor → Reading Constructor
  | 0, _ => exhausted
  | fuel + 1, form => do
    match (← current).token with
    | .name found =>
      match (← peek).token with
      | .sign "=" =>
        let free := (← draft).free
        advance
        keyedField fuel form (.ofString found.toUTF8) free
      | _ => listed fuel form
    | .sign "[" =>
      let free := (← draft).free
      let key ← computedKey fuel
      keyedField fuel form key free
    | _ => listed fuel form

/-- An item of a table. -/
def listed : Nat → Constructor → Reading Constructor
  | 0, _ => exhausted
  | fuel + 1, form => do
    let item ← expression fuel 0
    return { form with last := item, waiting := form.waiting + 1 }

/-- The value of a field whose key was read; `free` is the first register that is free after it. -/
def keyedField : Nat → Constructor → Operand → (free : Nat) → Reading Constructor
  | 0, _, _, _ => exhausted
  | fuel + 1, form, key, free => do
    expect "="
    let target ← index (.ofForm (.register form.table)) key
    store target (← expression fuel 0)
    setFree free
    return { form with keyed := form.keyed + 1 }

def function : Nat → (isMethod : Bool) → (definedAt : Nat) → Reading Operand
  | 0, _, _ => exhausted
  | fuel + 1, isMethod, definedAt => do
    openFunction definedAt
    expect "("
    if isMethod then
      declare "self"
      activate 1
    let (count, isVariadic) ← if ← isSign ")" then pure (0, false) else parameters fuel 0
    activate count
    modifyDraft fun draft => { draft with parameters := draft.active }
    if isVariadic then takeMore
    reserve (← draft).active
    expect ")"
    block fuel
    expectClosing "end" "function" definedAt
    closeFunction

/-- The parameters of a function: their count, and whether there may be more arguments. -/
def parameters : Nat → (count : Nat) → Reading (Nat × Bool)
  | 0, _ => exhausted
  | fuel + 1, count => do
    match (← current).token with
    | .sign "..." =>
      advance
      return (count, true)
    | .name found =>
      advance
      declare found
      if ← accept "," then parameters fuel (count + 1) else return (count + 1, false)
    | _ => fail "<name> or '...' expected"

def block : Nat → Reading Unit
  | 0 => exhausted
  | fuel + 1 => do
    if ← atBlockEnd true then return
    else if ← isSign "return" then statement fuel
    else
      statement fuel
      block fuel

/-- The statements of a block with a scope of its own. -/
def scope : Nat → Reading Unit
  | 0 => exhausted
  | fuel + 1 => do
    openBlock false
    block fuel
    closeBlock

def statement : Nat → Reading Unit
  | 0 => exhausted
  | fuel + 1 => do
    let opened ← line
    nested do
      match (← current).token with
      | .sign ";" => advance
      | .sign "if" => choice fuel [] opened
      | .sign "while" => loopWhile fuel opened
      | .sign "do" =>
        advance
        scope fuel
        expectClosing "end" "do" opened
      | .sign "for" => loop fuel opened
      | .sign "repeat" => loopUntil fuel opened
      | .sign "function" => functionStatement fuel opened
      | .sign "local" =>
        advance
        if ← accept "function" then localFunction fuel else localStatement fuel
      | .sign "::" =>
        advance
        labelStatement fuel (← name) opened
      | .sign "return" =>
        advance
        returnStatement fuel
      | .sign "break" =>
        advance
        awaitLabel breakLabel opened [← jump]
      | .sign "goto" =>
        advance
        gotoStatement
      | _ => expressionStatement fuel
      setFree (← draft).variableRegisters

/-- A jump to a label. -/
def gotoStatement : Reading Unit := do
  let here ← line
  let wanted ← name
  match ← findLabel? wanted with
  | none => awaitLabel wanted here [← jump]
  | some label =>
    let registers := (← draft).registersOf label.level
    if registers < (← draft).variableRegisters then
      let _ ← emit (.close registers)
    jumpTo label.place

def labelStatement : Nat → (name : String) → (opened : Nat) → Reading Unit
  | 0, _, _ => exhausted
  | fuel + 1, name, opened => do
    expect "::"
    passEmpty fuel
    match ← findLabel? name with
    | some label =>
      failPlain ("label '" ++ name ++ "' already defined on line " ++ toString label.line)
    | none =>
      let _ ← putLabel name opened (← atBlockEnd false)

/-- Statements that do nothing. -/
def passEmpty : Nat → Reading Unit
  | 0 => exhausted
  | fuel + 1 => do
    if (← isSign ";") || (← isSign "::") then
      statement fuel
      passEmpty fuel

/-- The condition of a loop: the jumps that leave it when it is false. -/
def condition : Nat → Reading (List Nat)
  | 0 => exhausted
  | fuel + 1 => do
    let operand ← expression fuel 0
    let operand := match operand.form with
      | .constant .nil => { operand with form := .constant (.boolean false) }
      | _ => operand
    return (← goIfTrue operand).whenFalse

def loopWhile : Nat → (opened : Nat) → Reading Unit
  | 0, _ => exhausted
  | fuel + 1, opened => do
    advance
    let start ← here
    let exits ← condition fuel
    openBlock true
    expect "do"
    scope fuel
    jumpTo start
    expectClosing "end" "while" opened
    closeBlock
    settleHere exits

def loopUntil : Nat → (opened : Nat) → Reading Unit
  | 0, _ => exhausted
  | fuel + 1, opened => do
    let start ← here
    openBlock true
    openBlock false
    advance
    block fuel
    expectClosing "until" "repeat" opened
    let again ← condition fuel
    let inner := (← draft).blocks.head?
    closeBlock
    let again ←
      if (inner.map (·.hasUpvalue)).getD false then do
        let exit ← jump
        settleHere again
        let _ ← emit (.close ((← draft).registersOf ((inner.map (·.level)).getD 0)))
        let again ← jump
        settleHere [exit]
        pure [again]
      else pure again
    settle again start
    closeBlock

/-- The condition of a choice with the block it decides about. Jumps in `exits` lead behind the
whole choice. -/
def choice : Nat → (exits : List Nat) → (opened : Nat) → Reading Unit
  | 0, _, _ => exhausted
  | fuel + 1, exits, opened => do
    advance
    let operand ← expression fuel 0
    expect "then"
    let exits ← choiceBlock fuel operand exits
    if ← isSign "elseif" then choice fuel exits opened
    else
      if ← accept "else" then scope fuel
      expectClosing "end" "if" opened
      settleHere exits

/-- The block that a condition decides about. -/
def choiceBlock : Nat → Operand → (exits : List Nat) → Reading (List Nat)
  | 0, _, _ => exhausted
  | fuel + 1, operand, exits => do
    if ← isSign "break" then
      let here ← line
      let operand ← goIfFalse operand
      advance
      openBlock false
      awaitLabel breakLabel here operand.whenTrue
      passSemicolons fuel
      if ← atBlockEnd false then
        closeBlock
        return exits
      else finishChoice fuel [← jump] exits
    else
      let operand ← goIfTrue operand
      openBlock false
      finishChoice fuel operand.whenFalse exits

def passSemicolons : Nat → Reading Unit
  | 0 => exhausted
  | fuel + 1 => do
    if ← accept ";" then passSemicolons fuel

/-- The rest of a block that jumps in `past` pass over. -/
def finishChoice : Nat → (past exits : List Nat) → Reading (List Nat)
  | 0, _, _ => exhausted
  | fuel + 1, past, exits => do
    block fuel
    closeBlock
    let exits ←
      if (← isSign "else") || (← isSign "elseif") then do pure (exits ++ [← jump])
      else pure exits
    settleHere past
    return exits

def loop : Nat → (opened : Nat) → Reading Unit
  | 0, _ => exhausted
  | fuel + 1, opened => do
    openBlock true
    advance
    let first ← name
    match (← current).token with
    | .sign "=" => loopCount fuel first opened
    | .sign "," | .sign "in" => loopEach fuel first
    | _ => fail "'=' or 'in' expected"
    expectClosing "end" "for" opened
    closeBlock

def loopCount : Nat → (counter : String) → (opened : Nat) → Reading Unit
  | 0, _, _ => exhausted
  | fuel + 1, counter, opened => do
    let base := (← draft).free
    declareState 3
    declare counter
    expect "="
    let _ ← toNextRegister (← expression fuel 0)
    expect ","
    let _ ← toNextRegister (← expression fuel 0)
    if ← accept "," then
      let _ ← toNextRegister (← expression fuel 0)
    else
      loadConstant (← draft).free (.integer 1)
      reserve 1
    activate 3
    loopBody fuel base opened 1 false

def loopEach : Nat → (first : String) → Reading Unit
  | 0, _ => exhausted
  | fuel + 1, first => do
    let base := (← draft).free
    declareState 4
    declare first
    let count ← declareMore fuel 1
    expect "in"
    let here ← line
    let (given, last) ← expressions fuel
    adjustValues 4 given last
    activate 4
    markClosing
    checkRegisters 3
    loopBody fuel base here count true

/-- Declares registers that a loop keeps for itself. -/
def declareState : Nat → Reading Unit
  | 0 => return
  | count + 1 => do
    declare stateName
    declareState count

def loopBody : Nat → (base opened count : Nat) → (isEach : Bool) → Reading Unit
  | 0, _, _, _, _ => exhausted
  | fuel + 1, base, opened, count, isEach => do
    expect "do"
    let start ← emit (if isEach then .prepareEach base 0 else .prepareCount base 0)
    openBlock false
    activate count
    reserve count
    scope fuel
    closeBlock
    let finish ← here
    if isEach then
      change start (.redirect finish)
      let _ ← emit (.callEach base count)
      setLine opened
      let _ ← emit (.repeatEach base (start + 1))
      setLine opened
    else
      change start (.redirect (finish + 1))
      let _ ← emit (.repeatCount base (start + 1))
      setLine opened

/-- A function statement: the path of its name, and the function. -/
def functionStatement : Nat → (opened : Nat) → Reading Unit
  | 0, _ => exhausted
  | fuel + 1, opened => do
    advance
    let first ← name
    let (target, isMethod) ← path fuel (← variableOf first)
    let made ← function fuel isMethod opened
    checkAssignable target
    store target made
    setLine opened

/-- The rest of the path of a name, and whether it ends in a method. -/
def path : Nat → Operand → Reading (Operand × Bool)
  | 0, _ => exhausted
  | fuel + 1, target => do
    if ← isSign "." then path fuel (← namedField fuel target)
    else if ← isSign ":" then return (← namedField fuel target, true)
    else return (target, false)

def localFunction : Nat → Reading Unit
  | 0 => exhausted
  | fuel + 1 => do
    let place := (← draft).active
    declare (← name)
    activate 1
    let _ ← function fuel false (← line)
    modifyDraft fun draft =>
      match (draft.declared[place]?.bind (·.naming)) with
      | some naming =>
        let locals := draft.locals.modify naming fun name => { name with first := draft.place }
        { draft with locals := locals }
      | none => draft

def localStatement : Nat → Reading Unit
  | 0 => exhausted
  | fuel + 1 => do
    let (wanted, closing) ← declareLocals fuel 0 none
    if ← accept "=" then
      let (count, last) ← expressions fuel
      finishLocals wanted closing count last
    else finishLocals wanted closing 0 .void

def expressionStatement : Nat → Reading Unit
  | 0 => exhausted
  | fuel + 1 => do
    let first ← suffixed fuel
    if (← isSign "=") || (← isSign ",") then assignment fuel [first]
    else
      match first.form with
      | .call place => change place (.withResults (some 0))
      | _ => fail "syntax error"

/-- The rest of an assignment to targets, the last one first. -/
def assignment : Nat → List Operand → Reading Unit
  | 0, _ => exhausted
  | fuel + 1, targets => do
    let target := targets.headD .void
    if !target.isVariable then fail "syntax error"
    checkAssignable target
    if ← accept "," then
      let next ← suffixed fuel
      let targets ← if isField next then pure targets else avoidConflict targets next
      nested (assignment fuel (next :: targets))
    else
      expect "="
      let (count, last) ← expressions fuel
      assign targets count last

def returnStatement : Nat → Reading Unit
  | 0 => exhausted
  | fuel + 1 => do
    let first := (← draft).variableRegisters
    if (← atBlockEnd true) || (← isSign ";") then
      let _ ← emit (.leave first (some 0))
    else
      let (count, last) ← expressions fuel
      if last.isOpen then
        setResults last none
        let insideClosing := ((← draft).blocks.head?.map (·.insideClosing)).getD false
        match last.form, decide (count = 1) && !insideClosing with
        | .call place, true =>
          change place fun
            | .call function arguments _ => .tailCall function arguments
            | instruction => instruction
        | _, _ => pure ()
        let _ ← emit (.leave first none)
      else if count = 1 then
        let (register, _) ← toRegister last
        let _ ← emit (.leave register (some 1))
      else
        let _ ← toNextRegister last
        let _ ← emit (.leave first (some count))
    let _ ← accept ";"

end

def script (fuel : Nat) : Reading Unit := do
  openBlock false
  takeMore
  modifyDraft fun draft =>
    { draft with upvalues := #[⟨⟨environmentName, true, 0⟩, .plain⟩] }
  checkToken (← current)
  block fuel
  match (← current).token with
  | .finish => finishFunction
  | _ => fail "<eof> expected"

end Reading

/-- What compiled code begins with, part by part: the bytes, and what is wrong if others come. -/
def compiledHeader : List (List UInt8 × String) :=
  [
    ([0x1b, 0x4c, 0x75, 0x61], "not a binary chunk"),
    ([0x54], "version mismatch"),
    ([0x00], "format mismatch"),
    ([0x19, 0x93, 0x0d, 0x0a, 0x1a, 0x0a], "corrupted chunk")
  ]

/-- What is wrong with compiled code. No text has the whole header, as that is no UTF-8. -/
def compiledFault : List (List UInt8 × String) → List UInt8 → String
  | [], _ => "truncated chunk"
  | (expected, reason) :: rest, bytes =>
    if bytes.length < expected.length then "truncated chunk"
    else if expected.isPrefixOf bytes then compiledFault rest (bytes.drop expected.length)
    else reason

/-- The script that a text writes, as a function that takes any arguments. -/
def read (chunk source : String) : Except SyntaxFault Prototype := do
  if source.toList.head? = some '\x1b' then
    throw (.binary (compiledFault compiledHeader source.toUTF8.toList))
  let lexemes := Lexeme.ofString source
  let start : Compilation :=
    ⟨lexemes, false, 1, 0, chunk, .empty 0, []⟩
  let (_, final) ← (Reading.script (32 * lexemes.length + 32)).run start
  return final.draft.finish chunk

end TileScript.Script
