import TileScript.Script.Instruction
import TileScript.Script.Token

/-!
A function under construction: its instructions so far, the registers in use, and the variables,
blocks and jumps that are not settled yet. Reading a script is one pass over its tokens, and an
instruction gets the line of the last token that was passed when it is written.
-/

namespace TileScript.Script

/-- Why a text is no script. -/
inductive SyntaxFault where
  | atLine (line : Nat) (message : String)
  /-- Forms stand too deep inside one another. -/
  | tooDeep
  /-- The text claims to be compiled code. -/
  | binary (reason : String)
  deriving DecidableEq, Repr, Inhabited

def SyntaxFault.report (chunk : String) : SyntaxFault → String
  | .atLine line message => chunk ++ ":" ++ toString line ++ ": " ++ message
  | .tooDeep => "C stack overflow"
  | .binary reason => chunk ++ ": bad binary format (" ++ reason ++ ")"

/-- What may be done to a variable. -/
inductive VariableKind where
  | plain
  | fixed
  /-- A fixed variable whose value is told when the block of the variable ends. -/
  | closing
  /-- A fixed variable whose value is known and takes no register. -/
  | known (value : Raw)
  deriving DecidableEq, Inhabited

structure Variable where
  name : String
  kind : VariableKind
  register : Nat
  /-- Its place among the names of registers. -/
  naming : Option Nat
  deriving Inhabited

/-- An upvalue of a function, and what may be done to it. -/
structure Upvalue where
  source : UpvalueSource
  kind : VariableKind
  deriving Inhabited

/-- A block of statements that is open: how many variables, pending jumps and labels there were
before it, whether a function keeps one of its variables, and whether something is to be done when
the block or one around it ends. -/
structure Block where
  isLoop : Bool
  level : Nat
  jumps : Nat
  labels : Nat
  hasUpvalue : Bool
  insideClosing : Bool
  deriving Inhabited

/-- Jumps to a label that has not been found yet. -/
structure PendingJump where
  label : String
  line : Nat
  places : List Nat
  /-- How many variables are in scope, and how many registers they take. -/
  level : Nat
  registers : Nat
  /-- Whether the jump ends the life of a variable that a function keeps. -/
  closes : Bool
  deriving Inhabited

structure Label where
  name : String
  line : Nat
  place : Nat
  level : Nat
  deriving Inhabited

structure Draft where
  definedAt : Nat
  parameters : Nat
  isVariadic : Bool
  code : Array Instruction
  lines : Array Nat
  /-- The constants that instructions refer to by number. -/
  constants : Array Raw
  functions : Array Prototype
  upvalues : Array Upvalue
  locals : Array LocalName
  /-- All variables that are declared, of which the first `active` are in scope. -/
  declared : Array Variable
  active : Nat
  /-- The first register that is free. -/
  free : Nat
  size : Nat
  /-- The last instruction that a jump may lead to. -/
  lastTarget : Nat
  /-- The open blocks, the innermost one first. -/
  blocks : List Block
  jumps : Array PendingJump
  labels : Array Label
  deriving Inhabited

namespace Draft

def empty (definedAt : Nat) : Draft where
  definedAt := definedAt
  parameters := 0
  isVariadic := false
  code := #[]
  lines := #[]
  constants := #[]
  functions := #[]
  upvalues := #[]
  locals := #[]
  declared := #[]
  active := 0
  free := 0
  size := 2
  lastTarget := 0
  blocks := []
  jumps := #[]
  labels := #[]

/-- The number of the next instruction. -/
def place (draft : Draft) : Nat := draft.code.size

/-- How many registers the first `count` variables take. -/
def registersOf (draft : Draft) : Nat → Nat
  | 0 => 0
  | count + 1 =>
    match draft.declared[count]? with
    | some ⟨_, .known _, _, _⟩ => registersOf draft count
    | some found => found.register + 1
    | none => registersOf draft count

/-- How many registers the variables in scope take. -/
def variableRegisters (draft : Draft) : Nat := draft.registersOf draft.active

/-- The function as it is once all of it is read. A jump to a jump goes where that one goes. -/
def finish (draft : Draft) (chunk : String) : Prototype where
  chunk := chunk
  parameters := draft.parameters
  isVariadic := draft.isVariadic
  size := draft.size
  code := draft.code.map fun
    | .jump destination => .jump (lastDestination draft.code 99 destination)
    | instruction => instruction
  lines := draft.lines
  upvalues := draft.upvalues.map (·.source)
  locals := draft.locals
  functions := draft.functions.toList
where
  lastDestination (code : Array Instruction) : Nat → Nat → Nat
    | 0, destination => destination
    | fuel + 1, destination =>
      match code[destination]? with
      | some (.jump next) => lastDestination code fuel next
      | _ => destination

end Draft

/-- What is left to read, and the functions under construction. -/
structure Compilation where
  lexemes : List Lexeme
  /-- Whether the token after the current one has been looked at. -/
  isPeeked : Bool
  lastLine : Nat
  /-- How deep the form being read stands inside others. -/
  depth : Nat
  chunk : String
  draft : Draft
  /-- The functions around it, the nearest one first. -/
  outer : List Draft

abbrev Reading := StateT Compilation (Except SyntaxFault)

namespace Reading

/-! ### Tokens -/

def current : Reading Lexeme := return (← get).lexemes.headD (Lexeme.ending 1)

def following : Reading Lexeme := return ((← get).lexemes.drop 1).headD (Lexeme.ending 1)

def line : Reading Nat := do
  if (← get).isPeeked then return (← following).line else return (← current).line

/-- A fault on the current line. -/
def fault {α : Type} (message : String) : Reading α := do throw (.atLine (← line) message)

/-- A fault at the current token. -/
def fail {α : Type} (message : String) : Reading α := do
  match (← current).quoted with
  | some quoted => fault (message ++ " near " ++ quoted)
  | none => fault message

/-- Fails if a token is none. -/
def checkToken (lexeme : Lexeme) : Reading Unit := do
  match lexeme.token with
  | .fault message => throw (.atLine lexeme.line message)
  | _ => return

/-- Passes the current token. -/
def advance : Reading Unit := do
  let last ← line
  modify fun state =>
    { state with lexemes := state.lexemes.drop 1, lastLine := last, isPeeked := false }
  checkToken (← current)

/-- Looks at the token after the current one. -/
def peek : Reading Lexeme := do
  let next ← following
  checkToken next
  modify fun state => { state with isPeeked := true }
  return next

def isSign (sign : String) : Reading Bool := do
  match (← current).token with
  | .sign found => return found == sign
  | _ => return false

/-- Passes `sign` if it is the current token. -/
def accept (sign : String) : Reading Bool := do
  if ← isSign sign then
    advance
    return true
  else
    return false

def quoteSign (sign : String) : String := "'" ++ sign ++ "'"

def expect (sign : String) : Reading Unit := do
  if !(← accept sign) then fail (quoteSign sign ++ " expected")

/-- Expects what closes `opening`, which stands on line `opened`. -/
def expectClosing (sign opening : String) (opened : Nat) : Reading Unit := do
  if !(← accept sign) then
    if opened = (← line) then fail (quoteSign sign ++ " expected")
    else
      fail (quoteSign sign ++ " expected (to close " ++ quoteSign opening ++ " at line " ++
        toString opened ++ ")")

def name : Reading String := do
  match (← current).token with
  | .name found =>
    advance
    return found
  | _ => fail "<name> expected"

/-- How deep forms may stand inside one another. -/
def maxDepth : Nat := 200

/-- Reads a form that stands inside another one. -/
def nested {α : Type} (form : Reading α) : Reading α := do
  modify fun state => { state with depth := state.depth + 1 }
  if maxDepth ≤ (← get).depth then throw .tooDeep
  let result ← form
  modify fun state => { state with depth := state.depth - 1 }
  return result

/-! ### The function under construction -/

def draft : Reading Draft := return (← get).draft

def modifyDraft (change : Draft → Draft) : Reading Unit :=
  modify fun ⟨lexemes, isPeeked, lastLine, depth, chunk, draft, outer⟩ =>
    ⟨lexemes, isPeeked, lastLine, depth, chunk, change draft, outer⟩

/-- Fails because a function has too many of something. -/
def failLimit {α : Type} (draft : Draft) (what : String) (limit : Nat) : Reading α := do
  let place :=
    if draft.definedAt = 0 then "main function"
    else "function at line " ++ toString draft.definedAt
  fail ("too many " ++ what ++ " (limit is " ++ toString limit ++ ") in " ++ place)

/-- Writes an instruction, and gives back its number. -/
def emit (instruction : Instruction) : Reading Nat := do
  let line := (← get).lastLine
  let place := (← draft).place
  modifyDraft fun draft =>
    { draft with code := draft.code.push instruction, lines := draft.lines.push line }
  return place

/-- Gives the last instruction another line. -/
def setLine (line : Nat) : Reading Unit :=
  modifyDraft fun draft => { draft with lines := draft.lines.pop.push line }

def instruction (place : Nat) : Reading Instruction :=
  return (← draft).code[place]?.getD (.jump 0)

def change (place : Nat) (change : Instruction → Instruction) : Reading Unit :=
  modifyDraft fun draft => { draft with code := draft.code.modify place change }

/-- The last instruction, unless a jump may lead behind it. -/
def previous? : Reading (Option Instruction) := do
  let draft ← draft
  if draft.lastTarget < draft.place then return draft.code.back? else return none

/-- Marks the next instruction as one that jumps may lead to. -/
def here : Reading Nat := do
  modifyDraft fun draft => { draft with lastTarget := draft.place }
  return (← draft).place

/-! ### Registers -/

def maxRegisters : Nat := 255

/-- Sees to it that there are `count` more registers than are in use. -/
def checkRegisters (count : Nat) : Reading Unit := do
  let draft ← draft
  let wanted := draft.free + count
  if draft.size < wanted then
    if maxRegisters ≤ wanted then fail "function or expression needs too many registers"
    modifyDraft fun draft => { draft with size := wanted }

/-- Takes `count` registers into use. -/
def reserve (count : Nat) : Reading Unit := do
  checkRegisters count
  modifyDraft fun draft => { draft with free := draft.free + count }

/-- Gives up a register that holds no variable; it is the last one in use. -/
def release (register : Nat) : Reading Unit :=
  modifyDraft fun draft =>
    if draft.variableRegisters ≤ register then { draft with free := draft.free - 1 } else draft

def setFree (register : Nat) : Reading Unit :=
  modifyDraft fun draft => { draft with free := register }

/-- The number of a constant, which is taken up if it is new. -/
def constant (value : Raw) : Reading Nat := do
  match (← draft).constants.findIdx? (· = value) with
  | some index => return index
  | none =>
    let index := (← draft).constants.size
    modifyDraft fun draft => { draft with constants := draft.constants.push value }
    return index

/-- Sets registers to nil. It takes part in the last instruction if that does the same to registers
next to them. -/
def loadNil (first count : Nat) : Reading Unit := do
  let last := first + count - 1
  match ← previous? with
  | some (.loadNil low high) =>
    if (low ≤ first && first ≤ high + 1) || (first ≤ low && low ≤ last + 1) then
      change ((← draft).place - 1) fun _ => .loadNil (min low first) (max high last)
    else
      let _ ← emit (.loadNil first last)
  | _ =>
    let _ ← emit (.loadNil first last)

/-! ### Jumps -/

/-- Writes a jump whose destination is not known yet. -/
def jump : Reading Nat := emit (.jump 0)

def jumpTo (destination : Nat) : Reading Unit := do
  let _ ← emit (.jump destination)

def conditionalJump (condition : Instruction) : Reading Nat := do
  let _ ← emit condition
  jump

/-- The place of the instruction that decides whether a jump is made. -/
def controlOf (place : Nat) : Reading Nat := do
  match place with
  | 0 => return 0
  | before + 1 =>
    if (← instruction before).isCondition then return before else return place

/-- Makes a jump that keeps a value put it into `register`, or not keep it if there is none. Says
whether the jump keeps a value. -/
def keepIn (place : Nat) (register : Option Nat) : Reading Bool := do
  let control ← controlOf place
  match ← instruction control with
  | .testSet _ source expected =>
    if register.isSome && register ≠ some source then
      change control fun _ => .testSet register source expected
    else
      change control fun _ => .test source expected
    return true
  | _ => return false

/-- Whether one of the jumps has no value to keep. -/
def needsValue : List Nat → Reading Bool
  | [] => return false
  | place :: rest => do
    match ← instruction (← controlOf place) with
    | .testSet _ _ _ => needsValue rest
    | _ => return true

/-- Makes jumps keep no values. -/
def dropValues : List Nat → Reading Unit
  | [] => return
  | place :: rest => do
    let _ ← keepIn place none
    dropValues rest

/-- Lets jumps that keep a value put it into `register` and lead to `kept`, and the other ones lead
to `other`. -/
def settleJumps (register : Option Nat) (kept other : Nat) : List Nat → Reading Unit
  | [] => return
  | place :: rest => do
    if ← keepIn place register then change place (.redirect kept)
    else change place (.redirect other)
    settleJumps register kept other rest

/-- Lets jumps lead to a place. -/
def settle (jumps : List Nat) (destination : Nat) : Reading Unit :=
  settleJumps none destination destination jumps

/-- Lets jumps lead to the next instruction. -/
def settleHere (jumps : List Nat) : Reading Unit := do
  settle jumps (← here)

end Reading
end TileScript.Script
