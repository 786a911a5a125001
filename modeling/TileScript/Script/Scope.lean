import TileScript.Script.Combination

/-!
Variables, blocks and labels while a script is read. A variable that a function inside its own one
uses becomes an upvalue there, and in every function between the two.
-/

namespace TileScript.Script

/-- What a name stands for in a function. -/
inductive Meaning where
  | localVariable (register place : Nat)
  | upvalue (index : Nat)
  | known (value : Raw)
  | global
  deriving Inhabited

namespace Draft

def find? (draft : Draft) (name : String) : Option (Nat × Variable) :=
  let rec search : Nat → Option (Nat × Variable)
    | 0 => none
    | count + 1 =>
      match draft.declared[count]? with
      | some found => if found.name == name then some (count, found) else search count
      | none => search count
  search draft.active

def findUpvalue? (draft : Draft) (name : String) : Option Nat :=
  draft.upvalues.findIdx? (·.source.name == name)

/-- Notes that a function keeps the variable at a place. -/
def markKept (draft : Draft) (place : Nat) : Draft :=
  let rec mark : List Block → List Block
    | [] => []
    | block :: rest =>
      if place < block.level then block :: mark rest
      else { block with hasUpvalue := true } :: rest
  { draft with blocks := mark draft.blocks }

def maxUpvalues : Nat := 255

/-- What a name stands for in a function with others around it, where `isInner` says whether it is
asked for a function inside. The functions come back with the upvalues they need for it; a number
says which of them has too many, from zero at the function itself. -/
def meaning (name : String) (isInner : Bool) :
    Draft → List Draft → Except Nat (Meaning × Draft × List Draft)
  | draft, outer =>
    match draft.find? name with
    | some (place, found) =>
      match found.kind with
      | .known value => .ok (.known value, draft, outer)
      | _ =>
        let kept := if isInner then draft.markKept place else draft
        .ok (.localVariable found.register place, kept, outer)
    | none =>
      match draft.findUpvalue? name with
      | some index => .ok (.upvalue index, draft, outer)
      | none =>
        match outer with
        | [] => .ok (.global, draft, [])
        | around :: rest =>
          match meaning name true around rest with
          | .error level => .error (level + 1)
          | .ok (found, around, rest) =>
            let add (isRegister : Bool) (index : Nat) (kind : VariableKind) :
                Except Nat (Meaning × Draft × List Draft) :=
              if maxUpvalues ≤ draft.upvalues.size then .error 0
              else
                let upvalues := draft.upvalues.push ⟨⟨name, isRegister, index⟩, kind⟩
                .ok (.upvalue draft.upvalues.size, { draft with upvalues := upvalues },
                  around :: rest)
            match found with
            | .localVariable register place =>
              add true register ((around.declared[place]?.map (·.kind)).getD .plain)
            | .upvalue index =>
              add false index ((around.upvalues[index]?.map (·.kind)).getD .plain)
            | found => .ok (found, draft, around :: rest)

end Draft

namespace Reading

/-! ### Names -/

def meaningOf (name : String) : Reading Meaning := do
  let state ← get
  match Draft.meaning name false state.draft state.outer with
  | .ok (found, draft, outer) =>
    modify fun state => { state with draft := draft, outer := outer }
    return found
  | .error level =>
    failLimit ((state.draft :: state.outer)[level]?.getD state.draft) "upvalues" Draft.maxUpvalues

def operandOf (name : String) : Meaning → Operand
  | .localVariable register place => .ofForm (.localVariable register place)
  | .upvalue index => .ofForm (.upvalue index)
  | .known value => .ofForm (.known name value)
  | .global => .void

/-- The variable with a name; a global one is a field of the environment. -/
def variableOf (name : String) : Reading Operand := do
  match ← meaningOf name with
  | .global =>
    let environment := operandOf environmentName (← meaningOf environmentName)
    index (← toRegisterOrUpvalue environment) (.ofString name.toUTF8)
  | found => return operandOf name found

/-- A fault that quotes no token. -/
def failPlain {α : Type} (message : String) : Reading α := fault message

/-- Fails if a variable must not be set. -/
def checkAssignable (target : Operand) : Reading Unit := do
  let check (name : String) : VariableKind → Reading Unit
    | .plain => return
    | _ => failPlain ("attempt to assign to const variable '" ++ name ++ "'")
  match target.form with
  | .known name value => check name (.known value)
  | .localVariable _ place =>
    match (← draft).declared[place]? with
    | some found => check found.name found.kind
    | none => return
  | .upvalue index =>
    match (← draft).upvalues[index]? with
    | some found => check found.source.name found.kind
    | none => return
  | _ => return

/-! ### Variables -/

def maxVariables : Nat := 200

/-- Declares a variable, which is not in scope yet. -/
def declare (name : String) : Reading Unit := do
  if maxVariables < (← draft).declared.size + 1 then
    failLimit (← draft) "local variables" maxVariables
  modifyDraft fun draft =>
    { draft with declared := draft.declared.push ⟨name, .plain, 0, none⟩ }

def setLastKind (kind : VariableKind) : Reading Unit :=
  modifyDraft fun draft =>
    let last := draft.declared.size - 1
    { draft with declared := draft.declared.modify last fun found => { found with kind := kind } }

/-- The draft with one more declared variable in scope. -/
def Draft.activate (draft : Draft) (register : Nat) : Draft :=
  match draft.declared[draft.active]? with
  | none => draft
  | some found =>
    let naming := draft.locals.size
    { draft with
      locals := draft.locals.push ⟨found.name, draft.place, draft.place⟩
      declared := draft.declared.modify draft.active fun found =>
        { found with register := register, naming := some naming }
      active := draft.active + 1 }

/-- Brings the next `count` declared variables into scope. -/
def activate (count : Nat) : Reading Unit :=
  modifyDraft fun draft =>
    let first := draft.variableRegisters
    (List.range count).foldl (fun draft offset => Draft.activate draft (first + offset)) draft

def removeVariables (count : Nat) : Reading Unit :=
  modifyDraft fun draft =>
    let gone := draft.declared.toList.drop count |>.take (draft.active - count)
    let locals := gone.foldl
      (fun locals found => match found.naming with
        | some naming => locals.modify naming fun name => { name with last := draft.place }
        | none => locals) draft.locals
    { draft with
      locals := locals
      declared := draft.declared.take (draft.declared.size - (draft.active - count))
      active := count }

/-- Fits the values of a list of expressions to a count of variables; `last` is the last one. -/
def adjustValues (wanted count : Nat) (last : Operand) : Reading Unit := do
  if last.isOpen then setResults last (some (wanted + 1 - count))
  else
    if !last.isVoid then
      let _ ← toNextRegister last
    if count < wanted then loadNil (← draft).free (wanted - count)
  if count < wanted then reserve (wanted - count)
  else modifyDraft fun draft => { draft with free := draft.free - (count - wanted) }

/-! ### Blocks and labels -/

/-- The name under which jumps out of a loop wait. -/
def breakLabel : String := "break"

def findLabel? (name : String) : Reading (Option Label) :=
  return (← draft).labels.find? (·.name == name)

/-- Notes a jump to a label that is not known yet. -/
def awaitLabel (name : String) (line : Nat) (places : List Nat) : Reading Unit :=
  modifyDraft fun draft =>
    let waiting : PendingJump :=
      ⟨name, line, places, draft.active, draft.variableRegisters, false⟩
    { draft with jumps := draft.jumps.push waiting }

/-- Lets the jumps of the innermost block that wait for a label lead to it. Says whether one of them
ends the life of a variable that a function keeps. -/
def settleWaiting (label : Label) : Reading Bool := do
  let draft ← draft
  let first := (draft.blocks.head?.map (·.jumps)).getD 0
  let (settled, others) :=
    (draft.jumps.toList.drop first).partition fun waiting => waiting.label == label.name
  modifyDraft fun draft => { draft with jumps := draft.jumps.take first ++ others.toArray }
  settled.forM fun waiting => do
    if waiting.level < label.level then
      let name := (draft.declared[waiting.level]?.map (·.name)).getD ""
      failPlain ("<goto " ++ waiting.label ++ "> at line " ++ toString waiting.line ++
        " jumps into the scope of local '" ++ name ++ "'")
    settle waiting.places label.place
  return settled.any (·.closes)

/-- Puts a label here. One at the end of a block counts as outside the scope of its variables. Says
whether an instruction that ends the life of variables was needed. -/
def putLabel (name : String) (line : Nat) (isLast : Bool) : Reading Bool := do
  let place ← here
  let draft ← draft
  let outside := (draft.blocks.head?.map (·.level)).getD 0
  let label : Label := ⟨name, line, place, if isLast then outside else draft.active⟩
  modifyDraft fun draft => { draft with labels := draft.labels.push label }
  if ← settleWaiting label then
    let _ ← emit (.close draft.variableRegisters)
    return true
  else return false

def openBlock (isLoop : Bool) : Reading Unit :=
  modifyDraft fun draft =>
    let insideClosing := (draft.blocks.head?.map (·.insideClosing)).getD false
    let block : Block :=
      ⟨isLoop, draft.active, draft.jumps.size, draft.labels.size, false, insideClosing⟩
    { draft with blocks := block :: draft.blocks }

/-- Fails because of a jump whose label was not found. -/
def failJump {α : Type} (waiting : PendingJump) : Reading α :=
  if waiting.label == breakLabel then
    failPlain ("break outside a loop at line " ++ toString waiting.line)
  else
    failPlain ("no visible label '" ++ waiting.label ++ "' for <goto> at line " ++
      toString waiting.line)

/-- Closes the innermost block. Jumps that still wait go on to wait in the block around it. -/
def closeBlock : Reading Unit := do
  match (← draft).blocks with
  | [] => return
  | block :: around =>
    let registers := (← draft).registersOf block.level
    removeVariables block.level
    let isClosed ← if block.isLoop then putLabel breakLabel 0 false else pure false
    let hasUpvalue := ((← draft).blocks.head?.map (·.hasUpvalue)).getD false
    if !isClosed && !around.isEmpty && hasUpvalue then
      let _ ← emit (.close registers)
    modifyDraft fun draft =>
      { draft with
        free := registers
        labels := draft.labels.take block.labels
        blocks := around }
    if around.isEmpty then
      match (← draft).jumps[block.jumps]? with
      | some waiting => failJump waiting
      | none => return
    else
      modifyDraft fun draft =>
        { draft with
          jumps := draft.jumps.mapIdx fun index waiting =>
            if index < block.jumps then waiting
            else
              { waiting with
                closes :=
                  waiting.closes || (registers < waiting.registers && hasUpvalue)
                level := block.level
                registers := registers } }

end Reading
end TileScript.Script
