import TileScript.Bridge.Act

/-!
The value stack of a context. The host stages values here and reads results from here. Places count
from one at the bottom, or from minus one at the top.
-/

namespace TileScript.Bridge

open Script (Raw TableRef Site)

namespace Stack

open Attempt Act

def size : Act Nat := do return (← ask .stack).length

def pushRaw (value : Raw) : Act Unit := do ask (.setStack (value :: (← ask .stack)))

def popRaw : Act Raw := do
  match ← ask .stack with
  | [] => throw (.stackIndex (-1) 0)
  | value :: rest =>
    ask (.setStack rest)
    return value

/-- Pushes a value; for a handle, the object it denotes. -/
def push (value : Value) : Act Unit := do pushRaw (← toRaw value)

/-- Pops a value. It is gone even if the host cannot represent it. -/
def pop : Act Value := do ofRaw (← popRaw)

/-- Drops some values from the top. -/
def remove (count : Nat) : Act Unit := do
  let values ← ask .stack
  if values.length < count then throw (.stackIndex (-count) values.length)
  ask (.setStack (values.drop count))

/-- Drops everything above a depth. -/
def truncate (depth : Nat) : Act Unit := do
  let values ← ask .stack
  ask (.setStack (values.drop (values.length - depth)))

/-- How many values lie above a place, if it is in range. -/
def above? (index : Int) (size : Nat) : Option Nat :=
  if 0 < index && index ≤ size then some (size - index.toNat)
  else if index < 0 && -index ≤ size then some ((-index).toNat - 1)
  else none

def rawAt (index : Int) : Act Raw := do
  let values ← ask .stack
  match (above? index values.length).bind (values[·]?) with
  | some value => return value
  | none => throw (.stackIndex index values.length)

/-- The value at a place; every reading of an object gives a new handle. -/
def readAt (index : Int) : Act Value := do ofRaw (← rawAt index)

def kindAt (index : Int) : Act Kind := do kind (← rawAt index)

/-- The table at a place. -/
def tableAt (index : Int) : Act TableRef := do
  match ← rawAt index with
  | .table table => return table
  | value => throw (.type .table (← kind value))

/-! ### The registry -/

/-- Pins the top value and pops it. -/
def registerTop : Act Pin := do
  let registration ← ask (.register (← popRaw))
  return ⟨← ask .context, registration⟩

/-- Pins the value at a place. -/
def registerAt (index : Int) : Act Pin := do
  let registration ← ask (.register (← rawAt index))
  return ⟨← ask .context, registration⟩

/-- Releases a pin of this context. -/
def unregister (pin : Pin) : Act Unit := do
  if pin.context ≠ (← ask .context) then throw .foreignPin
  ask (.release pin.registration)

/-! ### Tables -/

def createTable : Act Unit := do pushRaw (.table (← ask (.heap (.newTable 0 0))))

/-- Replaces the key on top by what the table at a place has for it. -/
def getTable (index : Int) : Act Unit := do
  let table ← tableAt index
  let key ← popRaw
  pushRaw (← use fun site => site.index (.table table) key .other)

/-- Pops a value and the key below it, and sets them in the table at a place. -/
def setTable (index : Int) : Act Unit := do
  let table ← tableAt index
  let value ← popRaw
  let key ← popRaw
  use fun site => site.assign (.table table) key value .other

/-- Pushes a field of the table at a place. -/
def getField (index : Int) (name : String) : Act Unit := do
  let table ← tableAt index
  pushRaw (← use fun site => site.index (.table table) (.ofString name) .other)

/-- Pops a value and sets a field of the table at a place to it. -/
def setField (index : Int) (name : String) : Act Unit := do
  let table ← tableAt index
  let value ← popRaw
  use fun site => site.assign (.table table) (.ofString name) value .other

/-! ### Calls -/

/-- Calls the function below `count` arguments, which are popped with it. Its results are pushed, or
the message it raised; the answer says which. -/
def protectedCall (count : Nat) : Act Bool := do
  let values ← ask .stack
  if values.length < count + 1 then throw (.stackIndex (-(count + 1)) values.length)
  ask (.setStack (values.drop (count + 1)))
  match values[count]? with
  | some (.function function) =>
    match ← call (.function function) (values.take count).reverse with
    | .ok results =>
      ask (.setStack (results.reverse ++ (← ask .stack)))
      return true
    | .error raised =>
      pushRaw (.ofString (withoutTrace (raisedMessage raised)))
      return false
  | some value => throw (.type .function (← kind value))
  | none => throw (.stackIndex (-1) 0)

/-- Pops the top values, the deepest one first. -/
def takeTop (count : Nat) : Act (List Raw) := do
  let values ← ask .stack
  if values.length < count then throw (.stackIndex (-count) values.length)
  ask (.setStack (values.drop count))
  return (values.take count).reverse

/-- Runs an act and drops what it left on the stack, also if it failed. -/
def framed {α : Type} (act : Act α) : Act α := do
  let depth ← size
  let result ← observe act
  truncate depth
  settle result

end Stack
end TileScript.Bridge
