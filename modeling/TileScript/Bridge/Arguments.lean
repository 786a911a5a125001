import TileScript.Bridge.Act

/-!
The arguments of a native function. Places count from one at the first argument, or from minus one
at the last.
-/

namespace TileScript.Bridge

open Script (Raw)
open Attempt

abbrev Arguments := List Raw

namespace Arguments

def raw (arguments : Arguments) (index : Int) : Act Raw :=
  let place? := if 0 < index then some (index.toNat - 1)
    else if index < 0 && -index ≤ arguments.length then some (arguments.length - (-index).toNat)
    else none
  match place?.bind (arguments[·]?) with
  | some value => return value
  | none => throw (.argumentIndex index arguments.length)

def value (arguments : Arguments) (index : Int) : Act Value := do
  Act.ofRaw (← arguments.raw index)

/-- The kind of the argument at a place; no handle to it is made. -/
def kind (arguments : Arguments) (index : Int) : Act Kind := do Act.kind (← arguments.raw index)

def collect : Arguments → Act (List Value)
  | [] => return []
  | value :: rest => do
    let first ← Act.ofRaw value
    return first :: (← collect rest)

def select (arguments : Arguments) : List Int → Act (List Value)
  | [] => return []
  | index :: rest => do
    let first ← arguments.value index
    return first :: (← arguments.select rest)

def kinds (arguments : Arguments) : List Int → Act (List Kind)
  | [] => return []
  | index :: rest => do
    let first ← arguments.kind index
    return first :: (← arguments.kinds rest)

def commands : Arguments → Act (List Command)
  | [] => return []
  | raw :: rest => do
    let value ← Act.ofRaw raw
    match (← ask .host).commandOf value with
    | .error fault => throw (.runtime fault.message)
    | .ok command => return command :: (← commands rest)

end Arguments
end TileScript.Bridge
