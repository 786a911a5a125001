import TileScript.Bridge.Stack
import TileScript.Script.Reader

/-!
Tables and functions in the hands of the host, the globals of a context, and calls with values. All
of them work on the stack and leave it as it was.
-/

namespace TileScript.Bridge

open Attempt Act Stack

namespace Table

/-- Pins the table on top of the stack and pops it. -/
def ofTop : Act Handle := do
  let actual ← kindAt (-1)
  if actual ≠ .table then throw (.type .table actual)
  let value ← popRaw
  match value with
  | .table table => pin value table.index
  | _ => throw (.type .table actual)

/-- Pins the table at a place. -/
def ofPlace (index : Int) : Act Handle := do
  let actual ← kindAt index
  if actual ≠ .table then throw (.type .table actual)
  let value ← rawAt index
  match value with
  | .table table => pin value table.index
  | _ => throw (.type .table actual)

/-- A new table without entries. -/
def create : Act Handle := do
  createTable
  ofTop

def get (table : Handle) (key : Value) : Act Value :=
  framed do
    push (.table table)
    push key
    getTable (-2)
    pop

def set (table : Handle) (key value : Value) : Act Unit :=
  framed do
    push (.table table)
    push key
    push value
    setTable (-3)

def getField (table : Handle) (name : String) : Act Value :=
  framed do
    push (.table table)
    Stack.getField (-1) name
    pop

def setField (table : Handle) (name : String) (value : Value) : Act Unit :=
  framed do
    push (.table table)
    push value
    Stack.setField (-2) name

/-- The kind of a field; no handle to its value is made. -/
def fieldKind (table : Handle) (name : String) : Act Kind :=
  framed do
    push (.table table)
    Stack.getField (-1) name
    kindAt (-1)

def setFields (table : Handle) : List (String × Value) → Act Unit
  | [] => return
  | (name, value) :: rest => do
    setField table name value
    setFields table rest

end Table

namespace Function

/-- Pins the function on top of the stack and pops it. -/
def ofTop : Act Handle := do
  let actual ← kindAt (-1)
  if actual ≠ .function then throw (.type .function actual)
  let value ← popRaw
  match value with
  | .function function => pin value function.index
  | _ => throw (.type .function actual)

/-- Makes a native function. -/
def ofNative (native : Native) : Act Handle := do
  pushRaw (.function (← ask (.newNative native)))
  ofTop

/-- Reads a chunk. Messages about its lines start with its name. -/
def ofChunk (name text : String) : Act Handle := do
  match Script.read name text with
  | .error fault => throw (.load (fault.report name))
  | .ok function =>
    pushRaw (.function (← ask (.newChunk function)))
    ofTop

/-- The name of chunks that come from no file. -/
def sourceName : String := "(load)"

/-- Pushes arguments. If one cannot be pushed, those before it are dropped, and the function below.
-/
def pushArguments : (pushed : Nat) → List Value → Act Unit
  | _, [] => return
  | pushed, value :: rest => do
    match ← observe (push value) with
    | .ok _ => pushArguments (pushed + 1) rest
    | .error error =>
      remove (pushed + 1)
      throw error

/-- The results on top, the deepest one first. -/
def readResults : (depth : Nat) → Act (List Value)
  | 0 => return []
  | depth + 1 => do
    let value ← readAt (-(depth + 1))
    return value :: (← readResults depth)

/-- Pushes a function with its arguments and calls it. Its results are on top then, or the message
it raised; the answer says which. -/
def invoke (function : Handle) (arguments : List Value) : Act Bool := do
  push (.function function)
  pushArguments 0 arguments
  protectedCall arguments.length

/-- Takes the results of a call off the stack; how many they are is known by how much it has grown. -/
def takeResults (before : Nat) : Act CallResult := do
  match (← size) - before with
  | 0 => return .none
  | 1 => return .single (← pop)
  | count =>
    let values ← observe (readResults count)
    remove count
    return .multiple (← settle values)

/-- Takes what a call raised off the stack. -/
def takeMessage : Act CallResult := do
  match ← pop with
  | .string message => return .failed message
  | other => return .failed other.kind.name

def call (function : Handle) (arguments : List Value) : Act CallResult := do
  let before ← size
  if ← invoke function arguments then takeResults before else takeMessage

end Function

namespace Global

def set (name : String) (value : Value) : Act Unit := do
  push value
  let raw ← popRaw
  use fun site => site.assign (.table Script.Heap.globals) (.ofString name) raw .other

def get (name : String) : Act Value := do
  pushRaw (← use fun site =>
    site.index (.table Script.Heap.globals) (.ofString name) .other)
  pop

end Global
end TileScript.Bridge
