import TileScript.Script.Frame
import TileScript.Script.Reachability

/-!
Programs: trees of requests and of tasks. A request asks something of the state and goes on with the
answer; a task is a call or a machine, which may take any number of steps. What a program can do to
the state is limited by its requests, so the evaluator of scripts, whose requests are all about the
heap, cannot touch anything else.
-/

namespace TileScript.Script

universe u v

/-- What a task comes to: a value that was raised, or the values it gives back. -/
abbrev Outcome := Except Raw (List Raw)

/-- Work that may take any number of steps. -/
inductive Task where
  | call (callee : Raw) (arguments : List Raw) (site : Site)
  | execute (machine : Machine)
  /-- Ends the process. -/
  | exit (status : UInt8)
  deriving Inhabited

/-- A task after one step: it is done, or another task stands in its place, or nothing comes after
it any more. -/
inductive Step where
  | finish (outcome : Outcome)
  | again (task : Task)
  | exit (status : UInt8)

/-- A program over some requests. -/
inductive Program (Request : Type → Type u) (α : Type) : Type (max 1 u) where
  | pure (value : α)
  | request {β : Type} (operation : Request β) (next : β → Program Request α)
  | run (task : Task) (next : Outcome → Program Request α)

namespace Program

variable {Request : Type → Type u} {Other : Type → Type v} {α β : Type}

def bind (program : Program Request α) (next : α → Program Request β) : Program Request β :=
  match program with
  | .pure value => next value
  | .request operation rest => .request operation fun value => (rest value).bind next
  | .run task rest => .run task fun outcome => (rest outcome).bind next

instance : Monad (Program Request) where
  pure := .pure
  bind := bind

def lift (embed : {γ : Type} → Request γ → Other γ) : Program Request α → Program Other α
  | .pure value => .pure value
  | .request operation next => .request (embed operation) fun value => (next value).lift embed
  | .run task next => .run task fun outcome => (next outcome).lift embed

end Program

/-- What scripts ask of the heap. -/
inductive HeapRequest : Type → Type where
  | newTable (items fields : Nat) : HeapRequest TableRef
  | get (table : TableRef) (key : Raw) : HeapRequest Raw
  | set (table : TableRef) (key value : Raw) : HeapRequest Unit
  | setItems (table : TableRef) (stored : Nat) (values : List Raw) : HeapRequest Unit
  | metatable (value : Raw) : HeapRequest (Option TableRef)
  | setMetatable (table : TableRef) (metatable : Option TableRef) : HeapRequest Unit
  | border (table : TableRef) : HeapRequest Nat
  | following (table : TableRef) (key : Raw) : HeapRequest (Option (Option (Raw × Raw)))
  | newClosure (closure : Closure) : HeapRequest FunctionRef
  | closure? (function : FunctionRef) : HeapRequest (Option Closure)
  | libraryName? (function : FunctionRef) : HeapRequest (Option ByteArray)
  | newCell (value : Raw) : HeapRequest CellRef
  | cell (cell : CellRef) : HeapRequest Raw
  | setCell (cell : CellRef) (value : Raw) : HeapRequest Unit
  | newNumber : HeapRequest Nat
  | takeAwaiting : HeapRequest (List TableRef)
  | print (text : ByteArray) : HeapRequest Unit

namespace HeapRequest

def answer {α : Type} (request : HeapRequest α) (heap : Heap) : α × Heap :=
  match request with
  | .newTable items fields => heap.newTable (.empty items fields)
  | .get table key =>
    let object := heap.table table
    (object.get key, if object.isSettled then heap else heap.modifyTable table (·.touch key))
  | .set table key value => ((), heap.modifyTable table (·.set key value))
  | .setItems table stored values => ((), heap.modifyTable table (·.setItems stored values))
  | .metatable value => (heap.metatable value, heap)
  | .setMetatable table chosen => ((), heap.setMetatable table chosen)
  | .border table =>
    let (found, object) := (heap.table table).border
    (found, heap.modifyTable table fun _ => object)
  | .following table key => ((heap.table table).following key, heap)
  | .newClosure closure => heap.newFunction (.closure closure)
  | .closure? function =>
    match heap.functions[function.index]? with
    | some (.closure closure) => (some closure, heap)
    | _ => (none, heap)
  | .libraryName? function => (heap.libraryName? function, heap)
  | .newCell value => heap.newCell value
  | .cell place => (heap.cell place, heap)
  | .setCell place value => ((), heap.setCell place value)
  | .newNumber => heap.newNumber
  | .takeAwaiting => heap.takeAwaiting fun _ => true
  | .print text => ((), heap.print text)

end HeapRequest

/-- A computation of a script, which may raise a value. -/
abbrev Eval := ExceptT Raw (Program HeapRequest)

namespace Eval

def ask {α : Type} (request : HeapRequest α) : Eval α :=
  ExceptT.lift (.request request .pure)

/-- Runs a task; what it raises is raised here. -/
def perform (task : Task) : Eval (List Raw) := ExceptT.mk (.run task .pure)

/-- Runs a task, and gives back what it raises. -/
def attempt (task : Task) : Eval Outcome := ExceptT.lift (.run task .pure)

end Eval

namespace Site

variable {α : Type}

def call (site : Site) (callee : Raw) (arguments : List Raw) : Eval (List Raw) :=
  Eval.perform (.call callee arguments site.nested)

/-- Calls a value for one result. -/
def callOne (site : Site) (callee : Raw) (arguments : List Raw) : Eval Raw := do
  return (← site.call callee arguments).headD .nil

/-- Raises a value. If there is a handler, it is called here, and what it gives back is raised. -/
def raise (site : Site) (value : Raw) : Eval α := do
  match site.handler with
  | none => throw value
  | some handler => throw (← site.callOne handler [value])

/-- Raises a message about this place. -/
def failBytes (site : Site) (message : ByteArray) : Eval α :=
  site.raise (.string (site.label.toUTF8 ++ message))

def fail (site : Site) (message : String) : Eval α := site.failBytes message.toUTF8

/-- What is raised if not even the handling of an error is possible. No handler is asked. -/
def failHandling : Eval α := throw (.ofString "error in error handling")

/-- Sees to it that a number of slots can be in use. -/
def claim (site : Site) (height : Nat) : Eval Unit := do
  if site.inReserve then
    if maxHeight + reserve ≤ height then failHandling
  else if maxHeight < height then
    fail { site with inReserve := true } "stack overflow"

/-- Sees to it that a call is not nested too deep. -/
def checkNesting (site : Site) : Eval Unit := do
  if site.nesting = maxNesting then site.fail "C stack overflow"
  else if maxFaultNesting ≤ site.nesting then failHandling

end Site
end TileScript.Script
