import TileScript.Bridge.Registry
import TileScript.Bridge.Snapshot
import TileScript.Manager.Change
import TileScript.Script.Program
import TileScript.Text.Utf8

/-!
The state that a run of scripts can reach, and the requests that change it: the heap, the value
stack and the registry of one context, and the window manager.
-/

namespace TileScript.Bridge

open Script (Raw Heap HeapRequest FunctionRef FunctionObject LibraryTable TableRef)

/-- What belongs to one context: its heap, the values that the host stages, the last one first, and
the values that the host keeps. -/
structure Interpreter where
  heap : Heap
  stack : List Raw
  registry : Registry
  deriving Inhabited

/-- A context before any script. -/
def Interpreter.initial : Interpreter := ⟨.initial, [], .empty⟩

/-- The values that are there on their own: the tables of the library, and what the host stages and
keeps. -/
def Interpreter.roots (interpreter : Interpreter) : List Raw :=
  LibraryTable.all.map (fun library => Raw.table (Heap.libraryRef library)) ++ interpreter.stack ++
    interpreter.registry.slots.toList

/-- The state of a run in one context. -/
structure Scene where
  context : ContextId
  interpreter : Interpreter
  manager : Manager
  /-- The calls noted so far, also those in other contexts; new ones are added at the end. -/
  trace : List TraceEntry
  deriving Inhabited

/-- The kind of a value, if the host knows it. -/
def kindOf : Raw → Except ForeignKind Kind
  | .nil => .ok .nil
  | .boolean _ => .ok .boolean
  | .integer _ | .number _ => .ok .number
  | .string _ => .ok .string
  | .table _ => .ok .table
  | .function _ => .ok .function
  | .thread _ => .error .thread
  | .file => .error .userdata
  | .failure _ _ => .error .error

/-- A number of the host as a script gets it: an integer if it has no fraction and fits 64 bits. -/
def ofDouble (value : Double) : Raw :=
  match value.toInteger? with
  | some n => .integer (Int64.ofInt n)
  | none => .number value

/-! ### Snapshots -/

namespace Snapshot

/-- The order of keys: booleans, then numbers, then strings, then all others as they come. -/
def keyClass : Raw → Nat
  | .boolean _ => 0
  | .integer _ | .number _ => 1
  | .string _ => 2
  | _ => 3

def bytesNotAfter : List UInt8 → List UInt8 → Bool
  | [], _ => true
  | _ :: _, [] => false
  | a :: as, b :: bs => a < b || (a == b && bytesNotAfter as bs)

def keyNotAfter (a b : Raw) : Bool :=
  match a, b with
  | .boolean a, .boolean b => !a || b
  | .integer a, .integer b => decide (a ≤ b)
  | .integer a, .number b => Double.intLess a.toInt b
  | .number a, .integer b => Double.lessInt a b.toInt
  | .number a, .number b => a.lessOrEqual b
  | .string a, .string b => bytesNotAfter a.toList b.toList
  | a, b => decide (keyClass a ≤ keyClass b)

/-- The value of a script as it is now. `above` holds the tables it is inside of. -/
def ofRaw (heap : Heap) : Nat → (above : List TableRef) → Raw → Snapshot
  | _, _, .nil => .nil
  | _, _, .boolean value => .boolean value
  | _, _, .integer value => .number (Integer.toDouble value)
  | _, _, .number value => .number value
  | _, _, .string bytes => .string (Utf8.decode bytes)
  | _, _, .function _ => .function
  | 0, _, .table _ => .cycle
  | fuel + 1, above, .table place =>
    if above.contains place then .cycle
    else
      let entries := (heap.table place).present.mergeSort fun a b => keyNotAfter a.1 b.1
      let foreign := entries.findSome? fun (key, value) =>
        match kindOf key, kindOf value with
        | .error kind, _ => some kind
        | _, .error kind => some kind
        | _, _ => none
      match foreign with
      | some kind => .unreadable (.unsupported kind)
      | none =>
        .table (entries.map fun (key, value) =>
          (ofRaw heap fuel (place :: above) key, ofRaw heap fuel (place :: above) value))
  | _, _, .thread _ => .unreadable (.unsupported .thread)
  | _, _, .file => .unreadable (.unsupported .userdata)
  | _, _, .failure _ _ => .unreadable (.unsupported .error)

/-- The value of a script as it is now. -/
def take (heap : Heap) (value : Raw) : Snapshot := ofRaw heap (heap.tables.size + 1) [] value

end Snapshot

/-! ### Requests -/

/-- What the host and its native functions ask for. -/
inductive BridgeRequest : Type → Type 1 where
  | heap {α : Type} (request : HeapRequest α) : BridgeRequest α
  /-- The tables that wait for their end and cannot be reached any more. -/
  | takeLost : BridgeRequest (List TableRef)
  | function (function : FunctionRef) : BridgeRequest (Option FunctionObject)
  | newNative (native : Native) : BridgeRequest FunctionRef
  | newChunk (function : Script.Prototype) : BridgeRequest FunctionRef
  | context : BridgeRequest ContextId
  | stack : BridgeRequest (List Raw)
  | setStack (stack : List Raw) : BridgeRequest Unit
  | register (value : Raw) : BridgeRequest Nat
  | registered (registration : Nat) : BridgeRequest (Option Raw)
  | release (registration : Nat) : BridgeRequest Unit
  | host : BridgeRequest Host
  | runCommand (command : HostCommand) (env : CommandEnv) : BridgeRequest CommandOutput
  | change (change : Change) : BridgeRequest Unit
  | note (name : String) (arguments : List Raw) : BridgeRequest Unit

namespace Scene

def withHeap {α : Type} (scene : Scene) (change : Heap → α × Heap) : α × Scene :=
  match scene with
  | ⟨context, ⟨heap, stack, registry⟩, manager, trace⟩ =>
    match change heap with
    | (answer, heap) => (answer, ⟨context, ⟨heap, stack, registry⟩, manager, trace⟩)

def withRegistry {α : Type} (scene : Scene) (change : Registry → α × Registry) : α × Scene :=
  match scene with
  | ⟨context, ⟨heap, stack, registry⟩, manager, trace⟩ =>
    match change registry with
    | (answer, registry) => (answer, ⟨context, ⟨heap, stack, registry⟩, manager, trace⟩)

def setStack (scene : Scene) (stack : List Raw) : Scene :=
  match scene with
  | ⟨context, ⟨heap, _, registry⟩, manager, trace⟩ =>
    ⟨context, ⟨heap, stack, registry⟩, manager, trace⟩

/-- The answer to a request, and the state after it. -/
def answer {α : Type} (scene : Scene) (request : BridgeRequest α) : α × Scene :=
  match request with
  | .heap request => scene.withHeap request.answer
  | .takeLost => scene.withHeap (·.takeLost scene.interpreter.roots)
  | .function place => (scene.interpreter.heap.functions[place.index]?, scene)
  | .newNative native => scene.withHeap (·.newFunction (.native native))
  | .newChunk function => scene.withHeap (·.newChunk function)
  | .context => (scene.context, scene)
  | .stack => (scene.interpreter.stack, scene)
  | .setStack values => ((), scene.setStack values)
  | .register value => scene.withRegistry (·.register value)
  | .registered registration => (scene.interpreter.registry.value? registration, scene)
  | .release registration => scene.withRegistry fun registry => ((), registry.release registration)
  | .host => (scene.manager.host, scene)
  | .runCommand command env =>
    (scene.manager.host.output command,
      { scene with manager := scene.manager.execute command env })
  | .change wanted => ((), { scene with manager := scene.manager.change wanted })
  | .note name arguments =>
    let entry := ⟨name, arguments.map (Snapshot.take scene.interpreter.heap)⟩
    ((), { scene with trace := scene.trace ++ [entry] })

end Scene
end TileScript.Bridge
