import TileScript.Bridge.Run

/-!
Contexts side by side and the window manager they all work on. A context that was closed never comes
back, and its number is never given to another one.
-/

namespace TileScript

open Bridge

/-- Everything that outlives a run. The place of a context is its number; a closed one is gone. -/
structure World where
  contexts : Array (Option Interpreter)
  manager : Manager
  /-- The calls that were noted, the first one first. -/
  trace : List TraceEntry
  deriving Inhabited

namespace World

/-- No context yet. -/
def initial (host : Host) : World := ⟨#[], .initial host, []⟩

def interpreter? (world : World) (context : ContextId) : Option Interpreter :=
  world.contexts[context.index]?.join

/-- Whether a context is not closed. -/
def isOpen (world : World) (context : ContextId) : Bool := (world.interpreter? context).isSome

def openContext (world : World) : ContextId × World :=
  match world with
  | ⟨contexts, manager, trace⟩ =>
    (⟨contexts.size⟩, ⟨contexts.push (some .initial), manager, trace⟩)

def closeContext (world : World) (context : ContextId) : World :=
  match world with
  | ⟨contexts, manager, trace⟩ => ⟨contexts.setIfInBounds context.index none, manager, trace⟩

/-- How many values the host has staged in a context. -/
def stackSize? (world : World) (context : ContextId) : Option Nat :=
  (world.interpreter? context).map (·.stack.length)

/-- What scripts of a context have printed, which is forgotten here. -/
def takePrinted (world : World) (context : ContextId) : ByteArray × World :=
  match world.interpreter? context with
  | none => (.empty, world)
  | some ⟨heap, stack, registry⟩ =>
    let interpreter := ⟨{ heap with printed := .empty }, stack, registry⟩
    (heap.printed,
      { world with contexts := world.contexts.setIfInBounds context.index (some interpreter) })

/-- Runs what the host does in a context, to its end or a halt. There is nothing to run in one that is
closed. -/
def drive {α : Type} (world : World) (context : ContextId) (act : Act α) (runtime : Runtime) :
    Except Halt (Except Error α × World) :=
  match world with
  | ⟨contexts, manager, trace⟩ =>
    match contexts[context.index]?.join with
    | none => .ok (.error .stale, ⟨contexts, manager, trace⟩)
    | some interpreter =>
      let others := contexts.setIfInBounds context.index none
      match act.drive runtime ⟨context, interpreter, manager, trace⟩ with
      | .error halt => .error halt
      | .ok (result, ⟨_, interpreter, manager, trace⟩) =>
        .ok (result, ⟨others.setIfInBounds context.index (some interpreter), manager, trace⟩)

/-- What such a run comes to if it does not halt. -/
def run {α : Type} (world : World) (context : ContextId) (act : Act α) (runtime : Runtime) :
    Option (Except Error α × World) :=
  (world.drive context act runtime).toOption

/-! ### Handles -/

/-- The object a handle denotes, if its context is open. -/
def object? (world : World) (handle : Handle) : Option Script.Raw :=
  (world.interpreter? handle.context).bind (·.registry.value? handle.pin.registration)

/-- What the host can find out about a value at this time. -/
def snapshot (world : World) : Value → Snapshot
  | .number value => .number value
  | .string value => .string value
  | .boolean value => .boolean value
  | .nil => .nil
  | .function _ => .function
  | .table handle =>
    match world.interpreter? handle.context, world.object? handle with
    | some interpreter, some value => .take interpreter.heap value
    | _, _ => .unreadable .stale

/-- The handles that native functions of a context keep. -/
def nativeHandles (interpreter : Interpreter) : List Handle :=
  interpreter.heap.functions.toList.flatMap fun
    | .native native => native.handles
    | _ => []

/-- The handles that the configuration, the host and native functions keep. -/
def handles (world : World) : List Handle :=
  world.manager.config.handles ++
    world.manager.host.applied.flatMap
      (fun mode => mode.bindings.flatMap fun binding => binding.commands.flatMap Command.handles) ++
    world.contexts.toList.flatMap fun
      | some interpreter => nativeHandles interpreter
      | none => []

/-- Releases every pin that is neither held outside nor kept inside. -/
def collect (world : World) (held : List Pin) : World :=
  let pins := held ++ world.handles.map (·.pin)
  match world with
  | ⟨contexts, manager, trace⟩ =>
    let contexts := contexts.mapIdx fun index interpreter =>
      interpreter.map fun ⟨heap, stack, registry⟩ =>
        ⟨heap, stack, registry.retain fun registration => pins.contains ⟨⟨index⟩, registration⟩⟩
    ⟨contexts, manager, trace⟩

end World

/-- What can be done to a world. It may fail, and has no result if a run comes to a halt. -/
def Live (α : Type) : Type 1 := Runtime → ExceptT Error (StateT World Option) α

namespace Live

variable {α : Type}

instance : Monad Live where
  pure value := fun _ => pure value
  bind live next := fun runtime => live runtime >>= fun value => next value runtime

instance : MonadLift (ExceptT Error (StateT World Option)) Live := ⟨fun change _ => change⟩

def world : Live World := get

def within (context : ContextId) (act : Act α) : Live α := fun runtime =>
  ExceptT.mk fun world => world.run context act runtime

/-- The outcome of what may fail. -/
def observe (live : Live α) : Live (Except Error α) := fun runtime =>
  ExceptT.lift (live runtime).run

def openContext : Live ContextId := modifyGet World.openContext

/-- Closes a context. What its tables do when they are told of it stays done. -/
def closeContext (context : ContextId) : Live Unit := do
  let _ ← observe (within context Act.finish)
  modify (·.closeContext context)

def configure (change : Config → Config) : Live Unit :=
  modify fun world =>
    { world with manager := { world.manager with config := change world.manager.config } }

def config : Live Config := return (← get).manager.config

end Live
end TileScript
