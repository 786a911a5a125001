import TileScript.Proofs.Installation

/-! Reloads. The configuration is reset first and the old context comes to its end then, so that what its tables do
when they are told of their end is done to the configuration of the engine that takes its place. A reload is that, and
the start of a new engine in the world that is left. -/

namespace TileScript.Bridge
open Script Attempt

/-- Where no table waits for it, nothing is done at the end of a context. -/
theorem Act.exec_finish_of_idle {runner : Runner} {site : Site} {scene : Scene}
    (idle : scene.interpreter.heap.awaiting = []) : finish.exec runner site scene = some (.ok (), scene) := by
  obtain ⟨context, ⟨⟨tables, functions, cells, numbers, printed, awaiting⟩, stack, registry⟩, manager, trace⟩ := scene
  subst idle
  rfl

end TileScript.Bridge

namespace TileScript
open Bridge

namespace World

/-- The world with nothing configured. -/
def reset (world : World) : World := { world with manager := { world.manager with config := .initial } }

/-- That no table of a context waits for its end. -/
def IsIdle (world : World) (context : ContextId) : Prop :=
  ∀ interpreter, world.interpreter? context = some interpreter → interpreter.heap.awaiting = []

end World

theorem Live.exec_closeContext (context : ContextId) (runtime : Runtime) (world : World) :
    (closeContext context).exec runtime world =
      (world.run context Act.finish runtime).map fun (_, after) => (.ok (), after.closeContext context) := by
  change (observe (within context Act.finish) >>= _).exec runtime world = _
  rw [exec_bind, exec_observe, exec_within, Option.bind_map, Option.map_eq_bind]
  rfl

namespace Engine

variable {engine : Engine} {runtime : Runtime} {world left after : World}

/-- What an engine leaves behind for the one that takes its place: the configuration was reset, and its context has come
to its end and is closed. -/
def Leaves (engine : Engine) (runtime : Runtime) (world left : World) : Prop :=
  (Live.closeContext engine.context).exec runtime world.reset = some (.ok (), left)

/-- A new engine whose first mode is activated and whose init script is run. -/
def start (initPath : String) (file : ScriptFile) : Live (Engine × Except Error Unit) := do
  let engine ← create initPath
  modify fun world => { world with manager := world.manager.activate Config.mainMode }
  return (engine, ← Live.observe (engine.runInitFile file))

/-- The world with the bindings of the first mode in force. -/
def activated (world : World) : World := { world with manager := world.manager.activate Config.mainMode }

/-! ### The end of the old context -/

theorem Leaves.cases (leaves : engine.Leaves runtime world left) :
    (world.interpreter? engine.context = none ∧ left = world.reset.closeContext engine.context) ∨
    ∃ interpreter result scene, world.interpreter? engine.context = some interpreter ∧
      Act.finish.exec runtime.perform .host (world.reset.scene engine.context interpreter) = some (result, scene) ∧
      left = (world.reset.leave engine.context scene).closeContext engine.context := by
  rw [Leaves, Live.exec_closeContext, Option.map_eq_some_iff] at leaves
  obtain ⟨⟨result, after⟩, ran, ⟨⟩⟩ := leaves
  obtain ⟨gone, -, rfl⟩ | ⟨interpreter, scene, known, finished, rfl⟩ := World.run_cases ran
  · exact .inl ⟨gone, rfl⟩
  · exact .inr ⟨interpreter, result, scene, known, finished, rfl⟩

theorem Leaves.size (leaves : engine.Leaves runtime world left) : left.contexts.size = world.contexts.size := by
  obtain ⟨-, rfl⟩ | ⟨_, _, scene, -, -, rfl⟩ := leaves.cases
  · exact Array.size_setIfInBounds
  · exact Array.size_setIfInBounds.trans Array.size_setIfInBounds

/-- Other contexts are not touched. -/
theorem Leaves.interpreter? (leaves : engine.Leaves runtime world left) (other : ContextId) :
    left.interpreter? other = if engine.context = other then none else world.interpreter? other := by
  obtain ⟨-, rfl⟩ | ⟨interpreter, _, scene, known, -, rfl⟩ := leaves.cases
  · exact World.interpreter?_closeContext _ _ _
  · have known : world.reset.interpreter? engine.context = some interpreter := known
    rw [World.interpreter?_closeContext]
    split
    · rfl
    next apart => exact (World.interpreter?_leave scene other known).trans (if_neg apart)

/-- Where no table waits for it, the end of the context leaves the reset configuration as it is. -/
theorem leaves_of_idle (idle : world.IsIdle engine.context) (runtime : Runtime) :
    engine.Leaves runtime world (world.reset.closeContext engine.context) := by
  rw [Leaves, Live.exec_closeContext]
  cases known : world.reset.interpreter? engine.context with
  | none =>
    rw [World.run_closed known]
    rfl
  | some interpreter =>
    have finished : Act.finish.exec runtime.perform .host (world.reset.scene engine.context interpreter) =
        some (.ok (), world.reset.scene engine.context interpreter) := Act.exec_finish_of_idle (idle interpreter known)
    rw [World.run_open known, finished]
    exact congrArg (fun after : World => some (Except.ok (), after.closeContext engine.context)) (World.leave_scene known)

theorem Leaves.of_idle (leaves : engine.Leaves runtime world left) (idle : world.IsIdle engine.context) :
    left = world.reset.closeContext engine.context := by
  have same := (leaves_of_idle idle runtime).symm.trans leaves
  cases same
  rfl

/-! ### The start of a new one -/

/-- A reload is a start in the world that the old engine leaves. -/
theorem Leaves.exec_reload (leaves : engine.Leaves runtime world left) (file : ScriptFile) :
    (engine.reload file).exec runtime world = (start engine.initPath file).exec runtime left := by
  change (Live.closeContext engine.context >>= _).exec runtime world.reset = _
  rw [Live.exec_bind, leaves]
  rfl

theorem leaves_of_reload {file : ScriptFile} {result : Except Error (Engine × Except Error Unit)}
    (ran : (engine.reload file).exec runtime world = some (result, after)) :
    ∃ left, engine.Leaves runtime world left ∧
      (start engine.initPath file).exec runtime left = some (result, after) := by
  have parts := ran
  change (Live.closeContext engine.context >>= _).exec runtime world.reset = _ at parts
  rw [Live.exec_bind, Option.bind_eq_some_iff] at parts
  obtain ⟨⟨ended, left⟩, closed, -⟩ := parts
  have leaves : engine.Leaves runtime world left := by
    have always := closed
    rw [Live.exec_closeContext, Option.map_eq_some_iff] at always
    obtain ⟨_, -, ⟨⟩⟩ := always
    exact closed
  exact ⟨left, leaves, (leaves.exec_reload file).symm.trans ran⟩

theorem create_isIdle {initPath : String} (made : (create initPath).exec runtime world = some (.ok engine, after)) :
    after.IsIdle engine.context := by
  obtain ⟨scene, -, furnished, created⟩ := create_runs runtime world initPath
  cases created.symm.trans made
  intro interpreter known
  rw [World.interpreter?_leave scene _ world.interpreter?_opened, if_pos rfl] at known
  cases known
  exact furnished.awaiting

/-- A start always gets as far as the init script, and ends as that does. -/
theorem exec_start_initFile (runtime : Runtime) (world : World) (initPath : String) :
    ∃ made, (create initPath).exec runtime world = some (.ok ⟨⟨world.contexts.size⟩, initPath⟩, made) ∧
      made.manager = world.manager ∧
      ∀ file, (start initPath file).exec runtime world =
        ((runInitFile ⟨⟨world.contexts.size⟩, initPath⟩ file).exec runtime (activated made)).map
          fun (result, after) => (.ok (⟨⟨world.contexts.size⟩, initPath⟩, result), after) := by
  obtain ⟨made, created, manager⟩ := create_ends runtime world initPath
  refine ⟨made, created, manager, fun file => ?_⟩
  change (create initPath >>= _).exec runtime world = _
  rw [Live.exec_bind, created]
  change (Live.observe (runInitFile ⟨⟨world.contexts.size⟩, initPath⟩ file) >>= _).exec runtime (activated made) = _
  rw [Live.exec_bind, Live.exec_observe, Option.map_eq_bind, Option.map_eq_bind, Option.bind_assoc]
  rfl

end Engine
end TileScript
