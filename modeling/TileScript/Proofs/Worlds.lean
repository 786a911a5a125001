import TileScript.Engine.Basic
import TileScript.Proofs.Execution

/-! Runs over worlds, and what all that the host does to a world keeps. What the engine does in a
context is left to the acts it runs there. -/

namespace TileScript
open Bridge

namespace World

variable {α : Type} {world after : World} {context : ContextId} {act : Act α} {runtime : Runtime}
  {result : Except Error α}

/-- The scene in which a context runs. -/
def scene (world : World) (context : ContextId) (interpreter : Interpreter) : Scene :=
  ⟨context, interpreter, world.manager, world.trace⟩

/-- What a run in a context leaves behind. -/
def leave (world : World) (context : ContextId) (scene : Scene) : World :=
  ⟨world.contexts.setIfInBounds context.index (some scene.interpreter), scene.manager, scene.trace⟩

theorem run_closed (known : world.interpreter? context = none) :
    world.run context act runtime = some (.error .stale, world) := by
  obtain ⟨contexts, manager, trace⟩ := world
  change contexts[context.index]?.join = none at known
  simp only [run, drive, known]
  rfl

theorem run_open {interpreter : Interpreter} (known : world.interpreter? context = some interpreter) :
    world.run context act runtime =
      (act.exec runtime.perform .host (world.scene context interpreter)).map (Prod.map id (world.leave context)) := by
  obtain ⟨contexts, manager, trace⟩ := world
  change contexts[context.index]?.join = some interpreter at known
  have ended : (act.drive runtime ⟨context, interpreter, manager, trace⟩).toOption =
      act.exec runtime.perform .host ⟨context, interpreter, manager, trace⟩ := act.run_eq runtime _
  simp only [run, drive, known]
  change _ = (act.exec runtime.perform .host ⟨context, interpreter, manager, trace⟩).map _
  rw [← ended]
  cases act.drive runtime ⟨context, interpreter, manager, trace⟩ with
  | error halt => rfl
  | ok ran => simp [leave, Prod.map, Except.toOption]

theorem run_cases (ran : world.run context act runtime = some (result, after)) :
    (world.interpreter? context = none ∧ result = .error .stale ∧ after = world) ∨
    ∃ interpreter scene, world.interpreter? context = some interpreter ∧
      act.exec runtime.perform .host (world.scene context interpreter) = some (result, scene) ∧
      after = world.leave context scene := by
  cases known : world.interpreter? context with
  | none =>
    cases (run_closed known).symm.trans ran
    exact .inl ⟨rfl, rfl, rfl⟩
  | some interpreter =>
    rw [run_open known, Option.map_eq_some_iff] at ran
    obtain ⟨⟨_, scene⟩, performed, ⟨⟩⟩ := ran
    exact .inr ⟨interpreter, scene, rfl, performed, rfl⟩

theorem index_lt {interpreter : Interpreter} (known : world.interpreter? context = some interpreter) :
    context.index < world.contexts.size := by
  refine Nat.lt_of_not_le fun outside => ?_
  rw [interpreter?, Array.getElem?_eq_none outside] at known
  cases known

theorem interpreter?_openContext (world : World) (context : ContextId) : world.openContext.2.interpreter? context =
    if context.index = world.contexts.size then some .initial else world.interpreter? context := by
  simp only [interpreter?, openContext, Array.getElem?_push]
  split <;> rfl

theorem interpreter?_opened (world : World) : world.openContext.2.interpreter? ⟨world.contexts.size⟩ = some .initial :=
  (world.interpreter?_openContext _).trans (if_pos rfl)

theorem interpreter?_closeContext (world : World) (context other : ContextId) :
    (world.closeContext context).interpreter? other = if context = other then none else world.interpreter? other := by
  obtain ⟨index⟩ := context
  obtain ⟨index'⟩ := other
  simp only [interpreter?, closeContext, Array.getElem?_setIfInBounds, ContextId.mk.injEq]
  split
  · split <;> rfl
  · rfl

theorem interpreter?_leave {interpreter : Interpreter} (scene : Scene) (other : ContextId)
    (known : world.interpreter? context = some interpreter) :
    (world.leave context scene).interpreter? other =
      if context = other then some scene.interpreter else world.interpreter? other := by
  have inside := index_lt known
  obtain ⟨index⟩ := context
  obtain ⟨index'⟩ := other
  simp only [interpreter?, leave, Array.getElem?_setIfInBounds, ContextId.mk.injEq]
  split <;> simp_all

/-- What is as it was left nothing behind. -/
theorem leave_scene {interpreter : Interpreter} (known : world.interpreter? context = some interpreter) :
    world.leave context (world.scene context interpreter) = world := by
  have same : world.contexts.setIfInBounds context.index (some interpreter) = world.contexts := by
    refine Array.ext_getElem? fun index => ?_
    rw [Array.getElem?_setIfInBounds]
    split
    next here =>
      subst here
      rw [interpreter?, Option.join_eq_some_iff] at known
      rw [known, if_pos (Array.getElem?_eq_some_iff.mp known).1]
    next => rfl
  exact congrArg (World.mk · world.manager world.trace) same

/-- Only what was left last counts. -/
theorem leave_leave (first second : Scene) : (world.leave context first).leave context second = world.leave context second := by
  rw [leave, leave, leave, Array.setIfInBounds_setIfInBounds]

end World

namespace Live

variable {α β : Type} {runtime : Runtime} {world : World}

/-- The run of something done to a world. -/
def exec (live : Live α) (runtime : Runtime) (world : World) : Option (Except Error α × World) :=
  (live runtime).run world

theorem exec_bind (live : Live α) (next : α → Live β) :
    exec (live >>= next) runtime world =
      (exec live runtime world).bind fun
        | (.ok value, after) => exec (next value) runtime after
        | (.error error, after) => some (.error error, after) := by
  change ((live runtime).run >>= ExceptT.bindCont fun value => next value runtime) world = _
  change ((live runtime).run world).bind _ = _
  congr 1
  funext ⟨result, after⟩
  cases result <;> rfl

theorem exec_observe (live : Live α) :
    exec (observe live) runtime world = (exec live runtime world).map fun (result, after) => (.ok result, after) := by
  rw [Option.map_eq_bind]
  rfl

theorem exec_within (context : ContextId) (act : Act α) :
    exec (within context act) runtime world = world.run context act runtime := rfl

/-- The world that something leads to, or the one it was done to if it does not end. -/
def leadsTo (live : Live α) (runtime : Runtime) (world : World) : World :=
  ((exec live runtime world).map (·.2)).getD world

theorem exec_leadsTo {live : Live α} {result : Except Error α} (ends : (exec live runtime world).map (·.1) = some result) :
    exec live runtime world = some (result, leadsTo live runtime world) := by
  obtain ⟨⟨_, after⟩, ran, rfl⟩ := Option.map_eq_some_iff.mp ends
  rw [leadsTo, ran]
  rfl

theorem leadsTo_eq {live : Live α} {result : Except Error α} {after : World}
    (ran : exec live runtime world = some (result, after)) : leadsTo live runtime world = after := by
  rw [leadsTo, ran]
  rfl

/-! ### Relations that are kept -/

/-- A relation between a world and what has become of it. -/
structure Continuity where
  runtime : Runtime
  kept : World → World → Prop
  refl : ∀ world, kept world world
  trans : ∀ {first second third}, kept first second → kept second third → kept first third
  execute : ∀ world command env, kept world { world with manager := world.manager.execute command env }

namespace Continuity

variable {continuity : Continuity}

/-- Whatever comes of it, the worlds before and after are related. -/
def Keeps (continuity : Continuity) (live : Live α) : Prop :=
  ∀ world result after, live.exec continuity.runtime world = some (result, after) → continuity.kept world after

theorem keeps_pure (value : α) : continuity.Keeps (pure value : Live α) := by
  intro world result after ran
  cases ran
  exact continuity.refl world

theorem keeps_config : continuity.Keeps Live.config := by
  intro world result after ran
  cases ran
  exact continuity.refl world

theorem Keeps.bind {live : Live α} {next : α → Live β} (first : continuity.Keeps live)
    (second : ∀ value, continuity.Keeps (next value)) : continuity.Keeps (live >>= next) := by
  intro world result after ran
  rw [exec_bind, Option.bind_eq_some_iff] at ran
  obtain ⟨⟨middle, between⟩, early, late⟩ := ran
  have kept := first world middle between early
  cases middle with
  | ok value => exact continuity.trans kept (second value between result after late)
  | error error =>
    cases late
    exact kept

theorem Keeps.observe {live : Live α} (keeps : continuity.Keeps live) : continuity.Keeps (Live.observe live) := by
  intro world result after ran
  rw [exec_observe, Option.map_eq_some_iff] at ran
  obtain ⟨_, ran, ⟨⟩⟩ := ran
  exact keeps world _ _ ran

section Commands

variable {env : CommandEnv}
  (script : ∀ function, continuity.Keeps (Live.within function.context (Command.runScript function env)))
include script

theorem keeps_command (command : Command) : continuity.Keeps (command.run env) := by
  cases command with
  | host command =>
    intro world result after ran
    cases ran
    exact continuity.execute world command env
  | script function => exact script function

theorem keeps_commands (commands : List Command) : continuity.Keeps (Command.runAll env commands) := by
  induction commands with
  | nil => exact keeps_pure ()
  | cons command rest ih => exact (keeps_command script command).observe.bind fun _ => ih

theorem keeps_focusChanged : continuity.Keeps (Engine.focusChanged env) :=
  keeps_config.bind fun config => keeps_commands script config.onFocusChanged

theorem keeps_monitorChanged : continuity.Keeps (Engine.monitorChanged env) :=
  keeps_config.bind fun config => keeps_commands script config.onMonitorChanged

end Commands

theorem keeps_windowDetected {window : DetectedWindow}
    (script : ∀ function, continuity.Keeps (Live.within function.context
      (Command.runScript function ⟨some window.id, window.workspace, none⟩))) (startup : Bool) :
    continuity.Keeps (Engine.windowDetected window startup) :=
  keeps_config.bind fun config => keeps_commands script (config.windowCommands window startup)

theorem keeps_evaluate [Castable α] {asked : Monitor}
    (script : ∀ function id, continuity.Keeps (Live.within function.context (Dynamic.ask function id asked : Act α)))
    (value : Dynamic α) (monitors : List Monitor) : continuity.Keeps (value.evaluate asked monitors) := by
  cases value with
  | constant _ | perMonitor _ _ => exact keeps_pure _
  | callback function id => exact script function id

theorem keeps_gap {asked : Monitor}
    (script : ∀ function id, continuity.Keeps (Live.within function.context (Dynamic.ask function id asked : Act Int)))
    (position : GapPosition) (monitors : List Monitor) : continuity.Keeps (Engine.gap position asked monitors) :=
  keeps_config.bind fun config => keeps_evaluate script (config.gaps.get position) monitors

end Continuity
end Live
end TileScript
