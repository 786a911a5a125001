import TileScript.Proofs.PassageTasks
import TileScript.Proofs.SoundHandles

/-! A reload starts afresh where the end of the old context leaves the configuration alone. All that an engine does
from the moment it takes a new context is one act in that context, which comes to the same in every world where nothing
is configured, whatever became of other contexts and whatever the host did before. -/

namespace TileScript.Bridge
open Script Attempt

namespace Transfer

variable {transfer : Transfer}

theorem carried_installFunctions (table : Handle) (functions : List Api) :
    transfer.Carried (Engine.installFunctions table functions)
      (Engine.installFunctions (table.rename transfer.ids) functions) id := by
  induction functions with
  | nil => exact fixed_pure ()
  | cons function rest ih =>
    exact (carried_ofApi function).bind fun native =>
      (carried_setField table function.fieldName (.function native)).bind fun _ => ih

theorem fixed_installPositions (positions : List GapPosition) :
    transfer.Fixed (Engine.installPositions positions) := by
  induction positions with
  | nil => exact fixed_pure ()
  | cons position rest ih => exact (carried_setGlobal position.globalName (.ofInt position.id)).bind fun _ => ih

theorem carried_installNamespaces (root : Handle) (namespaces : List (String × List Api)) :
    transfer.Carried (Engine.installNamespaces root namespaces)
      (Engine.installNamespaces (root.rename transfer.ids) namespaces) id := by
  induction namespaces with
  | nil => exact fixed_pure ()
  | cons entry rest ih =>
    obtain ⟨name, functions⟩ := entry
    exact carried_create.bind fun table => (carried_installFunctions table functions).bind fun _ =>
      (carried_setField root name (.table table)).bind fun _ => ih

theorem fixed_install : transfer.Fixed Engine.install :=
  carried_create.bind fun root => (fixed_installPositions _).bind fun _ =>
    (carried_installNamespaces root _).bind fun _ => carried_setGlobal Api.globalName (.table root)

end Transfer
end TileScript.Bridge

namespace TileScript.Engine
open Bridge Script Attempt

/-! ### One act for everything -/

/-- What is done in the context of a new engine: scripts get what they are offered, the first mode is
activated, and the init script is run. -/
def startUp (initPath : String) (file : ScriptFile) : Act (Except Error Unit) := do
  install
  ask (.change (.activate Config.mainMode))
  observe (initScript initPath file)

variable {runtime : Runtime} {world : World}

/-- The init script is one act in the context of its engine, if that is open. -/
theorem exec_runInitFile (engine : Engine) (file : ScriptFile) {interpreter : Interpreter}
    (known : world.interpreter? engine.context = some interpreter) :
    (engine.runInitFile file).exec runtime world =
      ((initScript engine.initPath file).exec runtime.perform .host (world.scene engine.context interpreter)).map
        (Prod.map id (world.leave engine.context)) := by
  cases file with
  | missing => exact congrArg (fun after => some (Except.ok (), after)) (World.leave_scene known).symm
  | directory | unreadable _ | bytes _ =>
    change (Live.within engine.context (initScript engine.initPath _)).exec runtime world = _
    rw [Live.exec_within, World.run_open known]

/-- A start is that act, run where a new engine begins. -/
theorem exec_start (initPath : String) (file : ScriptFile) :
    (start initPath file).exec runtime world =
      ((startUp initPath file).exec runtime.perform .host (firstScene world)).map
        (Prod.map (Except.map (Prod.mk ⟨⟨world.contexts.size⟩, initPath⟩))
          (world.openContext.2.leave ⟨world.contexts.size⟩)) := by
  obtain ⟨made, installed, furnished, created⟩ := create_runs runtime world initPath
  have continued : (startUp initPath file).exec runtime.perform .host (firstScene world) =
      ((initScript initPath file).exec runtime.perform .host (made.answer (.change (.activate Config.mainMode))).2).map
        (Prod.map .ok id) := by
    exact (exec_bind_ok installed _).trans (exec_observe _)
  have begun : (start initPath file).exec runtime world =
      ((runInitFile ⟨⟨world.contexts.size⟩, initPath⟩ file).exec runtime (world.openContext.2.leave
        ⟨world.contexts.size⟩ (made.answer (.change (.activate Config.mainMode))).2)).map
        (Prod.map (fun result => .ok (⟨⟨world.contexts.size⟩, initPath⟩, result)) id) := by
    rw [start, Live.exec_bind, created]
    change (Live.observe (runInitFile ⟨⟨world.contexts.size⟩, initPath⟩ file) >>= _).exec runtime _ = _
    rw [Live.exec_bind, Live.exec_observe, Option.map_eq_bind, Option.map_eq_bind, Option.bind_assoc]
    rfl
  have context : (made.answer (.change (.activate Config.mainMode))).2.context = ⟨world.contexts.size⟩ :=
    furnished.grows.context
  generalize (made.answer (.change (.activate Config.mainMode))).2 = active at begun continued context
  have left : (world.openContext.2.leave ⟨world.contexts.size⟩ active).interpreter? ⟨world.contexts.size⟩ =
      some active.interpreter := by
    rw [World.interpreter?_leave active _ world.interpreter?_opened, if_pos rfl]
  have there : (world.openContext.2.leave ⟨world.contexts.size⟩ active).scene ⟨world.contexts.size⟩ active.interpreter =
      active := by
    rw [← context]
    rfl
  rw [begun, continued, exec_runInitFile _ file left, there]
  cases (initScript initPath file).exec runtime.perform .host active with
  | none => rfl
  | some ran =>
    obtain ⟨result, scene⟩ := ran
    exact congrArg (fun after => some (Except.ok (Engine.mk ⟨world.contexts.size⟩ initPath, result), after))
      (World.leave_leave active scene)

/-- A start cannot fail itself, only its init script can. Nothing stays on the stack. -/
theorem startUp_ends {initPath : String} {file : ScriptFile} {result : Except Error (Except Error Unit)} {after : Scene}
    (bare : world.manager.config = .initial)
    (ran : (startUp initPath file).exec runtime.perform .host (firstScene world) = some (result, after)) :
    (∃ outcome, result = .ok outcome) ∧ after.interpreter.stack = [] := by
  constructor
  · obtain ⟨made, installed, -, -⟩ := create_runs runtime world initPath
    rw [startUp, exec_bind, installed] at ran
    change (observe (initScript initPath file)).exec runtime.perform .host _ = _ at ran
    rw [exec_observe, Option.map_eq_some_iff] at ran
    obtain ⟨⟨outcome, _⟩, -, ⟨⟩⟩ := ran
    exact ⟨outcome, rfl⟩
  · have sound : (firstScene world).IsSound fun _ => False := by
      refine firstScene_isSound fun handle stored => ?_
      rw [bare] at stored
      cases stored
    have run : (runtime.handles fun _ => False).Neutral (initScript initPath file) :=
      StackLogic.neutral_initScript initPath file
    have activated : (runtime.handles fun _ => False).Neutral (ask (.change (.activate Config.mainMode)) : Act Unit) := by
      intro site scene result after sound ran
      have sound : scene.IsSound fun _ => False := sound
      cases ran
      exact ⟨⟨⟨sound.registry, sound.natives, sound.stored⟩, rfl, fun _ _ known => known⟩, rfl⟩
    have neutral : (runtime.handles fun _ => False).Neutral (startUp initPath file) :=
      (StackLogic.neutral_install (runtime.handles_permits _)).bind fun _ => activated.bind fun _ => run.observe
    exact (neutral .host _ result after sound ran).2

end TileScript.Engine

namespace TileScript.Bridge.Transfer
open Script Attempt

variable {transfer : Transfer}

theorem fixed_initScript (initPath : String) (file : ScriptFile) : transfer.Fixed (Engine.initScript initPath file) := by
  have loaded : ∀ file : ScriptFile, transfer.Fixed (do
      let chunk ← file.load initPath
      let _ ← settle ((← Function.call chunk []).values.mapError Error.runtime) : Act Unit) := by
    intro file
    refine ((fixed_settle _).bind fun text => carried_ofChunk _ _).bind fun chunk =>
      (carried_functionCall chunk []).bind fun result => ?_
    rw [CallResult.values_rename]
    cases result.values with
    | error message => exact (fixed_settle (.error (Error.runtime message))).bind fun _ => fixed_pure ()
    | ok values =>
      exact (carried_settle (List.map (Value.rename transfer.ids)) (.ok values)).bind fun _ => fixed_pure ()
  cases file with
  | missing => exact fixed_pure ()
  | directory | unreadable _ | bytes _ => exact loaded _

theorem fixed_startUp (initPath : String) (file : ScriptFile) : transfer.Fixed (Engine.startUp initPath file) := by
  refine fixed_install.bind fun _ => (carried_change (.activate Config.mainMode)).bind fun _ => ?_
  have observed : transfer.Carried (observe (Engine.initScript initPath file) : Act (Except Error Unit))
      (observe (Engine.initScript initPath file)) (Except.map id) := (fixed_initScript initPath file).observe
  rw [Except.map_id] at observed
  exact observed

end TileScript.Bridge.Transfer

namespace TileScript
open Bridge

/-! ### Two starts -/

/-- Two numbers of contexts in the place of each other. -/
def Bridge.ContextId.swap (first second id : ContextId) : ContextId :=
  if id = first then second else if id = second then first else id

theorem Bridge.ContextId.swap_swap (first second id : ContextId) : swap first second (swap first second id) = id := by
  unfold swap
  split
  next here =>
    split
    next same => exact same.trans here.symm
    next => rw [if_pos rfl, here]
  next elsewhere =>
    split
    next there => rw [if_pos rfl, there]
    next => rfl

theorem Bridge.ContextId.swap_first (first second : ContextId) : swap first second first = second := if_pos rfl

theorem Bridge.ContextId.swap_second (first second : ContextId) : swap first second second = first := by
  have back := swap_swap first second first
  rwa [swap_first] at back

theorem Bridge.ContextId.swap_injective {first second a b : ContextId} (same : swap first second a = swap first second b) :
    a = b := by
  rw [← swap_swap first second a, same, swap_swap]

namespace Host

/-- A host with what it answers, but without its record. -/
def unused (host : Host) : Host := { host with executed := [], applied := [] }

/-- A host with more in its record. -/
def extend (host : Host) (executed : List Execution) (applied : List Mode) : Host :=
  { host with executed := host.executed ++ executed, applied := host.applied ++ applied }

end Host

namespace Manager

theorem unused_refresh (manager : Manager) (mode : String) : (manager.refresh mode).host.unused = manager.host.unused := by
  rw [refresh]
  split <;> rfl

theorem unused_change (manager : Manager) (wanted : Change) : (manager.change wanted).host.unused = manager.host.unused := by
  cases wanted with
  | bind mode binding => exact unused_refresh _ mode
  | unbind mode description =>
    rw [change, unbind]
    split
    · rfl
    · split
      · rfl
      · exact unused_refresh _ mode
  | gap _ _ | setting _ | onFocusChanged _ | onMonitorChanged _ | onWindowDetected _ | activate _ => rfl

/-- What a host answers does not depend on what was asked of it. -/
theorem unused_conserved :
    Conserved fun before after => after.manager.host.unused = before.manager.host.unused where
  refl _ := rfl
  trans early late := late.trans early
  request request scene := by
    cases request with
    | change wanted => exact unused_change scene.manager wanted
    | runCommand _ _ | heap _ | takeLost | function _ | newNative _ | newChunk _ | context | stack | setStack _ | register _
    | registered _ | release _ | host | note _ _ => rfl

end Manager

namespace World

/-- The way from the first context of a world without any past. -/
def passage (world : World) : Passage where
  ids := ContextId.swap ⟨0⟩ ⟨world.contexts.size⟩
  injective := ContextId.swap_injective
  executed := world.manager.host.executed
  applied := world.manager.host.applied
  trace := world.trace

/-- There and back again. -/
theorem passage_twice (world : World) : world.passage.ids ∘ world.passage.ids = id :=
  funext (ContextId.swap_swap _ _)

theorem passage_host {world : World} {host : Host} (answers : host.unused = world.manager.host.unused) :
    world.passage.host host =
      world.manager.host.extend host.executed (host.applied.map (·.rename world.passage.ids)) := by
  exact congrArg (fun unused : Host => { unused with
    executed := world.manager.host.executed ++ host.executed
    applied := world.manager.host.applied ++ host.applied.map (Mode.rename world.passage.ids) }) answers

theorem interpreter?_started (world : World) (scene : Scene) :
    (world.openContext.2.leave ⟨world.contexts.size⟩ (world.passage.scene scene)).interpreter? ⟨world.contexts.size⟩ =
      some scene.interpreter := by
  rw [interpreter?_leave _ _ world.interpreter?_opened, if_pos rfl]
  rfl

theorem passage_firstScene {world : World} (bare : world.manager.config = .initial) :
    world.passage.scene (Engine.firstScene (.initial world.manager.host.unused)) = Engine.firstScene world := by
  obtain ⟨contexts, ⟨config, host⟩, trace⟩ := world
  subst bare
  have same : ContextId.swap ⟨0⟩ ⟨contexts.size⟩ ⟨0⟩ = ⟨contexts.size⟩ := ContextId.swap_first _ _
  have record : Passage.host (passage ⟨contexts, ⟨.initial, host⟩, trace⟩) host.unused = host := by
    simp [Passage.host, Host.unused, passage]
  change Scene.mk (ContextId.swap ⟨0⟩ ⟨contexts.size⟩ ⟨0⟩) .initial ⟨Config.initial, Passage.host _ host.unused⟩
    (trace ++ []) = ⟨⟨contexts.size⟩, .initial, ⟨.initial, host⟩, trace⟩
  rw [same, record, List.append_nil]

end World

/-- What two starts have come to is the same, but for the number of the context and what was there before. -/
structure SameStart (before : World) (engine : Engine) (after before' : World) (engine' : Engine) (after' : World) :
    Prop where
  initPath : engine'.initPath = engine.initPath
  /-- All that belongs to the contexts is the same, with the globals, and the stack is empty. -/
  context : ∃ interpreter, after.interpreter? engine.context = some interpreter ∧
    after'.interpreter? engine'.context = some interpreter ∧ interpreter.stack = []
  /-- The configurations differ in the context of their handles, and the hosts were asked for the same. -/
  manager : ∃ (ids : ContextId → ContextId) (executed : List Execution) (applied : List Mode),
    (∀ first second, ids first = ids second → first = second) ∧ ids engine.context = engine'.context ∧
    after'.manager.config = after.manager.config.rename ids ∧
    after.manager.host = before.manager.host.extend executed applied ∧
    after'.manager.host = before'.manager.host.extend executed (applied.map (·.rename ids))
  trace : ∃ entries, after.trace = before.trace ++ entries ∧ after'.trace = before'.trace ++ entries

/-- Neither of two starts ends within the budget, or both do, with the same outcome and to the same effect. -/
def Alike (before : World) (run : Option (Except Error (Engine × Except Error Unit) × World)) (before' : World)
    (run' : Option (Except Error (Engine × Except Error Unit) × World)) : Prop :=
  (run = none ∧ run' = none) ∨ ∃ engine engine' outcome after after', run = some (.ok (engine, outcome), after) ∧
    run' = some (.ok (engine', outcome), after') ∧ SameStart before engine after before' engine' after'

/-- Of the worlds before, only what the host was asked for and what was noted is of account. -/
theorem Alike.rebase {before before' other other' : World}
    {run run' : Option (Except Error (Engine × Except Error Unit) × World)} (alike : Alike before run before' run')
    (host : other.manager.host = before.manager.host) (trace : other.trace = before.trace)
    (host' : other'.manager.host = before'.manager.host) (trace' : other'.trace = before'.trace) :
    Alike other run other' run' := by
  obtain none | ⟨engine, engine', outcome, after, after', ran, ran', same⟩ := alike
  · exact .inl none
  · refine .inr ⟨engine, engine', outcome, after, after', ran, ran', same.initPath, same.context, ?_, ?_⟩
    · rw [host, host']
      exact same.manager
    · rw [trace, trace']
      exact same.trace

/-- In a world where nothing is configured, a start comes to what it would come to without any past. -/
theorem Engine.start_passage (runtime : Runtime) (initPath : String) (file : ScriptFile) {world : World}
    (bare : world.manager.config = .initial) :
    (start initPath file).exec runtime world =
      ((startUp initPath file).exec runtime.perform .host (firstScene (.initial world.manager.host.unused))).map
        (Prod.map (Except.map (Prod.mk ⟨⟨world.contexts.size⟩, initPath⟩))
          fun scene => world.openContext.2.leave ⟨world.contexts.size⟩ (world.passage.scene scene)) := by
  have sound : (firstScene (.initial world.manager.host.unused)).IsSound fun _ => True := firstScene_isSound fun _ _ => trivial
  have fixed : (runtime.transfer world.passage).Fixed (startUp initPath file) := Transfer.fixed_startUp initPath file
  obtain ⟨same, -⟩ := fixed .host _ sound.natives
  rw [Except.map_id] at same
  change (startUp initPath file).exec runtime.perform .host (world.passage.scene _) =
    ((startUp initPath file).exec runtime.perform .host _).map (Prod.map id world.passage.scene) at same
  rw [World.passage_firstScene bare] at same
  rw [exec_start, same]
  cases (startUp initPath file).exec runtime.perform .host (firstScene (.initial world.manager.host.unused)) <;> rfl

theorem Engine.start_alike (runtime : Runtime) (initPath : String) (file : ScriptFile) {world world' : World}
    (bare : world.manager.config = .initial) (bare' : world'.manager.config = .initial)
    (data : world'.manager.host.unused = world.manager.host.unused) :
    Alike world ((start initPath file).exec runtime world) world' ((start initPath file).exec runtime world') := by
  rw [start_passage runtime initPath file bare, start_passage runtime initPath file bare', data]
  cases ran : (startUp initPath file).exec runtime.perform .host (firstScene (.initial world.manager.host.unused)) with
  | none => exact .inl ⟨rfl, rfl⟩
  | some pair =>
    obtain ⟨result, scene⟩ := pair
    obtain ⟨⟨outcome, rfl⟩, empty⟩ := startUp_ends (rfl : (World.initial world.manager.host.unused).manager.config = _) ran
    have answers : scene.manager.host.unused = world.manager.host.unused := Manager.unused_conserved.act ran
    have back : (world'.passage.ids ∘ world.passage.ids) ∘ world.passage.ids = world'.passage.ids :=
      congrArg (world'.passage.ids ∘ ·) world.passage_twice
    refine .inr ⟨_, _, outcome, _, _, rfl, rfl, rfl, ⟨scene.interpreter, world.interpreter?_started scene,
      world'.interpreter?_started scene, empty⟩, ?_, scene.trace, rfl, rfl⟩
    refine ⟨world'.passage.ids ∘ world.passage.ids, scene.manager.host.executed,
      scene.manager.host.applied.map (·.rename world.passage.ids), fun first second same => ?_, ?_, ?_, ?_, ?_⟩
    · exact world.passage.injective (world'.passage.injective same)
    · have here : world.passage.ids ⟨world.contexts.size⟩ = ⟨0⟩ := ContextId.swap_second ⟨0⟩ ⟨world.contexts.size⟩
      have there : world'.passage.ids ⟨0⟩ = ⟨world'.contexts.size⟩ := ContextId.swap_first ⟨0⟩ ⟨world'.contexts.size⟩
      exact (congrArg world'.passage.ids here).trans there
    · exact (Config.rename_comp _ scene.manager.config).trans (congrArg scene.manager.config.rename back) |>.symm
    · exact world.passage_host answers
    · refine (world'.passage_host (answers.trans data.symm)).trans (congrArg (Host.extend _ _) ?_)
      rw [List.map_map]
      refine List.map_congr_left fun mode _ => ?_
      exact ((Mode.rename_comp _ mode).trans (congrArg mode.rename back)).symm

/-- What a host answers is not changed at the end of a context. -/
theorem Engine.Leaves.unused {engine : Engine} {runtime : Runtime} {world left : World}
    (leaves : engine.Leaves runtime world left) : left.manager.host.unused = world.manager.host.unused := by
  obtain ⟨-, rfl⟩ | ⟨interpreter, _, scene, -, finished, rfl⟩ := leaves.cases
  · rfl
  · exact Manager.unused_conserved.act finished

/-- Reloads come to the same whatever became of the engines before, and to what a new engine comes to, if the ends of
the old contexts leave the reset configuration as it is. This is so where no table waits for its end. -/
theorem reload_starts_afresh (runtime : Runtime) (file : ScriptFile) {engine engine' : Engine}
    {world world' fresh : World} (path : engine'.initPath = engine.initPath)
    (data : world'.manager.host.unused = world.manager.host.unused) (bare : fresh.manager.config = .initial)
    (unused : fresh.manager.host.unused = world.manager.host.unused) :
    (∀ left left', engine.Leaves runtime world left → engine'.Leaves runtime world' left' →
      left.manager.config = .initial → left'.manager.config = .initial →
      Alike left ((engine.reload file).exec runtime world) left' ((engine'.reload file).exec runtime world') ∧
      Alike left ((engine.reload file).exec runtime world) fresh
        ((Engine.start engine.initPath file).exec runtime fresh)) ∧
    (world.IsIdle engine.context → world'.IsIdle engine'.context →
      Alike world ((engine.reload file).exec runtime world) world' ((engine'.reload file).exec runtime world') ∧
      Alike world ((engine.reload file).exec runtime world) fresh
        ((Engine.start engine.initPath file).exec runtime fresh)) := by
  have alike : ∀ left left', engine.Leaves runtime world left → engine'.Leaves runtime world' left' →
      left.manager.config = .initial → left'.manager.config = .initial →
      Alike left ((engine.reload file).exec runtime world) left' ((engine'.reload file).exec runtime world') ∧
      Alike left ((engine.reload file).exec runtime world) fresh
        ((Engine.start engine.initPath file).exec runtime fresh) := by
    intro left left' leaves leaves' reset reset'
    rw [leaves.exec_reload, leaves'.exec_reload, path]
    exact ⟨Engine.start_alike runtime engine.initPath file reset reset'
        (leaves'.unused.trans (data.trans leaves.unused.symm)),
      Engine.start_alike runtime engine.initPath file reset bare (unused.trans leaves.unused.symm)⟩
  refine ⟨alike, fun idle idle' => ?_⟩
  obtain ⟨two, one⟩ := alike _ _ (Engine.leaves_of_idle idle runtime) (Engine.leaves_of_idle idle' runtime) rfl rfl
  exact ⟨two.rebase rfl rfl rfl rfl, one.rebase rfl rfl rfl rfl⟩

/-- An engine with a setting and a command behind it, and a value left on the stack, comes to what a new one
comes to. -/
theorem reload_starts_afresh_used : ∃ used : World, used.manager.config.accordionPadding = 3 ∧
    used.manager.host.executed.length = 1 ∧ (used.interpreter? ⟨0⟩).map (·.stack) = some [.nil] ∧
    ∃ engine engine' after after',
      (Engine.reload ⟨⟨0⟩, "init.lua"⟩ .missing).exec (.plain 0) used = some (.ok (engine, .ok ()), after) ∧
      (Engine.start "init.lua" .missing).exec (.plain 0) (.initial .blank) = some (.ok (engine', .ok ()), after') ∧
      SameStart used engine after (.initial .blank) engine' after' := by
  let engine : Engine := ⟨⟨0⟩, "init.lua"⟩
  let used : World := ⟨#[some { Interpreter.initial with stack := [.nil] }],
    ⟨{ Config.initial with accordionPadding := 3 }, Host.blank.record ⟨["focus", "left"]⟩ .empty⟩, []⟩
  have idle : used.IsIdle engine.context := by
    rintro _ ⟨⟩
    rfl
  have unopened : (World.initial .blank).IsIdle engine.context := by rintro _ ⟨⟩
  have data : (World.initial .blank).manager.host.unused = used.manager.host.unused := rfl
  have bare : (World.initial .blank).manager.config = .initial := rfl
  have alike := ((reload_starts_afresh (.plain 0) .missing (rfl : engine.initPath = _) data bare data).2 idle unopened).2
  have leaves := Engine.leaves_of_idle idle (.plain 0)
  obtain ⟨made, -, -, started⟩ := Engine.exec_start_initFile (.plain 0) (used.reset.closeContext engine.context) "init.lua"
  have reloaded := (leaves.exec_reload .missing).trans (started .missing)
  rw [reloaded] at alike
  refine ⟨used, rfl, rfl, rfl, ?_⟩
  obtain ⟨none, -⟩ | ⟨_, engine', outcome, after, after', ran, ran', same⟩ := alike
  · cases none
  · cases ran
    exact ⟨_, engine', _, after', reloaded, ran', same⟩

/-- A table that waits for the end of its context changes the configuration after it has been reset, so that a reload
does not come to what a new engine comes to. -/
theorem reload_keeps_padding : ∃ (session : Session) (renewed : Engine) (after : World), session.Reachable ∧
    (session.engine.reload .missing).exec (.plain 50) session.world = some (.ok (renewed, .ok ()), after) ∧
    after.manager.config.accordionPadding = 99 ∧ Config.initial.accordionPadding = 30 ∧
    ∀ fresh : World, fresh.manager.config = .initial → ¬ Alike session.world
      ((session.engine.reload .missing).exec (.plain 50) session.world) fresh
      ((Engine.start session.engine.initPath .missing).exec (.plain 50) fresh) := by
  obtain ⟨left, -, -, leaves, padding, -⟩ := Session.parted_leaves
  obtain ⟨made, -, manager, started⟩ := Engine.exec_start_initFile (.plain 50) left Session.parted.engine.initPath
  have reloaded := (leaves.exec_reload .missing).trans (started .missing)
  have kept : (Engine.activated made).manager.config.accordionPadding = 99 :=
    (congrArg (fun manager => manager.config.accordionPadding) manager).trans padding
  refine ⟨Session.parted, _, _, Session.reachable_parted, reloaded, kept, rfl, fun fresh bare alike => ?_⟩
  obtain ⟨_, -, manager', started'⟩ := Engine.exec_start_initFile (.plain 50) fresh Session.parted.engine.initPath
  rw [reloaded, started'] at alike
  obtain ⟨none, -⟩ | ⟨_, _, _, _, _, ran, ran', same⟩ := alike
  · cases none
  · cases ran
    cases ran'
    obtain ⟨ids, _, _, -, -, config, -⟩ := same.manager
    have fresh : fresh.manager.config.accordionPadding = 99 :=
      (congrArg (fun manager => manager.config.accordionPadding) manager').symm.trans
        ((congrArg Config.accordionPadding config).trans kept)
    rw [bare] at fresh
    cases fresh

end TileScript
