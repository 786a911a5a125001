import TileScript.Proofs.Reloads
import TileScript.Proofs.Sessions
import TileScript.Proofs.StackDiscipline

/-! The handles in the configuration that are of the context in use denote functions there. Handles come in through
native functions alone, which have just made them, and a registration is not released while the configuration holds it.
A reload forgets all of them before the old context comes to its end; those that come in at this end are of a context
that is gone. -/

namespace TileScript.Bridge
open Script Attempt

namespace Scene

/-- A handle to a function of this context. -/
def Denotes (scene : Scene) (handle : Handle) : Prop := ∃ function, scene.resolve handle = .ok (.function function)

theorem Grows.denotes {before after : Scene} (grows : before.Grows after) {handle : Handle}
    (denotes : before.Denotes handle) : after.Denotes handle := by
  obtain ⟨function, known⟩ := denotes
  exact ⟨function, grows.resolve known⟩

/-- No stored handle but the spared ones has lost its meaning, and all native functions are those that scripts are
offered. -/
structure IsSound (spared : Handle → Prop) (scene : Scene) : Prop where
  registry : scene.interpreter.registry.Valid
  natives : scene.OffersApi
  stored : ∀ handle ∈ scene.manager.config.handles, spared handle ∨ scene.Denotes handle

end Scene

/-- What is kept of handles. -/
def Custody.handles (spared : Handle → Prop) : Custody where
  holds := Scene.IsSound spared
  grows := Scene.Grows
  refl := Scene.Grows.refl
  trans := Scene.Grows.trans
  quiet request scene quiet sound := by
    cases request with
    | register value =>
      have grown := Scene.Grows.register sound.registry value
      exact ⟨⟨sound.registry.register value, sound.natives,
        fun handle stored => (sound.stored handle stored).imp_right grown.denotes⟩, grown⟩
    | heap _ | takeLost | newChunk _ | function _ | context | stack | registered _ | host | runCommand _ _ | note _ _ =>
      exact ⟨⟨sound.registry, sound.natives.answer trivial, sound.stored⟩, rfl, fun _ _ known => known⟩
    | setStack _ | newNative _ | release _ | change _ => cases quiet
  staged scene values sound := ⟨⟨sound.registry, sound.natives, sound.stored⟩, .setStack scene values⟩

/-- Natives that scripts are offered may be made. -/
theorem Scene.IsSound.ofApi {spared : Handle → Prop} {scene : Scene} (sound : scene.IsSound spared) (function : Api) :
    (scene.answer (.newNative (.ofApi function))).2.IsSound spared ∧
      scene.Grows (scene.answer (.newNative (.ofApi function))).2 := by
  exact ⟨⟨sound.registry, sound.natives.answer ⟨function, rfl⟩, sound.stored⟩, rfl, fun _ _ known => known⟩

namespace StackLogic

variable {spared : Handle → Prop} {runner : Runner} {task : ∀ {task scene outcome after},
  (Custody.handles spared).holds scene → runner task scene = some (outcome, after) →
  ((Custody.handles spared).holds after ∧ (Custody.handles spared).grows scene after) ∧ after.stack = scene.stack}

/-- A handle that was just made denotes its function, and such handles alone come into the configuration. -/
def handlesHandling : (StackLogic.mk (Custody.handles spared) runner task).Handling where
  isFit handle scene := scene.Denotes handle
  stable _ _ _ grows denotes := grows.denotes denotes
  pinned function := by
    intro site scene result after sound _ ran
    refine ⟨neutral_pin _ _ site scene result after sound ran, ?_⟩
    rw [Act.exec_pin] at ran
    cases ran
    rintro handle ⟨⟩
    exact ⟨function, Scene.resolve_register sound.registry _ _⟩
  changed wanted _ := by
    intro site scene result after sound fit ran
    cases ran
    have grown : scene.Grows { scene with manager := scene.manager.change wanted } := ⟨rfl, fun _ _ known => known⟩
    refine ⟨⟨⟨⟨sound.registry, sound.natives, fun handle stored => ?_⟩, grown⟩, rfl⟩, fun _ _ => trivial⟩
    rcases Manager.handles_change stored with old | new
    · exact (sound.stored handle old).imp_right grown.denotes
    · exact .inr (grown.denotes (fit handle new))

end StackLogic

theorem Custody.handles_entrusts (spared : Handle → Prop) (code : HostCode) : (Custody.handles spared).Entrusts code := by
  intro runner task scene place native sound found arguments
  obtain ⟨function, rfl⟩ := sound.natives place native found
  exact StackLogic.handlesHandling.neutral_api code.patterns function arguments

/-- The logic of handles for the runs of a runtime. -/
def Runtime.handles (runtime : Runtime) (spared : Handle → Prop) : StackLogic :=
  (Custody.handles spared).logic runtime (Custody.handles_entrusts spared _)

/-- The functions that scripts are offered may be made. -/
theorem Runtime.handles_permits (runtime : Runtime) (spared : Handle → Prop) (function : Api) :
    (runtime.handles spared).Permits (.newNative (.ofApi function)) := fun _ sound => Scene.IsSound.ofApi sound function

namespace StackLogic

section Install

variable {logic : StackLogic} (permits : ∀ function : Api, logic.Permits (.newNative (.ofApi function)))
include permits

theorem neutral_installFunctions (table : Handle) (functions : List Api) :
    logic.Neutral (Engine.installFunctions table functions) := by
  induction functions with
  | nil => exact neutral_pure ()
  | cons function rest ih =>
    exact (neutral_ofNative (permits function)).bind fun _ => (neutral_setField _ _ _).bind fun _ => ih

omit permits in
theorem neutral_installPositions (positions : List GapPosition) : logic.Neutral (Engine.installPositions positions) := by
  induction positions with
  | nil => exact neutral_pure ()
  | cons position rest ih => exact (neutral_setGlobal _ _).bind fun _ => ih

theorem neutral_installNamespaces (root : Handle) (namespaces : List (String × List Api)) :
    logic.Neutral (Engine.installNamespaces root namespaces) := by
  induction namespaces with
  | nil => exact neutral_pure ()
  | cons entry rest ih =>
    exact neutral_create.bind fun table => (neutral_installFunctions permits table _).bind fun _ =>
      (neutral_setField _ _ _).bind fun _ => ih

theorem neutral_install : logic.Neutral Engine.install :=
  neutral_create.bind fun root => (neutral_installPositions _).bind fun _ =>
    (neutral_installNamespaces permits root _).bind fun _ => neutral_setGlobal _ _

end Install

end StackLogic
end TileScript.Bridge

namespace TileScript
open Bridge

/-! ### Worlds with one context -/

namespace World

/-- A handle to a function of an open context. -/
def Denotes (world : World) (context : ContextId) (handle : Handle) : Prop :=
  handle.context = context ∧ ∃ function, world.object? handle = some (.function function)

/-- One context is open, and no stored handle but the spared ones has lost its meaning there. -/
structure IsSound (spared : Handle → Prop) (world : World) (context : ContextId) : Prop where
  alone : ∀ other, other ≠ context → world.interpreter? other = none
  sound : ∃ interpreter, world.interpreter? context = some interpreter ∧ (world.scene context interpreter).IsSound spared

variable {spared : Handle → Prop} {world : World} {context : ContextId} {interpreter : Interpreter}

theorem denotes_iff (known : world.interpreter? context = some interpreter) {handle : Handle} :
    world.Denotes context handle ↔ (world.scene context interpreter).Denotes handle := by
  have same : ∀ value, handle.context = context →
      (world.object? handle = some value ↔ (world.scene context interpreter).registered handle.pin.registration = some value) := by
    rintro value rfl
    rw [object?, known]
    rfl
  constructor
  · rintro ⟨here, function, found⟩
    exact ⟨function, Scene.resolve_ok.mpr ⟨here, (same _ here).mp found⟩⟩
  · rintro ⟨function, found⟩
    obtain ⟨here, registered⟩ := Scene.resolve_ok.mp found
    exact ⟨here, function, (same _ here).mpr registered⟩

theorem IsSound.stored (sound : world.IsSound spared context) {handle : Handle}
    (stored : handle ∈ world.manager.config.handles) : spared handle ∨ world.Denotes context handle := by
  obtain ⟨interpreter, known, scene⟩ := sound.sound
  exact (scene.stored handle stored).imp_right (denotes_iff known).mpr

/-- Whether a registration is held outside or kept inside. -/
def isPinned (world : World) (held : List Pin) (context : ContextId) (registration : Nat) : Bool :=
  (held ++ world.handles.map (·.pin)).contains ⟨context, registration⟩

/-- A context without what nobody holds. -/
def retained (world : World) (held : List Pin) (context : ContextId) (interpreter : Interpreter) : Interpreter :=
  ⟨interpreter.heap, interpreter.stack, interpreter.registry.retain (world.isPinned held context)⟩

theorem interpreter?_collect (world : World) (held : List Pin) (context : ContextId) :
    (world.collect held).interpreter? context = (world.interpreter? context).map (world.retained held context) := by
  obtain ⟨index⟩ := context
  simp only [interpreter?, collect, Array.getElem?_mapIdx]
  cases world.contexts[index]? with
  | none => rfl
  | some interpreter => cases interpreter <;> rfl

/-- What the configuration holds is not released with the rest. -/
theorem IsSound.collect (sound : world.IsSound spared context) (held : List Pin) :
    (world.collect held).IsSound spared context := by
  obtain ⟨interpreter, known, scene⟩ := sound.sound
  have valid : interpreter.registry.Valid := scene.registry
  have kept : (world.retained held context interpreter).registry.Valid := valid.retain (world.isPinned held context)
  refine ⟨fun other different => ?_, world.retained held context interpreter, ?_, kept, scene.natives,
    fun handle stored => ?_⟩
  · rw [interpreter?_collect, sound.alone other different, Option.map_none]
  · rw [interpreter?_collect, known, Option.map_some]
  · refine (scene.stored handle stored).imp_right fun ⟨function, resolved⟩ => ?_
    obtain ⟨here, registered⟩ := Scene.resolve_ok.mp resolved
    have pinned : handle.pin ∈ held ++ world.handles.map (·.pin) := by
      refine List.mem_append_right _ (List.mem_map_of_mem ?_)
      exact List.mem_append_left _ (List.mem_append_left _ stored)
    refine ⟨function, Scene.resolve_ok.mpr ⟨here, ?_⟩⟩
    refine (valid.value?_retain ?_).trans registered
    rw [← show handle.context = context from here]
    exact List.contains_iff_mem.mpr pinned

/-- What happens in a context leaves a sound world behind in which no handle has lost its meaning. -/
theorem IsSound.leave (sound : world.IsSound spared context) (known : world.interpreter? context = some interpreter)
    {after : Scene} (kept : after.IsSound spared) (grown : (world.scene context interpreter).Grows after) :
    (world.leave context after).IsSound spared context ∧
      ∀ handle, world.Denotes context handle → (world.leave context after).Denotes context handle := by
  have left : (world.leave context after).interpreter? context = some after.interpreter := by
    rw [interpreter?_leave after context known, if_pos rfl]
  have same : (world.leave context after).scene context after.interpreter = after := by
    rw [← show after.context = context from grown.context]
    rfl
  refine ⟨⟨fun other different => ?_, after.interpreter, left, same.symm ▸ kept⟩, fun handle denotes => ?_⟩
  · rw [interpreter?_leave after other known, if_neg (Ne.symm different)]
    exact sound.alone other different
  · rw [denotes_iff left, same]
    exact grown.denotes ((denotes_iff known).mp denotes)

end World

/-- A new context is sound where nothing is stored but what is spared. -/
theorem Engine.firstScene_isSound {spared : Handle → Prop} {world : World}
    (spares : ∀ handle ∈ world.manager.config.handles, spared handle) : (Engine.firstScene world).IsSound spared := by
  refine ⟨Registry.empty_valid, fun place native found => ?_, fun handle stored => .inl (spares handle stored)⟩
  simp [Engine.firstScene, World.scene, Interpreter.initial, Script.Heap.initial] at found

namespace Live

/-- Worlds that stay sound, where handles keep their meaning. -/
def handleContinuity (runtime : Runtime) (spared : Handle → Prop) (context : ContextId) : Continuity where
  runtime := runtime
  kept before after := before.IsSound spared context → after.IsSound spared context ∧
    ∀ handle, before.Denotes context handle → after.Denotes context handle
  refl _ sound := ⟨sound, fun _ => id⟩
  trans early late sound := by
    obtain ⟨middle, first⟩ := early sound
    obtain ⟨last, second⟩ := late middle
    exact ⟨last, fun handle => second handle ∘ first handle⟩
  execute world command env sound := by
    obtain ⟨interpreter, known, scene⟩ := sound.sound
    exact ⟨⟨sound.alone, interpreter, known, ⟨scene.registry, scene.natives, scene.stored⟩⟩, fun _ => id⟩

variable {α : Type} {runtime : Runtime} {spared : Handle → Prop} {context : ContextId}

theorem sound_within (other : ContextId) {act : Act α} (neutral : (runtime.handles spared).Neutral act) :
    (handleContinuity runtime spared context).Keeps (Live.within other act) := by
  intro world result after ran sound
  obtain ⟨-, -, rfl⟩ | ⟨interpreter, scene, known, performed, rfl⟩ := World.run_cases ran
  · exact ⟨sound, fun _ => id⟩
  · obtain ⟨found, known', start⟩ := sound.sound
    have here : other = context := by
      refine Classical.byContradiction fun different => ?_
      cases (sound.alone other different).symm.trans known
    subst here
    cases known.symm.trans known'
    obtain ⟨kept, grown⟩ := (neutral .host _ result scene start performed).1
    exact sound.leave known kept grown

theorem sound_initFile (engine : Engine) (file : ScriptFile) :
    (handleContinuity runtime spared context).Keeps (engine.runInitFile file) :=
  Continuity.keeps_initFile sound_within engine file

/-- A new context is sound in a world where none is open and nothing is stored but what is spared. -/
theorem sound_create {world after : World} {initPath : String} {engine : Engine}
    (closed : ∀ context, world.interpreter? context = none) (spares : ∀ handle ∈ world.manager.config.handles, spared handle)
    (made : (Engine.create initPath).exec runtime world = some (.ok engine, after)) :
    after.IsSound spared engine.context := by
  have opened : world.openContext.2.IsSound spared ⟨world.contexts.size⟩ := by
    refine ⟨fun other different => ?_, .initial, world.interpreter?_opened, Engine.firstScene_isSound spares⟩
    have apart : other.index ≠ world.contexts.size := fun same => different (congrArg ContextId.mk same)
    rw [World.interpreter?_openContext, if_neg apart, closed other]
  change (Live.openContext >>= _).exec runtime world = _ at made
  rw [exec_bind] at made
  change (Live.within ⟨world.contexts.size⟩ Engine.install >>= _).exec runtime world.openContext.2 = _ at made
  rw [exec_bind, Option.bind_eq_some_iff] at made
  obtain ⟨⟨_ | _, between⟩, installed, made⟩ := made
  · cases made
  · cases made
    exact (sound_within _ (StackLogic.neutral_install (runtime.handles_permits spared)) _ _ _ installed opened).1

end Live

/-! ### Reloads -/

/-- A handle of a context that was there before another one. -/
def Bridge.Handle.IsOlder (context : ContextId) (handle : Handle) : Prop := handle.context.index < context.index

namespace Engine

variable {spared : Handle → Prop} {engine renewed : Engine} {world left after : World} {runtime : Runtime} {file : ScriptFile}
  {result : Except Error (Engine × Except Error Unit)} {outcome : Except Error Unit}

/-- What a context stores at its end is its own. -/
theorem Leaves.stored (leaves : engine.Leaves runtime world left) (sound : world.IsSound spared engine.context)
    {handle : Handle} (stored : handle ∈ left.manager.config.handles) : handle.context = engine.context := by
  obtain ⟨interpreter, here, scene⟩ := sound.sound
  obtain ⟨gone, -⟩ | ⟨_, _, final, known, finished, rfl⟩ := leaves.cases
  · cases gone.symm.trans here
  · cases here.symm.trans known
    have bare : (world.reset.scene engine.context interpreter).IsSound fun _ => False :=
      ⟨scene.registry, scene.natives, fun _ stored => by cases stored⟩
    have neutral : (runtime.handles fun _ => False).Neutral Act.finish := StackLogic.neutral_finish
    obtain ⟨⟨kept, grown⟩, -⟩ := neutral .host _ _ final bare finished
    obtain none | ⟨function, found⟩ := Scene.IsSound.stored kept handle stored
    · exact none.elim
    · exact (Scene.resolve_ok.mp found).1.trans grown.context

/-- The context of a reloaded engine is a new one. -/
theorem exec_reload_context (ran : (engine.reload file).exec runtime world = some (result, after)) :
    ∃ outcome, result = .ok (⟨⟨world.contexts.size⟩, engine.initPath⟩, outcome) := by
  obtain ⟨left, leaves, ran⟩ := leaves_of_reload ran
  obtain ⟨made, -, -, started⟩ := exec_start_initFile runtime left engine.initPath
  rw [started, Option.map_eq_some_iff] at ran
  obtain ⟨⟨outcome, _⟩, -, ⟨⟩⟩ := ran
  exact ⟨outcome, by rw [leaves.size]⟩

/-- After a reload nothing needs to be spared but what the end of the old context has left behind. -/
theorem sound_reload {before : Handle → Prop} (sound : world.IsSound before engine.context)
    (leaves : engine.Leaves runtime world left) (spares : ∀ handle ∈ left.manager.config.handles, spared handle)
    (ran : (engine.reload file).exec runtime world = some (.ok (renewed, outcome), after)) :
    after.IsSound spared renewed.context := by
  rw [leaves.exec_reload] at ran
  obtain ⟨made, created, manager, started⟩ := exec_start_initFile runtime left engine.initPath
  rw [started, Option.map_eq_some_iff] at ran
  obtain ⟨⟨_, final⟩, initialized, ⟨⟩⟩ := ran
  have closed : ∀ context, left.interpreter? context = none := by
    intro context
    rw [leaves.interpreter?]
    split
    next => rfl
    next apart => exact sound.alone context (Ne.symm apart)
  have start : made.IsSound spared ⟨left.contexts.size⟩ := Live.sound_create closed spares created
  have activated : (activated made).IsSound spared ⟨left.contexts.size⟩ := by
    obtain ⟨interpreter, known, scene⟩ := start.sound
    exact ⟨start.alone, interpreter, known, ⟨scene.registry, scene.natives, scene.stored⟩⟩
  exact (Live.sound_initFile _ file _ _ _ initialized activated).1

end Engine

namespace Session

/-- The context of the engine is the one that is open, and no stored handle has lost its meaning there but those of
older contexts. -/
def IsSound (session : Session) : Prop :=
  session.world.IsSound (·.IsOlder session.engine.context) session.engine.context

/-- As long as the engine is not reloaded, nothing more needs to be spared. -/
theorem Step.sound_same {session next : Session} (step : Step session next) {spared : Handle → Prop}
    (sound : session.world.IsSound spared session.engine.context) (same : next.engine = session.engine) :
    next.world.IsSound spared next.engine.context := by
  have script : ∀ (runtime : Runtime) (context : ContextId) (env : CommandEnv) (function : Handle),
      (Live.handleContinuity runtime spared context).Keeps (Live.within function.context (Command.runScript function env)) :=
    fun runtime context env function => Live.sound_within _ (StackLogic.neutral_runScript function env)
  cases step with
  | source runtime text ran => exact (Live.sound_within _ (StackLogic.neutral_source text) _ _ _ ran sound).1
  | initFile runtime file ran => exact (Live.sound_initFile _ file _ _ _ ran sound).1
  | focus runtime env ran =>
    exact (Live.Continuity.keeps_focusChanged (script runtime _ env) _ _ _ ran sound).1
  | monitorFocus runtime env ran =>
    exact (Live.Continuity.keeps_monitorChanged (script runtime _ env) _ _ _ ran sound).1
  | window runtime window startup ran =>
    exact (Live.Continuity.keeps_windowDetected (script runtime _ _) startup _ _ _ ran sound).1
  | gap runtime position asked monitors ran =>
    exact (Live.Continuity.keeps_gap (fun function id => Live.sound_within _ (StackLogic.neutral_askScript function id asked))
      position monitors _ _ _ ran sound).1
  | collect held => exact World.IsSound.collect sound held
  | reload runtime file ran =>
    obtain ⟨interpreter, known, -⟩ := sound.sound
    obtain ⟨_, ⟨⟩⟩ := Engine.exec_reload_context ran
    have fresh := congrArg (fun engine : Engine => engine.context.index) same
    exact absurd (World.index_lt known) (Nat.not_lt_of_le (Nat.le_of_eq fresh))
  | brokenReload runtime file ran =>
    obtain ⟨_, ⟨⟩⟩ := Engine.exec_reload_context ran

theorem Step.sound {session next : Session} (step : Step session next) (sound : session.IsSound) : next.IsSound := by
  by_cases same : next.engine = session.engine
  · have kept := step.sound_same sound same
    rwa [← same] at kept
  · cases step with
    | reload runtime file ran =>
      obtain ⟨left, leaves, -⟩ := Engine.leaves_of_reload ran
      obtain ⟨interpreter, known, -⟩ := World.IsSound.sound sound
      obtain ⟨_, ⟨⟩⟩ := Engine.exec_reload_context ran
      refine Engine.sound_reload sound leaves (fun handle stored => ?_) ran
      rw [Handle.IsOlder, leaves.stored sound stored]
      exact World.index_lt known
    | source _ _ _ | initFile _ _ _ | focus _ _ _ | monitorFocus _ _ _ | window _ _ _ _ | gap _ _ _ _ _ | collect _
    | brokenReload _ _ _ => exact absurd rfl same

theorem Reachable.sound {session : Session} (reachable : Reachable session) : session.IsSound := by
  induction reachable with
  | create runtime untouched made =>
    exact Live.sound_create (fun context => by simp [World.initial, World.interpreter?]) (fun _ stored => by cases stored) made
  | step reached step ih => exact step.sound ih

end Session

/-! ### What is stored at the end of a context -/

/-- The function of a gap, and what it is asked with. -/
def Dynamic.callback? : Dynamic Int → Option (Handle × Value)
  | .callback function id => some (function, id)
  | _ => none

theorem Dynamic.eq_of_callback? {gap : Dynamic Int} {function : Handle} {id : Value}
    (known : gap.callback? = some (function, id)) : gap = .callback function id := by
  cases gap with
  | callback _ _ =>
    cases known
    rfl
  | constant _ | perMonitor _ _ => cases known

namespace Session

/-- A new engine for the blank host. -/
def blank : Session := ⟨⟨⟨0⟩, "init.lua"⟩, (Engine.create "init.lua").leadsTo (.plain 50) (.initial .blank)⟩

/-- The session after a text has been run. -/
def running (session : Session) (text : String) : Session :=
  ⟨session.engine, (session.engine.runSource text).leadsTo (.plain 50) session.world⟩

theorem reachable_blank : blank.Reachable := by
  obtain ⟨made, created, -⟩ := Engine.create_ends (.plain 50) (.initial .blank) "init.lua"
  rw [blank, Live.leadsTo_eq created]
  exact .create (.plain 50) rfl created

theorem step_running {session : Session} {text : String} {result : Except Error (List Value)}
    (ends : ((session.engine.runSource text).exec (.plain 50) session.world).map (·.1) = some result) :
    session.Step (session.running text) := .source _ text (Live.exec_leadsTo ends)

theorem step_reload {session : Session} {renewed : Engine} {after : World} {outcome : Except Error Unit} {file : ScriptFile}
    (ran : (session.engine.reload file).exec (.plain 50) session.world = some (.ok (renewed, outcome), after)) :
    session.Step ⟨renewed, after⟩ := .reload _ file ran

/-- A table of this script waits for its end, and then sets the padding, and a gap to a function. -/
def partingScript : String :=
  "setmetatable({}, \x7b__gc = function() aero.config.accordion_padding(99) aero.api.gap_set(1, function() return 5 end) end\x7d)"

/-- An engine that has run the script. -/
def parted : Session := blank.running partingScript

/-- The script is run, and then what waits for the end of its context. -/
theorem parted_told :
    ((blank.engine.runSource partingScript).exec (.plain 50) blank.world).map (·.1) = some (.ok []) ∧
    ((Live.closeContext parted.engine.context).exec (.plain 50) parted.world.reset).map (fun ran =>
      (ran.2.manager.config.accordionPadding, (ran.2.manager.config.gaps.get .innerHorizontal).callback?.map (·.1.context))) =
      some (99, some parted.engine.context) := by
  decide +kernel

theorem reachable_parted : parted.Reachable := .step reachable_blank (step_running parted_told.1)

/-- What its context does at its end. -/
theorem parted_leaves : ∃ (left : World) (function : Handle) (id : Value), parted.engine.Leaves (.plain 50) parted.world left ∧
    left.manager.config.accordionPadding = 99 ∧
    left.manager.config.gaps.get .innerHorizontal = .callback function id ∧ function.context = parted.engine.context := by
  obtain ⟨⟨result, left⟩, closed, same⟩ := Option.map_eq_some_iff.mp parted_told.2
  obtain ⟨padding, callback⟩ := Prod.mk.inj same
  obtain ⟨⟨function, id⟩, callback, here⟩ := Option.map_eq_some_iff.mp callback
  have leaves : parted.engine.Leaves (.plain 50) parted.world left := by
    have always := closed
    rw [Live.exec_closeContext, Option.map_eq_some_iff] at always
    obtain ⟨_, -, ⟨⟩⟩ := always
    exact closed
  exact ⟨left, function, id, leaves, padding, Dynamic.eq_of_callback? callback, here⟩

end Session
end TileScript
