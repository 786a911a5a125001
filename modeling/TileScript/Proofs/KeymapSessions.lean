import TileScript.Proofs.Keymaps
import TileScript.Proofs.SoundHandles

/-! The modes of every session form a keymap. Native functions alone change modes, they bind chords that they
have read, and a reload starts with the modes as they are at first. -/

namespace TileScript.Bridge
open Script Attempt

/-- The modes form a keymap, and scripts have nothing to change them with but what they are offered. -/
structure Scene.IsKeyed (scene : Scene) : Prop where
  natives : scene.OffersApi
  keymap : scene.manager.config.modes.IsKeymap

def Custody.keymaps : Custody where
  holds := Scene.IsKeyed
  grows _ _ := True
  refl _ := trivial
  trans _ _ := trivial
  quiet request scene quiet keyed := by
    refine ⟨?_, trivial⟩
    cases request with
    | heap _ | takeLost | newChunk _ | function _ | context | stack | register _ | registered _ | host | runCommand _ _ | note _ _ =>
      exact ⟨keyed.natives.answer trivial, keyed.keymap⟩
    | setStack _ | newNative _ | release _ | change _ => cases quiet
  staged scene values keyed := ⟨⟨keyed.natives, keyed.keymap⟩, trivial⟩

namespace StackLogic

variable {runner : Runner} {task : ∀ {task scene outcome after}, Custody.keymaps.holds scene →
  runner task scene = some (outcome, after) →
  (Custody.keymaps.holds after ∧ Custody.keymaps.grows scene after) ∧ after.stack = scene.stack}

/-- Of what comes into the configuration, chords alone matter. -/
def keymapsHandling : (StackLogic.mk Custody.keymaps runner task).Handling where
  isFit _ _ := True
  stable _ _ _ _ _ := trivial
  pinned _ := ((neutral_pin _ _).gives fun _ _ => trivial).weaken fun _ => trivial
  changed wanted written := by
    intro site scene result after keyed _ ran
    cases ran
    have kept : scene.IsKeyed → ({ scene with manager := scene.manager.change wanted } : Scene).IsKeyed :=
      fun keyed => ⟨keyed.natives, Manager.isKeymap_change keyed.keymap written⟩
    exact ⟨⟨⟨kept keyed, trivial⟩, rfl⟩, fun _ _ => trivial⟩

end StackLogic

theorem Custody.keymaps_entrusts (code : HostCode) : Custody.keymaps.Entrusts code := by
  intro runner task scene place native keyed found arguments
  obtain ⟨function, rfl⟩ := keyed.natives place native found
  exact StackLogic.keymapsHandling.neutral_api code.patterns function arguments

def Runtime.keymaps (runtime : Runtime) : StackLogic := Custody.keymaps.logic runtime (Custody.keymaps_entrusts _)

theorem Runtime.keymaps_permits (runtime : Runtime) (function : Api) :
    runtime.keymaps.Permits (.newNative (.ofApi function)) := by
  intro scene keyed
  exact ⟨⟨keyed.natives.answer ⟨function, rfl⟩, keyed.keymap⟩, trivial⟩

end TileScript.Bridge

namespace TileScript
open Bridge Script

namespace World

/-- The modes form a keymap, and no context has anything to change them with but what scripts are offered. -/
structure IsKeyed (world : World) : Prop where
  natives : ∀ context interpreter, world.interpreter? context = some interpreter → (world.scene context interpreter).OffersApi
  keymap : world.manager.config.modes.IsKeymap

variable {world : World} {context : ContextId} {interpreter : Interpreter}

theorem IsKeyed.leave (keyed : world.IsKeyed) (known : world.interpreter? context = some interpreter) {scene : Scene}
    (kept : scene.IsKeyed) : (world.leave context scene).IsKeyed := by
  refine ⟨fun other found there => ?_, kept.keymap⟩
  rw [interpreter?_leave scene other known] at there
  split at there
  · cases there
    exact kept.natives
  · exact keyed.natives other found there

theorem IsKeyed.openContext (keyed : world.IsKeyed) : world.openContext.2.IsKeyed := by
  refine ⟨fun other found there => ?_, keyed.keymap⟩
  rw [interpreter?_openContext] at there
  split at there
  · cases there
    intro place native found
    simp [World.scene, Interpreter.initial, Heap.initial] at found
  · exact keyed.natives other found there

theorem IsKeyed.closeContext (keyed : world.IsKeyed) (context : ContextId) : (world.closeContext context).IsKeyed := by
  refine ⟨fun other found there => ?_, keyed.keymap⟩
  rw [interpreter?_closeContext] at there
  split at there
  · cases there
  · exact keyed.natives other found there

theorem IsKeyed.collect (keyed : world.IsKeyed) (held : List Pin) : (world.collect held).IsKeyed := by
  refine ⟨fun other found there => ?_, keyed.keymap⟩
  rw [interpreter?_collect, Option.map_eq_some_iff] at there
  obtain ⟨interpreter, known, rfl⟩ := there
  exact keyed.natives other interpreter known

end World

namespace Live

variable {α : Type} {runtime : Runtime}

def keymapContinuity (runtime : Runtime) : Continuity where
  runtime := runtime
  kept before after := before.IsKeyed → after.IsKeyed
  refl _ := id
  trans early late := late ∘ early
  execute _ _ _ keyed := ⟨keyed.natives, keyed.keymap⟩

theorem keyed_within (context : ContextId) {act : Act α} (neutral : runtime.keymaps.Neutral act) :
    (keymapContinuity runtime).Keeps (Live.within context act) := by
  intro world result after ran keyed
  obtain ⟨-, -, rfl⟩ | ⟨interpreter, scene, known, performed, rfl⟩ := World.run_cases ran
  · exact keyed
  · have start : (world.scene context interpreter).IsKeyed := ⟨keyed.natives context interpreter known, keyed.keymap⟩
    exact keyed.leave known (neutral .host _ result scene start performed).1.1

theorem keyed_openContext : (keymapContinuity runtime).Keeps Live.openContext := by
  intro world result after ran keyed
  cases ran
  exact keyed.openContext

theorem keyed_closeContext (context : ContextId) : (keymapContinuity runtime).Keeps (Live.closeContext context) := by
  refine (keyed_within context StackLogic.neutral_finish).observe.bind fun _ => ?_
  intro world result after ran keyed
  cases ran
  exact keyed.closeContext context

theorem keyed_create (initPath : String) : (keymapContinuity runtime).Keeps (Engine.create initPath) :=
  keyed_openContext.bind fun context =>
    (keyed_within context (StackLogic.neutral_install runtime.keymaps_permits)).bind fun _ => Continuity.keeps_pure _

theorem keyed_initFile (engine : Engine) (file : ScriptFile) : (keymapContinuity runtime).Keeps (engine.runInitFile file) :=
  Continuity.keeps_initFile keyed_within engine file

theorem keyed_reload (engine : Engine) (file : ScriptFile) : (keymapContinuity runtime).Keeps (engine.reload file) := by
  intro world result after ran keyed
  obtain ⟨left, leaves, ran⟩ := Engine.leaves_of_reload ran
  obtain ⟨made, created, -, started⟩ := Engine.exec_start_initFile runtime left engine.initPath
  replace ran := (started file).symm.trans ran
  rw [Option.map_eq_some_iff] at ran
  obtain ⟨⟨_, final⟩, initialized, ⟨⟩⟩ := ran
  have bare : world.reset.IsKeyed := ⟨keyed.natives, Modes.isKeymap_initial⟩
  have old : left.IsKeyed := keyed_closeContext engine.context _ _ _ leaves bare
  have start : made.IsKeyed := keyed_create engine.initPath _ _ _ created old
  exact keyed_initFile _ file _ _ _ initialized ⟨start.natives, start.keymap⟩

end Live

namespace Session

theorem Step.keyed {session next : Session} (step : Step session next) (keyed : session.world.IsKeyed) : next.world.IsKeyed := by
  have script : ∀ (runtime : Runtime) (env : CommandEnv) (function : Handle),
      (Live.keymapContinuity runtime).Keeps (Live.within function.context (Command.runScript function env)) :=
    fun runtime env function => Live.keyed_within _ (StackLogic.neutral_runScript function env)
  cases step with
  | source runtime text ran => exact Live.keyed_within _ (StackLogic.neutral_source text) _ _ _ ran keyed
  | initFile runtime file ran => exact Live.keyed_initFile _ file _ _ _ ran keyed
  | focus runtime env ran => exact Live.Continuity.keeps_focusChanged (script runtime env) _ _ _ ran keyed
  | monitorFocus runtime env ran => exact Live.Continuity.keeps_monitorChanged (script runtime env) _ _ _ ran keyed
  | window runtime window startup ran =>
    exact Live.Continuity.keeps_windowDetected (script runtime _) startup _ _ _ ran keyed
  | gap runtime position asked monitors ran =>
    exact Live.Continuity.keeps_gap (fun function id => Live.keyed_within _ (StackLogic.neutral_askScript function id asked))
      position monitors _ _ _ ran keyed
  | collect held => exact keyed.collect held
  | reload runtime file ran | brokenReload runtime file ran => exact Live.keyed_reload _ file _ _ _ ran keyed

theorem Reachable.keyed {session : Session} (reachable : Reachable session) : session.world.IsKeyed := by
  induction reachable with
  | @create host initPath _ _ runtime _ made =>
    have start : (World.initial host).IsKeyed :=
      ⟨fun context interpreter known => by simp [World.initial, World.interpreter?] at known, Modes.isKeymap_initial⟩
    exact Live.keyed_create initPath _ _ _ made start
  | step reached step ih => exact step.keyed ih

end Session
end TileScript
