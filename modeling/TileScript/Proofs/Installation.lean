import TileScript.Proofs.Undisturbed
import TileScript.Proofs.Worlds

/-! What scripts are offered can always be put into a new context: nothing on the way can fail, no script
runs, and the window manager is not touched. -/

namespace TileScript.Bridge
open Script Attempt

variable {runner : Runner} {site : Site} {scene : Scene} {α β ε : Type}

/-- A context that no script has run in yet, or none that has set a metatable. -/
structure Scene.IsPlain (scene : Scene) : Prop where
  heap : scene.interpreter.heap.IsPlain
  registry : scene.interpreter.registry.Valid

/-- A plain scene that has come from another one without a change to the window manager. No more tables wait for
their end. -/
structure Scene.Furnishes (before after : Scene) : Prop where
  plain : after.IsPlain
  grows : before.Grows after
  manager : after.manager = before.manager
  awaiting : after.interpreter.heap.awaiting = before.interpreter.heap.awaiting

theorem Scene.Furnishes.refl (plain : scene.IsPlain) : scene.Furnishes scene := ⟨plain, .refl scene, rfl, rfl⟩

theorem Scene.Furnishes.trans {first second third : Scene} (early : first.Furnishes second)
    (late : second.Furnishes third) : first.Furnishes third :=
  ⟨late.plain, early.grows.trans late.grows, late.manager.trans early.manager, late.awaiting.trans early.awaiting⟩

theorem Scene.Furnishes.setHeap (plain : scene.IsPlain) {heap : Heap} (kept : heap.IsPlain)
    (awaiting : heap.awaiting = scene.interpreter.heap.awaiting) : scene.Furnishes (scene.setHeap heap) :=
  ⟨⟨kept, plain.registry⟩, ⟨rfl, fun _ _ known => known⟩, rfl, awaiting⟩

theorem Scene.Undisturbed.furnishes {before after : Scene} (calm : before.Undisturbed after) (plain : before.IsPlain) :
    before.Furnishes after :=
  ⟨⟨calm.metatables.isPlain plain.heap, calm.registry⟩, calm.grows, calm.manager, calm.metatables.awaiting⟩

theorem Scene.Furnishes.register (plain : scene.IsPlain) (value : Raw) : scene.Furnishes (scene.register value) :=
  ⟨⟨plain.heap, plain.registry.register value⟩, .register plain.registry value, rfl, rfl⟩

namespace Attempt

/-- An attempt that ends well, in a scene that has been furnished. -/
def Furnishes (attempt : Attempt ε α) (runner : Runner) (site : Site) (scene : Scene)
    (post : α → Scene → Prop) : Prop :=
  ∃ value after, attempt.exec runner site scene = some (.ok value, after) ∧ scene.Furnishes after ∧ post value after

theorem Furnishes.bind {attempt : Attempt ε α} {next : α → Attempt ε β} {middle : α → Scene → Prop}
    {post : β → Scene → Prop} (first : attempt.Furnishes runner site scene middle)
    (second : ∀ value between, scene.Furnishes between → middle value between →
      (next value).Furnishes runner site between post) : (attempt >>= next).Furnishes runner site scene post := by
  obtain ⟨value, between, early, grown, known⟩ := first
  obtain ⟨result, after, late, further, last⟩ := second value between grown known
  exact ⟨result, after, (exec_bind_ok early next).trans late, grown.trans further, last⟩

end Attempt

/-- What is made and registered is at hand afterwards. -/
theorem Table.create_furnishes (plain : scene.IsPlain) : Table.create.Furnishes runner site scene fun handle after =>
    ∃ table, after.resolve handle = .ok (.table table) := by
  obtain ⟨handle, table, after, calm, bare, -, -, created⟩ :=
    Table.exec_create_bare runner site plain.registry
  exact ⟨handle, after, created, calm.furnishes plain, table, bare.found⟩

theorem Function.ofNative_furnishes (plain : scene.IsPlain) (native : Native) :
    (Function.ofNative native).Furnishes runner site scene fun handle after =>
      ∃ function, after.resolve handle = .ok (.function function) := by
  let made := scene.setHeap (scene.interpreter.heap.newFunction (.native native)).2
  let function : FunctionRef := (scene.interpreter.heap.newFunction (.native native)).1
  have asked : exec runner (ask (.newNative native) : Act FunctionRef) site scene = some (.ok function, made) := rfl
  have grown : scene.Furnishes made := .setHeap plain (plain.heap.newFunction _) rfl
  refine ⟨_, _, ?_, grown.trans (.register grown.plain (.function function)), function,
    Scene.resolve_register grown.plain.registry _ function.index⟩
  rw [Function.ofNative, exec_bind_ok asked, exec_bind_ok (Stack.exec_pushRaw _)]
  exact Function.exec_ofTop rfl

theorem Table.setField_furnishes (plain : scene.IsPlain) {table : Handle} {place : TableRef} {value : Value} {raw : Raw}
    (found : scene.resolve table = .ok (.table place)) (known : scene.rawOf value = .ok raw) (name : String) :
    (Table.setField table name value).Furnishes runner site scene fun _ _ => True := by
  have bare : scene.IsBare table place := ⟨found, plain.heap place⟩
  obtain ⟨after, calm, -, set⟩ := Table.exec_setField runner site plain.registry bare name known
  exact ⟨(), after, set, calm.furnishes plain, trivial⟩

theorem Global.set_furnishes (plain : scene.IsPlain) {value : Value} {raw : Raw} (known : scene.rawOf value = .ok raw)
    (name : String) : (Global.set name value).Furnishes runner site scene fun _ _ => True := by
  have pushed : exec runner (Stack.push value) site scene = some (.ok (), scene.setStack (raw :: scene.stack)) := by
    rw [Stack.exec_push, known]
  obtain ⟨after, calm, -, assigned⟩ :=
    Act.exec_assign runner site plain.registry (plain.heap Heap.globals) name raw
  refine ⟨(), after, ?_, calm.furnishes plain, trivial⟩
  rw [Global.set, exec_bind_ok pushed, exec_bind_ok (Stack.exec_popRaw rfl)]
  exact assigned

end TileScript.Bridge

namespace TileScript.Engine
open Bridge Script

variable {runner : Runner} {site : Site} {scene : Scene}

theorem installFunctions_furnishes (plain : scene.IsPlain) {table : Handle} {place : TableRef}
    (found : scene.resolve table = .ok (.table place)) (functions : List Api) :
    (installFunctions table functions).Furnishes runner site scene fun _ _ => True := by
  induction functions generalizing scene with
  | nil => exact ⟨(), scene, rfl, .refl plain, trivial⟩
  | cons function rest ih =>
    refine (Function.ofNative_furnishes plain _).bind fun native made grown ⟨object, known⟩ => ?_
    have given : made.rawOf (.function native) = .ok (.function object) := known
    refine (Table.setField_furnishes grown.plain (grown.grows.resolve found) given _).bind fun _ stored further _ => ?_
    exact ih further.plain (further.grows.resolve (grown.grows.resolve found))

theorem installPositions_furnishes (plain : scene.IsPlain) (positions : List GapPosition) :
    (installPositions positions).Furnishes runner site scene fun _ _ => True := by
  induction positions generalizing scene with
  | nil => exact ⟨(), scene, rfl, .refl plain, trivial⟩
  | cons position rest ih => exact (Global.set_furnishes plain rfl _).bind fun _ stored grown _ => ih grown.plain

theorem installNamespaces_furnishes (plain : scene.IsPlain) {root : Handle} {place : TableRef}
    (found : scene.resolve root = .ok (.table place)) (namespaces : List (String × List Api)) :
    (installNamespaces root namespaces).Furnishes runner site scene fun _ _ => True := by
  induction namespaces generalizing scene with
  | nil => exact ⟨(), scene, rfl, .refl plain, trivial⟩
  | cons entry rest ih =>
    obtain ⟨name, functions⟩ := entry
    refine (Table.create_furnishes plain).bind fun table made early ⟨object, known⟩ => ?_
    refine (installFunctions_furnishes early.plain known functions).bind fun _ filled middle _ => ?_
    have kept := middle.grows.resolve (early.grows.resolve found)
    have given : filled.rawOf (.table table) = .ok (.table object) := middle.grows.resolve known
    refine (Table.setField_furnishes middle.plain kept given name).bind fun _ stored late _ => ?_
    exact ih late.plain (late.grows.resolve kept)

/-- Nothing of what scripts are offered can fail to be made. -/
theorem install_furnishes (plain : scene.IsPlain) : install.Furnishes runner site scene fun _ _ => True := by
  refine (Table.create_furnishes plain).bind fun root made early ⟨object, known⟩ => ?_
  refine (installPositions_furnishes early.plain _).bind fun _ numbered middle _ => ?_
  have kept := middle.grows.resolve known
  refine (installNamespaces_furnishes middle.plain kept _).bind fun _ filled late _ => ?_
  have given : filled.rawOf (.table root) = .ok (.table object) := late.grows.resolve kept
  exact Global.set_furnishes late.plain given _

/-- Where a new engine makes what scripts are offered. -/
def firstScene (world : World) : Scene := world.openContext.2.scene ⟨world.contexts.size⟩ .initial

/-- A new engine is made by an installation in a context of its own, which always ends well. -/
theorem create_runs (runtime : Runtime) (world : World) (initPath : String) :
    ∃ scene, install.exec runtime.perform .host (firstScene world) = some (.ok (), scene) ∧
      (firstScene world).Furnishes scene ∧ (create initPath).exec runtime world =
        some (.ok ⟨⟨world.contexts.size⟩, initPath⟩, world.openContext.2.leave ⟨world.contexts.size⟩ scene) := by
  have plain : (firstScene world).IsPlain := ⟨Heap.initial_isPlain, Registry.empty_valid⟩
  obtain ⟨_, scene, installed, furnished, -⟩ :
      install.Furnishes runtime.perform .host _ fun _ _ => True := install_furnishes plain
  refine ⟨scene, installed, furnished, ?_⟩
  change (Live.openContext >>= _).exec runtime world = _
  rw [Live.exec_bind]
  change (Live.within ⟨world.contexts.size⟩ install >>= _).exec runtime world.openContext.2 = _
  rw [Live.exec_bind, Live.exec_within, World.run_open world.interpreter?_opened]
  change ((install.exec runtime.perform .host (firstScene world)).map _).bind _ = _
  rw [installed]
  rfl

/-- A new engine is always made, in a context of its own. -/
theorem create_ends (runtime : Runtime) (world : World) (initPath : String) :
    ∃ after, (create initPath).exec runtime world = some (.ok ⟨⟨world.contexts.size⟩, initPath⟩, after) ∧
      after.manager = world.manager := by
  obtain ⟨scene, -, furnished, created⟩ := create_runs runtime world initPath
  exact ⟨_, created, furnished.manager⟩

end TileScript.Engine
