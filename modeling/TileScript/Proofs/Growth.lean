import TileScript.Proofs.Registrations
import TileScript.Proofs.StackRuns

/-! Growth of a scene: its context stays the same one, and what the host has registered stays so. Handles
keep their meaning in every scene that has grown from the one they were made in. Native functions are
made by requests for them alone. -/

namespace TileScript.Script.HeapRequest

/-- Scripts make closures, never native functions. -/
theorem native_before {α : Type} (request : HeapRequest α) {heap : Heap} {place : Nat} {native : Bridge.Native}
    (found : (request.answer heap).2.functions[place]? = some (.native native)) :
    heap.functions[place]? = some (.native native) := by
  cases request with
  | get table key =>
    simp only [answer] at found
    split at found <;> exact found
  | newClosure closure =>
    simp only [answer, Heap.newFunction, Array.getElem?_push] at found
    split at found
    · cases found
    · exact found
  | closure? function =>
    simp only [answer] at found
    split at found <;> exact found
  | setMetatable table chosen => rwa [answer, heap.functions_setMetatable] at found
  | newTable _ _ | set _ _ _ | setItems _ _ _ | metatable _ | border _ | following _ _ | libraryName? _ | newCell _
  | cell _ | setCell _ _ | newNumber | takeAwaiting | print _ => exact found

end TileScript.Script.HeapRequest

namespace TileScript.Bridge
open Script Attempt

/-- Requests that make no native function but those that scripts are offered. -/
def BridgeRequest.KeepsOffer {α : Type} : BridgeRequest α → Prop
  | .newNative native => ∃ function, native = .ofApi function
  | _ => True

namespace Scene

/-- The value of a registration. -/
def registered (scene : Scene) (registration : Nat) : Option Raw := scene.interpreter.registry.value? registration

/-- The same context, later: no registration is lost. -/
structure Grows (before after : Scene) : Prop where
  context : after.context = before.context
  registered : ∀ registration value, before.registered registration = some value →
    after.registered registration = some value

theorem Grows.refl (scene : Scene) : scene.Grows scene := ⟨rfl, fun _ _ known => known⟩

theorem Grows.trans {first second third : Scene} (early : first.Grows second) (late : second.Grows third) :
    first.Grows third :=
  ⟨late.context.trans early.context, fun _ _ known => late.registered _ _ (early.registered _ _ known)⟩

theorem Grows.setStack (scene : Scene) (values : List Raw) : scene.Grows (scene.setStack values) :=
  ⟨rfl, fun _ _ known => known⟩

theorem Grows.register {scene : Scene} (valid : scene.interpreter.registry.Valid) (value : Raw) :
    scene.Grows (scene.register value) := ⟨rfl, fun _ _ known => valid.value?_register known⟩

theorem resolve_ok {scene : Scene} {handle : Handle} {value : Raw} :
    scene.resolve handle = .ok value ↔
      handle.context = scene.context ∧ scene.registered handle.pin.registration = some value := by
  rw [Scene.resolve]
  split
  next foreign =>
    constructor
    · intro found
      cases found
    · exact fun here => absurd here.1 foreign
  next here =>
    rw [registered]
    cases scene.interpreter.registry.value? handle.pin.registration with
    | none =>
      constructor
      · intro found
        cases found
      · intro found
        cases found.2
    | some found => simpa using fun _ => Classical.not_not.mp here

theorem Grows.resolve {before after : Scene} (grows : before.Grows after) {handle : Handle} {value : Raw}
    (known : before.resolve handle = .ok value) : after.resolve handle = .ok value := by
  obtain ⟨here, found⟩ := resolve_ok.mp known
  exact resolve_ok.mpr ⟨here.trans grows.context.symm, grows.registered _ _ found⟩

theorem Grows.rawOf {before after : Scene} (grows : before.Grows after) {value : Value} {raw : Raw}
    (known : before.rawOf value = .ok raw) : after.rawOf value = .ok raw := by
  cases value with
  | table handle | function handle => exact grows.resolve known
  | number _ | string _ | boolean _ | nil => exact known

/-- All native functions of a context are those that scripts are offered. -/
def OffersApi (scene : Scene) : Prop :=
  ∀ (place : Nat) (native : Native), scene.interpreter.heap.functions[place]? = some (.native native) →
    ∃ function, native = .ofApi function

theorem OffersApi.answer {α : Type} {scene : Scene} {request : BridgeRequest α} (offers : scene.OffersApi)
    (keeps : request.KeepsOffer) : (scene.answer request).2.OffersApi := by
  intro place native found
  cases request with
  | heap request => exact offers place native (request.native_before found)
  | takeLost =>
    rw [Scene.answer, Scene.withHeap, Heap.functions_takeLost] at found
    exact offers place native found
  | newNative made =>
    simp only [Scene.answer, Scene.withHeap, Heap.newFunction, Array.getElem?_push] at found
    split at found
    · cases found
      exact keeps
    · exact offers place native found
  | newChunk function =>
    simp only [Scene.answer, Scene.withHeap, Heap.newChunk, Heap.newCell, Heap.newFunction, Array.getElem?_push] at found
    split at found
    · cases found
    · exact offers place native found
  | function _ | context | stack | setStack _ | register _ | registered _ | release _ | host | runCommand _ _
  | change _ | note _ _ => exact offers place native found

/-- A new handle denotes what was registered for it. -/
theorem resolve_register {scene : Scene} (valid : scene.interpreter.registry.Valid) (value : Raw) (object : Nat) :
    (scene.register value).resolve (scene.nextHandle object) = .ok value :=
  resolve_ok.mpr ⟨rfl, valid.value?_register_self⟩

end Scene
end TileScript.Bridge
