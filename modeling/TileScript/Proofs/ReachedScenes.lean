import TileScript.Proofs.Growth

/-! The scenes that a context goes through from the moment it is opened, and what holds in all of them. -/

namespace TileScript.Script.HeapRequest

/-- A function is not replaced by another one. -/
theorem function_after {α : Type} (request : HeapRequest α) {heap : Heap} {place : Nat} {object : FunctionObject}
    (found : heap.functions[place]? = some object) : (request.answer heap).2.functions[place]? = some object := by
  have pushed : ∀ made : FunctionObject, (heap.functions.push made)[place]? = some object := by
    intro made
    obtain ⟨inside, rfl⟩ := Array.getElem?_eq_some_iff.mp found
    exact Array.getElem?_push_lt inside
  cases request with
  | get table key =>
    simp only [answer]
    split <;> exact found
  | newClosure closure => exact pushed (.closure closure)
  | closure? function =>
    simp only [answer]
    split <;> exact found
  | setMetatable table chosen => rwa [answer, heap.functions_setMetatable]
  | newTable _ _ | set _ _ _ | setItems _ _ _ | metatable _ | border _ | following _ _ | libraryName? _ | newCell _
  | cell _ | setCell _ _ | newNumber | takeAwaiting | print _ => exact found

end TileScript.Script.HeapRequest

namespace TileScript.Bridge
open Script

theorem Scene.function_answer {α : Type} {scene : Scene} {place : Nat} {object : FunctionObject}
    (found : scene.interpreter.heap.functions[place]? = some object) (request : BridgeRequest α) :
    (scene.answer request).2.interpreter.heap.functions[place]? = some object := by
  have pushed : ∀ made : FunctionObject, (scene.interpreter.heap.functions.push made)[place]? = some object := by
    intro made
    obtain ⟨inside, rfl⟩ := Array.getElem?_eq_some_iff.mp found
    exact Array.getElem?_push_lt inside
  cases request with
  | heap request => exact request.function_after found
  | newNative native => exact pushed (.native native)
  | newChunk function => exact pushed (.closure ⟨function, #[⟨scene.interpreter.heap.cells.size⟩]⟩)
  | takeLost => rwa [Scene.answer, Scene.withHeap, Heap.functions_takeLost]
  | function _ | context | stack | setStack _ | register _ | registered _ | release _ | host | runCommand _ _
  | change _ | note _ _ => exact found

theorem Scene.registry_answer {α : Type} {scene : Scene} (valid : scene.interpreter.registry.Valid)
    (request : BridgeRequest α) : (scene.answer request).2.interpreter.registry.Valid := by
  cases request with
  | register value => exact valid.register value
  | release registration => exact valid.release registration
  | heap _ | takeLost | newNative _ | newChunk _ | function _ | context | stack | setStack _ | registered _ | host
  | runCommand _ _ | change _ | note _ _ => exact valid

/-- Nothing that is done in a context leads out of it. -/
theorem Scene.context_conserved : Conserved fun before after => after.context = before.context where
  refl _ := rfl
  trans early late := late.trans early
  request request scene := by cases request <;> rfl

/-- The scenes that a context can be in: it is new, or something was asked for in it, or something was done
in other contexts meanwhile. -/
inductive Scene.Reached : Scene → Prop where
  | opened (context : ContextId) (manager : Manager) (trace : List TraceEntry) :
    Reached ⟨context, .initial, manager, trace⟩
  | answer {α : Type} {scene : Scene} (reached : scene.Reached) (request : BridgeRequest α) :
    Reached (scene.answer request).2
  | beside {scene : Scene} (reached : scene.Reached) (manager : Manager) (trace : List TraceEntry) :
    Reached ⟨scene.context, scene.interpreter, manager, trace⟩

/-- What describes to the host what was raised. -/
def Scene.Describes (scene : Scene) : Prop :=
  scene.interpreter.heap.functions[Builtin.describe.ref.index]? = some (.builtin .describe)

namespace Scene.Reached

variable {scene : Scene}

theorem conserved : Conserved fun before after => before.Reached → after.Reached where
  refl _ := id
  trans early late := late ∘ early
  request request _ reached := reached.answer request

theorem valid (reached : scene.Reached) : scene.interpreter.registry.Valid := by
  induction reached with
  | opened _ _ _ => exact Registry.empty_valid
  | answer _ request valid => exact Scene.registry_answer valid request
  | beside _ _ _ valid => exact valid

theorem describes (reached : scene.Reached) : scene.Describes := by
  induction reached with
  | opened _ _ _ => rfl
  | answer _ request found => exact Scene.function_answer found request
  | beside _ _ _ found => exact found

end Scene.Reached
end TileScript.Bridge
