import TileScript.Proofs.NativeEffects
import TileScript.Proofs.ReachedScenes
import TileScript.Proofs.SoundHandles

/-! Calls of what the window manager offers, at any moment of any session: such a call always ends, it does
nothing when it fails, and it does no more than it is for when it does not. -/

namespace TileScript
open Bridge Script Attempt

namespace Session

/-- The scenes that a session goes through: those of its contexts and of new ones, whatever was done in other
contexts meanwhile, and all that they become while something is done in them. -/
inductive Meets (session : Session) : Scene → Prop where
  | rest {context : ContextId} {interpreter : Interpreter} (manager : Manager) (trace : List TraceEntry)
    (known : session.world.interpreter? context = some interpreter) : session.Meets ⟨context, interpreter, manager, trace⟩
  | opened (context : ContextId) (manager : Manager) (trace : List TraceEntry) :
    session.Meets ⟨context, .initial, manager, trace⟩
  | answer {α : Type} {scene : Scene} (met : session.Meets scene) (request : BridgeRequest α) :
    session.Meets (scene.answer request).2

theorem Meets.valid {session : Session} (reachable : session.Reachable) {scene : Scene} (met : session.Meets scene) :
    scene.interpreter.registry.Valid := by
  induction met with
  | @rest context interpreter manager trace known =>
    obtain ⟨alone, found, here, sound⟩ := reachable.sound
    -- No context but that of the engine is open.
    by_cases same : context = session.engine.context
    · rw [same, here] at known
      cases known
      exact sound.registry
    · cases (alone context same).symm.trans known
  | opened _ _ _ => exact Registry.empty_valid
  | answer _ request valid => exact Scene.registry_answer valid request

end Session

end TileScript
