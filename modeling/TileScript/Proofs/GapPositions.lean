import TileScript.Proofs.AtomicCalls
import TileScript.Proofs.CallbackAnswers
import TileScript.Proofs.KeymapCalls
import TileScript.Proofs.NearestDoubles

/-! Gaps that scripts set. The number of a position is taken without its fraction, and every number that is in none
of the six is refused. What was set is what the gap is from then on, on every monitor. -/

namespace TileScript
open Bridge Script Attempt

/-! ### Numbers of positions -/

namespace Double

end Double

namespace Bridge

variable {runner : Runner} {site : Site} {scene between : Scene} {place amount : Raw} {number : Double} {value : Value}

end Bridge

/-! ### What gaps are -/

/-- The context of a handle that has an object is in order, and the handle denotes the object there. -/
theorem Session.Reachable.resolves {session : Session} (reachable : session.Reachable) {handle : Handle} {raw : Raw}
    (found : session.world.object? handle = some raw) :
    ∃ interpreter, session.world.interpreter? handle.context = some interpreter ∧ interpreter.registry.Valid ∧
      (session.world.scene handle.context interpreter).resolve handle = .ok raw := by
  rw [World.object?, Option.bind_eq_some_iff] at found
  obtain ⟨interpreter, known, registered⟩ := found
  have here : handle.context = session.engine.context := by
    refine Classical.byContradiction fun apart => ?_
    cases (reachable.sound.alone _ apart).symm.trans known
  obtain ⟨_, alive, scene⟩ := World.IsSound.sound reachable.sound
  rw [← here] at alive
  cases known.symm.trans alive
  exact ⟨interpreter, known, scene.registry, Scene.resolve_ok.mpr ⟨rfl, registered⟩⟩

end TileScript
