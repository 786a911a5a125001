import TileScript.Bridge.Run

/-! Runs of programs and attempts, one equation for each way to build them. How tasks are run is a
parameter: what holds for every runner holds at every depth of nested calls. Only runs that come to
their end are looked at here; a halt leaves nothing that anything could be said about. -/

namespace TileScript.Bridge
open Script

/-- How tasks are run. -/
abbrev Runner := Task → Scene → Option (Outcome × Scene)

variable {α β ε δ : Type} {runner : Runner} {site : Site} {scene : Scene}

/-- The run of a program to its end. -/
def interpret (runner : Runner) : Program BridgeRequest α → Scene → Option (α × Scene)
  | .pure value, scene => some (value, scene)
  | .request operation next, scene =>
    match scene.answer operation with
    | (value, scene) => interpret runner (next value) scene
  | .run task next, scene =>
    match runner task scene with
    | none => none
    | some (outcome, scene) => interpret runner (next outcome) scene

/-- The run of a task to its end. -/
def perform (code : HostCode) (budget : Nat) : Runner := fun task scene => (drive code budget task scene).toOption

def Runtime.perform (runtime : Runtime) : Runner := Bridge.perform runtime.code runtime.budget

theorem toOption_follow (drive : Task → Scene → Except Halt (Outcome × Scene)) (program : Program BridgeRequest α)
    (scene : Scene) :
    (follow drive program scene).toOption = interpret (fun task scene => (drive task scene).toOption) program scene := by
  induction program generalizing scene with
  | pure value => rfl
  | request operation rest ih => exact ih _ _
  | run task rest ih =>
    simp only [follow, interpret]
    cases drive task scene with
    | error halt => rfl
    | ok ran => exact ih _ _

theorem perform_succ (code : HostCode) (budget : Nat) (task : Task) (scene : Scene) :
    perform code (budget + 1) task scene =
      match interpret (perform code budget) (stepOf code task) scene with
      | none | some (.exit _, _) => none
      | some (.finish outcome, scene) => some (outcome, scene)
      | some (.again task, scene) => perform code budget task scene := by
  have step := toOption_follow (drive code budget) (stepOf code task) scene
  change _ = interpret (perform code budget) (stepOf code task) scene at step
  rw [← step, perform, drive]
  rcases follow (drive code budget) (stepOf code task) scene with _ | ⟨_ | _ | _, _⟩ <;> rfl

theorem Act.run_eq (act : Act α) (runtime : Runtime) (scene : Scene) :
    act.run runtime scene = interpret runtime.perform (act .host).run scene :=
  toOption_follow runtime.drive (act .host).run scene

theorem interpret_bind (program : Program BridgeRequest α) (next : α → Program BridgeRequest β) (scene : Scene) :
    interpret runner (program >>= next) scene =
      (interpret runner program scene).bind fun (value, after) => interpret runner (next value) after := by
  change interpret runner (program.bind next) scene = _
  induction program generalizing scene with
  | pure value => rfl
  | request operation rest ih => exact ih _ _
  | run task rest ih =>
    simp only [Program.bind, interpret]
    cases runner task scene with
    | none => rfl
    | some ran => exact ih _ _

theorem interpret_run (task : Task) (next : Outcome → Program BridgeRequest α) (scene : Scene) :
    interpret runner (.run task next) scene =
      (runner task scene).bind fun (outcome, after) => interpret runner (next outcome) after := by
  rw [interpret]
  cases runner task scene <;> rfl

/-! ### Relations that every request keeps -/

/-- A relation between a scene and what becomes of it, whatever is asked. -/
structure Conserved (kept : Scene → Scene → Prop) : Prop where
  refl : ∀ scene, kept scene scene
  trans : ∀ {first second third}, kept first second → kept second third → kept first third
  request : ∀ {γ : Type} (request : BridgeRequest γ) (scene : Scene), kept scene (scene.answer request).2

namespace Conserved

variable {kept : Scene → Scene → Prop}

theorem interpret (conserved : Conserved kept)
    (task : ∀ {task scene outcome after}, runner task scene = some (outcome, after) → kept scene after)
    {program : Program BridgeRequest α} {value : α} {after : Scene}
    (ran : Bridge.interpret runner program scene = some (value, after)) : kept scene after := by
  induction program generalizing scene with
  | pure value =>
    cases ran
    exact conserved.refl _
  | request request rest ih => exact conserved.trans (conserved.request request scene) (ih _ ran)
  | run called rest ih =>
    rw [Bridge.interpret] at ran
    split at ran
    · cases ran
    next outcome between performed => exact conserved.trans (task performed) (ih _ ran)

theorem perform (conserved : Conserved kept) {code : HostCode} {budget : Nat} {task : Task} {outcome : Outcome}
    {after : Scene} (ran : Bridge.perform code budget task scene = some (outcome, after)) : kept scene after := by
  induction budget generalizing task scene outcome after with
  | zero => cases ran
  | succ budget ih =>
    rw [perform_succ] at ran
    split at ran
    · cases ran
    · cases ran
    next stepped =>
      cases ran
      exact conserved.interpret ih stepped
    next stepped => exact conserved.trans (conserved.interpret ih stepped) (ih ran)

/-- What every request keeps is kept by everything that is done in a context. -/
theorem act (conserved : Conserved kept) {runtime : Runtime} {act : Act α} {result : Except Error α} {after : Scene}
    (ran : Bridge.interpret runtime.perform (act .host).run scene = some (result, after)) : kept scene after :=
  conserved.interpret conserved.perform ran

end Conserved

/-! ### Evaluations -/

theorem lift_bind {Request : Type → Type} {Other : Type → Type 1} (embed : {γ : Type} → Request γ → Other γ)
    (program : Program Request α) (next : α → Program Request β) :
    (program.bind next).lift embed = (program.lift embed).bind fun value => (next value).lift embed := by
  induction program with
  | pure value => rfl
  | request operation rest ih => exact congrArg _ (funext fun value => ih value)
  | run task rest ih => exact congrArg _ (funext fun outcome => ih outcome)

/-- The run of an evaluation. -/
def evaluation (runner : Runner) (computation : Eval α) (scene : Scene) : Option (Except Raw α × Scene) :=
  interpret runner (ofEval computation) scene

theorem evaluation_ask (request : HeapRequest α) :
    evaluation runner (Eval.ask request) scene =
      some (.ok (scene.withHeap request.answer).1, (scene.withHeap request.answer).2) := rfl

theorem evaluation_bind (computation : Eval α) (next : α → Eval β) :
    evaluation runner (computation >>= next) scene =
      (evaluation runner computation scene).bind fun
        | (.ok value, after) => evaluation runner (next value) after
        | (.error raised, after) => some (.error raised, after) := by
  change interpret runner ((computation.run.bind (ExceptT.bindCont next)).lift _) scene = _
  rw [lift_bind]
  change interpret runner (_ >>= _) scene = _
  rw [interpret_bind]
  congr 1
  funext ⟨result, after⟩
  cases result <;> rfl

namespace Attempt

/-- The run of an attempt at a place, from a scene. -/
def exec (runner : Runner) (attempt : Attempt ε α) (site : Site) (scene : Scene) :
    Option (Except ε α × Scene) :=
  interpret runner (attempt site).run scene

theorem exec_settle (result : Except ε α) : exec runner (settle result) site scene = some (result, scene) := rfl

theorem exec_ask (request : BridgeRequest α) :
    exec runner (ask request : Attempt ε α) site scene =
      some (.ok (scene.answer request).1, (scene.answer request).2) := rfl

theorem exec_bind (attempt : Attempt ε α) (next : α → Attempt ε β) :
    exec runner (attempt >>= next) site scene =
      (exec runner attempt site scene).bind fun
        | (.ok value, after) => exec runner (next value) site after
        | (.error error, after) => some (.error error, after) := by
  change interpret runner ((attempt site).run >>= ExceptT.bindCont fun value => next value site) scene = _
  rw [interpret_bind]
  congr 1
  funext ⟨result, after⟩
  cases result <;> rfl

theorem exec_bind_ok {attempt : Attempt ε α} {value : α} {between : Scene}
    (ran : exec runner attempt site scene = some (.ok value, between)) (next : α → Attempt ε β) :
    exec runner (attempt >>= next) site scene = exec runner (next value) site between := by
  rw [exec_bind, ran]
  rfl

theorem exec_bind_error {attempt : Attempt ε α} {error : ε} {between : Scene}
    (ran : exec runner attempt site scene = some (.error error, between)) (next : α → Attempt ε β) :
    exec runner (attempt >>= next) site scene = some (.error error, between) := by
  rw [exec_bind, ran]
  rfl

theorem exec_observe (attempt : Attempt δ α) :
    exec runner (observe attempt : Attempt ε (Except δ α)) site scene =
      (exec runner attempt site scene).map fun (result, after) => (.ok result, after) := by
  change interpret runner (_ >>= _) scene = _
  rw [interpret_bind, Option.map_eq_bind]
  rfl

theorem exec_mapError (change : δ → ε) (attempt : Attempt δ α) :
    exec runner (attempt.mapError change) site scene =
      (exec runner attempt site scene).map fun (result, after) => (result.mapError change, after) := by
  change interpret runner (_ >>= _) scene = _
  rw [interpret_bind, Option.map_eq_bind]
  rfl

theorem exec_evaluate (computation : Site → Eval α) :
    exec runner (evaluate computation : Attempt ε (Except Raw α)) site scene =
      (interpret runner (ofEval (computation ((described site).nested.enter 0))) scene).map
        fun (result, after) => (.ok result, after) := by
  change interpret runner (_ >>= _) scene = _
  rw [interpret_bind, Option.map_eq_bind]
  rfl

theorem exec_call (callee : Raw) (arguments : List Raw) :
    exec runner (call callee arguments : Attempt ε Outcome) site scene =
      (runner (.call callee arguments (described site).nested) scene).map
        fun (outcome, after) => (.ok outcome, after) := by
  change interpret runner (_ >>= _) scene = _
  rw [interpret_bind, Option.map_eq_bind]
  simp only [interpret]
  cases runner (.call callee arguments (described site).nested) scene <;> rfl

end Attempt
end TileScript.Bridge
