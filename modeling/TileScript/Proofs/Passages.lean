import TileScript.Proofs.Growth
import TileScript.Proofs.Renaming

/-! The same run in another context. Contexts are told apart by their numbers alone, and nothing that a
script or a native function does depends on what the host did before it. So a run can be carried
over to a context with another number and another past, where it comes to the same. -/

namespace TileScript.Bridge
open Script

/-- Requests whose answer is the same in every context and after every past. -/
def BridgeRequest.IsCommon {α : Type} : BridgeRequest α → Prop
  | .newNative _ | .context | .host | .change _ => False
  | _ => True

/-- The way to a context with another number, after another past. -/
structure Passage where
  ids : ContextId → ContextId
  injective : ∀ {first second}, ids first = ids second → first = second
  executed : List Execution
  applied : List Mode
  trace : List TraceEntry

namespace Passage

variable (passage : Passage)

def host (host : Host) : Host :=
  { host with
    executed := passage.executed ++ host.executed
    applied := passage.applied ++ host.applied.map (·.rename passage.ids) }

def manager (manager : Manager) : Manager := ⟨manager.config.rename passage.ids, passage.host manager.host⟩

def scene (scene : Scene) : Scene :=
  ⟨passage.ids scene.context, scene.interpreter, passage.manager scene.manager, passage.trace ++ scene.trace⟩

variable {passage}

/-! ### The window manager -/

theorem host_apply (host : Host) (mode : Mode) :
    (passage.host host).apply (mode.rename passage.ids) = passage.host (host.apply mode) := by
  simp only [Host.apply, Passage.host, List.map_append, List.append_assoc]
  rfl

theorem manager_execute (manager : Manager) (command : HostCommand) (env : CommandEnv) :
    (passage.manager manager).execute command env = passage.manager (manager.execute command env) := by
  simp only [Manager.execute, Passage.manager, Host.record, Passage.host, List.append_assoc]

theorem manager_activate (manager : Manager) (mode : String) :
    (passage.manager manager).activate mode = passage.manager (manager.activate mode) := by
  simp only [Manager.activate, Passage.manager, ← host_apply, ← Modes.get_rename]
  rfl

theorem manager_refresh (manager : Manager) (mode : String) :
    (passage.manager manager).refresh mode = passage.manager (manager.refresh mode) := by
  change (if manager.config.activeMode = mode then _ else _) = passage.manager (if manager.config.activeMode = mode then _ else _)
  split
  · simp only [Passage.manager, ← host_apply, ← Modes.get_rename]
    rfl
  · rfl

theorem manager_unbind (manager : Manager) (mode description : String) :
    (passage.manager manager).unbind mode description = passage.manager (manager.unbind mode description) := by
  have found : (passage.manager manager).config.modes.find? mode =
      (manager.config.modes.find? mode).map (·.rename passage.ids) := Modes.find?_rename _ _
  rw [Manager.unbind, Manager.unbind, found]
  cases manager.config.modes.find? mode with
  | none => rfl
  | some known =>
    simp only [Option.map_some, Mode.described?_rename, Option.isNone_map]
    split
    · rfl
    · rw [Mode.unbind_rename, ← manager_refresh]
      exact congrArg (fun modes => Manager.refresh ⟨{ manager.config.rename passage.ids with modes := modes }, _⟩ mode)
        (Modes.insert_rename _ _ _)

theorem manager_change (manager : Manager) (wanted : Change) :
    (passage.manager manager).change (wanted.rename passage.ids) = passage.manager (manager.change wanted) := by
  cases wanted with
  | gap position value =>
    exact congrArg (fun gaps => Manager.mk { manager.config.rename passage.ids with gaps := gaps } _)
      (Gaps.set_rename _ position value)
  | setting setting => exact congrArg (Manager.mk · _) (Setting.apply_rename setting _)
  | onFocusChanged commands | onMonitorChanged commands =>
    simp only [Manager.change, Change.rename, Passage.manager, Config.rename, List.map_append]
  | onWindowDetected rule =>
    simp only [Manager.change, Change.rename, Passage.manager, Config.rename, List.map_append]
    rfl
  | bind mode binding =>
    change Manager.refresh ⟨(manager.config.rename passage.ids).bind mode (binding.rename passage.ids), _⟩ mode = _
    rw [Config.bind_rename]
    exact manager_refresh ⟨manager.config.bind mode binding, manager.host⟩ mode
  | unbind mode description => exact manager_unbind manager mode description
  | activate mode => exact manager_activate manager mode

/-! ### Runs -/

variable (passage) {α β ε δ : Type}

/-- Two runs that come to the same, but for the passage from the one to the other. -/
def Brings (rename : α → α) (run run' : Option (α × Scene)) : Prop :=
  run' = run.map (Prod.map rename passage.scene) ∧ ∀ value after, run = some (value, after) → after.OffersApi

variable {passage}

theorem Brings.some {scene : Scene} {value : α} (rename : α → α) (offers : scene.OffersApi) :
    passage.Brings rename (some (value, scene)) (some (rename value, passage.scene scene)) := by
  refine ⟨rfl, ?_⟩
  rintro _ _ ⟨⟩
  exact offers

theorem Brings.bind {rename : α → α} {rename' : β → β} {run run' : Option (α × Scene)}
    {next next' : α × Scene → Option (β × Scene)} (first : passage.Brings rename run run')
    (second : ∀ value after, after.OffersApi →
      passage.Brings rename' (next (value, after)) (next' (rename value, passage.scene after))) :
    passage.Brings rename' (run.bind next) (run'.bind next') := by
  obtain ⟨rfl, offers⟩ := first
  cases run with
  | none => exact ⟨rfl, fun _ _ ran => by cases ran⟩
  | some ran =>
    obtain ⟨value, after⟩ := ran
    exact second value after (offers value after rfl)

/-- What everything is known by goes over to the other context. -/
theorem answer_common {request : BridgeRequest α} (common : request.IsCommon) (scene : Scene) :
    (passage.scene scene).answer request = Prod.map id passage.scene (scene.answer request) := by
  cases request with
  | heap _ | takeLost | function _ | newChunk _ | stack | setStack _ | register _ | registered _ | release _ => rfl
  | runCommand command env =>
    simp only [Scene.answer, Passage.scene, manager_execute]
    rfl
  | note name arguments =>
    simp only [Scene.answer, Passage.scene, List.append_assoc]
    rfl
  | newNative _ | context | host | change _ => cases common

theorem resolve (scene : Scene) (handle : Handle) :
    (passage.scene scene).resolve (handle.rename passage.ids) = scene.resolve handle := by
  rw [Scene.resolve, Scene.resolve]
  by_cases here : handle.context = scene.context
  · have there : (handle.rename passage.ids).context = (passage.scene scene).context := congrArg passage.ids here
    rw [if_neg (not_not_intro here), if_neg (not_not_intro there)]
    rfl
  · have there : (handle.rename passage.ids).context ≠ (passage.scene scene).context := mt passage.injective here
    rw [if_pos here, if_pos there]

theorem rawOf (scene : Scene) (value : Value) :
    (passage.scene scene).rawOf (value.rename passage.ids) = scene.rawOf value := by
  cases value with
  | table handle | function handle => exact resolve scene handle
  | number _ | string _ | boolean _ | nil => rfl

end Passage

theorem BridgeRequest.IsCommon.keepsOffer {α : Type} {request : BridgeRequest α} (common : request.IsCommon) :
    request.KeepsOffer := by
  cases request <;> trivial

/-- A passage on which every task comes to the same. -/
structure Transfer extends Passage where
  runner : Runner
  task : ∀ (task : Task) (scene : Scene), scene.OffersApi →
    toPassage.Brings id (runner task scene) (runner task (toPassage.scene scene))

namespace Transfer
open Passage

variable (transfer : Transfer) {α β ε δ : Type}

/-- Two attempts that come to the same, but for the passage and the handles in what they return. -/
def Carried (attempt attempt' : Attempt ε α) (rename : α → α) : Prop :=
  ∀ site scene, scene.OffersApi → transfer.Brings (Except.map rename) (attempt.exec transfer.runner site scene)
    (attempt'.exec transfer.runner site (transfer.scene scene))

/-- An attempt that comes to the same on both sides, with nothing to rename. -/
def Fixed (attempt : Attempt ε α) : Prop := transfer.Carried attempt attempt id

/-- A program that comes to the same on both sides. -/
def FixedProgram (program : Program BridgeRequest α) : Prop :=
  ∀ scene, scene.OffersApi → transfer.Brings id (interpret transfer.runner program scene)
    (interpret transfer.runner program (transfer.scene scene))

variable {transfer}

/-! ### Rules for attempts -/

section Rules

variable {attempt attempt' : Attempt ε α} {next next' : α → Attempt ε β} {rename : α → α} {rename' : β → β}

theorem Carried.bind (first : transfer.Carried attempt attempt' rename)
    (second : ∀ value, transfer.Carried (next value) (next' (rename value)) rename') :
    transfer.Carried (attempt >>= next) (attempt' >>= next') rename' := by
  intro site scene offers
  rw [Attempt.exec_bind, Attempt.exec_bind]
  refine (first site scene offers).bind fun result after offers => ?_
  cases result with
  | ok value => exact second value site after offers
  | error error => exact .some (Except.map rename') offers

theorem Fixed.bind (first : transfer.Fixed attempt) (second : ∀ value, transfer.Carried (next value) (next' value) rename') :
    transfer.Carried (attempt >>= next) (attempt >>= next') rename' := Carried.bind first second

theorem carried_pure (rename : α → α) (value : α) :
    transfer.Carried (pure value : Attempt ε α) (pure (rename value)) rename :=
  fun _ _ offers => .some (Except.map rename) offers

theorem fixed_pure (value : α) : transfer.Fixed (pure value : Attempt ε α) := carried_pure id value

theorem carried_throw (error : ε) :
    transfer.Carried (throw error : Attempt ε α) (throw error) rename :=
  fun _ _ offers => .some (Except.map rename) offers

/-- Two acts that fail alike need not agree on what they would have gone on with. -/
theorem carried_throw_bind (error : ε) : transfer.Carried (throw error >>= next) (throw error >>= next') rename' :=
  fun _ _ offers => .some (Except.map rename') offers

theorem carried_settle (rename : α → α) (result : Except ε α) :
    transfer.Carried (Attempt.settle result) (Attempt.settle (result.map rename)) rename :=
  fun _ _ offers => .some (Except.map rename) offers

theorem fixed_settle (result : Except ε α) : transfer.Fixed (Attempt.settle result) := by
  cases result with
  | ok value => exact carried_settle id (.ok value)
  | error error => exact carried_settle id (.error error)

theorem carried_ask {request request' : BridgeRequest α} (keeps : request.KeepsOffer)
    (same : ∀ scene, (transfer.scene scene).answer request' = Prod.map rename transfer.scene (scene.answer request)) :
    transfer.Carried (Attempt.ask request : Attempt ε α) (Attempt.ask request') rename := by
  intro site scene offers
  rw [Attempt.exec_ask, Attempt.exec_ask, same]
  exact .some (Except.map rename) (offers.answer keeps)

theorem fixed_ask {request : BridgeRequest α} (common : request.IsCommon) :
    transfer.Fixed (Attempt.ask request : Attempt ε α) :=
  carried_ask common.keepsOffer (answer_common common)

theorem Carried.observe (carried : transfer.Carried attempt attempt' rename) :
    transfer.Carried (Attempt.observe attempt : Attempt δ (Except ε α)) (Attempt.observe attempt') (Except.map rename) := by
  intro site scene offers
  rw [Attempt.exec_observe, Attempt.exec_observe, Option.map_eq_bind, Option.map_eq_bind]
  exact (carried site scene offers).bind fun result after offers => .some (Except.map (Except.map rename)) offers

theorem Carried.mapError (carried : transfer.Carried attempt attempt' rename) (change : ε → δ) :
    transfer.Carried (attempt.mapError change) (attempt'.mapError change) rename := by
  intro site scene offers
  rw [Attempt.exec_mapError, Attempt.exec_mapError, Option.map_eq_bind, Option.map_eq_bind]
  refine (carried site scene offers).bind fun result after offers => ?_
  cases result <;> exact .some (Except.map rename) offers

end Rules

/-! ### Rules for programs -/

theorem FixedProgram.bind {program : Program BridgeRequest α} {next : α → Program BridgeRequest β}
    (first : transfer.FixedProgram program) (second : ∀ value, transfer.FixedProgram (next value)) :
    transfer.FixedProgram (program >>= next) := by
  intro scene offers
  rw [interpret_bind, interpret_bind]
  exact (first scene offers).bind fun value after offers => second value after offers

theorem fixedProgram_pure (value : α) : transfer.FixedProgram (pure value) :=
  fun _ offers => .some id offers

theorem fixedProgram_request {request : BridgeRequest β} {next : β → Program BridgeRequest α}
    (common : request.IsCommon) (rest : ∀ answer, transfer.FixedProgram (next answer)) :
    transfer.FixedProgram (.request request next) := by
  intro scene offers
  rw [interpret, interpret, answer_common common]
  exact rest _ _ (offers.answer common.keepsOffer)

theorem fixedProgram_run {task : Task} {next : Outcome → Program BridgeRequest α}
    (rest : ∀ outcome, transfer.FixedProgram (next outcome)) : transfer.FixedProgram (.run task next) := by
  intro scene offers
  rw [interpret_run, interpret_run]
  exact (transfer.task task scene offers).bind fun outcome after offers => rest outcome after offers

/-- What is called is looked up first, and every native function is one that scripts are offered. -/
theorem fixedProgram_function {place : FunctionRef} {next : Option FunctionObject → Program BridgeRequest α}
    (rest : ∀ found, (∀ native, found = some (.native native) → ∃ function, native = .ofApi function) →
      transfer.FixedProgram (next found)) :
    transfer.FixedProgram (Program.request (BridgeRequest.function place) Program.pure >>= next) :=
  fun scene offers => rest _ (fun native known => offers place.index native known) scene offers

/-- Evaluations do not see what differs between the sides, since it is outside of the heap. -/
theorem fixedProgram_ofEval (computation : Eval α) : transfer.FixedProgram (ofEval computation) := by
  suffices ∀ {γ : Type} (program : Program HeapRequest γ),
      transfer.FixedProgram (program.lift fun request => BridgeRequest.heap request) from this _
  intro γ program
  induction program with
  | pure value => exact fixedProgram_pure value
  | request operation next ih => exact fixedProgram_request trivial ih
  | run task next ih => exact fixedProgram_run ih

theorem fixed_evaluate (computation : Site → Eval α) :
    transfer.Fixed (Attempt.evaluate computation : Attempt ε (Except Raw α)) := by
  intro site scene offers
  rw [Attempt.exec_evaluate, Attempt.exec_evaluate, Option.map_eq_bind, Option.map_eq_bind]
  exact (fixedProgram_ofEval _ scene offers).bind fun result after offers => .some (Except.map id) offers

theorem fixed_call (callee : Raw) (arguments : List Raw) :
    transfer.Fixed (Attempt.call callee arguments : Attempt ε Outcome) := by
  intro site scene offers
  rw [Attempt.exec_call, Attempt.exec_call, Option.map_eq_bind, Option.map_eq_bind]
  exact (transfer.task _ scene offers).bind fun result after offers => .some (Except.map id) offers

end Transfer
end TileScript.Bridge
