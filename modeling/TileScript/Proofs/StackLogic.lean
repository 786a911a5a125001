import TileScript.Proofs.StackRuns

/-! Assertions about what an attempt leaves on the value stack, whatever it comes to. They are made
beside an invariant and a growth relation that every task keeps, so that one set of rules serves
every property of whole runs. -/

namespace TileScript.Bridge
open Script

/-- Requests that leave the stack as it is. -/
def BridgeRequest.SparesStack {α : Type} : BridgeRequest α → Prop
  | .setStack _ => False
  | _ => True

/-- Requests that besides make no native function, release no value and change no configuration. -/
def BridgeRequest.IsQuiet {α : Type} : BridgeRequest α → Prop
  | .setStack _ | .newNative _ | .release _ | .change _ => False
  | _ => True

theorem BridgeRequest.IsQuiet.sparesStack {α : Type} {request : BridgeRequest α} (quiet : request.IsQuiet) :
    request.SparesStack := by
  cases request <;> trivial

theorem Scene.stack_answer {α : Type} (scene : Scene) {request : BridgeRequest α}
    (spares : request.SparesStack) : (scene.answer request).2.stack = scene.stack := by
  cases request <;> first | rfl | cases spares

/-- An invariant of scenes with a relation in which they grow. Quiet requests keep it by themselves. -/
structure Custody where
  holds : Scene → Prop
  grows : Scene → Scene → Prop
  refl : ∀ scene, grows scene scene
  trans : ∀ {first second third}, grows first second → grows second third → grows first third
  quiet : ∀ {α : Type} (request : BridgeRequest α) (scene : Scene), request.IsQuiet →
    holds scene → holds (scene.answer request).2 ∧ grows scene (scene.answer request).2
  staged : ∀ (scene : Scene) (stack : List Raw),
    holds scene → holds (scene.setStack stack) ∧ grows scene (scene.setStack stack)

/-- What is known of every task: it keeps the invariant, and the stack as it was. -/
structure StackLogic extends Custody where
  runner : Runner
  task : ∀ {task scene outcome after}, holds scene → runner task scene = some (outcome, after) →
    (holds after ∧ grows scene after) ∧ after.stack = scene.stack

namespace StackLogic

variable (logic : StackLogic) {α β ε δ : Type}

/-- A later scene in which everything is kept but, possibly, the stack. -/
def Keeps (before after : Scene) : Prop := logic.holds after ∧ logic.grows before after

variable {logic}

theorem Keeps.refl {scene : Scene} (holds : logic.holds scene) : logic.Keeps scene scene :=
  ⟨holds, logic.refl scene⟩

theorem Keeps.trans {first second third : Scene} (early : logic.Keeps first second)
    (late : logic.Keeps second third) : logic.Keeps first third :=
  ⟨late.1, logic.trans early.2 late.2⟩

variable (logic)

/-- Whatever an attempt comes to, the stacks before and after it are related. -/
def Leaves (attempt : Attempt ε α) (post : List Raw → Except ε α → List Raw → Prop) : Prop :=
  ∀ site scene result after, logic.holds scene →
    attempt.exec logic.runner site scene = some (result, after) →
    logic.Keeps scene after ∧ post scene.stack result after.stack

/-- Whatever an attempt comes to, the stack is what it was. -/
def Neutral (attempt : Attempt ε α) : Prop := logic.Leaves attempt fun before _ after => after = before

/-- A program that keeps what is kept, and gives the stack back as it was. -/
def NeutralProgram (program : Program BridgeRequest α) : Prop :=
  ∀ scene value after, logic.holds scene → interpret logic.runner program scene = some (value, after) →
    logic.Keeps scene after ∧ after.stack = scene.stack

/-- A request that everything survives. -/
def Permits (request : BridgeRequest α) : Prop :=
  ∀ scene, logic.holds scene → logic.Keeps scene (scene.answer request).2

variable {logic}

theorem permits_quiet {request : BridgeRequest α} (quiet : request.IsQuiet) : logic.Permits request :=
  fun scene holds => logic.quiet request scene quiet holds

/-! ### Rules for attempts -/

section Rules

variable {attempt : Attempt ε α} {next : α → Attempt ε β} {post : List Raw → Except ε α → List Raw → Prop}
  {whole : List Raw → Except ε β → List Raw → Prop}

theorem Leaves.weaken {other : List Raw → Except ε α → List Raw → Prop} (leaves : logic.Leaves attempt post)
    (implies : ∀ {before result after}, post before result after → other before result after) :
    logic.Leaves attempt other := fun site scene result after holds ran =>
  have ⟨kept, left⟩ := leaves site scene result after holds ran
  ⟨kept, implies left⟩

theorem Leaves.bind {rest : α → List Raw → Except ε β → List Raw → Prop}
    (first : logic.Leaves attempt post) (second : ∀ value, logic.Leaves (next value) (rest value))
    (returned : ∀ {before value middle result after}, post before (.ok value) middle →
      rest value middle result after → whole before result after)
    (failed : ∀ {before error after}, post before (.error error) after → whole before (.error error) after) :
    logic.Leaves (attempt >>= next) whole := by
  intro site scene result after holds ran
  rw [Attempt.exec_bind, Option.bind_eq_some_iff] at ran
  obtain ⟨⟨middle, between⟩, early, late⟩ := ran
  obtain ⟨kept, between_post⟩ := first site scene middle between holds early
  cases middle with
  | ok value =>
    obtain ⟨later, final_post⟩ := second value site between result after kept.1 late
    exact ⟨kept.trans later, returned between_post final_post⟩
  | error error =>
    cases late
    exact ⟨kept, failed between_post⟩

/-- The rest is known to go on from where the first part got. -/
theorem Leaves.follow (first : logic.Leaves attempt post)
    (second : ∀ value, logic.Leaves (next value) fun middle result after =>
      ∀ before, post before (.ok value) middle → whole before result after)
    (failed : ∀ {before error after}, post before (.error error) after → whole before (.error error) after) :
    logic.Leaves (attempt >>= next) whole :=
  first.bind second (fun early late => late _ early) failed

theorem Neutral.bind (first : logic.Neutral attempt) (second : ∀ value, logic.Neutral (next value)) :
    logic.Neutral (attempt >>= next) :=
  Leaves.bind first second (fun early late => late.trans early) id

/-- What comes first leaves the stack alone, so the rest alone decides. -/
theorem Neutral.before {rest : List Raw → Except ε β → List Raw → Prop} (first : logic.Neutral attempt)
    (second : ∀ value, logic.Leaves (next value) rest)
    (failed : ∀ {before error}, rest before (.error error) before) : logic.Leaves (attempt >>= next) rest :=
  Leaves.bind first second (fun early late => early ▸ late) (fun early => early ▸ failed)

theorem leaves_pure {value : α} (returned : ∀ before, post before (.ok value) before) :
    logic.Leaves (pure value) post := by
  intro site scene result after holds ran
  cases ran
  exact ⟨.refl holds, returned scene.stack⟩

theorem leaves_throw {error : ε} (failed : ∀ before, post before (.error error) before) :
    logic.Leaves (throw error) post := by
  intro site scene result after holds ran
  cases ran
  exact ⟨.refl holds, failed scene.stack⟩

/-- What stands behind a failure is not reached. -/
theorem leaves_throw_bind {error : ε} (failed : ∀ before, whole before (.error error) before) :
    logic.Leaves (throw error >>= next) whole :=
  leaves_throw failed

theorem neutral_pure (value : α) : logic.Neutral (pure value : Attempt ε α) := leaves_pure fun _ => rfl

theorem neutral_throw (error : ε) : logic.Neutral (throw error : Attempt ε α) := leaves_throw fun _ => rfl

theorem neutral_settle (result : Except ε α) : logic.Neutral (Attempt.settle result) := by
  intro site scene result after holds ran
  cases ran
  exact ⟨.refl holds, rfl⟩

theorem neutral_ask {request : BridgeRequest α} (permitted : logic.Permits request)
    (spares : request.SparesStack) : logic.Neutral (Attempt.ask request : Attempt ε α) := by
  intro site scene result after holds ran
  cases ran
  exact ⟨permitted scene holds, scene.stack_answer spares⟩

theorem neutral_quiet {request : BridgeRequest α} (quiet : request.IsQuiet) :
    logic.Neutral (Attempt.ask request : Attempt ε α) :=
  neutral_ask (permits_quiet quiet) quiet.sparesStack

/-- A request is always answered, so the rest alone decides. -/
theorem leaves_ask {request : BridgeRequest α} (permitted : logic.Permits request) (spares : request.SparesStack)
    (rest : ∀ answer, logic.Leaves (next answer) whole) : logic.Leaves (Attempt.ask request >>= next) whole := by
  intro site scene result after holds ran
  rw [Attempt.exec_bind, Attempt.exec_ask] at ran
  have kept := permitted scene holds
  obtain ⟨later, left⟩ := rest _ site _ result after kept.1 ran
  exact ⟨kept.trans later, scene.stack_answer spares ▸ left⟩

theorem Leaves.observe (leaves : logic.Leaves attempt post) :
    logic.Leaves (Attempt.observe attempt : Attempt δ (Except ε α))
      fun before result after => ∃ observed, result = .ok observed ∧ post before observed after := by
  intro site scene result after holds ran
  rw [Attempt.exec_observe, Option.map_eq_some_iff] at ran
  obtain ⟨⟨observed, final⟩, ran, rfl, rfl⟩ := ran
  obtain ⟨kept, left⟩ := leaves site scene observed _ holds ran
  exact ⟨kept, observed, rfl, left⟩

/-- What goes on after an attempt, whichever way that went. -/
theorem Leaves.handle {next : Except ε α → Attempt δ β} {whole : List Raw → Except δ β → List Raw → Prop}
    (leaves : logic.Leaves attempt post)
    (rest : ∀ observed, logic.Leaves (next observed) fun middle result after =>
      ∀ before, post before observed middle → whole before result after) :
    logic.Leaves (Attempt.observe attempt >>= next) whole := by
  refine leaves.observe.follow (fun observed => (rest observed).weaken ?_) ?_
  · rintro middle result after later before ⟨_, ⟨⟩, left⟩
    exact later before left
  · rintro before error after ⟨_, ⟨⟩, -⟩

theorem Neutral.observe (neutral : logic.Neutral attempt) :
    logic.Neutral (Attempt.observe attempt : Attempt δ (Except ε α)) :=
  Leaves.weaken (Leaves.observe neutral) fun ⟨_, _, same⟩ => same

theorem Leaves.mapError {change : ε → δ} {whole : List Raw → Except δ α → List Raw → Prop}
    (leaves : logic.Leaves attempt post)
    (implies : ∀ {before result after}, post before result after → whole before (result.mapError change) after) :
    logic.Leaves (attempt.mapError change) whole := by
  intro site scene result after holds ran
  rw [Attempt.exec_mapError, Option.map_eq_some_iff] at ran
  obtain ⟨⟨observed, final⟩, ran, rfl, rfl⟩ := ran
  obtain ⟨kept, left⟩ := leaves site scene observed _ holds ran
  exact ⟨kept, implies left⟩

theorem Neutral.mapError (neutral : logic.Neutral attempt) (change : ε → δ) :
    logic.Neutral (attempt.mapError change) := Leaves.mapError neutral id

/-- A condition that has to be met before the rest. -/
theorem Neutral.unless {condition : Prop} [Decidable condition] {error : ε} {next : Unit → Attempt ε α}
    (rest : logic.Neutral (next ())) :
    logic.Neutral (if condition then throw error >>= next else next ()) := by
  split
  · exact leaves_throw_bind fun _ => rfl
  · exact rest

end Rules

/-! ### Rules for programs -/

theorem NeutralProgram.bind {program : Program BridgeRequest α} {next : α → Program BridgeRequest β}
    (first : logic.NeutralProgram program) (second : ∀ value, logic.NeutralProgram (next value)) :
    logic.NeutralProgram (program >>= next) := by
  intro scene value after holds ran
  rw [interpret_bind, Option.bind_eq_some_iff] at ran
  obtain ⟨⟨middle, between⟩, early, late⟩ := ran
  obtain ⟨kept, same⟩ := first scene middle between holds early
  obtain ⟨later, still⟩ := second middle between value after kept.1 late
  exact ⟨kept.trans later, still.trans same⟩

theorem neutralProgram_pure (value : α) : logic.NeutralProgram (pure value) := by
  intro scene result after holds ran
  cases ran
  exact ⟨.refl holds, rfl⟩

theorem neutralProgram_request {request : BridgeRequest β} {next : β → Program BridgeRequest α}
    (permitted : logic.Permits request) (spares : request.SparesStack)
    (rest : ∀ answer, logic.NeutralProgram (next answer)) : logic.NeutralProgram (.request request next) := by
  intro scene value after holds ran
  have kept := permitted scene holds
  obtain ⟨later, same⟩ := rest _ _ value after kept.1 ran
  exact ⟨kept.trans later, same.trans (scene.stack_answer spares)⟩

theorem neutralProgram_run {task : Task} {next : Outcome → Program BridgeRequest α}
    (rest : ∀ outcome, logic.NeutralProgram (next outcome)) : logic.NeutralProgram (.run task next) := by
  intro scene value after holds ran
  rw [interpret] at ran
  split at ran
  · cases ran
  next outcome between performed =>
    obtain ⟨kept, same⟩ : logic.Keeps scene between ∧ _ := logic.task holds performed
    obtain ⟨later, still⟩ := rest outcome between value after kept.1 ran
    exact ⟨kept.trans later, still.trans same⟩

/-- What is called is looked up first. -/
theorem neutralProgram_function {place : FunctionRef} {next : Option FunctionObject → Program BridgeRequest α}
    (rest : ∀ found, (∃ scene, logic.holds scene ∧ scene.interpreter.heap.functions[place.index]? = found) →
      logic.NeutralProgram (next found)) :
    logic.NeutralProgram (Program.request (BridgeRequest.function place) Program.pure >>= next) := by
  intro scene value after holds ran
  exact rest _ ⟨scene, holds, rfl⟩ scene value after holds ran

/-- The evaluator of scripts reaches the heap alone. -/
theorem neutralProgram_ofEval (computation : Eval α) : logic.NeutralProgram (ofEval computation) := by
  suffices ∀ {γ : Type} (program : Program HeapRequest γ),
      logic.NeutralProgram (program.lift fun request => BridgeRequest.heap request) from this _
  intro γ program
  induction program with
  | pure value => exact neutralProgram_pure value
  | request operation next ih => exact neutralProgram_request (permits_quiet trivial) trivial ih
  | run task next ih => exact neutralProgram_run ih

theorem Neutral.program {attempt : Attempt ε α} (neutral : logic.Neutral attempt) (site : Site) :
    logic.NeutralProgram (attempt site).run := fun scene result after holds ran =>
  neutral site scene result after holds ran

theorem neutral_of_program {attempt : Attempt ε α} (program : ∀ site, logic.NeutralProgram (attempt site).run) :
    logic.Neutral attempt :=
  fun site scene result after holds ran => program site scene result after holds ran

theorem neutral_evaluate (computation : Site → Eval α) :
    logic.Neutral (Attempt.evaluate computation : Attempt ε (Except Raw α)) :=
  neutral_of_program fun _ => (neutralProgram_ofEval _).bind fun _ => neutralProgram_pure _

/-! ### Rules for what is returned -/

/-- What scenes do not lose when they grow. -/
def Stable (logic : StackLogic) (assertion : Scene → Prop) : Prop :=
  ∀ {before after}, logic.grows before after → assertion before → assertion after

/-- Started where `pre` holds, an attempt is neutral, and what it returns is `good`. -/
def Gives (logic : StackLogic) (pre : Scene → Prop) (attempt : Attempt ε α) (good : α → Scene → Prop) : Prop :=
  ∀ site scene result after, logic.holds scene → pre scene →
    attempt.exec logic.runner site scene = some (result, after) →
    (logic.Keeps scene after ∧ after.stack = scene.stack) ∧ ∀ value, result = .ok value → good value after

/-- Started where `pre` holds, an attempt is neutral. -/
def NeutralWhen (logic : StackLogic) (pre : Scene → Prop) (attempt : Attempt ε α) : Prop :=
  logic.Gives pre attempt fun _ _ => True

section Values

variable {attempt : Attempt ε α} {next : α → Attempt ε β} {pre : Scene → Prop} {good : α → Scene → Prop}

theorem Neutral.gives (neutral : logic.Neutral attempt) (stable : logic.Stable pre) :
    logic.Gives pre attempt fun _ => pre := by
  intro site scene result after holds start ran
  have kept := neutral site scene result after holds ran
  exact ⟨kept, fun _ _ => stable kept.1.2 start⟩

theorem Gives.weaken {other : α → Scene → Prop} (gives : logic.Gives pre attempt good)
    (implies : ∀ {value scene}, good value scene → other value scene) : logic.Gives pre attempt other := by
  intro site scene result after holds start ran
  obtain ⟨kept, given⟩ := gives site scene result after holds start ran
  exact ⟨kept, fun value same => implies (given value same)⟩

theorem Gives.strengthen {less : Scene → Prop} (gives : logic.Gives less attempt good)
    (implies : ∀ {scene}, pre scene → less scene) : logic.Gives pre attempt good :=
  fun site scene result after holds start ran => gives site scene result after holds (implies start) ran

theorem Gives.bind {final : β → Scene → Prop} (first : logic.Gives pre attempt good)
    (second : ∀ value, logic.Gives (good value) (next value) final) : logic.Gives pre (attempt >>= next) final := by
  intro site scene result after holds start ran
  rw [Attempt.exec_bind, Option.bind_eq_some_iff] at ran
  obtain ⟨⟨middle, between⟩, early, late⟩ := ran
  obtain ⟨⟨kept, same⟩, given⟩ := first site scene middle between holds start early
  cases middle with
  | ok value =>
    obtain ⟨⟨later, still⟩, last⟩ := second value site between result after kept.1 (given value rfl) late
    exact ⟨⟨kept.trans later, still.trans same⟩, last⟩
  | error error =>
    cases late
    exact ⟨⟨kept, same⟩, fun _ same => by cases same⟩

/-- What is known before and not lost by growth is still known afterwards. -/
theorem Gives.keep {known : Scene → Prop} (gives : logic.Gives pre attempt good) (stable : logic.Stable known) :
    logic.Gives (fun scene => known scene ∧ pre scene) attempt fun value scene => known scene ∧ good value scene := by
  intro site scene result after holds start ran
  obtain ⟨kept, given⟩ := gives site scene result after holds start.2 ran
  exact ⟨kept, fun value same => ⟨stable kept.1.2 start.1, given value same⟩⟩

theorem gives_pure {value : α} (known : ∀ {scene}, pre scene → good value scene) :
    logic.Gives pre (pure value : Attempt ε α) good := by
  intro site scene result after holds start ran
  cases ran
  refine ⟨⟨.refl holds, rfl⟩, fun _ same => ?_⟩
  cases same
  exact known start

theorem gives_throw (error : ε) : logic.Gives pre (throw error : Attempt ε α) good := by
  intro site scene result after holds start ran
  cases ran
  exact ⟨⟨.refl holds, rfl⟩, fun _ same => by cases same⟩

theorem Neutral.always (neutral : logic.Neutral attempt) : logic.NeutralWhen pre attempt := by
  intro site scene result after holds start ran
  exact ⟨neutral site scene result after holds ran, fun _ _ => trivial⟩

/-- The rest may rely on what is known of the value it goes on with. -/
theorem Gives.rest (first : logic.Gives pre attempt good) (second : ∀ value, logic.NeutralWhen (good value) (next value)) :
    logic.NeutralWhen pre (attempt >>= next) := first.bind second

theorem Gives.neutral_bind (first : logic.Gives (fun _ => True) attempt good)
    (second : ∀ value, logic.NeutralWhen (good value) (next value)) : logic.Neutral (attempt >>= next) :=
  fun site scene result after holds ran => (first.rest second site scene result after holds trivial ran).1

end Values
end StackLogic
end TileScript.Bridge
