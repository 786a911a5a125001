import TileScript.Proofs.Crossings
import TileScript.Proofs.HandleLifetime

/-! Contexts side by side. What is done in some of them goes the same whatever is in another one, and leaves that
one alone; handles are refused outside their own context, which no other context ever takes the place of. -/

namespace TileScript
open Bridge

/-! ### What is done to a world -/

/-- One thing that is done to a world. A handle is dropped by releasing its registration, which is done in its
context as well. -/
inductive Deed : Type 1 where
  | run {α : Type} (context : ContextId) (act : Act α) (runtime : Runtime)
  | openContext
  | closeContext (context : ContextId)
  | manage (change : Manager → Manager)

namespace Deed

def Answer : Deed → Type
  | @run α _ _ _ => Except Error α
  | openContext => ContextId
  | closeContext _ | manage _ => Unit

def exec : (deed : Deed) → World → Option (deed.Answer × World)
  | run context act runtime, world => world.run context act runtime
  | openContext, world => some world.openContext
  | closeContext context, world => some ((), world.closeContext context)
  | manage change, world => some ((), { world with manager := change world.manager })

/-- That a context is neither used nor closed. -/
def IsOutside (context : ContextId) : Deed → Prop
  | run other _ _ | closeContext other => other ≠ context
  | openContext | manage _ => True

end Deed

namespace World

/-- Does one thing after the other, and gives back what came of each of them. -/
def through (world : World) : List Deed → Option (List (Σ deed : Deed, deed.Answer) × World)
  | [] => some ([], world)
  | deed :: rest =>
    (deed.exec world).bind fun (answer, between) =>
      (between.through rest).map fun (answers, after) => (⟨deed, answer⟩ :: answers, after)

/-- The same world with something else in a context, or with the context closed. -/
def replace (world : World) (context : ContextId) (content : Option Interpreter) : World :=
  { world with contexts := world.contexts.setIfInBounds context.index content }

variable {world after : World} {context other : ContextId} {content : Option Interpreter}

theorem index_ne (apart : other ≠ context) : context.index ≠ other.index := fun same =>
  apart (congrArg ContextId.mk same.symm)

theorem interpreter?_replace_of_ne (apart : other ≠ context) :
    (world.replace context content).interpreter? other = world.interpreter? other := by
  rw [interpreter?, replace, Array.getElem?_setIfInBounds_ne (index_ne apart), interpreter?]

theorem interpreter?_replace_self (inside : context.index < world.contexts.size) :
    (world.replace context content).interpreter? context = content := by
  rw [interpreter?, replace, Array.getElem?_setIfInBounds_self_of_lt inside]
  rfl

theorem replace_interpreter? (inside : context.index < world.contexts.size) :
    world.replace context (world.interpreter? context) = world := by
  have same : world.contexts.setIfInBounds context.index (world.interpreter? context) = world.contexts := by
    rw [interpreter?, Array.getElem?_eq_getElem inside, Array.setIfInBounds_def, dif_pos inside]
    exact Array.set_getElem_self inside
  exact congrArg (World.mk · world.manager world.trace) same

theorem leave_replace (apart : other ≠ context) (scene : Scene) :
    (world.replace context content).leave other scene = (world.leave other scene).replace context content :=
  congrArg (World.mk · scene.manager scene.trace) (Array.setIfInBounds_comm _ _ (index_ne apart))

theorem closeContext_replace (apart : other ≠ context) :
    (world.replace context content).closeContext other = (world.closeContext other).replace context content :=
  congrArg (World.mk · world.manager world.trace) (Array.setIfInBounds_comm _ _ (index_ne apart))

theorem openContext_replace (inside : context.index < world.contexts.size) :
    (world.replace context content).openContext = Prod.map id (·.replace context content) world.openContext := by
  have size : (world.contexts.setIfInBounds context.index content).size = world.contexts.size := Array.size_setIfInBounds
  have pushed : (world.contexts.setIfInBounds context.index content).push (some .initial) =
      (world.contexts.push (some .initial)).setIfInBounds context.index content := by
    have still : context.index < (world.contexts.push (some .initial)).size := by
      rw [Array.size_push]
      exact Nat.lt_succ_of_lt inside
    rw [Array.setIfInBounds_def, Array.setIfInBounds_def, dif_pos inside, dif_pos still, Array.set_push, dif_pos inside]
  exact Prod.ext (congrArg ContextId.mk size) (congrArg (World.mk · world.manager world.trace) pushed)

/-- A run does not depend on what other contexts hold, and leaves it there. -/
theorem run_replace {α : Type} (apart : other ≠ context) (act : Act α) (runtime : Runtime) :
    (world.replace context content).run other act runtime =
      (world.run other act runtime).map (Prod.map id (·.replace context content)) := by
  cases known : world.interpreter? other with
  | none =>
    rw [run_closed known, run_closed ((interpreter?_replace_of_ne apart).trans known)]
    rfl
  | some interpreter =>
    rw [run_open known, run_open ((interpreter?_replace_of_ne apart).trans known), Option.map_map]
    change ((act.exec runtime.perform .host (world.scene other interpreter)).map _) = _
    congr 1
    funext ⟨result, scene⟩
    exact congrArg (Prod.mk result) (leave_replace apart scene)

end World

namespace Deed

variable {world after : World} {context : ContextId} {deed : Deed}

theorem exec_replace (outside : deed.IsOutside context) (inside : context.index < world.contexts.size)
    (content : Option Interpreter) : deed.exec (world.replace context content) =
      (deed.exec world).map (Prod.map id (·.replace context content)) := by
  cases deed with
  | run other act runtime => exact World.run_replace outside act runtime
  | openContext => exact congrArg some (World.openContext_replace inside)
  | closeContext other => exact congrArg (fun left => some ((), left)) (World.closeContext_replace outside)
  | manage change => rfl

theorem exec_follows {answer : deed.Answer} (ran : deed.exec world = some (answer, after)) :
    world.Follows (fun _ _ => True) after := by
  cases deed with
  | run context act runtime =>
    obtain ⟨-, -, rfl⟩ | ⟨interpreter, scene, known, -, rfl⟩ := World.run_cases ran
    · exact .of_same (fun _ => trivial) rfl
    · exact World.follows_leave (fun _ => trivial) known scene trivial
  | openContext =>
    cases ran
    exact world.follows_openContext.weaken fun _ => trivial
  | closeContext context =>
    cases ran
    exact (world.follows_closeContext context).weaken fun _ => trivial
  | manage change =>
    cases ran
    exact .of_same (fun _ => trivial) rfl

end Deed

namespace World

variable {world after : World} {context : ContextId} {deeds : List Deed} {answers : List (Σ deed : Deed, deed.Answer)}

theorem through_follows (ran : world.through deeds = some (answers, after)) : world.Follows (fun _ _ => True) after := by
  induction deeds generalizing world answers with
  | nil =>
    cases ran
    exact .of_same (fun _ => trivial) rfl
  | cons deed rest ih =>
    rw [through, Option.bind_eq_some_iff] at ran
    obtain ⟨⟨answer, between⟩, first, ran⟩ := ran
    rw [Option.map_eq_some_iff] at ran
    obtain ⟨⟨others, last⟩, ran, ⟨⟩⟩ := ran
    exact (Deed.exec_follows first).trans (fun _ _ => trivial) (ih ran)

/-- Whatever is in a context, all that is done outside of it goes the same. -/
theorem through_replace (outside : ∀ deed ∈ deeds, deed.IsOutside context) (inside : context.index < world.contexts.size)
    (content : Option Interpreter) : (world.replace context content).through deeds =
      (world.through deeds).map (Prod.map id (·.replace context content)) := by
  induction deeds generalizing world with
  | nil => rfl
  | cons deed rest ih =>
    rw [through, through, Deed.exec_replace (outside deed List.mem_cons_self) inside]
    cases ran : deed.exec world with
    | none => rfl
    | some pair =>
      obtain ⟨answer, between⟩ := pair
      -- The number of the context stays one that was given out, so that its content can be replaced later as well.
      have still : context.index < between.contexts.size := Nat.lt_of_lt_of_le inside (Deed.exec_follows ran).size
      have later := ih (fun deed listed => outside deed (List.mem_cons_of_mem _ listed)) still
      change ((between.replace context content).through rest).map _ = ((between.through rest).map _).map _
      rw [later, Option.map_map, Option.map_map]
      rfl

theorem through_interpreter? (outside : ∀ deed ∈ deeds, deed.IsOutside context) (inside : context.index < world.contexts.size)
    (ran : world.through deeds = some (answers, after)) : after.interpreter? context = world.interpreter? context := by
  have same := through_replace outside inside (world.interpreter? context)
  rw [replace_interpreter? inside, ran] at same
  have left : after = after.replace context (world.interpreter? context) := congrArg Prod.snd (Option.some.inj same)
  rw [left, interpreter?_replace_self (Nat.lt_of_lt_of_le inside (through_follows ran).size)]

/-- Nothing that is opened later gets the number of a context that was there, and what is closed stays closed. -/
theorem through_numbers (ran : world.through deeds = some (answers, after)) (old : context.index < world.contexts.size) :
    after.openContext.1 ≠ context ∧ (world.interpreter? context = none → after.interpreter? context = none) := by
  have follows := through_follows ran
  refine ⟨fun same => ?_, follows.closed context old⟩
  have index : after.contexts.size = context.index := congrArg ContextId.index same
  exact Nat.not_lt.mpr follows.size (index ▸ old)

theorem through_append {first second : List Deed} {between : World} {early late : List (Σ deed : Deed, deed.Answer)}
    (before : world.through first = some (early, between)) (later : between.through second = some (late, after)) :
    world.through (first ++ second) = some (early ++ late, after) := by
  induction first generalizing world early with
  | nil =>
    cases before
    exact later
  | cons deed rest ih =>
    rw [through, Option.bind_eq_some_iff] at before
    obtain ⟨⟨answer, middle⟩, done, before⟩ := before
    rw [Option.map_eq_some_iff] at before
    obtain ⟨⟨others, _⟩, before, ⟨⟩⟩ := before
    rw [List.cons_append, through, done, Option.bind_some]
    change (middle.through (rest ++ second)).map _ = _
    rw [ih before]
    rfl

theorem through_one {deed : Deed} {answer : deed.Answer} (done : deed.exec world = some (answer, after)) :
    world.through [deed] = some ([⟨deed, answer⟩], after) := by
  rw [through, done]
  rfl

end World

namespace Live

/-- Worlds that come of one another by deeds. -/
def deeds (runtime : Runtime) : Continuity where
  runtime := runtime
  kept before after := ∃ done answers, before.through done = some (answers, after)
  refl _ := ⟨[], [], rfl⟩
  trans := by
    rintro _ _ _ ⟨_, _, early⟩ ⟨_, _, late⟩
    exact ⟨_, _, World.through_append early late⟩
  execute _ command env := ⟨[.manage (·.execute command env)], _, World.through_one rfl⟩

variable {α : Type} {runtime : Runtime}

theorem deeds_within (context : ContextId) (act : Act α) : (deeds runtime).Keeps (within context act) :=
  fun _ _ _ ran => ⟨[.run context act runtime], _, World.through_one ran⟩

theorem deeds_manage (change : Manager → Manager) :
    (deeds runtime).Keeps (modify fun world => { world with manager := change world.manager } : Live Unit) := by
  intro world result after ran
  cases ran
  exact ⟨[.manage change], _, World.through_one rfl⟩

theorem deeds_openContext : (deeds runtime).Keeps openContext := by
  intro world result after ran
  cases ran
  exact ⟨[.openContext], _, World.through_one rfl⟩

theorem deeds_closeContext (context : ContextId) : (deeds runtime).Keeps (closeContext context) := by
  refine (deeds_within context Act.finish).observe.bind fun _ => ?_
  intro world result after ran
  cases ran
  exact ⟨[.closeContext context], _, World.through_one rfl⟩

theorem deeds_initFile (engine : Engine) (file : ScriptFile) : (deeds runtime).Keeps (engine.runInitFile file) := by
  cases file with
  | missing => exact Continuity.keeps_pure ()
  | directory | unreadable _ | bytes _ => exact deeds_within _ _

theorem deeds_use (use : Use α) : (deeds runtime).Keeps use.live :=
  Continuity.keeps_use (fun context operation => deeds_within context operation.act) (fun _ _ => deeds_within _ _)
    deeds_initFile use

theorem deeds_create (initPath : String) : (deeds runtime).Keeps (Engine.create initPath) :=
  deeds_openContext.bind fun _ => (deeds_within _ _).bind fun _ => Continuity.keeps_pure _

theorem deeds_reload (engine : Engine) (file : ScriptFile) : (deeds runtime).Keeps (engine.reload file) :=
  (deeds_manage fun manager => { manager with config := .initial }).bind fun _ => (deeds_closeContext _).bind fun _ =>
    (deeds_create engine.initPath).bind fun renewed => (deeds_manage fun manager => manager.activate Config.mainMode).bind
      fun _ => (deeds_initFile renewed file).observe.bind fun _ => Continuity.keeps_pure _

end Live

/-- No clone of what the host holds has been dropped too early. -/
theorem Holdings.Reachable.remembers {holdings : Holdings} (reachable : holdings.Reachable) {value : Value}
    (owned : value ∈ holdings.held) {context : ContextId} {interpreter : Interpreter}
    (known : holdings.world.interpreter? context = some interpreter) :
    (holdings.world.scene context interpreter).Remembers value := by
  intro handle is here
  have here : handle.context = context := here
  subst here
  obtain ⟨raw, object⟩ := Value.object?_of_handle is
  have found := reachable.isGood.resolves value owned handle is (World.isOpen_iff.mpr ⟨interpreter, known⟩)
  rw [object, World.object?, known] at found
  exact Option.ne_none_iff_exists'.mpr ⟨raw, found⟩

theorem Holdings.Reachable.refused {holdings : Holdings} (reachable : holdings.Reachable) {context : ContextId}
    (here : holdings.world.isOpen context = true) {α : Type} (handover : Handover α)
    (owned : ∀ value ∈ handover.handed, value ∈ holdings.held) (crossing : ∃ value ∈ handover.handed, value.IsForeign context)
    (runtime : Runtime) : holdings.world.run context handover.act runtime = some (.error .foreign, holdings.world) := by
  obtain ⟨interpreter, known⟩ := World.isOpen_iff.mp here
  rw [World.run_open known, handover.refused (fun value listed => reachable.remembers (owned value listed) known) crossing]
  exact congrArg (fun world => some (Except.error Error.foreign, world)) (World.leave_scene known)

/-- No object of a context gets into another one. Whatever is handed over is refused there if one of the values is a
foreign handle, inside native functions as well, and what is let in is an object that the context has registered
itself. A native function that gives back a foreign handle raises. So what is in a context makes no difference to
all that is done outside of it, and stays as it is; and its number is never given to another one. -/
theorem context_isolation :
    (∀ (scene : Scene) {α : Type} (handover : Handover α), (∀ value ∈ handover.handed, scene.Remembers value) →
      (∃ value ∈ handover.handed, value.IsForeign scene.context) → ∀ (runner : Runner) (site : Script.Site),
        handover.act.exec runner site scene = some (.error .foreign, scene)) ∧
    (∀ holdings : Holdings, holdings.Reachable → ∀ context, holdings.world.isOpen context = true →
      ∀ {α : Type} (handover : Handover α), (∀ value ∈ handover.handed, value ∈ holdings.held) →
        (∃ value ∈ handover.handed, value.IsForeign context) → ∀ runtime : Runtime,
          holdings.world.run context handover.act runtime = some (.error .foreign, holdings.world)) ∧
    (∀ holdings : Holdings, holdings.Reachable → ∀ value ∈ holdings.held, ∀ handle, value.handle? = some handle →
      value.IsForeign holdings.world.openContext.1) ∧
    (∀ (scene : Scene) value raw, scene.rawOf value = .ok raw →
      (∃ handle, value.handle? = some handle ∧ handle.context = scene.context ∧
        scene.registered handle.pin.registration = some raw) ∨
      value.handle? = none ∧ (∀ table, raw ≠ .table table) ∧ ∀ function, raw ≠ .function function) ∧
    (∀ (code : HostCode) budget (site : Script.Site) (scene checked finished : Scene) (place : Script.FunctionRef)
      (native : Native) (arguments : Arguments) (result : CallResult) values, site.nesting < Script.Site.maxNesting →
      scene.interpreter.heap.functions[place.index]? = some (.native native) →
      (native.receive arguments).exec (perform code budget) (site.enter arguments.length) scene = some (.ok (), checked) →
      (native.body.run code arguments).exec (perform code budget) (site.enter arguments.length) checked =
        some (.ok result, finished) →
      result.values = .ok values → (∀ value ∈ values, finished.Remembers value) →
      (∃ value ∈ values, value.IsForeign finished.context) →
      perform code (budget + 1) (.call (.function place) arguments site) scene =
        evaluation (perform code budget) ((site.enter arguments.length).raise (.failure
          (native.name ++ ": " ++ "handle belongs to a different Lua context") finished.interpreter.heap.numbers))
          (finished.answer (.heap .newNumber)).2 ∧
      ∀ outcome after, perform code (budget + 1) (.call (.function place) arguments site) scene = some (outcome, after) →
        ∃ told, outcome = .error told) ∧
    (∀ (world : World) (context : ContextId) (deeds : List Deed), context.index < world.contexts.size →
      (∀ deed ∈ deeds, deed.IsOutside context) →
      (∀ content, (world.replace context content).through deeds =
        (world.through deeds).map (Prod.map id (·.replace context content))) ∧
      ∀ answers after, world.through deeds = some (answers, after) → after.interpreter? context = world.interpreter? context) ∧
    (∀ (world after : World) deeds answers, world.through deeds = some (answers, after) → ∀ context : ContextId,
      context.index < world.contexts.size →
        after.openContext.1 ≠ context ∧ (world.interpreter? context = none → after.interpreter? context = none)) ∧
    (∀ (engine renewed : Engine) file (runtime : Runtime) (world after : World) outcome,
      engine.context.index < world.contexts.size →
      (engine.reload file).exec runtime world = some (.ok (renewed, outcome), after) →
      after.interpreter? engine.context = none ∧ ∀ value handle, Value.handle? value = some handle →
        handle.context.index < world.contexts.size → value.IsForeign renewed.context) ∧
    (∀ {α : Type} (use : Use α) (runtime : Runtime) world result after,
      use.live.exec runtime world = some (result, after) →
        ∃ deeds answers, world.through deeds = some (answers, after)) ∧
    (∀ initPath (runtime : Runtime) world result after, (Engine.create initPath).exec runtime world = some (result, after) →
      ∃ deeds answers, world.through deeds = some (answers, after)) ∧
    ∀ (engine : Engine) file (runtime : Runtime) world result after,
      (engine.reload file).exec runtime world = some (result, after) →
        ∃ deeds answers, world.through deeds = some (answers, after) := by
  refine ⟨fun scene α handover known crossing runner site => handover.refused known crossing,
    fun holdings reachable context here α handover => reachable.refused here handover,
    fun holdings reachable value owned handle is => ⟨handle, is, fun same => ?_⟩, fun scene value raw => Scene.rawOf_own, ?_, ?_, ?_, ?_,
    fun use runtime => Live.deeds_use use, fun initPath runtime => Live.deeds_create initPath,
    fun engine file runtime => Live.deeds_reload engine file⟩
  · -- A handle in the hands of the host is of a context that was opened before.
    have early := reachable.isGood.known value owned handle is
    rw [same] at early
    exact Nat.lt_irrefl _ early
  · intro code budget site scene checked finished place native arguments result values room found received ran gives known crossing
    exact ⟨perform_foreign room found received ran gives known crossing, fun outcome after =>
      perform_foreign_error room found received ran gives known crossing⟩
  · intro world context deeds inside outside
    exact ⟨World.through_replace outside inside, fun answers after => World.through_interpreter? outside inside⟩
  · intro world after deeds answers ran context
    exact World.through_numbers ran
  · intro engine renewed file runtime world after outcome old ran
    obtain ⟨opened, closed⟩ := Engine.reload_renews old ran
    refine ⟨closed, fun value handle is early => ⟨handle, is, fun same => ?_⟩⟩
    rw [same, opened renewed outcome rfl] at early
    exact Nat.lt_irrefl _ early

/-- A context with a function that gives back a table of another context behind a value that is fine. -/
def leaky : Scene where
  context := ⟨0⟩
  interpreter :=
    { heap :=
        { tables := #[], cells := #[], numbers := 0, printed := .empty, awaiting := [],
          functions := #[.native ⟨"leak", none, false, .reply [.boolean true, .table ⟨⟨⟨1⟩, 0⟩, 0⟩]⟩] }
      stack := [.integer 7]
      registry := ⟨#[.function ⟨0⟩], [], [⟨0, 0⟩], 1⟩ }
  manager := .initial .blank
  trace := []

/-- The function of such a context cannot be called with the table either. -/
theorem context_isolation_leak :
    (∀ runner, (Function.call ⟨⟨⟨0⟩, 0⟩, 0⟩ [.boolean true, .table ⟨⟨⟨1⟩, 0⟩, 0⟩]).exec runner .host leaky =
      some (.error .foreign, leaky)) ∧
    ∃ after, perform .none 1 (.call (.function ⟨0⟩) [] ⟨[], 0, 2, none, false⟩) leaky =
      some (.error (.failure ("leak" ++ ": " ++ "handle belongs to a different Lua context") 0), after) := by
  have foreign : (Value.table ⟨⟨⟨1⟩, 0⟩, 0⟩).IsForeign leaky.context := ⟨_, rfl, by decide⟩
  have table : leaky.Remembers (.table ⟨⟨⟨1⟩, 0⟩, 0⟩) := by
    rintro _ ⟨⟩ here
    cases here
  have boolean : leaky.Remembers (.boolean true) := fun handle is => by cases is
  have function : leaky.Remembers (.function ⟨⟨⟨0⟩, 0⟩, 0⟩) := by
    rintro _ ⟨⟩ -
    exact Option.ne_none_iff_exists'.mpr ⟨.function ⟨0⟩, rfl⟩
  have results : ∀ value ∈ [Value.boolean true, .table ⟨⟨⟨1⟩, 0⟩, 0⟩], leaky.Remembers value :=
    List.forall_mem_cons.mpr ⟨boolean, List.forall_mem_singleton.mpr table⟩
  obtain ⟨refuses, -, -, -, raises, -⟩ := context_isolation
  constructor
  · intro runner
    exact refuses leaky (.call ⟨⟨⟨0⟩, 0⟩, 0⟩ [.boolean true, .table ⟨⟨⟨1⟩, 0⟩, 0⟩])
      (List.forall_mem_cons.mpr ⟨function, results⟩) ⟨_, by simp [Handover.handed], foreign⟩ runner .host
  · have raised := (raises .none 0 ⟨[], 0, 2, none, false⟩ leaky leaky leaky ⟨0⟩
      ⟨"leak", none, false, .reply [.boolean true, .table ⟨⟨⟨1⟩, 0⟩, 0⟩]⟩ [] (.multiple [.boolean true, .table ⟨⟨⟨1⟩, 0⟩, 0⟩])
      [.boolean true, .table ⟨⟨⟨1⟩, 0⟩, 0⟩] (by decide) rfl rfl rfl rfl results ⟨_, by simp, foreign⟩).1
    exact ⟨_, raised⟩

end TileScript
