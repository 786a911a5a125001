import TileScript.Proofs.FreshStart

/-! What is registered stays so whatever is done, until the host drops it. Registrations are released by the
collection of what nobody holds alone. -/

namespace TileScript.Bridge
open Script Attempt

/-- Requests that release nothing and leave the stack as it is. -/
def BridgeRequest.Retains {α : Type} : BridgeRequest α → Prop
  | .setStack _ | .release _ => False
  | _ => True

/-- What is made of operations and of such requests. -/
inductive Retaining : {ε α : Type} → Attempt ε α → Prop where
  | pure {ε α : Type} (value : α) : Retaining (pure value : Attempt ε α)
  | throw {ε α : Type} (error : ε) : Retaining (throw error : Attempt ε α)
  | ask {ε α : Type} (request : BridgeRequest α) (retains : request.Retains) : Retaining (ask request : Attempt ε α)
  | operation {α : Type} (operation : Operation α) : Retaining operation.act
  | bind {ε α β : Type} {attempt : Attempt ε α} {next : α → Attempt ε β} (first : Retaining attempt)
    (second : ∀ value, Retaining (next value)) : Retaining (attempt >>= next)
  | observe {ε δ α : Type} {attempt : Attempt ε α} (observed : Retaining attempt) :
    Retaining (observe attempt : Attempt δ (Except ε α))
  | mapError {ε δ α : Type} {attempt : Attempt ε α} (change : ε → δ) (changed : Retaining attempt) :
    Retaining (attempt.mapError change)

/-- That the code of the host releases nothing but by dropping handles, and uses the stack through operations. -/
def HostCode.IsRetaining (code : HostCode) : Prop :=
  ∀ number captured arguments, Retaining (code.run number captured arguments)

def Custody.registrations : Custody where
  holds scene := scene.interpreter.registry.Orderly
  grows before after :=
    after.context = before.context ∧ before.interpreter.registry.Extends after.interpreter.registry
  refl scene := ⟨rfl, .refl _⟩
  trans early late := ⟨late.1.trans early.1, early.2.trans late.2⟩
  quiet request scene quiet orderly := by
    cases request with
    | register value => exact ⟨orderly.register value, rfl, .register orderly.valid value⟩
    | heap _ | takeLost | newChunk _ | function _ | context | stack | registered _ | host | runCommand _ _ | note _ _ =>
      exact ⟨orderly, rfl, .refl _⟩
    | setStack _ | newNative _ | release _ | change _ => cases quiet
  staged scene values orderly := ⟨orderly, rfl, .refl _⟩

namespace StackLogic

variable {logic : StackLogic} {α ε : Type}

theorem neutral_retaining (every : ∀ {β : Type} (request : BridgeRequest β), request.Retains → logic.Permits request)
    {attempt : Attempt ε α} (retaining : Retaining attempt) : logic.Neutral attempt := by
  induction retaining with
  | pure value => exact neutral_pure value
  | throw error => exact neutral_throw error
  | ask request retains =>
    refine neutral_ask (every request retains) ?_
    cases request <;> trivial
  | operation operation => exact neutral_operation (fun native => every _ trivial) operation
  | bind _ _ first second => exact first.bind second
  | observe _ observed => exact observed.observe
  | mapError change _ changed => exact changed.mapError change

variable {runner : Runner} {task : ∀ {task scene outcome after}, Custody.registrations.holds scene →
  runner task scene = some (outcome, after) →
  (Custody.registrations.holds after ∧ Custody.registrations.grows scene after) ∧ after.stack = scene.stack}

theorem permits_retains (request : BridgeRequest α) (retains : request.Retains) :
    (StackLogic.mk Custody.registrations runner task).Permits request := by
  intro scene orderly
  cases request with
  | register value => exact ⟨Registry.Orderly.register orderly value, rfl, .register orderly.valid value⟩
  | heap _ | takeLost | newNative _ | newChunk _ | function _ | context | stack | registered _ | host | runCommand _ _
  | change _ | note _ _ => exact ⟨orderly, rfl, .refl _⟩
  | setStack _ | release _ => cases retains

end StackLogic

theorem Custody.registrations_entrusts {code : HostCode} (retaining : code.IsRetaining) :
    Custody.registrations.Entrusts code := by
  intro runner task scene place native _ _ arguments
  let handling : (StackLogic.mk .registrations runner task).Handling :=
    { isFit := fun _ _ => True, stable := fun _ _ _ _ _ => trivial,
      pinned := fun function => ((StackLogic.neutral_pin _ _).gives fun _ _ => trivial).weaken fun _ => trivial,
      changed := fun wanted _ => (StackLogic.neutral_ask (StackLogic.permits_retains (.change wanted) trivial) trivial).always }
  exact StackLogic.neutral_body arguments (fun function _ => handling.neutral_api code.patterns function arguments)
    fun number captured _ => StackLogic.neutral_retaining StackLogic.permits_retains (retaining number captured arguments)

def Runtime.registrations (runtime : Runtime) (retaining : runtime.code.IsRetaining) : StackLogic :=
  Custody.registrations.logic runtime (Custody.registrations_entrusts retaining)

theorem Runtime.registrations_permits (runtime : Runtime) (retaining : runtime.code.IsRetaining) (native : Native) :
    (runtime.registrations retaining).Permits (.newNative native) := fun _ orderly => ⟨orderly, rfl, .refl _⟩

/-- What the host does with the stack alone, and what a native function does with its arguments. -/
inductive Move : Type → Type 1 where
  | push (value : Value) : Move Unit
  | pop : Move Value
  | remove (count : Nat) : Move Unit
  | readAt (index : Int) : Move Value
  | popTable : Move Handle
  | tableAt (index : Int) : Move Handle
  | popFunction : Move Handle
  | argument (arguments : Arguments) (index : Int) : Move Value
  | collect (arguments : Arguments) : Move (List Value)

def Move.act {α : Type} : Move α → Act α
  | .push value => Stack.push value
  | .pop => Stack.pop
  | .remove count => Stack.remove count
  | .readAt index => Stack.readAt index
  | .popTable => Table.ofTop
  | .tableAt index => Table.ofPlace index
  | .popFunction => Function.ofTop
  | .argument arguments index => arguments.value index
  | .collect arguments => arguments.collect

namespace StackLogic

variable {logic : StackLogic} {α : Type}

theorem neutral_ofPlace (index : Int) : logic.Neutral (Table.ofPlace index) := by
  refine (neutral_kindAt index).bind fun actual => Neutral.unless ((neutral_rawAt index).bind fun value => ?_)
  split
  · exact neutral_pin _ _
  · exact neutral_throw _

/-- Whatever a move does to the stack, it keeps what is kept of everything else. -/
theorem move_leaves (move : Move α) : logic.Leaves move.act fun _ _ _ => True := by
  cases move with
  | push value => exact (push_pushes value).weaken fun _ => trivial
  | pop => exact pop_leaves.weaken fun _ => trivial
  | remove count => exact (remove_leaves count).weaken fun _ => trivial
  | readAt index => exact Leaves.weaken (neutral_readAt index) fun _ => trivial
  | popTable => exact tableOfTop_leaves.weaken fun _ => trivial
  | tableAt index => exact Leaves.weaken (neutral_ofPlace index) fun _ => trivial
  | popFunction => exact functionOfTop_leaves.weaken fun _ => trivial
  | argument arguments index => exact Leaves.weaken (neutral_argument arguments index) fun _ => trivial
  | collect arguments => exact Leaves.weaken (neutral_collect arguments) fun _ => trivial

end StackLogic
end TileScript.Bridge

namespace TileScript
open Bridge

namespace World

/-- The registries of all open contexts are in order. -/
def IsOrderly (world : World) : Prop :=
  ∀ context interpreter, world.interpreter? context = some interpreter → interpreter.registry.Orderly

/-- The same contexts later, with others opened and some closed. `kept` relates what is registered in those that
are still open. -/
structure Follows (kept : Registry → Registry → Prop) (before after : World) : Prop where
  size : before.contexts.size ≤ after.contexts.size
  closed : ∀ context : ContextId, context.index < before.contexts.size → before.interpreter? context = none →
    after.interpreter? context = none
  kept : ∀ context earlier later, before.interpreter? context = some earlier → after.interpreter? context = some later →
    kept earlier.registry later.registry

variable {world after : World} {context : ContextId} {interpreter : Interpreter}

theorem Follows.of_same {kept : Registry → Registry → Prop} (refl : ∀ registry, kept registry registry)
    (same : after.contexts = world.contexts) : world.Follows kept after := by
  obtain ⟨contexts, _, _⟩ := world
  obtain ⟨_, _, _⟩ := after
  cases same
  refine ⟨Nat.le_refl _, fun _ _ => id, fun context earlier later before after => ?_⟩
  cases before.symm.trans after
  exact refl _

theorem Follows.trans {kept : Registry → Registry → Prop}
    (trans : ∀ {first second third}, kept first second → kept second third → kept first third) {first second third : World}
    (early : first.Follows kept second) (late : second.Follows kept third) : first.Follows kept third := by
  refine ⟨Nat.le_trans early.size late.size, fun context old gone => ?_, fun context earlier later before after => ?_⟩
  · exact late.closed context (Nat.lt_of_lt_of_le old early.size) (early.closed context old gone)
  · cases between : second.interpreter? context with
    | none =>
      -- What is closed in between cannot be open at the end.
      have inside : context.index < second.contexts.size := Nat.lt_of_lt_of_le (index_lt before) early.size
      cases (late.closed context inside between).symm.trans after
    | some middle => exact trans (early.kept context _ _ before between) (late.kept context _ _ between after)

theorem Follows.weaken {strong weak : Registry → Registry → Prop} (implies : ∀ {before after}, strong before after → weak before after)
    (follows : world.Follows strong after) : world.Follows weak after :=
  ⟨follows.size, follows.closed, fun context _ _ before after => implies (follows.kept context _ _ before after)⟩

theorem follows_openContext (world : World) : world.Follows Registry.Extends world.openContext.2 := by
  refine ⟨?_, fun context old gone => ?_, fun context earlier later before after => ?_⟩
  · simp [World.openContext]
  · rwa [interpreter?_openContext, if_neg (Nat.ne_of_lt old)]
  · rw [interpreter?_openContext, if_neg (Nat.ne_of_lt (index_lt before)), before] at after
    cases after
    exact .refl _

theorem follows_closeContext (world : World) (context : ContextId) :
    world.Follows Registry.Extends (world.closeContext context) := by
  refine ⟨?_, fun other old gone => ?_, fun other earlier later before after => ?_⟩
  · simp [World.closeContext]
  · rw [interpreter?_closeContext, gone, ite_self]
  · rw [interpreter?_closeContext] at after
    split at after
    · cases after
    · cases before.symm.trans after
      exact .refl _

/-- A run keeps in all contexts what it keeps in its own. -/
theorem follows_leave {kept : Registry → Registry → Prop} (refl : ∀ registry, kept registry registry)
    (known : world.interpreter? context = some interpreter) (scene : Scene)
    (inside : kept interpreter.registry scene.interpreter.registry) : world.Follows kept (world.leave context scene) := by
  refine ⟨Nat.le_of_eq Array.size_setIfInBounds.symm, fun other old gone => ?_, fun other earlier later before after => ?_⟩
  · rw [interpreter?_leave scene other known]
    split
    next here =>
      subst here
      cases known.symm.trans gone
    next => exact gone
  · rw [interpreter?_leave scene other known] at after
    split at after
    next here =>
      subst here
      cases known.symm.trans before
      cases after
      exact inside
    next =>
      cases before.symm.trans after
      exact refl _

theorem IsOrderly.leave (orderly : world.IsOrderly) (known : world.interpreter? context = some interpreter) (scene : Scene)
    (inside : scene.interpreter.registry.Orderly) : (world.leave context scene).IsOrderly := by
  intro other found there
  rw [interpreter?_leave scene other known] at there
  split at there
  · cases there
    exact inside
  · exact orderly other found there

theorem IsOrderly.openContext (orderly : world.IsOrderly) : world.openContext.2.IsOrderly := by
  intro context found there
  rw [interpreter?_openContext] at there
  split at there
  · cases there
    exact Registry.empty_orderly
  · exact orderly context found there

theorem IsOrderly.closeContext (orderly : world.IsOrderly) (context : ContextId) : (world.closeContext context).IsOrderly := by
  intro other found there
  rw [interpreter?_closeContext] at there
  split at there
  · cases there
  · exact orderly other found there

end World

namespace Live

/-- Worlds in which nothing was released. -/
def retention (runtime : Runtime) : Continuity where
  runtime := runtime
  kept before after := before.IsOrderly → after.IsOrderly ∧ before.Follows Registry.Extends after
  refl world orderly := ⟨orderly, .of_same .refl rfl⟩
  trans early late orderly := by
    obtain ⟨middle, first⟩ := early orderly
    obtain ⟨last, second⟩ := late middle
    exact ⟨last, first.trans .trans second⟩
  execute world command env orderly := ⟨orderly, .of_same .refl rfl⟩

variable {α : Type} {runtime : Runtime} (retaining : runtime.code.IsRetaining)

theorem retention_act (context : ContextId) {act : Act α} {post : List Script.Raw → Except Error α → List Script.Raw → Prop}
    (leaves : (runtime.registrations retaining).Leaves act post) :
    (retention runtime).Keeps (Live.within context act) := by
  intro world result after ran orderly
  obtain ⟨-, -, rfl⟩ | ⟨interpreter, scene, known, performed, rfl⟩ := World.run_cases ran
  · exact ⟨orderly, .of_same .refl rfl⟩
  · have start : (runtime.registrations retaining).holds (world.scene context interpreter) := orderly context interpreter known
    obtain ⟨⟨kept, -, extended⟩, -⟩ := leaves .host _ result scene start performed
    exact ⟨orderly.leave known scene kept, World.follows_leave .refl known scene extended⟩

theorem retention_openContext : (retention runtime).Keeps Live.openContext := by
  intro world result after ran orderly
  cases ran
  exact ⟨orderly.openContext, world.follows_openContext⟩

theorem retention_modify (change : Manager → Manager) :
    (retention runtime).Keeps (modify fun world => { world with manager := change world.manager } : Live Unit) := by
  intro world result after ran orderly
  cases ran
  exact ⟨orderly, .of_same .refl rfl⟩

include retaining

theorem retention_neutral (context : ContextId) {act : Act α} (neutral : (runtime.registrations retaining).Neutral act) :
    (retention runtime).Keeps (Live.within context act) := retention_act retaining context neutral

theorem retention_closeContext (context : ContextId) : (retention runtime).Keeps (Live.closeContext context) := by
  refine (retention_neutral retaining context StackLogic.neutral_finish).observe.bind fun _ => ?_
  intro world result after ran orderly
  cases ran
  exact ⟨orderly.closeContext context, world.follows_closeContext context⟩

theorem retention_create (initPath : String) : (retention runtime).Keeps (Engine.create initPath) := by
  have permits : ∀ function : Api, (runtime.registrations retaining).Permits (.newNative (.ofApi function)) :=
    fun function => runtime.registrations_permits retaining (.ofApi function)
  exact retention_openContext.bind fun context =>
    (retention_act retaining context (StackLogic.neutral_install permits)).bind fun _ => Continuity.keeps_pure _

theorem retention_start (initPath : String) (file : ScriptFile) : (retention runtime).Keeps (Engine.start initPath file) := by
  refine (retention_create retaining initPath).bind fun engine => ?_
  refine (retention_modify fun manager => manager.activate Config.mainMode).bind fun _ => ?_
  exact (Continuity.keeps_initFile (retention_neutral retaining) engine file).observe.bind fun _ => Continuity.keeps_pure _

/-- A reload releases nothing but with the context that it closes. -/
theorem retention_reload (engine : Engine) (file : ScriptFile) : (retention runtime).Keeps (engine.reload file) := by
  intro world result after ran orderly
  obtain ⟨left, leaves, ran⟩ := Engine.leaves_of_reload ran
  have same : world.reset.IsOrderly := orderly
  obtain ⟨between, early⟩ := retention_closeContext retaining engine.context _ _ _ leaves same
  obtain ⟨last, late⟩ := retention_start retaining engine.initPath file _ _ _ ran between
  have whole : world.Follows Registry.Extends world.reset := .of_same .refl rfl
  exact ⟨last, (whole.trans .trans early).trans .trans late⟩

theorem retention_use (use : Use α) : (retention runtime).Keeps use.live :=
  Continuity.keeps_live (retention_neutral retaining) (runtime.registrations_permits retaining) use

theorem retention_move (context : ContextId) (move : Move α) : (retention runtime).Keeps (Live.within context move.act) :=
  retention_act retaining context (StackLogic.move_leaves move)

end Live

/-- A reload gives its engine a new context, and closes the one that it had. -/
theorem Engine.reload_renews {engine : Engine} {file : ScriptFile} {runtime : Runtime} {world after : World}
    {result : Except Error (Engine × Except Error Unit)} (old : engine.context.index < world.contexts.size)
    (ran : (engine.reload file).exec runtime world = some (result, after)) :
    (∀ renewed outcome, result = .ok (renewed, outcome) → renewed.context = ⟨world.contexts.size⟩) ∧
      after.interpreter? engine.context = none := by
  obtain ⟨left, leaves, ran⟩ := leaves_of_reload ran
  rw [exec_start, Option.map_eq_some_iff] at ran
  obtain ⟨⟨outcome, scene⟩, -, ⟨⟩⟩ := ran
  have size := leaves.size
  refine ⟨fun renewed inner same => ?_, ?_⟩
  · cases outcome with
    | error error => cases same
    | ok value =>
      cases same
      exact congrArg ContextId.mk size
  · have apart : engine.context.index ≠ left.contexts.size := size ▸ Nat.ne_of_lt old
    have other : (⟨left.contexts.size⟩ : ContextId) ≠ engine.context := fun same =>
      apart (congrArg ContextId.index same).symm
    rw [World.interpreter?_leave scene engine.context (World.interpreter?_opened _), if_neg other,
      World.interpreter?_openContext, if_neg apart]
    exact (leaves.interpreter? engine.context).trans (if_pos rfl)

end TileScript
