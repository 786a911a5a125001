import Mathlib.Logic.Relation
import TileScript.Proofs.GivenHandles
import TileScript.Proofs.ReachedScenes

/-! How long a handle lives. The host makes handles, clones them and drops them while contexts are opened, closed
and reloaded. A registration is there as long as a clone of its handle is, and no longer. -/

namespace TileScript
open Bridge

/-- The values that the host is given by what it does. -/
def Use.given {α : Type} : Use α → α → List Value
  | .within _ operation, value => operation.given value
  | .runSource _ _, values => values
  | _, _ => []

/-- A world, and the clones of handles in the hands of the host, with an entry for each of them. -/
structure Holdings where
  world : World
  held : List Value

namespace Holdings

def pins (held : List Value) : List Pin := held.filterMap fun value => value.handle?.map (·.pin)

/-- Whether a handle has a clone, in the hands of the host, or in the configuration or a native function. -/
def HasClone (holdings : Holdings) (handle : Handle) : Prop :=
  holdings.world.isPinned (pins holdings.held) handle.context handle.pin.registration = true

/-- The host takes what it is given if all went well. -/
def take {α : Type} (held : List Value) (given : α → List Value) : Except Error α → List Value
  | .ok value => given value ++ held
  | .error _ => held

/-- What the host can do with its handles. -/
inductive Change : Holdings → Holdings → Prop where
  | use {α : Type} {world after held} {result : Except Error α} (runtime : Runtime) (retaining : runtime.code.IsRetaining)
    (use : Use α) (ran : use.live.exec runtime world = some (result, after)) :
    Change ⟨world, held⟩ ⟨after, take held use.given result⟩
  | move {α : Type} {world after held} {result : Except Error α} (runtime : Runtime) (retaining : runtime.code.IsRetaining)
    (context : ContextId) (move : Move α) (ran : (Live.within context move.act).exec runtime world = some (result, after)) :
    Change ⟨world, held⟩ ⟨after, take held move.given result⟩
  | clone {world held} (value : Value) (owned : value ∈ held) : Change ⟨world, held⟩ ⟨world, value :: held⟩
  | drop {world held} (value : Value) : Change ⟨world, held⟩ ⟨world, held.erase value⟩
  | opened {world held} : Change ⟨world, held⟩ ⟨world.openContext.2, held⟩
  | closed {world held} (context : ContextId) : Change ⟨world, held⟩ ⟨world.closeContext context, held⟩
  | created {world after held result} (runtime : Runtime) (retaining : runtime.code.IsRetaining) (initPath : String)
    (ran : (Engine.create initPath).exec runtime world = some (result, after)) : Change ⟨world, held⟩ ⟨after, held⟩
  | reloaded {world after held result} (runtime : Runtime) (retaining : runtime.code.IsRetaining) (engine : Engine)
    (file : ScriptFile) (ran : (engine.reload file).exec runtime world = some (result, after)) :
    Change ⟨world, held⟩ ⟨after, held⟩

/-- The registrations whose last clone is gone are released. -/
def settle (holdings : Holdings) : Holdings := ⟨holdings.world.collect (pins holdings.held), holdings.held⟩

/-- One thing is done, and what nobody holds any more is released. -/
def Step (before after : Holdings) : Prop := ∃ changed, Change before changed ∧ after = changed.settle

/-- What the host can come to from nothing. -/
def Reachable (holdings : Holdings) : Prop := ∃ host, Relation.ReflTransGen Step ⟨.initial host, []⟩ holdings

end Holdings

namespace World

variable {world after : World}

theorem isOpen_iff {context : ContextId} : world.isOpen context = true ↔ ∃ interpreter, world.interpreter? context = some interpreter :=
  Option.isSome_iff_exists

theorem isOpen_collect (held : List Pin) (context : ContextId) : (world.collect held).isOpen context = world.isOpen context := by
  rw [isOpen, isOpen, interpreter?_collect, Option.isSome_map]

/-- Of what is registered, all that has no clone is released, and nothing else. -/
theorem object?_collect (orderly : world.IsOrderly) (held : List Pin) (handle : Handle) :
    (world.collect held).object? handle =
      if world.isPinned held handle.context handle.pin.registration then world.object? handle else none := by
  rw [object?, object?, interpreter?_collect]
  cases known : world.interpreter? handle.context with
  | none => simp
  | some interpreter =>
    change (interpreter.registry.retain _).value? _ = _
    rw [(orderly _ _ known).value?_retain]
    rfl

/-- What is kept inside does not change when registrations are released. -/
theorem isPinned_collect (held : List Pin) (context : ContextId) (registration : Nat) :
    (world.collect held).isPinned held context registration = world.isPinned held context registration := by
  have same : (world.collect held).handles = world.handles := by
    rw [handles, handles]
    congr 1
    rw [List.flatMap_def, List.flatMap_def]
    refine congrArg List.flatten (List.ext_getElem? fun index => ?_)
    simp only [collect, List.getElem?_map, Array.getElem?_toList, Array.getElem?_mapIdx]
    cases world.contexts[index]? with
    | none => rfl
    | some interpreter => cases interpreter <;> rfl
  rw [isPinned, isPinned, same]

/-- Whoever has a clone has the object of the handle, as long as its context is open. -/
theorem Follows.object? (follows : world.Follows Registry.Extends after) (orderly : world.IsOrderly) {handle : Handle}
    {raw : Script.Raw} (known : world.object? handle = some raw) (stays : after.isOpen handle.context = true) :
    after.object? handle = some raw := by
  obtain ⟨interpreter, found, value⟩ := Option.bind_eq_some_iff.mp known
  obtain ⟨later, there⟩ := isOpen_iff.mp stays
  have extended := follows.kept _ _ _ found there
  rw [World.object?, there]
  exact (extended.same _ ((orderly _ _ found).valid.lt_next value)).trans value

theorem index_lt_of_isOpen {context : ContextId} (here : world.isOpen context = true) : context.index < world.contexts.size := by
  obtain ⟨interpreter, found⟩ := isOpen_iff.mp here
  exact index_lt found

theorem Follows.isOpen {kept : Registry → Registry → Prop} (follows : world.Follows kept after) {context : ContextId}
    (old : context.index < world.contexts.size) (stays : after.isOpen context = true) : world.isOpen context = true := by
  cases known : world.interpreter? context with
  | some interpreter => exact isOpen_iff.mpr ⟨interpreter, known⟩
  | none =>
    obtain ⟨_, there⟩ := isOpen_iff.mp stays
    cases (follows.closed context old known).symm.trans there

end World

namespace Holdings

/-- Every handle of the host in an open context denotes the object that it was made for. -/
structure IsGood (holdings : Holdings) : Prop where
  orderly : holdings.world.IsOrderly
  known : ∀ value ∈ holdings.held, ∀ handle, value.handle? = some handle →
    handle.context.index < holdings.world.contexts.size
  resolves : ∀ value ∈ holdings.held, ∀ handle, value.handle? = some handle →
    holdings.world.isOpen handle.context = true → holdings.world.object? handle = value.object?

variable {world after : World} {held : List Value}

theorem IsGood.follow (good : IsGood ⟨world, held⟩) (orderly : after.IsOrderly) (follows : world.Follows Registry.Extends after) :
    IsGood ⟨after, held⟩ := by
  refine ⟨orderly, fun value owned handle is => Nat.lt_of_lt_of_le (good.known value owned handle is) follows.size, ?_⟩
  intro value owned handle is stays
  have here := follows.isOpen (good.known value owned handle is) stays
  obtain ⟨raw, object⟩ := Value.object?_of_handle is
  rw [object]
  exact follows.object? good.orderly ((good.resolves value owned handle is here).trans object) stays

theorem IsGood.take {α : Type} {given : α → List Value} {result : Except Error α} (good : IsGood ⟨world, held⟩)
    (fresh : ∀ value, result = .ok value → ∀ made ∈ given value, ∀ handle, made.handle? = some handle →
      handle.context.index < world.contexts.size ∧ world.object? handle = made.object?) :
    IsGood ⟨world, Holdings.take held given result⟩ := by
  cases result with
  | error error => exact good
  | ok value =>
    refine ⟨good.orderly, fun made owned handle is => ?_, fun made owned handle is here => ?_⟩
    · rcases List.mem_append.mp owned with new | old
      · exact (fresh value rfl made new handle is).1
      · exact good.known made old handle is
    · rcases List.mem_append.mp owned with new | old
      · exact (fresh value rfl made new handle is).2
      · exact good.resolves made old handle is here

theorem IsGood.subset (good : IsGood ⟨world, held⟩) {fewer : List Value} (owned : ∀ value ∈ fewer, value ∈ held) :
    IsGood ⟨world, fewer⟩ :=
  ⟨good.orderly, fun value member => good.known value (owned value member), fun value member => good.resolves value (owned value member)⟩

theorem hasClone_of_mem {holdings : Holdings} {value : Value} {handle : Handle} (owned : value ∈ holdings.held)
    (is : value.handle? = some handle) : holdings.HasClone handle := by
  refine List.contains_iff_mem.mpr (List.mem_append_left _ (List.mem_filterMap.mpr ⟨value, owned, ?_⟩))
  rw [is]
  rfl

theorem hasClone_settle {holdings : Holdings} {handle : Handle} : holdings.settle.HasClone handle ↔ holdings.HasClone handle := by
  rw [HasClone, HasClone, settle, World.isPinned_collect]

theorem object?_settle {holdings : Holdings} (orderly : holdings.world.IsOrderly) {handle : Handle} :
    (holdings.HasClone handle → holdings.settle.world.object? handle = holdings.world.object? handle) ∧
      (¬ holdings.HasClone handle → holdings.settle.world.object? handle = none) := by
  have left := World.object?_collect orderly (pins holdings.held) handle
  exact ⟨fun cloned => left.trans (if_pos cloned), fun gone => left.trans (if_neg gone)⟩

theorem orderly_collect (orderly : world.IsOrderly) (held : List Pin) :
    (world.collect held).IsOrderly ∧ world.Follows Registry.Succeeds (world.collect held) := by
  refine ⟨fun context later there => ?_, ?_, fun context old gone => ?_, fun context earlier later before there => ?_⟩
  · rw [World.interpreter?_collect, Option.map_eq_some_iff] at there
    obtain ⟨interpreter, found, rfl⟩ := there
    exact (orderly context interpreter found).retain _
  · simp [World.collect]
  · rw [World.interpreter?_collect, gone, Option.map_none]
  · rw [World.interpreter?_collect, before, Option.map_some] at there
    cases there
    exact (orderly context earlier before).succeeds_retain _

theorem IsGood.settle {holdings : Holdings} (good : holdings.IsGood) : holdings.settle.IsGood := by
  obtain ⟨orderly, follows⟩ := orderly_collect good.orderly (pins holdings.held)
  refine ⟨orderly, fun value owned handle is => Nat.lt_of_lt_of_le (good.known value owned handle is) follows.size,
    fun value owned handle is here => ?_⟩
  rw [(object?_settle good.orderly).1 (hasClone_of_mem owned is)]
  exact good.resolves value owned handle is ((World.isOpen_collect _ _).symm.trans here)

/-! ### What is given -/

/-- What an act gives denotes what it was made for in the world that the act leaves. -/
theorem given_within {α : Type} {runtime : Runtime} {act : Act α} {given : α → List Value} {context : ContextId} {value : α}
    (orderly : world.IsOrderly) (produces : Attempt.Produces runtime act fun made scene => scene.HoldsAll (given made))
    (ran : world.run context act runtime = some (.ok value, after)) : ∀ made ∈ given value, ∀ handle,
      made.handle? = some handle → handle.context.index < after.contexts.size ∧ after.object? handle = made.object? := by
  intro made listed handle is
  obtain ⟨-, ⟨⟩, -⟩ | ⟨interpreter, scene, known, performed, rfl⟩ := World.run_cases ran
  have held : scene.HoldsAll (given value) := produces _ _ _ _ (orderly context interpreter known) performed
  obtain ⟨here, registered⟩ := Scene.registered_of_holds (held made listed) is
  -- The handle is of the context in which the act has ended, which is the one where it began.
  have same : scene.context = context := Scene.context_conserved.act performed
  rw [same] at here
  subst here
  refine ⟨?_, ?_⟩
  · simpa [World.leave] using World.index_lt known
  · rw [World.object?, World.interpreter?_leave scene _ known, if_pos rfl]
    exact registered

theorem produces_source {runtime : Runtime} (retaining : runtime.code.IsRetaining) (text : String) :
    Attempt.Produces runtime (do
      let chunk ← Function.ofChunk Function.sourceName text
      Attempt.settle ((← Function.call chunk []).values.mapError Error.runtime) : Act (List Value))
      fun values scene => scene.HoldsAll values := by
  refine Attempt.produces_bind fun chunk => ?_
  intro site scene values after orderly ran
  obtain ⟨result, _, called, settled⟩ := Attempt.bind_ok ran
  rw [Attempt.exec_settle] at settled
  cases known : result.values with
  | error message =>
    rw [known] at settled
    cases settled
  | ok returned =>
    rw [known] at settled
    cases settled
    exact Function.produces_call retaining chunk [] site scene result after orderly called values known

theorem given_use {α : Type} {runtime : Runtime} (retaining : runtime.code.IsRetaining) (orderly : world.IsOrderly) (use : Use α)
    {value : α} (ran : use.live.exec runtime world = some (.ok value, after)) : ∀ made ∈ use.given value, ∀ handle,
      made.handle? = some handle → handle.context.index < after.contexts.size ∧ after.object? handle = made.object? := by
  cases use with
  | within context operation => exact given_within orderly (operation.produces retaining) ran
  | runSource engine text => exact given_within orderly (produces_source retaining text) ran
  | runCommand _ _ | evaluate _ _ _ | runInitFile _ _ | focusChanged _ | monitorChanged _ | windowDetected _ _ | gap _ _ _ =>
    exact List.forall_mem_nil _

/-! ### Changes -/

/-- Whatever is done, nothing is released by it, and all handles stay good. -/
theorem Change.keeps {before after : Holdings} (change : Change before after) (good : before.IsGood) :
    after.IsGood ∧ before.world.Follows Registry.Extends after.world := by
  cases change with
  | use runtime retaining use ran =>
    obtain ⟨orderly, follows⟩ := Live.retention_use retaining use _ _ _ ran good.orderly
    refine ⟨(good.follow orderly follows).take ?_, follows⟩
    rintro value rfl
    exact given_use retaining good.orderly use ran
  | move runtime retaining context move ran =>
    obtain ⟨orderly, follows⟩ := Live.retention_move retaining context move _ _ _ ran good.orderly
    refine ⟨(good.follow orderly follows).take ?_, follows⟩
    rintro value rfl
    exact given_within good.orderly (move.produces retaining) ran
  | clone value owned =>
    exact ⟨good.subset (List.forall_mem_cons.mpr ⟨owned, fun _ => id⟩), .of_same .refl rfl⟩
  | drop value => exact ⟨good.subset fun _ => List.mem_of_mem_erase, .of_same .refl rfl⟩
  | @opened world held =>
    exact ⟨good.follow good.orderly.openContext world.follows_openContext, world.follows_openContext⟩
  | @closed world held context =>
    exact ⟨good.follow (good.orderly.closeContext context) (world.follows_closeContext context), world.follows_closeContext context⟩
  | created runtime retaining initPath ran =>
    obtain ⟨orderly, follows⟩ := Live.retention_create retaining initPath _ _ _ ran good.orderly
    exact ⟨good.follow orderly follows, follows⟩
  | reloaded runtime retaining engine file ran =>
    obtain ⟨orderly, follows⟩ := Live.retention_reload retaining engine file _ _ _ ran good.orderly
    exact ⟨good.follow orderly follows, follows⟩

/-- After a step, all that was registered has either kept its object or lost its last clone. -/
theorem Step.object? {before after : Holdings} (step : Step before after) (good : before.IsGood) {handle : Handle}
    {raw : Script.Raw} (known : before.world.object? handle = some raw)
    (stays : after.world.isOpen handle.context = true) :
    (after.HasClone handle → after.world.object? handle = some raw) ∧
      (¬ after.HasClone handle → after.world.object? handle = none) := by
  obtain ⟨changed, change, rfl⟩ := step
  obtain ⟨still, follows⟩ := change.keeps good
  have there : changed.world.object? handle = some raw :=
    follows.object? good.orderly known ((World.isOpen_collect _ _).symm.trans stays)
  rw [hasClone_settle, ← there]
  exact object?_settle still.orderly

theorem Step.keeps {before after : Holdings} (step : Step before after) (good : before.IsGood) :
    after.IsGood ∧ before.world.Follows Registry.Succeeds after.world := by
  obtain ⟨changed, change, rfl⟩ := step
  obtain ⟨still, follows⟩ := change.keeps good
  obtain ⟨-, settled⟩ := orderly_collect still.orderly (pins changed.held)
  exact ⟨still.settle, (follows.weaken Registry.Extends.succeeds).trans .trans settled⟩

theorem Step.cloned {before after : Holdings} (step : Step before after) (good : before.IsGood) {handle : Handle}
    (known : after.world.object? handle ≠ none) : after.HasClone handle := by
  obtain ⟨changed, change, rfl⟩ := step
  obtain ⟨still, -⟩ := change.keeps good
  refine Classical.byContradiction fun gone => known ?_
  exact (object?_settle still.orderly).2 (mt hasClone_settle.mpr gone)

theorem steps_keep {before after : Holdings} (steps : Relation.ReflTransGen Step before after) (good : before.IsGood) :
    after.IsGood ∧ before.world.Follows Registry.Succeeds after.world := by
  induction steps with
  | refl => exact ⟨good, .of_same (fun _ => (Registry.Extends.refl _).succeeds) rfl⟩
  | tail _ step ih =>
    obtain ⟨middle, early⟩ := ih
    obtain ⟨last, late⟩ := step.keeps middle
    exact ⟨last, early.trans .trans late⟩

theorem initial_isGood (host : Host) : IsGood ⟨.initial host, []⟩ := by
  refine ⟨fun context interpreter known => ?_, List.forall_mem_nil _, List.forall_mem_nil _⟩
  simp [World.initial, World.interpreter?] at known

theorem Reachable.isGood {holdings : Holdings} (reachable : holdings.Reachable) : holdings.IsGood := by
  obtain ⟨host, steps⟩ := reachable
  exact (steps_keep steps (initial_isGood host)).1

theorem Reachable.cloned {holdings : Holdings} (reachable : holdings.Reachable) {handle : Handle}
    (known : holdings.world.object? handle ≠ none) : holdings.HasClone handle := by
  obtain ⟨host, steps⟩ := reachable
  cases steps with
  | refl => exact absurd (by simp [World.object?, World.initial, World.interpreter?]) known
  | tail before step => exact step.cloned (steps_keep before (initial_isGood host)).1 known

/-- What was registered either keeps its object or is released for good, whatever its slot is used for then. -/
theorem steps_fade {first second third : Holdings} (good : first.IsGood) {handle : Handle} {raw : Script.Raw}
    (known : first.world.object? handle = some raw) (early : Relation.ReflTransGen Step first second)
    (late : Relation.ReflTransGen Step second third) :
    (second.world.object? handle = some raw ∨ second.world.object? handle = none) ∧
      (second.world.object? handle = none → third.world.object? handle = none) := by
  obtain ⟨middle, follows⟩ := steps_keep early good
  obtain ⟨-, later⟩ := steps_keep late middle
  obtain ⟨start, found, value⟩ := Option.bind_eq_some_iff.mp known
  -- Both numbers were given out before, so neither the context nor the registration can come back once it is gone.
  have numbered := (good.orderly _ _ found).valid.lt_next value
  have old := Nat.lt_of_lt_of_le (World.index_lt found) follows.size
  cases there : second.world.interpreter? handle.context with
  | none =>
    have closed := later.closed _ old there
    have gone : ∀ world : World, world.interpreter? handle.context = none → world.object? handle = none := by
      intro world none
      rw [World.object?, none, Option.bind_none]
    exact ⟨.inr (gone _ there), fun _ => gone _ closed⟩
  | some between =>
    have kept := follows.kept _ _ _ found there
    rw [World.object?, there]
    change (between.registry.value? _ = some raw ∨ between.registry.value? _ = none) ∧ (between.registry.value? _ = none → _)
    refine ⟨value ▸ kept.kept _ numbered, fun gone => ?_⟩
    rw [World.object?]
    cases last : third.world.interpreter? handle.context with
    | none => rfl
    | some final =>
      rcases (later.kept _ _ _ there last).kept _ (Nat.lt_of_lt_of_le numbered kept.next) with same | released
      · exact same.trans gone
      · exact released

theorem same_iff {first second : Value} {left right : Handle} (one : first.handle? = some left)
    (other : second.handle? = some right) :
    first.same second = true ↔ left.context = right.context ∧ first.object? = second.object? := by
  cases first <;> cases one <;> cases second <;> cases other <;>
    simp [Value.same, Value.object?, Handle.same]

/-- A move makes its handles for the objects that it takes. -/
theorem moved_for {α : Type} {runtime : Runtime} (retaining : runtime.code.IsRetaining) (orderly : world.IsOrderly)
    {context : ContextId} (move : Move α) {value : α}
    (ran : (Live.within context move.act).exec runtime world = some (.ok value, after)) : ∃ interpreter,
      world.interpreter? context = some interpreter ∧
        List.Forall₂ (fun raw made => ∀ handle, made.handle? = some handle → made.object? = some raw)
          (move.taken (world.scene context interpreter)) (move.given value) := by
  obtain ⟨-, ⟨⟩, -⟩ | ⟨interpreter, scene, known, performed, -⟩ := World.run_cases ran
  refine ⟨interpreter, known, (move.shows retaining (orderly context interpreter known) performed).imp ?_⟩
  intro raw made shown handle is
  cases shown with
  | table table _ object | function function _ object => rw [Value.object?, object]
  | nil | boolean _ | integer _ | number _ | string _ => cases is

end Holdings

/-- A handle denotes the object that it was made for as long as its context is open and a clone of it is left,
whatever becomes of other handles and of the slots of the registry. Its registration is released when its last
clone goes, and never again. Handles are equal if they are of one context and for one object. Nothing is left
of handles whose context was closed or reloaded. -/
theorem handle_lifetime {holdings : Holdings} (reachable : holdings.Reachable) :
    (∀ {α : Type} (move : Move α) (runtime : Runtime), runtime.code.IsRetaining → ∀ context value after,
      (Live.within context move.act).exec runtime holdings.world = some (.ok value, after) → ∃ interpreter,
        holdings.world.interpreter? context = some interpreter ∧
          List.Forall₂ (fun raw made => ∀ handle, made.handle? = some handle → made.object? = some raw)
            (move.taken (holdings.world.scene context interpreter)) (move.given value)) ∧
    (∀ value ∈ holdings.held, ∀ handle, value.handle? = some handle → holdings.world.isOpen handle.context = true →
      holdings.world.object? handle = value.object?) ∧
    (∀ handle, holdings.world.object? handle ≠ none → holdings.HasClone handle) ∧
    (∀ next, holdings.Step next → ∀ handle raw, holdings.world.object? handle = some raw →
      next.world.isOpen handle.context = true →
      (next.HasClone handle → next.world.object? handle = some raw) ∧
        (¬ next.HasClone handle → next.world.object? handle = none)) ∧
    (∀ later last, Relation.ReflTransGen Holdings.Step holdings later → Relation.ReflTransGen Holdings.Step later last →
      ∀ handle raw, holdings.world.object? handle = some raw →
        (later.world.object? handle = some raw ∨ later.world.object? handle = none) ∧
          (later.world.object? handle = none → last.world.object? handle = none)) ∧
    (∀ first ∈ holdings.held, ∀ second ∈ holdings.held, ∀ left right, first.handle? = some left →
      second.handle? = some right → holdings.world.isOpen left.context = true → holdings.world.isOpen right.context = true →
      (first.same second = true ↔
        left.context = right.context ∧ holdings.world.object? left = holdings.world.object? right)) ∧
    (∀ first second left right, Value.handle? first = some left → Value.handle? second = some right →
      left.context ≠ right.context → first.same second = false) ∧
    (∀ context, (holdings.world.closeContext context).isOpen context = false) ∧
    (∀ (runtime : Runtime) (engine : Engine) file result after, holdings.world.isOpen engine.context = true →
      (engine.reload file).exec runtime holdings.world = some (result, after) → after.isOpen engine.context = false) ∧
    ∀ context : ContextId, context.index < holdings.world.contexts.size → holdings.world.isOpen context = false →
      ∀ later, Relation.ReflTransGen Holdings.Step holdings later → later.world.isOpen context = false ∧
        ∀ {α : Type} (act : Act α) (runtime : Runtime),
          later.world.run context act runtime = some (.error .stale, later.world) := by
  have good := reachable.isGood
  refine ⟨fun move runtime retaining context value after => Holdings.moved_for retaining good.orderly move,
    good.resolves, fun handle => reachable.cloned, fun next step handle raw known stays => step.object? good known stays,
    fun later last early late handle raw known => Holdings.steps_fade good known early late, ?_, ?_, ?_, ?_, ?_⟩
  · intro first owned second owned' left right one other here there
    rw [good.resolves first owned left one here, good.resolves second owned' right other there]
    exact Holdings.same_iff one other
  · intro first second left right one other apart
    exact Bool.eq_false_iff.mpr fun same => apart ((Holdings.same_iff one other).mp same).1
  · intro context
    rw [World.isOpen, World.interpreter?_closeContext, if_pos rfl]
    rfl
  · intro runtime engine file result after here ran
    rw [World.isOpen, (Engine.reload_renews (World.index_lt_of_isOpen here) ran).2]
    rfl
  · intro context old closed later steps
    obtain ⟨-, follows⟩ := Holdings.steps_keep steps good
    have gone : later.world.interpreter? context = none :=
      follows.closed context old (Option.isNone_iff_eq_none.mp (Option.isSome_eq_false_iff.mp closed))
    refine ⟨?_, fun act runtime => World.run_closed gone⟩
    rw [World.isOpen, gone]
    rfl

/-- A table whose handle was cloned and dropped once is still there. -/
theorem handle_lifetime_dropped : ∃ (holdings : Holdings) (handle : Handle), holdings.Reachable ∧
    holdings.held = [.table handle] ∧ holdings.world.object? handle = some (.table ⟨handle.object⟩) := by
  let opened : Holdings := Holdings.settle ⟨(World.initial .blank).openContext.2, []⟩
  let interpreter := World.retained (World.initial .blank).openContext.2 [] ⟨0⟩ .initial
  have known : opened.world.interpreter? ⟨0⟩ = some interpreter := World.interpreter?_collect _ _ _
  let made := (opened.world.scene ⟨0⟩ interpreter).answer (.heap (.newTable 0 0))
  let handle := made.2.nextHandle made.1.index
  let left := made.2.register (.table made.1)
  have ran : (Use.within ⟨0⟩ .newTable).live.exec (.plain 0) opened.world = some (.ok handle, opened.world.leave ⟨0⟩ left) := by
    change opened.world.run ⟨0⟩ Table.create (.plain 0) = _
    rw [World.run_open known, Table.exec_create]
    rfl
  let given : Holdings := Holdings.settle ⟨opened.world.leave ⟨0⟩ left, [.table handle]⟩
  let cloned : Holdings := Holdings.settle ⟨given.world, [.table handle, .table handle]⟩
  let dropped : Holdings := Holdings.settle ⟨cloned.world, [.table handle, .table handle].erase (.table handle)⟩
  have retaining : (Runtime.plain 0).code.IsRetaining := fun _ _ _ => .pure _
  have first : Holdings.Step ⟨.initial .blank, []⟩ opened := ⟨_, .opened, rfl⟩
  have second : opened.Step given := ⟨_, .use (.plain 0) retaining (.within ⟨0⟩ .newTable) ran, rfl⟩
  have third : given.Step cloned := ⟨_, .clone (.table handle) List.mem_cons_self, rfl⟩
  have fourth : cloned.Step dropped := ⟨_, .drop (.table handle), rfl⟩
  have reachable : dropped.Reachable := ⟨.blank, .tail (.tail (.tail (.single first) second) third) fourth⟩
  have stays : dropped.world.isOpen handle.context = true := by
    change (World.collect (World.collect (World.collect (opened.world.leave ⟨0⟩ left) _) _) _).isOpen ⟨0⟩ = true
    rw [World.isOpen_collect, World.isOpen_collect, World.isOpen_collect, World.isOpen, World.interpreter?_leave left _ known]
    rfl
  have held : dropped.held = [.table handle] := by
    change [Value.table handle, .table handle].erase (.table handle) = _
    exact List.erase_cons_head _ _
  exact ⟨dropped, handle, reachable, held,
    (handle_lifetime reachable).2.1 (.table handle) (held ▸ List.mem_cons_self) handle rfl stays⟩

end TileScript
