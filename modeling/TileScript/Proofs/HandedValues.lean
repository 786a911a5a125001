import TileScript.Proofs.Undisturbed
import TileScript.Proofs.WholeNumbers

/-! Values that go over to scripts are the same ones when they come back, however much later. Numbers are
compared as numbers, and tables and functions by what they are. -/

namespace TileScript.Double

/-- A double that scripts get as an integer comes back as the same number. -/
theorem equals_toDouble {d : Double} {n : Int} (known : d.toInteger? = some n) :
    d.equals (Integer.toDouble (Int64.ofInt n)) = true := by
  have fits : minInteger ≤ n ∧ n ≤ maxInteger := by
    rw [toInteger?] at known
    split at known
    next inside =>
      cases known
      simp only [Bool.and_eq_true, decide_eq_true_eq] at inside
      exact ⟨inside.1.2, inside.2⟩
    next => cases known
  have lower : Int64.minValue.toInt ≤ n := fits.1
  have upper : n ≤ Int64.maxValue.toInt := fits.2
  rw [Integer.toDouble, Int64.toInt_ofInt_of_le lower (Int.lt_of_le_of_lt upper (by decide))]
  exact equals_ofInt known

end TileScript.Double

namespace TileScript.Bridge
open Script Attempt

variable {runner : Runner} {site : Site} {scene : Scene} {α β ε δ : Type}

/-- NaN, which is not equal to itself. -/
def Value.isNaN : Value → Bool
  | .number value => value.isNaN
  | _ => false

/-- What a value has become is equal to it; what NaN has become is NaN. -/
def Value.Crosses (given seen : Value) : Prop := if given.isNaN then seen.isNaN else given.same seen

namespace Scene

/-- The object of a handle is the one that its pin keeps. -/
def Holds (scene : Scene) : Value → Prop
  | .table handle => ∃ table, scene.resolve handle = .ok (.table table) ∧ handle.object = table.index
  | .function handle => ∃ function, scene.resolve handle = .ok (.function function) ∧ handle.object = function.index
  | .number _ | .string _ | .boolean _ | .nil => True

/-- A value is received as one that is equal to it and denotes the same object. -/
def Receives (later : Scene) (given seen : Value) : Prop := given.Crosses seen ∧ later.Holds seen

theorem Shows.holds {raw : Raw} {value : Value} (shown : scene.Shows raw value) : scene.Holds value := by
  cases shown with
  | table table found object => exact ⟨table, found, object⟩
  | function function found object => exact ⟨function, found, object⟩
  | nil | boolean _ | integer _ | number _ | string _ => trivial

theorem Grows.holds {before after : Scene} (grows : before.Grows after) {value : Value} (held : before.Holds value) :
    after.Holds value := by
  cases value with
  | table handle =>
    obtain ⟨table, found, object⟩ := held
    exact ⟨table, grows.resolve found, object⟩
  | function handle =>
    obtain ⟨function, found, object⟩ := held
    exact ⟨function, grows.resolve found, object⟩
  | number _ | string _ | boolean _ | nil => trivial

/-- What stands for a value on the side of scripts. -/
structure Stages (scene : Scene) (given : Value) (raw : Raw) : Prop where
  held : scene.Holds given
  staged : scene.rawOf given = .ok raw

theorem Grows.stages {before after : Scene} (grows : before.Grows after) {given : Value} {raw : Raw}
    (stages : before.Stages given raw) : after.Stages given raw := ⟨grows.holds stages.held, grows.rawOf stages.staged⟩

theorem Holds.stages {given : Value} (held : scene.Holds given) : ∃ raw, scene.Stages given raw := by
  cases given with
  | table handle =>
    obtain ⟨table, found, -⟩ := id held
    exact ⟨.table table, held, found⟩
  | function handle =>
    obtain ⟨function, found, -⟩ := id held
    exact ⟨.function function, held, found⟩
  | number _ | string _ | boolean _ | nil => exact ⟨_, held, rfl⟩

theorem stages_all {given : List Value} (held : ∀ value ∈ given, scene.Holds value) :
    ∃ raws, List.Forall₂ scene.Stages given raws := by
  induction given with
  | nil => exact ⟨[], .nil⟩
  | cons value rest ih =>
    obtain ⟨raw, staged⟩ := (held value List.mem_cons_self).stages
    obtain ⟨raws, others⟩ := ih fun other listed => held other (List.mem_cons_of_mem _ listed)
    exact ⟨raw :: raws, .cons staged others⟩

theorem Stages.kind {given : Value} {raw : Raw} (stages : scene.Stages given raw) : ∃ kind, kindOf raw = .ok kind := by
  obtain ⟨held, staged⟩ := stages
  cases given with
  | table handle =>
    obtain ⟨table, found, -⟩ := held
    cases found.symm.trans staged
    exact ⟨_, rfl⟩
  | function handle =>
    obtain ⟨function, found, -⟩ := held
    cases found.symm.trans staged
    exact ⟨_, rfl⟩
  | number value =>
    cases staged
    rw [ofDouble]
    split <;> exact ⟨_, rfl⟩
  | string _ | boolean _ | nil =>
    cases staged
    exact ⟨_, rfl⟩

theorem stages_kinds {given : List Value} {raws : List Raw} (staged : List.Forall₂ scene.Stages given raws) :
    ∀ raw ∈ raws, ∃ kind, kindOf raw = .ok kind := by
  induction staged with
  | nil => simp
  | cons first _ ih => exact List.forall_mem_cons.mpr ⟨first.kind, ih⟩

/-- A number comes back as an equal one, even if scripts have it as an integer. -/
theorem Shows.crosses_number {value : Double} {seen : Value} (shown : scene.Shows (ofDouble value) seen) :
    (Value.number value).Crosses seen := by
  rw [ofDouble] at shown
  cases whole : value.toInteger? with
  | some n =>
    rw [whole] at shown
    cases shown
    have equal := Double.equals_toDouble whole
    have number : value.isNaN = false := by
      rw [Double.equals, Bool.and_eq_true, Bool.and_eq_true, Bool.not_eq_true'] at equal
      exact equal.1.1
    rwa [Value.Crosses, Value.isNaN, number]
  | none =>
    rw [whole] at shown
    cases shown
    cases number : value.isNaN with
    | true =>
      rw [Value.Crosses, Value.isNaN, number]
      rfl
    | false =>
      rw [Value.Crosses, Value.isNaN, number]
      exact Double.equals_of_same number number rfl

/-- The pin of the new handle is another one, but the object is the same. -/
theorem Stages.crosses {given seen : Value} {raw : Raw} (stages : scene.Stages given raw) {later : Scene}
    (context : later.context = scene.context) (shown : later.Shows raw seen) : given.Crosses seen := by
  have same : ∀ {given seen : Handle} {value other : Raw}, scene.resolve given = .ok value → later.resolve seen = .ok other →
      given.object = seen.object → given.same seen = true := by
    intro given seen value other here there object
    rw [Handle.same, (resolve_ok.mp here).1, (resolve_ok.mp there).1, context, object]
    simp
  obtain ⟨held, staged⟩ := stages
  cases given with
  | table handle =>
    obtain ⟨table, found, object⟩ := held
    cases found.symm.trans staged
    cases shown with
    | table _ again other => exact same found again (object.trans other.symm)
  | function handle =>
    obtain ⟨function, found, object⟩ := held
    cases found.symm.trans staged
    cases shown with
    | function _ again other => exact same found again (object.trans other.symm)
  | number value =>
    cases staged
    exact shown.crosses_number
  | string text =>
    cases staged
    cases shown
    exact beq_iff_eq.mpr (Utf8.decode_toUTF8 text).symm
  | boolean _ | nil =>
    cases staged
    cases shown
    simp [Value.Crosses, Value.isNaN, Value.same]

theorem Stages.receives {given seen : Value} {raw : Raw} (stages : scene.Stages given raw) {later : Scene}
    (context : later.context = scene.context) (shown : later.Shows raw seen) : later.Receives given seen :=
  ⟨stages.crosses context shown, shown.holds⟩

theorem stages_receives {given seen : List Value} {raws : List Raw} (staged : List.Forall₂ scene.Stages given raws)
    {later : Scene} (context : later.context = scene.context) (shown : List.Forall₂ later.Shows raws seen) :
    List.Forall₂ later.Receives given seen := by
  induction staged generalizing seen with
  | nil =>
    cases shown
    exact .nil
  | cons first _ ih =>
    cases shown with
    | cons second others => exact .cons (first.receives context second) (ih others)

/-- The same context, later. Nothing but registrations and numbers is new. -/
structure Spares (before after : Scene) : Prop where
  heap : ∃ numbers, after.interpreter.heap = { before.interpreter.heap with numbers := numbers }
  stack : after.stack = before.stack
  manager : after.manager = before.manager
  trace : after.trace = before.trace
  grows : before.Grows after
  registry : after.interpreter.registry.Valid

namespace Spares

theorem refl (valid : scene.interpreter.registry.Valid) : scene.Spares scene :=
  ⟨⟨_, rfl⟩, rfl, rfl, rfl, .refl scene, valid⟩

theorem trans {first second third : Scene} (early : first.Spares second) (late : second.Spares third) :
    first.Spares third := by
  obtain ⟨_, before⟩ := early.heap
  obtain ⟨numbers, after⟩ := late.heap
  exact ⟨⟨numbers, by rw [after, before]⟩, late.stack.trans early.stack, late.manager.trans early.manager,
    late.trace.trans early.trace, early.grows.trans late.grows, late.registry⟩

theorem register (valid : scene.interpreter.registry.Valid) (value : Raw) : scene.Spares (scene.register value) :=
  ⟨⟨_, rfl⟩, rfl, rfl, rfl, .register valid value, valid.register value⟩

theorem setStack {before after : Scene} (spares : before.Spares after) (values : List Raw) :
    (before.setStack values).Spares (after.setStack values) :=
  ⟨spares.heap, rfl, spares.manager, spares.trace, ⟨spares.grows.context, spares.grows.registered⟩, spares.registry⟩

end Spares
end Scene

/-! ### Attempts that succeed -/

namespace Attempt

/-- An attempt that gives something, and leaves all but registrations as it was. -/
def Gives (attempt : Attempt ε α) (runner : Runner) (site : Site) (scene : Scene) (post : α → Scene → Prop) : Prop :=
  ∃ value after, attempt.exec runner site scene = some (.ok value, after) ∧ scene.Spares after ∧ post value after

variable {attempt : Attempt ε α} {next : α → Attempt ε β} {middle : α → Scene → Prop} {post : β → Scene → Prop}

theorem gives_pure (valid : scene.interpreter.registry.Valid) {value : α} {post : α → Scene → Prop}
    (known : post value scene) : (pure value : Attempt ε α).Gives runner site scene post :=
  ⟨value, scene, rfl, .refl valid, known⟩

theorem Gives.weaken {first second : α → Scene → Prop} (gives : attempt.Gives runner site scene first)
    (implies : ∀ value after, scene.Spares after → first value after → second value after) :
    attempt.Gives runner site scene second := by
  obtain ⟨value, after, ran, spares, known⟩ := gives
  exact ⟨value, after, ran, spares, implies value after spares known⟩

theorem Gives.bind (first : attempt.Gives runner site scene middle)
    (second : ∀ value between, scene.Spares between → middle value between →
      (next value).Gives runner site between post) : (attempt >>= next).Gives runner site scene post := by
  obtain ⟨value, between, early, spares, known⟩ := first
  obtain ⟨last, after, late, later, reached⟩ := second value between spares known
  exact ⟨last, after, (exec_bind_ok early next).trans late, spares.trans later, reached⟩

end Attempt

namespace Act

theorem gives_pin (valid : scene.interpreter.registry.Valid) (value : Raw) (object : Nat) :
    (pin value object).Gives runner site scene fun handle after =>
      after.resolve handle = .ok value ∧ handle.object = object :=
  ⟨_, _, exec_pin value object, .register valid value, Scene.resolve_register valid value object, rfl⟩

theorem gives_ofRaw (valid : scene.interpreter.registry.Valid) {raw : Raw} {kind : Kind} (known : kindOf raw = .ok kind) :
    (ofRaw raw).Gives runner site scene fun value after => after.Shows raw value := by
  cases raw with
  | nil => exact gives_pure valid .nil
  | boolean value => exact gives_pure valid (.boolean value)
  | integer value => exact gives_pure valid (.integer value)
  | number value => exact gives_pure valid (.number value)
  | string bytes => exact gives_pure valid (.string bytes)
  | table table =>
    refine (gives_pin valid (.table table) table.index).bind fun handle between spares known => ?_
    exact gives_pure spares.registry (.table table known.1 known.2)
  | function function =>
    refine (gives_pin valid (.function function) function.index).bind fun handle between spares known => ?_
    exact gives_pure spares.registry (.function function known.1 known.2)
  | thread _ | file | failure _ _ => cases known

end Act

namespace Arguments

variable {arguments : Arguments} {given : List Value}

/-- Where an argument is: counted from the first one, or back from the last one. -/
theorem exec_raw_at {place : Nat} {raw : Raw} (known : arguments[place]? = some raw) {index : Int}
    (there : index = place + 1 ∨ index = place - arguments.length) :
    exec runner (arguments.raw index) site scene = some (.ok raw, scene) := by
  have inside : place < arguments.length := (List.getElem?_eq_some_iff.mp known).1
  rcases there with rfl | rfl
  · exact exec_raw known
  · have found : arguments.length - (-((place : Int) - arguments.length)).toNat = place := by omega
    have negative : ((place : Int) - arguments.length < 0 && -((place : Int) - arguments.length) ≤ arguments.length) = true := by
      rw [Bool.and_eq_true, decide_eq_true_eq, decide_eq_true_eq]
      omega
    rw [Arguments.raw, if_neg (by omega), if_pos negative, Option.bind_some, found, known]
    rfl

/-- Arguments are what was given, in the order given, from wherever they are counted and however late they are
looked at. -/
structure Match (arguments : Arguments) (given : List Value) (context : ContextId) : Prop where
  count : arguments.length = given.length
  value : ∀ (runner : Runner) (site : Site) (later : Scene), later.context = context → later.interpreter.registry.Valid →
    ∀ (place : Nat) (value : Value), given[place]? = some value →
    ∀ index : Int, index = place + 1 ∨ index = place - given.length →
      (arguments.value index).Gives runner site later fun seen after => after.Receives value seen
  collect : ∀ (runner : Runner) (site : Site) (later : Scene), later.context = context →
    later.interpreter.registry.Valid →
      arguments.collect.Gives runner site later fun seen after => List.Forall₂ after.Receives given seen

theorem gives_collect (staged : List.Forall₂ scene.Stages given arguments) {later : Scene}
    (valid : later.interpreter.registry.Valid) :
    arguments.collect.Gives runner site later fun seen after => List.Forall₂ after.Shows arguments seen := by
  induction staged generalizing later with
  | nil => exact gives_pure valid .nil
  | cons first _ ih =>
    obtain ⟨kind, known⟩ := first.kind
    refine (Act.gives_ofRaw valid known).bind fun value between spares shown => ?_
    refine (ih spares.registry).bind fun values after still others => ?_
    exact gives_pure still.registry (.cons (still.grows.shows shown) others)

theorem matches_staged (staged : List.Forall₂ scene.Stages given arguments) : arguments.Match given scene.context where
  count := staged.length_eq.symm
  value := by
    intro runner site later context valid place value known index there
    obtain ⟨inside, rfl⟩ := List.getElem?_eq_some_iff.mp known
    have reached : place < arguments.length := staged.length_eq ▸ inside
    have stages : scene.Stages given[place] arguments[place] := staged.get inside reached
    obtain ⟨kind, shape⟩ := stages.kind
    obtain ⟨seen, after, ran, spares, shown⟩ : (Act.ofRaw arguments[place]).Gives runner site later _ :=
      Act.gives_ofRaw valid shape
    refine ⟨seen, after, ?_, spares, stages.receives (spares.grows.context.trans context) shown⟩
    exact (exec_bind_ok (exec_raw_at (List.getElem?_eq_getElem reached) (staged.length_eq ▸ there)) _).trans ran
  collect := by
    intro runner site later context valid
    exact (gives_collect staged valid).weaken fun seen after spares shown =>
      Scene.stages_receives staged (spares.grows.context.trans context) shown

end Arguments
end TileScript.Bridge
