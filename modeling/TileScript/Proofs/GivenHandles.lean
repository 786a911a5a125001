import TileScript.Proofs.HandedValues
import TileScript.Proofs.Retention

/-! The handles that the host is given denote the objects they were made for. -/

namespace TileScript.Bridge
open Script Attempt

variable {runtime : Runtime} {α β ε δ : Type}

/-- Every request leaves the registry in order. -/
theorem Scene.orderly_conserved :
    Conserved fun before after => before.interpreter.registry.Orderly → after.interpreter.registry.Orderly where
  refl _ := id
  trans early late := late ∘ early
  request request scene orderly := by
    cases request with
    | register value => exact orderly.register value
    | release registration => exact (orderly.release registration).1
    | heap _ | takeLost | newNative _ | newChunk _ | function _ | context | stack | setStack _ | registered _ | host
    | runCommand _ _ | change _ | note _ _ => exact orderly

namespace Attempt

/-- What an attempt gives is good where it ends. -/
def Produces (runtime : Runtime) (attempt : Attempt ε α) (good : α → Scene → Prop) : Prop :=
  ∀ site scene value after, scene.interpreter.registry.Orderly →
    attempt.exec runtime.perform site scene = some (.ok value, after) → good value after

variable {attempt : Attempt ε α} {next : α → Attempt ε β} {good : β → Scene → Prop}

theorem produces_pure {value : β} (known : ∀ scene, good value scene) : Produces runtime (pure value : Attempt ε β) good := by
  intro site scene result after _ ran
  cases ran
  exact known scene

theorem produces_throw (error : ε) : Produces runtime (throw error : Attempt ε β) good := by
  intro site scene result after _ ran
  cases ran

/-- What succeeds as a whole succeeds in both parts. -/
theorem bind_ok {runner : Runner} {site : Site} {scene after : Scene} {result : β}
    (ran : (attempt >>= next).exec runner site scene = some (.ok result, after)) : ∃ value between,
      attempt.exec runner site scene = some (.ok value, between) ∧
        (next value).exec runner site between = some (.ok result, after) := by
  rw [exec_bind, Option.bind_eq_some_iff] at ran
  obtain ⟨⟨middle, between⟩, early, late⟩ := ran
  cases middle with
  | ok value => exact ⟨value, between, early, late⟩
  | error error => cases late

theorem exec_orderly {site : Site} {scene after : Scene} {result : Except ε α} (orderly : scene.interpreter.registry.Orderly)
    (ran : attempt.exec runtime.perform site scene = some (result, after)) : after.interpreter.registry.Orderly :=
  Scene.orderly_conserved.interpret Scene.orderly_conserved.perform ran orderly

theorem produces_bind (last : ∀ value, Produces runtime (next value) good) : Produces runtime (attempt >>= next) good := by
  intro site scene result after orderly ran
  obtain ⟨value, between, early, late⟩ := bind_ok ran
  exact last value site between result after (exec_orderly orderly early) late

theorem Produces.map {first : α → Scene → Prop} (produces : Produces runtime attempt first) {change : α → β}
    (implies : ∀ value scene, first value scene → good (change value) scene) :
    Produces runtime (attempt >>= fun value => pure (change value)) good := by
  intro site scene result after orderly ran
  obtain ⟨value, between, early, late⟩ := bind_ok ran
  cases late
  exact implies value after (produces site scene value after orderly early)

theorem Produces.framed {act : Act α} {good : α → Scene → Prop} (produces : Produces runtime act good)
    (stable : ∀ value scene stack, good value scene → good value (scene.setStack stack)) :
    Produces runtime (Stack.framed act) good := by
  intro site scene value after orderly ran
  rw [Stack.exec_framed, Option.map_eq_some_iff] at ran
  obtain ⟨⟨result, between⟩, ran, ⟨⟩⟩ := ran
  exact stable value between _ (produces site scene value between orderly ran)

end Attempt

theorem Custody.registrations_grows {before after : Scene} (orderly : before.interpreter.registry.Orderly)
    (grows : Custody.registrations.grows before after) : before.Grows after :=
  ⟨grows.1, fun _ _ known => (grows.2.same _ (orderly.valid.lt_next known)).trans known⟩

/-- The object that a handle was made for. -/
def Value.object? : Value → Option Raw
  | .table handle => some (.table ⟨handle.object⟩)
  | .function handle => some (.function ⟨handle.object⟩)
  | .number _ | .string _ | .boolean _ | .nil => none

theorem Value.object?_of_handle {value : Value} {handle : Handle} (is : value.handle? = some handle) :
    ∃ raw, value.object? = some raw := by
  cases value with
  | table _ | function _ => exact ⟨_, rfl⟩
  | number _ | string _ | boolean _ | nil => cases is

theorem Scene.registered_of_holds {scene : Scene} {value : Value} (held : scene.Holds value) {handle : Handle}
    (is : value.handle? = some handle) :
    handle.context = scene.context ∧ scene.registered handle.pin.registration = value.object? := by
  cases value with
  | table handle =>
    cases is
    obtain ⟨table, found, object⟩ := held
    obtain ⟨here, registered⟩ := Scene.resolve_ok.mp found
    exact ⟨here, registered.trans (by rw [Value.object?, object])⟩
  | function handle =>
    cases is
    obtain ⟨function, found, object⟩ := held
    obtain ⟨here, registered⟩ := Scene.resolve_ok.mp found
    exact ⟨here, registered.trans (by rw [Value.object?, object])⟩
  | number _ | string _ | boolean _ | nil => cases is

def Scene.HoldsAll (scene : Scene) (values : List Value) : Prop := ∀ value ∈ values, scene.Holds value

namespace Act

theorem produces_pin (value : Raw) (object : Nat) : Produces runtime (pin value object) fun handle after =>
    after.resolve handle = .ok value ∧ handle.object = object := by
  intro site scene handle after orderly ran
  rw [exec_pin] at ran
  cases ran
  exact ⟨Scene.resolve_register orderly.valid value object, rfl⟩

theorem produces_ofRaw (raw : Raw) : Produces runtime (ofRaw raw) fun value after => after.Shows raw value := by
  cases raw with
  | nil => exact produces_pure fun _ => .nil
  | boolean value => exact produces_pure fun _ => .boolean value
  | integer value => exact produces_pure fun _ => .integer value
  | number value => exact produces_pure fun _ => .number value
  | string bytes => exact produces_pure fun _ => .string bytes
  | table table => exact (produces_pin _ _).map fun _ _ known => .table table known.1 known.2
  | function function => exact (produces_pin _ _).map fun _ _ known => .function function known.1 known.2
  | thread _ | file | failure _ _ => exact produces_throw _

theorem produces_value (raw : Raw) : Produces runtime (ofRaw raw) fun value after => after.Holds value :=
  fun site scene value after orderly ran => (produces_ofRaw raw site scene value after orderly ran).holds

end Act

/-! ### Tables, functions and globals -/

open Act Stack

namespace Table

theorem produces_pinned (table : TableRef) :
    Produces runtime (pin (.table table) table.index) fun handle after => after.Holds (.table handle) :=
  fun site scene handle after orderly ran => ⟨table, produces_pin _ _ site scene handle after orderly ran⟩

theorem produces_ofTop : Produces runtime ofTop fun handle after => after.Holds (.table handle) := by
  refine produces_bind fun actual => ?_
  split
  · exact produces_throw _
  · refine produces_bind fun value => ?_
    split
    next table => exact produces_pinned table
    next => exact produces_throw _

theorem produces_pop : Produces runtime pop fun value after => after.Holds value := produces_bind produces_value

theorem produces_get (table : Handle) (key : Value) : Produces runtime (get table key) fun value after => after.Holds value := by
  refine Produces.framed ?_ fun _ _ _ => id
  exact produces_bind fun _ => produces_bind fun _ => produces_bind fun _ => produces_pop

theorem produces_getField (table : Handle) (name : String) :
    Produces runtime (getField table name) fun value after => after.Holds value := by
  refine Produces.framed ?_ fun _ _ _ => id
  exact produces_bind fun _ => produces_bind fun _ => produces_pop

end Table

namespace Function

theorem produces_ofTop : Produces runtime ofTop fun handle after => after.Holds (.function handle) := by
  refine produces_bind fun actual => ?_
  split
  · exact produces_throw _
  · refine produces_bind fun value => ?_
    split
    next function =>
      exact fun site scene handle after orderly ran => ⟨function, produces_pin _ _ site scene handle after orderly ran⟩
    next => exact produces_throw _

theorem produces_ofNative (native : Native) :
    Produces runtime (ofNative native) fun handle after => after.Holds (.function handle) :=
  produces_bind fun _ => produces_bind fun _ => produces_ofTop

theorem produces_ofChunk (name text : String) :
    Produces runtime (ofChunk name text) fun handle after => after.Holds (.function handle) := by
  unfold ofChunk
  split
  · exact produces_throw _
  · exact produces_bind fun _ => produces_bind fun _ => produces_ofTop

end Function

/-! ### Lists of values -/

section Lists

variable (retaining : runtime.code.IsRetaining)
include retaining

theorem Attempt.Produces.cons {first : Attempt ε Value} {others : Attempt ε (List Value)}
    (one : Produces runtime first fun value after => after.Holds value)
    (rest : Produces runtime others fun values after => after.HoldsAll values)
    (neutral : (runtime.registrations retaining).Neutral others) :
    Produces runtime (first >>= fun value => others >>= fun values => pure (value :: values)) fun values after =>
      after.HoldsAll values := by
  intro site scene values after orderly ran
  obtain ⟨value, between, early, ran⟩ := bind_ok ran
  obtain ⟨tail, last, late, ran⟩ := bind_ok ran
  cases ran
  have still : between.interpreter.registry.Orderly := exec_orderly orderly early
  -- The first value was given in an earlier scene, and means the same in the last one.
  have grows : Custody.registrations.grows between after := (neutral site between _ after still late).1.2
  exact List.forall_mem_cons.mpr ⟨(Custody.registrations_grows still grows).holds (one site scene value between orderly early),
    rest site between tail after still late⟩

theorem Function.produces_readResults (depth : Nat) :
    Produces runtime (readResults depth) fun values after => after.HoldsAll values := by
  induction depth with
  | zero => exact produces_pure fun _ => List.forall_mem_nil _
  | succ depth ih =>
    have read : Produces runtime (readAt (-(depth + 1))) fun value after => after.Holds value := produces_bind produces_value
    exact read.cons retaining ih (StackLogic.neutral_readResults depth)

theorem Function.produces_takeResults (before : Nat) : Produces runtime (takeResults before) fun result after =>
    ∀ values, result.values = .ok values → after.HoldsAll values := by
  refine produces_bind fun now => ?_
  split
  · refine produces_pure fun scene values same => ?_
    cases same
    exact List.forall_mem_nil _
  · refine Table.produces_pop.map fun value scene held values same => ?_
    cases same
    exact List.forall_mem_singleton.mpr held
  next count _ _ =>
    intro site scene result after orderly ran
    obtain ⟨observed, read, looked, ran⟩ := bind_ok ran
    obtain ⟨_, dropped, removed, ran⟩ := bind_ok ran
    obtain ⟨values, _, settled, ran⟩ := bind_ok ran
    cases ran
    cases settled
    rw [exec_observe, Option.map_eq_some_iff] at looked
    obtain ⟨⟨_, _⟩, looked, ⟨⟩⟩ := looked
    -- The values are taken off the stack after they were read, which leaves their registrations alone.
    have still : read.interpreter.registry.Orderly := exec_orderly orderly looked
    have leaves : (runtime.registrations retaining).Leaves (remove (now - before)) _ := StackLogic.remove_leaves _
    have grows : Custody.registrations.grows read after := (leaves site read _ after still removed).1.2
    rintro _ ⟨⟩ value listed
    exact (Custody.registrations_grows still grows).holds
      (produces_readResults retaining _ site scene values read orderly looked value listed)

theorem Function.produces_call (function : Handle) (arguments : List Value) :
    Produces runtime (Function.call function arguments) fun result after =>
      ∀ values, result.values = .ok values → after.HoldsAll values := by
  refine produces_bind fun before => produces_bind fun returned => ?_
  split
  · exact produces_takeResults retaining before
  · refine produces_bind fun value => ?_
    split <;> exact produces_pure fun scene values same => by cases same

end Lists

theorem Global.produces_get (name : String) : Produces runtime (Global.get name) fun value after => after.Holds value :=
  produces_bind fun _ => produces_bind fun _ => Table.produces_pop

/-! ### What the host is given -/

/-- The values that the host is given by an operation. -/
def Operation.given {α : Type} : Operation α → α → List Value
  | .load _ _, function => [.function function]
  | .loadFile _ _, function => [.function function]
  | .createFunction _, function => [.function function]
  | .newTable, table => [.table table]
  | .getGlobal _, value => [value]
  | .get _ _, value => [value]
  | .getField _ _, value => [value]
  | .call _ _, result => result.values.toOption.getD []
  | _, _ => []

/-- The values that the host is given by a move. -/
def Move.given {α : Type} : Move α → α → List Value
  | .pop, value => [value]
  | .readAt _, value => [value]
  | .argument _ _, value => [value]
  | .popTable, table => [.table table]
  | .tableAt _, table => [.table table]
  | .popFunction, function => [.function function]
  | .collect _, values => values
  | .push _, _ | .remove _, _ => []

/-! ### What a move takes -/

/-- The staged value at a place, if it is in range. -/
def Scene.staged? (scene : Scene) (index : Int) : Option Raw :=
  (above? index scene.stack.length).bind (scene.stack[·]?)

/-- The argument at a place, if there is one. -/
def Arguments.raw? (arguments : Arguments) (index : Int) : Option Raw :=
  (if 0 < index then some (index.toNat - 1)
    else if index < 0 && -index ≤ arguments.length then some (arguments.length - (-index).toNat)
    else none).bind (arguments[·]?)

/-- The values that a move makes values of the host of. -/
def Move.taken {α : Type} (scene : Scene) : Move α → List Raw
  | .pop => scene.stack.take 1
  | .readAt index => (scene.staged? index).toList
  | .argument arguments index => (arguments.raw? index).toList
  | .popTable => scene.stack.take 1
  | .tableAt index => (scene.staged? index).toList
  | .popFunction => scene.stack.take 1
  | .collect arguments => arguments
  | .push _ | .remove _ => []

section Taken

variable {runner : Runner} {site : Site} {scene after : Scene} {raw : Raw}

theorem Stack.popRaw_ok (ran : popRaw.exec runner site scene = some (.ok raw, after)) : scene.stack.take 1 = [raw] := by
  cases staged : scene.stack with
  | nil =>
    rw [popRaw, exec_bind, exec_ask, Scene.answer_stack, staged] at ran
    cases ran
  | cons top rest =>
    cases (exec_popRaw staged).symm.trans ran
    rfl

theorem Stack.rawAt_ok {index : Int} (ran : (rawAt index).exec runner site scene = some (.ok raw, after)) :
    scene.staged? index = some raw ∧ after = scene := by
  rw [rawAt, exec_bind, exec_ask, Scene.answer_stack, Option.bind_some] at ran
  cases found : scene.staged? index with
  | none =>
    rw [Scene.staged?] at found
    simp only [found] at ran
    cases ran
  | some there =>
    rw [Scene.staged?] at found
    simp only [found] at ran
    cases ran
    exact ⟨rfl, rfl⟩

theorem Stack.kindAt_ok {index : Int} {kind : Kind} (ran : (kindAt index).exec runner site scene = some (.ok kind, after)) :
    after = scene := by
  obtain ⟨raw, between, early, late⟩ := bind_ok ran
  rw [Act.kind, exec_settle] at late
  exact (Prod.mk.inj (Option.some.inj late)).2 ▸ (rawAt_ok early).2

theorem Arguments.raw_ok {arguments : Arguments} {index : Int}
    (ran : (arguments.raw index).exec runner site scene = some (.ok raw, after)) :
    arguments.raw? index = some raw ∧ after = scene := by
  rw [Arguments.raw] at ran
  cases found : arguments.raw? index with
  | none =>
    rw [Arguments.raw?] at found
    simp only [found] at ran
    cases ran
  | some there =>
    rw [Arguments.raw?] at found
    simp only [found] at ran
    cases ran
    exact ⟨rfl, rfl⟩

/-! ### What the host gets for it -/

variable {handle : Handle}

theorem Table.ofTop_ok (orderly : scene.interpreter.registry.Orderly)
    (ran : ofTop.exec runtime.perform site scene = some (.ok handle, after)) :
    List.Forall₂ after.Shows (scene.stack.take 1) [.table handle] := by
  obtain ⟨actual, _, looked, ran⟩ := bind_ok ran
  cases kindAt_ok looked
  split at ran
  · cases ran
  · obtain ⟨raw, between, popped, ran⟩ := bind_ok ran
    rw [popRaw_ok popped]
    split at ran
    next table =>
      obtain ⟨found, object⟩ := produces_pin _ _ site between handle after (exec_orderly orderly popped) ran
      exact .cons (.table table found object) .nil
    next => cases ran

theorem Function.ofTop_ok (orderly : scene.interpreter.registry.Orderly)
    (ran : ofTop.exec runtime.perform site scene = some (.ok handle, after)) :
    List.Forall₂ after.Shows (scene.stack.take 1) [.function handle] := by
  obtain ⟨actual, _, looked, ran⟩ := bind_ok ran
  cases kindAt_ok looked
  split at ran
  · cases ran
  · obtain ⟨raw, between, popped, ran⟩ := bind_ok ran
    rw [popRaw_ok popped]
    split at ran
    next function =>
      obtain ⟨found, object⟩ := produces_pin _ _ site between handle after (exec_orderly orderly popped) ran
      exact .cons (.function function found object) .nil
    next => cases ran

theorem Table.ofPlace_ok {index : Int} (orderly : scene.interpreter.registry.Orderly)
    (ran : (ofPlace index).exec runtime.perform site scene = some (.ok handle, after)) :
    List.Forall₂ after.Shows (scene.staged? index).toList [.table handle] := by
  obtain ⟨actual, _, looked, ran⟩ := bind_ok ran
  cases kindAt_ok looked
  split at ran
  · cases ran
  · obtain ⟨raw, between, read, ran⟩ := bind_ok ran
    rw [(rawAt_ok read).1]
    split at ran
    next table =>
      obtain ⟨found, object⟩ := produces_pin _ _ site between handle after (exec_orderly orderly read) ran
      exact .cons (.table table found object) .nil
    next => cases ran

theorem Arguments.collect_ok (retaining : runtime.code.IsRetaining) {arguments : Arguments} {values : List Value}
    (orderly : scene.interpreter.registry.Orderly)
    (ran : arguments.collect.exec runtime.perform site scene = some (.ok values, after)) :
    List.Forall₂ after.Shows arguments values := by
  induction arguments generalizing scene values with
  | nil =>
    cases ran
    exact .nil
  | cons raw rest ih =>
    obtain ⟨value, between, early, ran⟩ := bind_ok ran
    obtain ⟨others, last, late, ran⟩ := bind_ok ran
    cases ran
    have still : between.interpreter.registry.Orderly := exec_orderly orderly early
    have neutral : (runtime.registrations retaining).Neutral (collect rest) := StackLogic.neutral_collect rest
    have grows : Custody.registrations.grows between after := (neutral site between _ after still late).1.2
    have shown : between.Shows raw value := produces_ofRaw raw site scene value between orderly early
    exact .cons ((Custody.registrations_grows still grows).shows shown) (ih still late)

/-- Each value that a move gives is seen as what the move takes. -/
theorem Move.shows (retaining : runtime.code.IsRetaining) (move : Move α) {value : α}
    (orderly : scene.interpreter.registry.Orderly)
    (ran : move.act.exec runtime.perform site scene = some (.ok value, after)) :
    List.Forall₂ after.Shows (move.taken scene) (move.given value) := by
  cases move with
  | pop =>
    obtain ⟨raw, between, popped, ran⟩ := bind_ok ran
    rw [taken, popRaw_ok popped]
    exact .cons (produces_ofRaw raw site between value after (exec_orderly orderly popped) ran) .nil
  | readAt index =>
    obtain ⟨raw, between, read, ran⟩ := bind_ok ran
    rw [taken, (rawAt_ok read).1]
    exact .cons (produces_ofRaw raw site between value after (exec_orderly orderly read) ran) .nil
  | argument arguments index =>
    obtain ⟨raw, between, read, ran⟩ := bind_ok ran
    rw [taken, (Arguments.raw_ok read).1]
    exact .cons (produces_ofRaw raw site between value after (exec_orderly orderly read) ran) .nil
  | popTable => exact Table.ofTop_ok orderly ran
  | tableAt index => exact Table.ofPlace_ok orderly ran
  | popFunction => exact Function.ofTop_ok orderly ran
  | collect arguments => exact Arguments.collect_ok retaining orderly ran
  | push _ | remove _ => exact .nil

theorem Scene.holdsAll_of_shows {raws : List Raw} {values : List Value} (shown : List.Forall₂ scene.Shows raws values) :
    scene.HoldsAll values := by
  induction shown with
  | nil => exact List.forall_mem_nil _
  | cons first _ ih => exact List.forall_mem_cons.mpr ⟨first.holds, ih⟩

end Taken

section Given

theorem Attempt.Produces.one {attempt : Attempt ε α} {value : α → Value}
    (produces : Produces runtime attempt fun made after => after.Holds (value made)) :
    Produces runtime attempt fun made after => after.HoldsAll [value made] := fun site scene made after orderly ran =>
  List.forall_mem_singleton.mpr (produces site scene made after orderly ran)

theorem Attempt.produces_nothing (attempt : Attempt ε α) : Produces runtime attempt fun _ after => after.HoldsAll [] :=
  fun _ _ _ _ _ _ => List.forall_mem_nil _

variable (retaining : runtime.code.IsRetaining)
include retaining

theorem Operation.produces (operation : Operation α) :
    Produces runtime operation.act fun value after => after.HoldsAll (operation.given value) := by
  cases operation with
  | load name text => exact (Function.produces_ofChunk name text).one
  | loadFile path file => exact Produces.one (produces_bind fun _ => Function.produces_ofChunk _ _)
  | createFunction native => exact (Function.produces_ofNative native).one
  | newTable => exact Produces.one (produces_bind fun _ => Table.produces_ofTop)
  | getGlobal name => exact (Global.produces_get name).one
  | get table key => exact (Table.produces_get table key).one
  | getField table name => exact (Table.produces_getField table name).one
  | call function arguments =>
    intro site scene result after orderly ran
    have held := Function.produces_call retaining function arguments site scene result after orderly ran
    change after.HoldsAll (result.values.toOption.getD [])
    cases known : result.values with
    | ok values => exact held values known
    | error message => exact List.forall_mem_nil _
  | setGlobal _ _ | set _ _ _ | setField _ _ _ | fieldKind _ _ | checkArguments _ _ | runScript _ _ | askScript _ _ _ =>
    exact produces_nothing _

theorem Move.produces (move : Move α) : Produces runtime move.act fun value after => after.HoldsAll (move.given value) :=
  fun _ _ _ _ orderly ran => Scene.holdsAll_of_shows (move.shows retaining orderly ran)

end Given

end TileScript.Bridge
