import TileScript.Proofs.StackRuns

/-! What the primitives of the stack leave behind when a place or a count is out of range. All of them look before they
take anything, but one: what is set in a table is taken before it is known that there is a key below it. -/

namespace TileScript.Bridge
open Script Attempt

/-- The things that the host does with the stack. -/
inductive Primitive : Type → Type where
  | push (value : Value) : Primitive Unit
  | pop : Primitive Value
  | remove (count : Nat) : Primitive Unit
  | readAt (index : Int) : Primitive Value
  | kindAt (index : Int) : Primitive Kind
  | registerTop : Primitive Pin
  | registerAt (index : Int) : Primitive Pin
  | getTable (index : Int) : Primitive Unit
  | setTable (index : Int) : Primitive Unit
  | getField (index : Int) (name : String) : Primitive Unit
  | setField (index : Int) (name : String) : Primitive Unit
  | protectedCall (count : Nat) : Primitive Bool

namespace Primitive

variable {α : Type}

def act : Primitive α → Act α
  | .push value => Stack.push value
  | .pop => Stack.pop
  | .remove count => Stack.remove count
  | .readAt index => Stack.readAt index
  | .kindAt index => Stack.kindAt index
  | .registerTop => Stack.registerTop
  | .registerAt index => Stack.registerAt index
  | .getTable index => Stack.getTable index
  | .setTable index => Stack.setTable index
  | .getField index name => Stack.getField index name
  | .setField index name => Stack.setField index name
  | .protectedCall count => Stack.protectedCall count

/-- A table is to be given a value for a key, and it is all that there is on the stack. -/
def TakesTable (scene : Scene) : Primitive α → Prop
  | .setTable index => (index = 1 ∨ index = -1) ∧ ∃ table, scene.stack = [.table table]
  | _ => False

end Primitive

/-! ### Acts and places -/

namespace Attempt

variable {α β : Type}

/-- An act that changes nothing, whatever comes of it. -/
def IsLook (act : Act α) : Prop :=
  ∀ runner site scene result after, act.exec runner site scene = some (result, after) → after = scene

/-- An act that never finds a place out of range. -/
def IsPlaceless (act : Act α) : Prop :=
  ∀ runner site scene index size after, act.exec runner site scene ≠ some (.error (.stackIndex index size), after)

/-- An act that has done nothing yet when it finds a place out of range. -/
def IsWary (act : Act α) : Prop :=
  ∀ runner site scene index size after, act.exec runner site scene = some (.error (.stackIndex index size), after) →
    after = scene

theorem IsLook.wary {act : Act α} (look : act.IsLook) : act.IsWary :=
  fun runner site scene _ _ after ran => look runner site scene _ after ran

theorem IsPlaceless.wary {act : Act α} (placeless : act.IsPlaceless) : act.IsWary :=
  fun runner site scene index size after ran => absurd ran (placeless runner site scene index size after)

theorem error_of_bind {first : Act α} {next : α → Act β} {runner : Runner} {site : Site} {scene after : Scene}
    {error : Error} (ran : exec runner (first >>= next) site scene = some (.error error, after)) :
    exec runner first site scene = some (.error error, after) ∨ ∃ value between,
      exec runner first site scene = some (.ok value, between) ∧
        exec runner (next value) site between = some (.error error, after) := by
  rw [exec_bind, Option.bind_eq_some_iff] at ran
  obtain ⟨⟨result, between⟩, early, late⟩ := ran
  cases result with
  | ok value => exact .inr ⟨value, between, early, late⟩
  | error _ =>
    cases late
    exact .inl early

theorem IsLook.bind {first : Act α} {next : α → Act β} (look : first.IsLook) (others : ∀ value, (next value).IsLook) :
    (first >>= next).IsLook := by
  intro runner site scene result after ran
  rw [exec_bind, Option.bind_eq_some_iff] at ran
  obtain ⟨⟨early, between⟩, started, ended⟩ := ran
  obtain rfl := look runner site scene early between started
  cases early with
  | ok value => exact others value runner site _ result after ended
  | error _ =>
    cases ended
    rfl

theorem IsPlaceless.bind {first : Act α} {next : α → Act β} (placeless : first.IsPlaceless)
    (others : ∀ value, (next value).IsPlaceless) : (first >>= next).IsPlaceless := by
  intro runner site scene index size after ran
  obtain early | ⟨value, between, -, late⟩ := error_of_bind ran
  · exact placeless runner site scene index size after early
  · exact others value runner site between index size after late

theorem IsLook.bind_wary {first : Act α} {next : α → Act β} (look : first.IsLook) (others : ∀ value, (next value).IsWary) :
    (first >>= next).IsWary := by
  intro runner site scene index size after ran
  obtain early | ⟨value, between, early, late⟩ := error_of_bind ran
  · exact look runner site scene _ after early
  · obtain rfl := look runner site scene _ between early
    exact others value runner site _ index size after late

theorem IsWary.bind {first : Act α} {next : α → Act β} (wary : first.IsWary) (others : ∀ value, (next value).IsPlaceless) :
    (first >>= next).IsWary := by
  intro runner site scene index size after ran
  obtain early | ⟨value, between, -, late⟩ := error_of_bind ran
  · exact wary runner site scene index size after early
  · exact absurd late (others value runner site between index size after)

end Attempt

namespace Act

variable {α β : Type}

theorem look_settle (result : Except Error α) : (settle result : Act α).IsLook := by
  rintro runner site scene _ _ ⟨⟩
  rfl

theorem look_throw (error : Error) : (throw error : Act α).IsLook := look_settle (.error error)

theorem look_pure (value : α) : (pure value : Act α).IsLook := look_settle (.ok value)

theorem look_stack : (ask .stack : Act (List Raw)).IsLook := by
  rintro runner site scene _ _ ⟨⟩
  rfl

theorem look_kind (value : Raw) : (kind value).IsLook := look_settle _

theorem placeless_pure (value : α) : (pure value : Act α).IsPlaceless := by
  rintro runner site scene index size _ ⟨⟩

theorem placeless_throw {error : Error} (other : ∀ index size, error ≠ .stackIndex index size) :
    (throw error : Act α).IsPlaceless := by
  rintro runner site scene index size _ ⟨⟩
  exact other index size rfl

theorem placeless_ask (request : BridgeRequest α) : (ask request : Act α).IsPlaceless := by
  rintro runner site scene index size _ ⟨⟩

theorem placeless_evaluate (computation : Site → Eval α) : (evaluate computation : Act (Except Raw α)).IsPlaceless := by
  intro runner site scene index size after ran
  rw [exec_evaluate, Option.map_eq_some_iff] at ran
  obtain ⟨_, -, ⟨⟩⟩ := ran

theorem placeless_call (callee : Raw) (arguments : List Raw) : (call callee arguments : Act Outcome).IsPlaceless := by
  intro runner site scene index size after ran
  rw [exec_call, Option.map_eq_some_iff] at ran
  obtain ⟨_, -, ⟨⟩⟩ := ran

theorem placeless_kind (value : Raw) : (kind value).IsPlaceless := by
  intro runner site scene index size after ran
  rw [kind, exec_settle] at ran
  cases known : kindOf value with
  | ok _ | error _ =>
    rw [known] at ran
    cases ran

theorem placeless_use (computation : Site → Eval α) : (use computation).IsPlaceless := by
  refine (placeless_evaluate computation).bind fun result => ?_
  cases result with
  | ok value => exact placeless_pure value
  | error raised => exact placeless_throw nofun

theorem placeless_pin (value : Raw) (object : Nat) : (pin value object).IsPlaceless :=
  (placeless_ask _).bind fun _ => (placeless_ask _).bind fun _ => placeless_pure _

theorem placeless_toRaw (value : Value) : (toRaw value).IsPlaceless := by
  intro runner site scene index size after ran
  rw [exec_toRaw, Option.some.injEq, Prod.mk.injEq] at ran
  obtain ⟨known, -⟩ := ran
  cases value with
  | table handle | function handle =>
    rw [Scene.rawOf, Scene.resolve] at known
    split at known
    · cases known
    · split at known <;> cases known
  | number _ | string _ | boolean _ | nil => cases known

theorem placeless_ofRaw (value : Raw) : (ofRaw value).IsPlaceless := by
  cases value with
  | table table => exact (placeless_pin _ _).bind fun _ => placeless_pure _
  | function function => exact (placeless_pin _ _).bind fun _ => placeless_pure _
  | nil | boolean _ | integer _ | number _ | string _ => exact placeless_pure _
  | thread _ | file | failure _ _ => exact placeless_throw nofun

end Act

/-! ### Primitives -/

namespace Stack

open Act

theorem placeless_pushRaw (value : Raw) : (pushRaw value).IsPlaceless := (placeless_ask _).bind fun _ => placeless_ask _

theorem look_rawAt (index : Int) : (rawAt index).IsLook := by
  refine look_stack.bind fun values => ?_
  split
  · exact look_pure _
  · exact look_throw _

theorem look_tableAt (index : Int) : (tableAt index).IsLook := by
  refine (look_rawAt index).bind fun value => ?_
  split
  · exact look_pure _
  · exact (look_kind _).bind fun _ => look_throw _

theorem exec_popRaw_empty {runner : Runner} {site : Site} {scene : Scene} (empty : scene.stack = []) :
    exec runner popRaw site scene = some (.error (.stackIndex (-1) 0), scene) := by
  simp only [popRaw, exec_bind, exec_ask, Scene.answer_stack, Option.bind_some, empty]
  rfl

theorem wary_popRaw : popRaw.IsWary := by
  intro runner site scene index size after ran
  cases staged : scene.stack with
  | nil =>
    cases (exec_popRaw_empty staged).symm.trans ran
    rfl
  | cons top rest => cases (exec_popRaw staged).symm.trans ran

theorem wary_remove (count : Nat) : (remove count).IsWary := by
  refine look_stack.bind_wary fun values => ?_
  split
  · exact (look_throw _).wary
  · exact (placeless_ask _).wary

theorem wary_protectedCall (count : Nat) : (protectedCall count).IsWary := by
  refine look_stack.bind_wary fun values => ?_
  dsimp only
  by_cases short : values.length < count + 1
  · rw [if_pos short]
    rintro runner site scene _ _ _ ⟨⟩
    rfl
  · rw [if_neg short]
    -- The function is there, so nothing that comes after the values were taken is about a place.
    refine ((placeless_ask _).bind fun _ => ?_).wary
    split
    · refine (placeless_call _ _).bind fun outcome => ?_
      cases outcome with
      | ok results => exact (placeless_ask _).bind fun _ => (placeless_ask _).bind fun _ => placeless_pure _
      | error raised => exact (placeless_pushRaw _).bind fun _ => placeless_pure _
    · exact (placeless_kind _).bind fun _ => placeless_throw nofun
    next absent =>
      rw [List.getElem?_eq_none_iff] at absent
      omega

theorem wary_getTable (index : Int) : (getTable index).IsWary :=
  (look_tableAt index).bind_wary fun _ => wary_popRaw.bind fun _ => (placeless_use _).bind fun _ => placeless_pushRaw _

theorem wary_setField (index : Int) (name : String) : (Stack.setField index name).IsWary :=
  (look_tableAt index).bind_wary fun _ => wary_popRaw.bind fun _ => placeless_use _

theorem tableAt_ok {index : Int} {runner : Runner} {site : Site} {scene after : Scene} {table : TableRef}
    (ran : exec runner (tableAt index) site scene = some (.ok table, after)) :
    ∃ place, above? index scene.stack.length = some place ∧ scene.stack[place]? = some (.table table) := by
  rw [tableAt, exec_bind, Option.bind_eq_some_iff] at ran
  obtain ⟨⟨result, between⟩, found, ran⟩ := ran
  rw [rawAt, exec_bind, exec_ask, Scene.answer_stack] at found
  simp only [Option.bind_some] at found
  cases known : (above? index scene.stack.length).bind (scene.stack[·]?) with
  | none =>
    rw [known] at found
    cases found
    cases ran
  | some value =>
    rw [known] at found
    cases found
    obtain ⟨place, there, here⟩ := Option.bind_eq_some_iff.mp known
    cases value with
    | table _ =>
      cases ran
      exact ⟨place, there, here⟩
    | thread _ | file | failure _ _ | nil | boolean _ | integer _ | number _ | string _ | function _ => cases ran

/-- A lone table is the one that is asked for by its two places. -/
theorem above?_alone {index : Int} {place : Nat} : above? index 1 = some place ↔ (index = 1 ∨ index = -1) ∧ place = 0 := by
  simp only [above?, Bool.and_eq_true, decide_eq_true_eq]
  split
  · rw [Option.some.injEq]
    omega
  · split
    · rw [Option.some.injEq]
      omega
    · refine iff_of_false (Option.some_ne_none place).symm ?_
      omega

/-- A value is taken before it is known that no key is below it. -/
theorem exec_setTable_alone {runner : Runner} {site : Site} {scene : Scene} {table : TableRef} {index : Int}
    (place : index = 1 ∨ index = -1) (alone : scene.stack = [.table table]) :
    exec runner (setTable index) site scene = some (.error (.stackIndex (-1) 0), scene.setStack []) := by
  have found : exec runner (tableAt index) site scene = some (.ok table, scene) := by
    have here : (above? index scene.stack.length).bind (scene.stack[·]?) = some (.table table) := by
      rw [alone]
      exact Option.bind_eq_some_iff.mpr ⟨0, above?_alone.mpr ⟨place, rfl⟩, rfl⟩
    simp only [tableAt, rawAt, exec_bind, exec_ask, Scene.answer_stack, Option.bind_some, here]
    rfl
  rw [setTable, exec_bind_ok found]
  refine (exec_bind_ok (exec_popRaw alone) _).trans ?_
  exact exec_bind_error (exec_popRaw_empty rfl) _

theorem wary_setTable {index : Int} {runner : Runner} {site : Site} {scene after : Scene} {place : Int} {size : Nat}
    (spared : ¬ ((index = 1 ∨ index = -1) ∧ ∃ table, scene.stack = [.table table]))
    (ran : exec runner (setTable index) site scene = some (.error (.stackIndex place size), after)) : after = scene := by
  obtain early | ⟨table, between, early, late⟩ := error_of_bind ran
  · exact look_tableAt index runner site scene _ after early
  · have same := look_tableAt index runner site scene _ between early
    subst between
    obtain ⟨depth, there, here⟩ := tableAt_ok early
    rcases staged : scene.stack with _ | ⟨value, _ | ⟨key, rest⟩⟩
    · rw [staged] at here
      cases here
    · rw [staged] at there here
      obtain ⟨known, rfl⟩ := above?_alone.mp there
      exact absurd ⟨known, table, by rw [staged, Option.some.inj here]⟩ spared
    · rw [exec_bind_ok (exec_popRaw staged), exec_bind_ok (exec_popRaw rfl)] at late
      exact absurd late (placeless_use _ runner site _ place size after)

end Stack

/-- A primitive that finds a place or a count out of range leaves everything as it was, but for one that is to set a
table that is alone on the stack: the table is gone then. -/
theorem usage_errors_spare {α : Type} (primitive : Primitive α) (runner : Runner) (site : Site) (scene : Scene) :
    (¬ primitive.TakesTable scene → ∀ index size after,
      primitive.act.exec runner site scene = some (.error (.stackIndex index size), after) → after = scene) ∧
    (primitive.TakesTable scene →
      primitive.act.exec runner site scene = some (.error (.stackIndex (-1) 0), scene.setStack [])) := by
  have wary : ∀ act : Act α, act.IsWary → ∀ index size after,
      act.exec runner site scene = some (.error (.stackIndex index size), after) → after = scene :=
    fun act wary index size after ran => wary runner site scene index size after ran
  cases primitive with
  | push value =>
    exact ⟨fun _ => wary _ (((Act.placeless_toRaw value).bind fun _ => Stack.placeless_pushRaw _).wary), False.elim⟩
  | pop => exact ⟨fun _ => wary _ (Stack.wary_popRaw.bind fun _ => Act.placeless_ofRaw _), False.elim⟩
  | remove count => exact ⟨fun _ => wary _ (Stack.wary_remove count), False.elim⟩
  | readAt index =>
    exact ⟨fun _ => wary _ ((Stack.look_rawAt index).wary.bind fun _ => Act.placeless_ofRaw _), False.elim⟩
  | kindAt index => exact ⟨fun _ => wary _ ((Stack.look_rawAt index).wary.bind fun _ => Act.placeless_kind _), False.elim⟩
  | registerTop =>
    exact ⟨fun _ => wary _ (Stack.wary_popRaw.bind fun _ => (Act.placeless_ask _).bind fun _ => (Act.placeless_ask _).bind
      fun _ => Act.placeless_pure _), False.elim⟩
  | registerAt index =>
    exact ⟨fun _ => wary _ ((Stack.look_rawAt index).wary.bind fun _ => (Act.placeless_ask _).bind fun _ =>
      (Act.placeless_ask _).bind fun _ => Act.placeless_pure _), False.elim⟩
  | getTable index => exact ⟨fun _ => wary _ (Stack.wary_getTable index), False.elim⟩
  | setTable index =>
    refine ⟨fun spared place size after ran => Stack.wary_setTable spared ran, ?_⟩
    rintro ⟨place, table, alone⟩
    exact Stack.exec_setTable_alone place alone
  | getField index name =>
    exact ⟨fun _ => wary _ ((Stack.look_tableAt index).wary.bind fun _ => (Act.placeless_use _).bind fun _ =>
      Stack.placeless_pushRaw _), False.elim⟩
  | setField index name => exact ⟨fun _ => wary _ (Stack.wary_setField index name), False.elim⟩
  | protectedCall count => exact ⟨fun _ => wary _ (Stack.wary_protectedCall count), False.elim⟩

/-- A call with more arguments than there are values leaves the value that there is. A table that is to take the value
above it is lost when there is only the table. -/
theorem usage_errors_spare_short :
    let scene := Scene.setStack ⟨⟨0⟩, .initial, .initial .blank, []⟩ [.table Heap.globals]
    (∃ size after, (Primitive.protectedCall 1).act.exec (fun _ _ => none) .host scene =
      some (.error (.stackIndex (-2) size), after) ∧ after.stack = [.table Heap.globals]) ∧
    ∃ after, (Primitive.setTable 1).act.exec (fun _ _ => none) .host scene = some (.error (.stackIndex (-1) 0), after) ∧
      after.stack = [] := by
  intro scene
  refine ⟨⟨1, scene, rfl, ?_⟩, scene.setStack [], ?_, rfl⟩
  · rw [(usage_errors_spare (.protectedCall 1) (fun _ _ => none) .host scene).1 id (-2) 1 scene rfl]
    rfl
  · exact (usage_errors_spare (.setTable 1) (fun _ _ => none) .host scene).2 ⟨.inl rfl, Heap.globals, rfl⟩

/-- So not every primitive leaves the stack as it was when it finds a place out of range. -/
theorem lone_table_lost : ¬ ∀ (α : Type) (primitive : Primitive α) (runner : Runner) (site : Site) (scene : Scene)
    (index : Int) (size : Nat) (after : Scene),
    primitive.act.exec runner site scene = some (.error (.stackIndex index size), after) → after.stack = scene.stack := by
  intro spared
  let scene := Scene.setStack ⟨⟨0⟩, .initial, .initial .blank, []⟩ [.table Heap.globals]
  exact nomatch spared Unit (.setTable 1) (fun _ _ => none) .host scene (-1) 0 (scene.setStack []) rfl

end TileScript.Bridge
