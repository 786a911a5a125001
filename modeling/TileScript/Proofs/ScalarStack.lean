import TileScript.Proofs.HandedValues
import TileScript.Proofs.UsageErrors

/-! Values that are no objects on the stack. They are read as they were pushed, from either end and over any
depth of other values, and popped in reverse. Looking at them leaves no trace, for no handle is made. -/

namespace TileScript.Bridge
open Script Attempt

/-- A value that is equal to itself and that no handle stands for. -/
def Value.IsScalar : Value → Prop
  | .number value => value.isNaN = false
  | .string _ | .boolean _ | .nil => True
  | .table _ | .function _ => False

instance : DecidablePred Value.IsScalar
  | .number value => inferInstanceAs (Decidable (value.isNaN = false))
  | .string _ | .boolean _ | .nil => inferInstanceAs (Decidable True)
  | .table _ | .function _ => inferInstanceAs (Decidable False)

namespace Stack

def pushAll : List Value → Act Unit
  | [] => return
  | value :: rest => do
    push value
    pushAll rest

/-- Pops some values; the first one is from the top. -/
def popAll : Nat → Act (List Value)
  | 0 => return []
  | count + 1 => do
    let value ← pop
    return value :: (← popAll count)

end Stack

/-- The place that a primitive is given. -/
def Primitive.place? {α : Type} : Primitive α → Option Int
  | .readAt index | .kindAt index | .registerAt index | .getTable index | .setTable index | .getField index _
  | .setField index _ => some index
  | .push _ | .pop | .remove _ | .registerTop | .protectedCall _ => none

variable {runner : Runner} {site : Site} {scene : Scene} {rest : List Raw}

/-! ### One value -/

/-- What lies on the stack for a value, and what the host sees of it, in every scene. -/
structure Value.Lies (given : Value) (raw : Raw) (seen : Value) : Prop where
  staged : ∀ scene : Scene, scene.rawOf given = .ok raw
  kind : kindOf raw = .ok given.kind
  shown : ∀ runner site scene, exec runner (Act.ofRaw raw) site scene = some (.ok seen, scene)
  same : given.same seen = true

theorem Value.IsScalar.lies {given : Value} (scalar : given.IsScalar) : ∃ raw seen, given.Lies raw seen := by
  cases given with
  | nil => exact ⟨.nil, .nil, fun _ => rfl, rfl, fun _ _ _ => rfl, rfl⟩
  | boolean value =>
    exact ⟨.boolean value, .boolean value, fun _ => rfl, rfl, fun _ _ _ => rfl, beq_self_eq_true value⟩
  | string text =>
    refine ⟨.ofString text, .string (Utf8.decode text.toUTF8), fun _ => rfl, rfl, fun _ _ _ => rfl, ?_⟩
    exact beq_iff_eq.mpr (Utf8.decode_toUTF8 text).symm
  | number value =>
    cases whole : value.toInteger? with
    | some n =>
      have staged : ofDouble value = .integer (Int64.ofInt n) := by rw [ofDouble, whole]
      refine ⟨_, .number (Integer.toDouble (Int64.ofInt n)), fun _ => congrArg _ staged, rfl, fun _ _ _ => rfl, ?_⟩
      exact Double.equals_toDouble whole
    | none =>
      have staged : ofDouble value = .number value := by rw [ofDouble, whole]
      refine ⟨_, .number value, fun _ => congrArg _ staged, rfl, fun _ _ _ => rfl, ?_⟩
      exact Double.equals_of_same scalar scalar rfl
  | table _ | function _ => exact absurd scalar id

/-! ### Places -/

namespace Stack

/-- A place may be counted from the top or from the bottom. -/
theorem exec_rawAt_either {place : Nat} {value : Raw} (staged : scene.stack[place]? = some value) {index : Int}
    (there : index = scene.stack.length - place ∨ index = -(place + 1 : Nat)) :
    exec runner (rawAt index) site scene = some (.ok value, scene) := by
  have inside : place < scene.stack.length := (List.getElem?_eq_some_iff.mp staged).1
  rcases there with rfl | rfl
  · have positive : (0 < (scene.stack.length - place : Int) && (scene.stack.length - place : Int) ≤ scene.stack.length) = true := by
      rw [Bool.and_eq_true, decide_eq_true_eq, decide_eq_true_eq]
      omega
    have turned : scene.stack.length - (scene.stack.length - place : Int).toNat = place := by omega
    have found : (above? (scene.stack.length - place) scene.stack.length).bind (scene.stack[·]?) = some value := by
      rw [above?, if_pos positive, turned]
      exact staged
    simp only [rawAt, exec_bind, exec_ask, Scene.answer_stack, Option.bind_some, found]
    rfl
  · exact exec_rawAt staged

theorem exec_rawAt_outside {index : Int} (outside : index = 0 ∨ scene.stack.length < index.natAbs) :
    exec runner (rawAt index) site scene = some (.error (.stackIndex index scene.stack.length), scene) := by
  have above : above? index scene.stack.length = none := by
    rw [above?, if_neg, if_neg]
    all_goals
      rw [Bool.and_eq_true, decide_eq_true_eq, decide_eq_true_eq]
      omega
  simp only [rawAt, exec_bind, exec_ask, Scene.answer_stack, Option.bind_some, above, Option.bind_none]
  rfl

end Stack

/-- Whatever is done at a place looks there first. -/
theorem Primitive.exec_outside {α : Type} (primitive : Primitive α) {index : Int} (given : primitive.place? = some index)
    (outside : index = 0 ∨ scene.stack.length < index.natAbs) :
    exec runner primitive.act site scene = some (.error (.stackIndex index scene.stack.length), scene) := by
  let refused : Error := .stackIndex index scene.stack.length
  have looked : exec runner (Stack.rawAt index) site scene = some (.error refused, scene) := Stack.exec_rawAt_outside outside
  have table : exec runner (Stack.tableAt index) site scene = some (.error refused, scene) := exec_bind_error looked _
  cases primitive with
  | readAt | kindAt | registerAt =>
    cases given
    exact exec_bind_error looked _
  | getTable | setTable | getField | setField =>
    cases given
    exact exec_bind_error table _
  | push | pop | remove | registerTop | protectedCall => cases given

/-! ### Many values -/

/-- The first one that was pushed is the deepest. -/
theorem getElem?_pushed {raws : List Raw} {place : Nat} (inside : place < raws.length) :
    (raws.reverse ++ rest)[raws.length - 1 - place]? = raws[place]? := by
  have turned : raws.length - 1 - (raws.length - 1 - place) = place := by omega
  rw [List.getElem?_append_left (by rw [List.length_reverse]; omega), List.getElem?_reverse (by omega), turned]

namespace Stack

theorem exec_pushAll {values : List Value} {entries : List (Raw × Value)}
    (lies : List.Forall₂ (fun value entry => value.Lies entry.1 entry.2) values entries) :
    exec runner (pushAll values) site scene =
      some (.ok (), scene.setStack ((entries.map Prod.fst).reverse ++ scene.stack)) := by
  induction lies generalizing scene with
  | nil => rfl
  | @cons value entry values entries first _ ih =>
    have pushed : exec runner (push value) site scene = some (.ok (), scene.setStack (entry.1 :: scene.stack)) := by
      rw [exec_push, first.staged]
    refine (exec_bind_ok pushed _).trans ?_
    rw [ih]
    simp

theorem exec_popAll {values : List Value} {entries : List (Raw × Value)}
    (lies : List.Forall₂ (fun value entry => value.Lies entry.1 entry.2) values entries)
    (staged : scene.stack = entries.map Prod.fst ++ rest) :
    exec runner (popAll values.length) site scene = some (.ok (entries.map Prod.snd), scene.setStack rest) := by
  induction lies generalizing scene with
  | nil =>
    obtain rfl : scene.stack = rest := staged
    rfl
  | @cons value entry values entries first _ ih =>
    have popped : exec runner pop site scene = some (.ok entry.2, scene.setStack (entries.map Prod.fst ++ rest)) := by
      rw [exec_pop staged]
      exact first.shown ..
    refine (exec_bind_ok popped _).trans ?_
    exact exec_bind_ok (ih rfl) _

end Stack

theorem scalars_lie {values : List Value} (scalars : ∀ value ∈ values, value.IsScalar) :
    ∃ entries : List (Raw × Value), List.Forall₂ (fun value entry => value.Lies entry.1 entry.2) values entries := by
  induction values with
  | nil => exact ⟨[], .nil⟩
  | cons value values ih =>
    obtain ⟨first, others⟩ := List.forall_mem_cons.mp scalars
    obtain ⟨raw, seen, lies⟩ := first.lies
    obtain ⟨entries, known⟩ := ih others
    exact ⟨(raw, seen) :: entries, .cons lies known⟩

/-- Values that are no objects come back from the stack as they were pushed onto whatever lay there. -/
theorem scalars_return (runner : Runner) (site : Site) (scene : Scene) {values : List Value}
    (scalars : ∀ value ∈ values, value.IsScalar) :
    ∃ staged : Scene, exec runner (Stack.pushAll values) site scene = some (.ok (), staged) ∧
      exec runner Stack.size site staged = some (.ok (scene.stack.length + values.length), staged) ∧
      (∀ (place : Nat) (value : Value), values[place]? = some value → ∃ seen, value.same seen = true ∧
        ∀ index : Int, index = scene.stack.length + (place + 1) ∨ index = place - values.length →
          exec runner (Stack.readAt index) site staged = some (.ok seen, staged) ∧
          exec runner (Stack.kindAt index) site staged = some (.ok value.kind, staged)) ∧
      (∃ seen, List.Forall₂ (fun value other => value.same other = true) values.reverse seen ∧
        exec runner (Stack.popAll values.length) site staged = some (.ok seen, scene)) ∧
      ∀ index : Int, index = 0 ∨ scene.stack.length + values.length < index.natAbs →
        ∀ {α : Type} (primitive : Primitive α), primitive.place? = some index →
          exec runner primitive.act site staged =
            some (.error (.stackIndex index (scene.stack.length + values.length)), staged) := by
  obtain ⟨entries, lies⟩ := scalars_lie scalars
  let staged := scene.setStack ((entries.map Prod.fst).reverse ++ scene.stack)
  have count : staged.stack.length = scene.stack.length + values.length := by
    simp [staged, lies.length_eq, Nat.add_comm]
  refine ⟨staged, Stack.exec_pushAll lies, ?_, ?_, ?_, ?_⟩
  · rw [← count]
    rfl
  · intro place value known
    obtain ⟨inside, rfl⟩ := List.getElem?_eq_some_iff.mp known
    have reached : place < entries.length := lies.length_eq ▸ inside
    have found : values[place].Lies entries[place].1 entries[place].2 := lies.get inside reached
    have sizes : (entries.map Prod.fst).length = values.length := by rw [List.length_map, lies.length_eq]
    have here : staged.stack[values.length - 1 - place]? = some entries[place].1 := by
      rw [← sizes, Scene.stack_setStack, getElem?_pushed (by omega), List.getElem?_map, List.getElem?_eq_getElem reached,
        Option.map_some]
    refine ⟨entries[place].2, found.same, fun index there => ?_⟩
    have looked : exec runner (Stack.rawAt index) site staged = some (.ok entries[place].1, staged) :=
      Stack.exec_rawAt_either here (by rw [count]; omega)
    refine ⟨(exec_bind_ok looked _).trans (found.shown ..), (exec_bind_ok looked _).trans ?_⟩
    rw [Act.kind, found.kind]
    rfl
  · have backwards := List.rel_reverse lies
    refine ⟨entries.reverse.map Prod.snd, ?_, ?_⟩
    · rw [List.forall₂_map_right_iff]
      exact backwards.imp fun _ _ known => known.same
    · have onTop : staged.stack = entries.reverse.map Prod.fst ++ scene.stack := by
        rw [List.map_reverse]
        rfl
      rw [← List.length_reverse]
      exact Stack.exec_popAll backwards onTop
  · intro index outside α primitive given
    rw [← count] at outside ⊢
    exact primitive.exec_outside given outside

/-- Over another value: both kinds of zero, the integer limits, an infinity, and the least place there is. -/
theorem scalars_return_limits :
    let scene := Scene.setStack ⟨⟨0⟩, .initial, .initial .blank, []⟩ [.boolean true]
    let values : List Value := [.number ⟨0x8000000000000000⟩, .number ⟨0xc3e0000000000000⟩, .number ⟨0x43dfffffffffffff⟩,
      .number ⟨0x43e0000000000000⟩, .number ⟨0xfff0000000000000⟩, .string "\u00fc", .nil]
    ∃ staged, exec (fun _ _ => none) (Stack.pushAll values) .host scene = some (.ok (), staged) ∧
      (∃ seen, Value.same (.number ⟨0x43e0000000000000⟩) seen = true ∧
        exec (fun _ _ => none) (Stack.readAt 5) .host staged = some (.ok seen, staged) ∧
        exec (fun _ _ => none) (Stack.readAt (-4)) .host staged = some (.ok seen, staged)) ∧
      (∃ seen, exec (fun _ _ => none) (Stack.popAll 7) .host staged = some (.ok seen, scene)) ∧
      exec (fun _ _ => none) (Stack.readAt (-2147483648)) .host staged =
        some (.error (.stackIndex (-2147483648) 8), staged) := by
  intro scene values
  have scalars : ∀ value ∈ values, value.IsScalar := by decide
  obtain ⟨staged, pushed, -, reads, ⟨taken, -, popped⟩, refused⟩ := scalars_return (fun _ _ => none) .host scene scalars
  obtain ⟨seen, same, read⟩ := reads 3 (.number ⟨0x43e0000000000000⟩) rfl
  refine ⟨staged, pushed, ⟨seen, same, (read 5 (.inl rfl)).1, (read (-4) (.inr rfl)).1⟩, ⟨taken, popped⟩, ?_⟩
  exact refused (-2147483648) (.inr (by decide)) (.readAt (-2147483648)) rfl

end TileScript.Bridge
