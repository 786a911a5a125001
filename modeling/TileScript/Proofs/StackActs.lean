import TileScript.Proofs.StackLogic
import TileScript.Bridge.Object

/-! What the host's ways to use tables, functions and globals leave on the stack. The primitives push
and pop; everything built from them gives the stack back as it was, also when it fails midway. -/

namespace TileScript.Bridge.StackLogic
open Script Attempt

variable {logic : StackLogic} {α β ε : Type}

/-! ### Values -/

theorem neutral_use (computation : Site → Eval α) : logic.Neutral (Act.use computation) := by
  refine (neutral_evaluate computation).bind fun result => ?_
  cases result with
  | ok value => exact neutral_pure value
  | error raised => exact neutral_throw _

theorem neutral_kind (value : Raw) : logic.Neutral (Act.kind value) := neutral_settle _

theorem neutral_pin (value : Raw) (object : Nat) : logic.Neutral (Act.pin value object) :=
  (neutral_quiet (by trivial)).bind fun _ => (neutral_quiet (by trivial)).bind fun _ => neutral_pure _

theorem neutral_resolve (handle : Handle) : logic.Neutral (Act.resolve handle) := by
  refine (neutral_quiet (by trivial)).bind fun context => ?_
  refine Neutral.unless ((neutral_quiet (by trivial)).bind fun found => ?_)
  cases found with
  | some value => exact neutral_pure value
  | none => exact neutral_throw _

theorem neutral_toRaw (value : Value) : logic.Neutral (Act.toRaw value) := by
  cases value with
  | table handle | function handle => exact neutral_resolve handle
  | number _ | string _ | boolean _ | nil => exact neutral_pure _

theorem neutral_ofRaw (value : Raw) : logic.Neutral (Act.ofRaw value) := by
  cases value with
  | table place | function place => exact (neutral_pin _ _).bind fun _ => neutral_pure _
  | nil | boolean _ | integer _ | number _ | string _ => exact neutral_pure _
  | thread _ | file | failure _ _ => exact neutral_throw _

/-! ### The stack -/

/-- A look at the stack tells the rest what the stack is. -/
theorem leaves_stack {next : List Raw → Attempt ε α} {post : List Raw → Except ε α → List Raw → Prop}
    (rest : ∀ values, logic.Leaves (next values) fun before result after => values = before → post before result after) :
    logic.Leaves (ask .stack >>= next) post := by
  intro site scene result after holds ran
  rw [exec_bind, exec_ask] at ran
  obtain ⟨kept, left⟩ := rest _ site scene result after holds ran
  exact ⟨kept, left rfl⟩

theorem setStack_leaves (stack : List Raw) : logic.Leaves (ask (.setStack stack) : Attempt ε Unit)
    fun _ result after => result = .ok () ∧ after = stack := by
  intro site scene result after holds ran
  cases ran
  exact ⟨logic.staged scene stack holds, rfl, rfl⟩

theorem size_leaves : logic.Leaves Stack.size fun before result after =>
    result = .ok before.length ∧ after = before := by
  intro site scene result after holds ran
  cases ran
  exact ⟨.refl holds, rfl, rfl⟩

/-- One more value on top after success, and the stack as it was after failure. -/
def Pushes (logic : StackLogic) (attempt : Attempt ε α) : Prop :=
  logic.Leaves attempt fun before result after =>
    match result with
    | .ok _ => ∃ value, after = value :: before
    | .error _ => after = before

theorem Neutral.pushes {attempt : Attempt ε α} {next : α → Attempt ε Unit} (first : logic.Neutral attempt)
    (second : ∀ value, logic.Pushes (next value)) : logic.Pushes (attempt >>= next) :=
  first.before second rfl

theorem pushRaw_leaves (value : Raw) : logic.Leaves (Stack.pushRaw value) fun before result after =>
    result = .ok () ∧ after = value :: before :=
  leaves_stack fun values => (setStack_leaves (value :: values)).weaken (by
    rintro before result after ⟨rfl, rfl⟩ rfl
    exact ⟨rfl, rfl⟩)

theorem pushRaw_pushes (value : Raw) : logic.Pushes (Stack.pushRaw value) :=
  (pushRaw_leaves value).weaken (by
    rintro before result after ⟨rfl, rfl⟩
    exact ⟨value, rfl⟩)

theorem push_pushes (value : Value) : logic.Pushes (Stack.push value) :=
  (neutral_toRaw value).pushes pushRaw_pushes

theorem popRaw_leaves : logic.Leaves Stack.popRaw fun before _ after => after = before.tail := by
  refine leaves_stack fun values => ?_
  cases values with
  | nil => exact (neutral_throw _).weaken (by rintro _ _ _ rfl rfl; rfl)
  | cons value rest =>
    refine (setStack_leaves rest).bind (fun _ => neutral_pure value) ?_ ?_
    · rintro before _ middle result after ⟨-, rfl⟩ rfl rfl
      rfl
    · rintro before error after ⟨⟨⟩, -⟩

theorem pop_leaves : logic.Leaves Stack.pop fun before _ after => after = before.tail :=
  popRaw_leaves.bind neutral_ofRaw (fun popped same => same.trans popped) id

theorem remove_leaves (count : Nat) : logic.Leaves (Stack.remove count) fun before result after =>
    if before.length < count then after = before else result = .ok () ∧ after = before.drop count := by
  refine leaves_stack fun values => ?_
  dsimp only
  split
  next few => exact leaves_throw_bind (by rintro before rfl; exact (if_pos few).mpr rfl)
  next enough =>
    refine (setStack_leaves _).weaken ?_
    rintro before result after ⟨rfl, rfl⟩ rfl
    exact (if_neg enough).mpr ⟨rfl, rfl⟩

theorem truncate_leaves (depth : Nat) : logic.Leaves (Stack.truncate depth) fun before _ after =>
    after = before.drop (before.length - depth) :=
  leaves_stack fun values => (setStack_leaves _).weaken (by
    rintro before result after ⟨-, rfl⟩ rfl
    rfl)

theorem neutral_rawAt (index : Int) : logic.Neutral (Stack.rawAt index) := by
  refine (neutral_quiet (by trivial)).bind fun values => ?_
  split
  · exact neutral_pure _
  · exact neutral_throw _

theorem neutral_readAt (index : Int) : logic.Neutral (Stack.readAt index) :=
  (neutral_rawAt index).bind neutral_ofRaw

theorem neutral_kindAt (index : Int) : logic.Neutral (Stack.kindAt index) :=
  (neutral_rawAt index).bind neutral_kind

theorem neutral_tableAt (index : Int) : logic.Neutral (Stack.tableAt index) := by
  refine (neutral_rawAt index).bind fun value => ?_
  split
  · exact neutral_pure _
  · exact (neutral_kind _).bind fun _ => neutral_throw _

theorem takeTop_leaves (count : Nat) : logic.Leaves (Stack.takeTop count) fun before _ after =>
    count ≤ before.length → after = before.drop count := by
  refine leaves_stack fun values => ?_
  dsimp only
  split
  next few => exact leaves_throw_bind (by rintro before rfl enough; omega)
  next =>
    refine (setStack_leaves _).bind (fun _ => neutral_pure _) ?_ ?_
    · rintro before _ middle result after ⟨-, rfl⟩ rfl rfl -
      rfl
    · rintro before error after ⟨⟨⟩, -⟩

/-! ### Frames -/

/-- What takes at most `pops` values, and in their place leaves `pushes` values after success. -/
def Moves (logic : StackLogic) (pops pushes : Nat) (attempt : Attempt ε α) : Prop :=
  logic.Leaves attempt fun before result after =>
    match result with
    | .ok _ => ∃ pushed, pushed.length = pushes ∧ after = pushed ++ before.drop pops
    | .error _ => before.drop pops <:+ after

theorem Neutral.moves {attempt : Attempt ε α} (neutral : logic.Neutral attempt) : logic.Moves 0 0 attempt := by
  refine neutral.weaken ?_
  rintro before result after rfl
  cases result with
  | ok _ => exact ⟨[], rfl, rfl⟩
  | error _ => exact List.suffix_rfl

theorem Pushes.moves {attempt : Attempt ε α} (pushes : logic.Pushes attempt) : logic.Moves 0 1 attempt := by
  refine pushes.weaken ?_
  rintro before (_ | _) after left
  · exact left ▸ List.suffix_rfl
  · obtain ⟨value, rfl⟩ := left
    exact ⟨[value], rfl, rfl⟩

/-- What one attempt pops beyond what the one before it has pushed is popped by both. -/
theorem Moves.bind {pops pushes pops' pushes' : Nat} {attempt : Attempt ε α} {next : α → Attempt ε β}
    (first : logic.Moves pops pushes attempt) (second : ∀ value, logic.Moves pops' pushes' (next value)) :
    logic.Moves (pops + (pops' - pushes)) (pushes - pops' + pushes') (attempt >>= next) := by
  have deeper : ∀ {pushed before : List Raw}, pushed.length = pushes →
      (pushed ++ before.drop pops).drop pops' = pushed.drop pops' ++ before.drop (pops + (pops' - pushes)) := by
    rintro pushed before rfl
    rw [List.drop_append, List.drop_drop]
  refine Leaves.bind first second ?_ ?_
  · rintro before value middle result after ⟨pushed, count, rfl⟩ left
    cases result with
    | ok _ =>
      obtain ⟨later, count', rfl⟩ := left
      refine ⟨later ++ pushed.drop pops', ?_, ?_⟩
      · rw [List.length_append, List.length_drop, count, count', Nat.add_comm]
      · rw [deeper count, List.append_assoc]
    | error _ => exact (List.suffix_append _ _).trans (deeper count ▸ left)
  · intro before error after left
    exact (List.drop_drop ▸ List.drop_suffix _ _).trans left

theorem popRaw_moves : logic.Moves 1 0 Stack.popRaw := by
  refine popRaw_leaves.weaken ?_
  rintro before (_ | _) after rfl
  · exact List.drop_one ▸ List.suffix_rfl
  · exact ⟨[], rfl, List.drop_one.symm⟩

theorem pop_moves : logic.Moves 1 0 Stack.pop := popRaw_moves.bind fun value => (neutral_ofRaw value).moves

theorem getTable_moves (index : Int) : logic.Moves 1 1 (Stack.getTable index) :=
  (neutral_tableAt index).moves.bind fun _ => popRaw_moves.bind fun _ => (neutral_use _).moves.bind fun _ =>
    (pushRaw_pushes _).moves

theorem setTable_moves (index : Int) : logic.Moves 2 0 (Stack.setTable index) :=
  (neutral_tableAt index).moves.bind fun _ => popRaw_moves.bind fun _ => popRaw_moves.bind fun _ =>
    (neutral_use _).moves

theorem getField_moves (index : Int) (name : String) : logic.Moves 0 1 (Stack.getField index name) :=
  (neutral_tableAt index).moves.bind fun _ => (neutral_use _).moves.bind fun _ => (pushRaw_pushes _).moves

theorem setField_moves (index : Int) (name : String) : logic.Moves 1 0 (Stack.setField index name) :=
  (neutral_tableAt index).moves.bind fun _ => popRaw_moves.bind fun _ => (neutral_use _).moves

/-- What never digs into the stack it finds leaves it alone inside a frame. -/
theorem neutral_framed {pushes : Nat} {act : Act α} (moves : logic.Moves 0 pushes act) :
    logic.Neutral (Stack.framed act) := by
  have cut : ∀ depth result, logic.Leaves (do
      Stack.truncate depth
      Attempt.settle result : Act α) fun before _ after => after = before.drop (before.length - depth) :=
    fun depth result =>
      (truncate_leaves depth).bind (fun _ => neutral_settle result) (fun cut same => same.trans cut) id
  have inside : ∀ depth, logic.Leaves (do
      let result ← Attempt.observe act
      Stack.truncate depth
      Attempt.settle result : Act α) fun before _ after => before.length = depth → after = before := fun depth =>
    Leaves.handle moves fun observed => (cut depth observed).weaken (by
      rintro middle result after rfl before left rfl
      obtain ⟨above, rfl⟩ : before <:+ middle := by
        cases observed with
        | ok _ =>
          obtain ⟨pushed, -, rfl⟩ := left
          exact List.suffix_append _ _
        | error _ => exact left
      simp)
  refine size_leaves.bind inside ?_ ?_
  · rintro before depth middle result after ⟨found, rfl⟩ same
    cases found
    exact same rfl
  · rintro before error after ⟨found, -⟩
    cases found

/-! ### Tables -/

theorem tableOfTop_moves : logic.Moves 1 0 Table.ofTop := by
  refine (neutral_kindAt _).moves.bind fun actual => (?_ : logic.Moves 1 0 _)
  split
  · exact leaves_throw_bind fun before => List.drop_suffix _ _
  · refine popRaw_moves.bind fun value => Neutral.moves ?_
    split
    · exact neutral_pin _ _
    · exact neutral_throw _

theorem tableOfTop_leaves : logic.Leaves Table.ofTop fun before _ after =>
    ∀ table rest, before = .table table :: rest → after = rest := by
  intro site scene result after holds ran
  refine ⟨(tableOfTop_moves site scene result after holds ran).1, ?_⟩
  intro table rest staged
  rw [Table.exec_ofTop staged] at ran
  cases ran
  exact Scene.stack_answer _ trivial

theorem neutral_create : logic.Neutral Table.create := by
  have pushed : logic.Leaves Stack.createTable fun before result after =>
      result = .ok () ∧ ∃ table, after = .table table :: before :=
    leaves_ask (permits_quiet trivial) trivial fun table => (pushRaw_leaves _).weaken (by
      rintro before result after ⟨rfl, rfl⟩
      exact ⟨rfl, table, rfl⟩)
  refine pushed.bind (fun _ => tableOfTop_leaves) ?_ ?_
  · rintro before value middle result after ⟨-, table, rfl⟩ popped
    exact popped table before rfl
  · rintro before error after ⟨⟨⟩, -⟩

theorem neutral_get (table : Handle) (key : Value) : logic.Neutral (Table.get table key) :=
  neutral_framed ((push_pushes _).moves.bind fun _ => (push_pushes _).moves.bind fun _ =>
    (getTable_moves _).bind fun _ => pop_moves)

theorem neutral_set (table : Handle) (key value : Value) : logic.Neutral (Table.set table key value) :=
  neutral_framed ((push_pushes _).moves.bind fun _ => (push_pushes _).moves.bind fun _ =>
    (push_pushes _).moves.bind fun _ => setTable_moves _)

theorem neutral_getField (table : Handle) (name : String) : logic.Neutral (Table.getField table name) :=
  neutral_framed ((push_pushes _).moves.bind fun _ => (getField_moves _ _).bind fun _ => pop_moves)

theorem neutral_setField (table : Handle) (name : String) (value : Value) :
    logic.Neutral (Table.setField table name value) :=
  neutral_framed ((push_pushes _).moves.bind fun _ => (push_pushes _).moves.bind fun _ => setField_moves _ _)

theorem neutral_fieldKind (table : Handle) (name : String) : logic.Neutral (Table.fieldKind table name) :=
  neutral_framed ((push_pushes _).moves.bind fun _ => (getField_moves _ _).bind fun _ => (neutral_kindAt _).moves)

theorem neutral_setFields (table : Handle) (fields : List (String × Value)) :
    logic.Neutral (Table.setFields table fields) := by
  induction fields with
  | nil => exact neutral_pure _
  | cons field rest ih => exact (neutral_setField _ _ _).bind fun _ => ih

/-! ### Functions -/

theorem functionOfTop_moves : logic.Moves 1 0 Function.ofTop := by
  refine (neutral_kindAt _).moves.bind fun actual => (?_ : logic.Moves 1 0 _)
  split
  · exact leaves_throw_bind fun before => List.drop_suffix _ _
  · refine popRaw_moves.bind fun value => Neutral.moves ?_
    split
    · exact neutral_pin _ _
    · exact neutral_throw _

theorem functionOfTop_leaves : logic.Leaves Function.ofTop fun before _ after =>
    ∀ function rest, before = .function function :: rest → after = rest := by
  intro site scene result after holds ran
  refine ⟨(functionOfTop_moves site scene result after holds ran).1, ?_⟩
  intro function rest staged
  rw [Function.exec_ofTop staged] at ran
  cases ran
  exact Scene.stack_answer _ trivial

/-- A function that is made is pushed to be pinned. -/
theorem neutral_ofMade (function : FunctionRef) : logic.Neutral (do
    Stack.pushRaw (.function function)
    Function.ofTop : Act Handle) := by
  refine (pushRaw_leaves _).bind (fun _ => functionOfTop_leaves) ?_ ?_
  · rintro before value middle result after ⟨-, rfl⟩ popped
    exact popped function before rfl
  · rintro before error after ⟨⟨⟩, -⟩

theorem neutral_ofNative {native : Native} (permitted : logic.Permits (.newNative native)) :
    logic.Neutral (Function.ofNative native) :=
  (neutral_ask permitted trivial).bind neutral_ofMade

theorem neutral_ofChunk (name text : String) : logic.Neutral (Function.ofChunk name text) := by
  unfold Function.ofChunk
  split
  · exact neutral_throw _
  · exact (neutral_quiet (by trivial)).bind neutral_ofMade

/-- The arguments are staged, or none of them, and then the function below them is gone as well. -/
theorem pushArguments_leaves (pushed : Nat) (arguments : List Value) :
    logic.Leaves (Function.pushArguments pushed arguments) fun before result after =>
      match result with
      | .ok _ => ∃ staged, staged.length = arguments.length ∧ after = staged ++ before
      | .error _ => pushed < before.length → after = before.drop (pushed + 1) := by
  induction arguments generalizing pushed with
  | nil =>
    intro site scene result after holds ran
    cases ran
    exact ⟨.refl holds, [], rfl, rfl⟩
  | cons argument rest ih =>
    refine Leaves.handle (push_pushes argument) fun observed => ?_
    cases observed with
    | ok _ =>
      refine (ih (pushed + 1)).weaken ?_
      rintro middle result after left before ⟨value, rfl⟩
      cases result with
      | ok _ =>
        obtain ⟨staged, count, rfl⟩ := left
        exact ⟨staged ++ [value], by simp [count], by simp⟩
      | error _ => exact fun enough => left (Nat.succ_lt_succ enough)
    | error error =>
      refine (remove_leaves (pushed + 1)).follow (fun _ => leaves_throw ?_) ?_
      · rintro middle between removed before rfl enough
        rw [if_neg (by omega)] at removed
        exact removed.2
      · rintro middle refused after removed before rfl enough
        rw [if_neg (by omega)] at removed
        cases removed.1

theorem neutral_readResults (depth : Nat) : logic.Neutral (Function.readResults depth) := by
  induction depth with
  | zero => exact neutral_pure _
  | succ depth ih => exact (neutral_readAt _).bind fun _ => ih.bind fun _ => neutral_pure _

/-- What stands above `below` after a call: the results, or what was raised, or nothing if it was not
even made. -/
def Answered (below : List Raw) (result : Except Error Bool) (after : List Raw) : Prop :=
  match result with
  | .ok true => ∃ results, after = results ++ below
  | .ok false => ∃ message, after = .string message :: below
  | .error _ => after = below

theorem protectedCall_leaves (count : Nat) : logic.Leaves (Stack.protectedCall count) fun before result after =>
    count < before.length → Answered (before.drop (count + 1)) result after := by
  intro site scene result after holds ran
  by_cases enough : count < scene.stack.length
  · have staged : logic.Keeps scene (scene.setStack (scene.stack.drop (count + 1))) := logic.staged _ _ holds
    obtain ⟨error, rfl, rfl⟩ | ⟨function, outcome, returned, -, called, left⟩ := Stack.protectedCall_cases enough ran
    · exact ⟨staged, fun _ => rfl⟩
    · obtain ⟨kept, same⟩ := logic.task staged.1 called
      have given := fun values => (staged.trans kept).trans (logic.staged returned values kept.1)
      cases outcome with
      | ok results =>
        obtain ⟨rfl, rfl⟩ := left
        exact ⟨given _, fun _ => ⟨results.reverse, congrArg (results.reverse ++ ·) same⟩⟩
      | error raised =>
        obtain ⟨rfl, rfl⟩ := left
        exact ⟨given _, fun _ => ⟨_, congrArg (Raw.ofString _ :: ·) same⟩⟩
  · cases (Stack.exec_protectedCall_short (Nat.le_of_not_lt enough)).symm.trans ran
    exact ⟨.refl holds, fun more => absurd more enough⟩

theorem invoke_leaves (function : Handle) (arguments : List Value) :
    logic.Leaves (Function.invoke function arguments) Answered := by
  have called : logic.Leaves (Stack.protectedCall arguments.length) fun middle result after =>
      ∀ start, (∃ staged, staged.length = arguments.length ∧ middle = staged ++ start) →
        start ≠ [] → Answered start.tail result after :=
    (protectedCall_leaves arguments.length).weaken (by
      rintro middle result after left start ⟨staged, count, rfl⟩ below
      have answered := left (by simpa [count] using List.length_pos_iff.mpr below)
      rwa [← count, ← List.drop_drop, List.drop_left, List.drop_one] at answered)
  have staged : logic.Leaves (do
      Function.pushArguments 0 arguments
      Stack.protectedCall arguments.length : Act Bool) fun start result after =>
        start ≠ [] → Answered start.tail result after := by
    refine (pushArguments_leaves 0 arguments).follow (fun _ => called) ?_
    intro start error after dropped below
    rw [← List.drop_one]
    exact dropped (List.length_pos_iff.mpr below)
  refine (push_pushes _).follow (fun _ => staged.weaken ?_) id
  rintro start result after answered before ⟨callee, rfl⟩
  exact answered (List.cons_ne_nil _ _)

/-- The stack has grown by exactly what is taken off it again. -/
theorem takeResults_leaves (depth : Nat) : logic.Leaves (Function.takeResults depth) fun before _ after =>
    ∀ below, below.length = depth → (∃ results, before = results ++ below) → after = below := by
  have readBack : ∀ count, logic.Leaves (do
      let values ← Attempt.observe (Function.readResults count)
      Stack.remove count
      return .multiple (← Attempt.settle values) : Act CallResult)
      fun before _ after => count ≤ before.length → after = before.drop count := by
    intro count
    refine (neutral_readResults count).handle fun values => ?_
    refine (remove_leaves count).follow (fun _ => ((neutral_settle values).bind fun _ => neutral_pure _).weaken ?_) ?_
    · rintro middle result after rfl start removed before rfl enough
      rw [if_neg (by omega)] at removed
      exact removed.2
    · rintro middle refused after removed before rfl enough
      rw [if_neg (by omega)] at removed
      exact removed.2
  have popped : logic.Leaves (do return .single (← Stack.pop) : Act CallResult)
      fun before _ after => after = before.tail :=
    pop_leaves.bind (fun value => neutral_pure _) (fun popped same => same.trans popped) id
  refine size_leaves.follow (fun size => ?_) ?_
  · split
    next none =>
      refine leaves_pure ?_
      rintro middle start ⟨⟨⟩, rfl⟩ below rfl ⟨results, rfl⟩
      rw [List.length_append, Nat.add_sub_cancel, List.length_eq_zero_iff] at none
      rw [none, List.nil_append]
    next one =>
      refine popped.weaken ?_
      rintro middle result after rfl start ⟨⟨⟩, rfl⟩ below rfl ⟨results, rfl⟩
      rw [List.length_append, Nat.add_sub_cancel, List.length_eq_one_iff] at one
      obtain ⟨value, rfl⟩ := one
      rfl
    next =>
      refine (readBack _).weaken ?_
      rintro middle result after left start ⟨⟨⟩, rfl⟩ below rfl ⟨results, rfl⟩
      rw [List.length_append, Nat.add_sub_cancel] at left
      exact (left (Nat.le_add_right _ _)).trans List.drop_left
  · rintro before error after ⟨⟨⟩, -⟩

theorem takeMessage_leaves : logic.Leaves Function.takeMessage fun before _ after => after = before.tail := by
  refine pop_leaves.follow (fun value => ?_) id
  split <;> exact leaves_pure fun middle before popped => popped

theorem neutral_functionCall (function : Handle) (arguments : List Value) :
    logic.Neutral (Function.call function arguments) := by
  refine size_leaves.follow (fun depth => ?_) ?_
  · refine (invoke_leaves function arguments).follow (fun answer => ?_) ?_
    · cases answer with
      | true =>
        refine (takeResults_leaves depth).weaken ?_
        rintro grown result after left middle ⟨results, rfl⟩ before ⟨found, rfl⟩
        cases found
        exact left _ rfl ⟨results, rfl⟩
      | false =>
        refine takeMessage_leaves.weaken ?_
        rintro grown result after rfl middle ⟨message, rfl⟩ before ⟨-, rfl⟩
        rfl
    · rintro middle error after rfl before ⟨-, rfl⟩
      rfl
  · rintro before error after ⟨⟨⟩, -⟩

/-! ### Globals -/

theorem neutral_setGlobal (name : String) (value : Value) : logic.Neutral (Global.set name value) := by
  have assigned : logic.Leaves (do
      let raw ← Stack.popRaw
      Act.use fun site => site.assign (.table Heap.globals) (.ofString name) raw .other : Act Unit)
      fun before _ after => after = before.tail :=
    popRaw_leaves.bind (fun raw => neutral_use _) (fun popped same => same.trans popped) id
  refine (push_pushes value).bind (fun _ => assigned) ?_ id
  rintro before _ middle result after ⟨_, rfl⟩ rfl
  rfl

theorem neutral_getGlobal (name : String) : logic.Neutral (Global.get name) := by
  refine (neutral_use _).bind fun value => ?_
  refine (pushRaw_leaves value).bind (fun _ => pop_leaves) ?_ ?_
  · rintro before _ middle result after ⟨-, rfl⟩ rfl
    rfl
  · rintro before error after ⟨⟨⟩, -⟩

end TileScript.Bridge.StackLogic
