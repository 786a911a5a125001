import Mathlib.Data.List.Forall2
import TileScript.Proofs.Execution
import TileScript.Bridge.NativeCall

/-! What the host's use of the stack comes to when the values it needs are staged. None of it can
fail, so what is made of these acts alone is known to end. -/

namespace TileScript.Bridge
open Script Attempt

/-- The values that the host has staged, the last one first. -/
def Scene.stack (scene : Scene) : List Raw := scene.interpreter.stack

@[simp] theorem Scene.stack_setStack (scene : Scene) (values : List Raw) : (scene.setStack values).stack = values := rfl

@[simp] theorem Scene.setStack_setStack (scene : Scene) (early late : List Raw) :
    (scene.setStack early).setStack late = scene.setStack late := rfl

@[simp] theorem Scene.setStack_stack (scene : Scene) : scene.setStack scene.stack = scene := rfl

theorem Scene.answer_stack (scene : Scene) : scene.answer .stack = (scene.stack, scene) := rfl

theorem Scene.answer_registered (scene : Scene) (registration : Nat) :
    scene.answer (.registered registration) = (scene.interpreter.registry.value? registration, scene) := rfl

/-- The scene in which a value is registered. -/
def Scene.register (scene : Scene) (value : Raw) : Scene := (scene.answer (.register value)).2

/-- The handle to an object that is registered next. -/
def Scene.nextHandle (scene : Scene) (object : Nat) : Handle :=
  ⟨⟨scene.context, scene.interpreter.registry.next⟩, object⟩

/-- The object that a handle denotes, or why it denotes none. -/
def Scene.resolve (scene : Scene) (handle : Handle) : Except Error Raw :=
  if handle.context ≠ scene.context then .error .foreign
  else
    match scene.interpreter.registry.value? handle.pin.registration with
    | some value => .ok value
    | none => .error .stale

/-- What a value stands for in a scene: the object of a handle is looked up there. -/
def Scene.rawOf (scene : Scene) : Value → Except Error Raw
  | .number value => .ok (ofDouble value)
  | .string value => .ok (.ofString value)
  | .boolean value => .ok (.boolean value)
  | .nil => .ok .nil
  | .table handle | .function handle => scene.resolve handle

@[simp] theorem Scene.rawOf_setStack (scene : Scene) (values : List Raw) : (scene.setStack values).rawOf = scene.rawOf :=
  rfl

variable {runner : Runner} {site : Site} {scene : Scene} {top : Raw} {rest : List Raw}

namespace Act

theorem exec_resolve (handle : Handle) :
    exec runner (resolve handle) site scene = some (scene.resolve handle, scene) := by
  rw [resolve, exec_bind, exec_ask, Scene.resolve]
  change exec runner (if handle.context ≠ scene.context then _ else _) site scene = _
  split
  · rfl
  · rw [exec_bind, exec_ask, Scene.answer_registered]
    cases scene.interpreter.registry.value? handle.pin.registration <;> rfl

theorem exec_toRaw (value : Value) : exec runner (toRaw value) site scene = some (scene.rawOf value, scene) := by
  cases value with
  | table handle | function handle => exact exec_resolve handle
  | number _ | string _ | boolean _ | nil => rfl

theorem exec_pin (value : Raw) (object : Nat) :
    exec runner (pin value object) site scene = some (.ok (scene.nextHandle object), scene.register value) := by
  obtain ⟨_, ⟨_, _, ⟨_, free, _, _⟩⟩, _, _⟩ := scene
  cases free <;> rfl

end Act

namespace Stack

theorem exec_push (value : Value) :
    exec runner (push value) site scene = some
      (match scene.rawOf value with
      | .ok raw => (.ok (), scene.setStack (raw :: scene.stack))
      | .error error => (.error error, scene)) := by
  rw [push, exec_bind, Act.exec_toRaw]
  cases scene.rawOf value <;> rfl

/-- Places below zero count from the top. -/
theorem above?_below {place count : Nat} (inside : place < count) : above? (-(place + 1 : Nat)) count = some place := by
  rw [above?, if_neg, if_pos]
  · exact congrArg some (by omega)
  all_goals
    rw [Bool.and_eq_true, decide_eq_true_eq, decide_eq_true_eq]
    omega

theorem exec_pushRaw (value : Raw) :
    exec runner (pushRaw value) site scene = some (.ok (), scene.setStack (value :: scene.stack)) := rfl

theorem exec_popRaw (staged : scene.stack = top :: rest) :
    exec runner popRaw site scene = some (.ok top, scene.setStack rest) := by
  simp only [popRaw, exec_bind, exec_ask, Scene.answer_stack, Option.bind_some, staged]
  rfl

theorem exec_rawAt {place : Nat} {value : Raw} (staged : scene.stack[place]? = some value) :
    exec runner (rawAt (-(place + 1 : Nat))) site scene = some (.ok value, scene) := by
  have found : (above? (-(place + 1 : Nat)) scene.stack.length).bind (scene.stack[·]?) = some value := by
    rw [above?_below (List.getElem?_eq_some_iff.mp staged).1]
    exact staged
  simp only [rawAt, exec_bind, exec_ask, Scene.answer_stack, Option.bind_some, found]
  rfl

/-- What lies on the stack is given to the host as any value of scripts is. -/
theorem exec_pop (staged : scene.stack = top :: rest) :
    exec runner pop site scene = exec runner (Act.ofRaw top) site (scene.setStack rest) := exec_bind_ok (exec_popRaw staged) _

theorem exec_readAt {place : Nat} {value : Raw} (staged : scene.stack[place]? = some value) :
    exec runner (readAt (-(place + 1 : Nat))) site scene = exec runner (Act.ofRaw value) site scene :=
  exec_bind_ok (exec_rawAt staged) _

theorem exec_kindAt_top {kind : Kind} (staged : scene.stack = top :: rest) (known : kindOf top = .ok kind) :
    exec runner (kindAt (-1)) site scene = some (.ok kind, scene) := by
  have found : exec runner (rawAt (-1)) site scene = some (.ok top, scene) :=
    exec_rawAt (show scene.stack[0]? = some top by rw [staged]; rfl)
  rw [kindAt, exec_bind_ok found, Act.kind, known]
  rfl

theorem exec_tableAt {place : Nat} {table : TableRef} (staged : scene.stack[place]? = some (.table table)) :
    exec runner (tableAt (-(place + 1 : Nat))) site scene = some (.ok table, scene) := by
  exact exec_bind_ok (exec_rawAt staged) _

theorem exec_takeTop {values rest : List Raw} (staged : scene.stack = values.reverse ++ rest) :
    exec runner (takeTop values.length) site scene = some (.ok values, scene.setStack rest) := by
  have enough : ¬ scene.stack.length < values.length := by simp [staged]
  rw [takeTop, exec_bind, exec_ask, Scene.answer_stack]
  change exec runner (if scene.stack.length < values.length then _ else _) site scene = _
  have count : values.length = values.reverse.length := List.length_reverse.symm
  rw [if_neg enough, exec_bind, exec_ask, count, staged]
  simp only [Option.bind_some, List.take_left, List.drop_left, List.reverse_reverse]
  rfl

theorem exec_remove {values rest : List Raw} (staged : scene.stack = values ++ rest) :
    exec runner (remove values.length) site scene = some (.ok (), scene.setStack rest) := by
  have enough : ¬ scene.stack.length < values.length := by simp [staged]
  rw [remove, exec_bind, exec_ask, Scene.answer_stack]
  change exec runner (if scene.stack.length < values.length then _ else _) site scene = _
  rw [if_neg enough, exec_ask, staged, List.drop_left]
  rfl

/-- A frame takes everything off that its act has left. -/
theorem exec_framed {α : Type} (act : Act α) :
    exec runner (framed act) site scene = (exec runner act site scene).map fun (result, after) =>
      (result, after.setStack (after.stack.drop (after.stack.length - scene.stack.length))) := by
  change exec runner (size >>= _) site scene = _
  rw [exec_bind]
  change exec runner (observe act >>= _) site scene = _
  rw [exec_bind, exec_observe, Option.bind_map, Option.map_eq_bind]
  rfl

theorem exec_protectedCall_short {count : Nat} (short : scene.stack.length ≤ count) :
    exec runner (protectedCall count) site scene =
      some (.error (.stackIndex (-(count + 1)) scene.stack.length), scene) := by
  change exec runner (ask .stack >>= _) site scene = _
  rw [exec_bind, exec_ask]
  change exec runner (if scene.stack.length < count + 1 then _ else _) site scene = _
  rw [if_pos (by omega)]
  rfl

/-- What a call of a staged function can come to, given enough values for it and its arguments. -/
theorem protectedCall_cases {count : Nat} {result : Except Error Bool} {after : Scene}
    (enough : count < scene.stack.length)
    (ran : exec runner (protectedCall count) site scene = some (result, after)) :
    (∃ error, result = .error error ∧ after = scene.setStack (scene.stack.drop (count + 1))) ∨
    ∃ function outcome returned, scene.stack[count]? = some (.function function) ∧
      runner (.call (.function function) (scene.stack.take count).reverse (described site).nested)
        (scene.setStack (scene.stack.drop (count + 1))) = some (outcome, returned) ∧
      match outcome with
      | .ok results => result = .ok true ∧ after = returned.setStack (results.reverse ++ returned.stack)
      | .error raised => result = .ok false ∧
          after = returned.setStack (.ofString (withoutTrace (raisedMessage raised)) :: returned.stack) := by
  change exec runner (ask .stack >>= _) site scene = _ at ran
  rw [exec_bind, exec_ask] at ran
  change exec runner (if scene.stack.length < count + 1 then _ else _) site scene = _ at ran
  rw [if_neg (by omega)] at ran
  rw [exec_bind, exec_ask] at ran
  simp only [Option.bind_some] at ran
  split at ran
  · next function known =>
    rw [exec_bind, exec_call, Option.bind_map, Option.bind_eq_some_iff] at ran
    obtain ⟨⟨outcome, returned⟩, called, ran⟩ := ran
    refine .inr ⟨function, outcome, returned, known, called, ?_⟩
    cases outcome <;> (cases ran; exact ⟨rfl, rfl⟩)
  · next value _ _ =>
    change exec runner (settle _ >>= _) site _ = _ at ran
    rw [exec_bind, exec_settle] at ran
    cases known : kindOf value with
    | ok _ | error _ =>
      rw [known] at ran
      cases ran
      exact .inl ⟨_, rfl, rfl⟩
  · cases ran
    exact .inl ⟨_, rfl, rfl⟩

end Stack

open Stack

theorem Table.exec_ofTop {table : TableRef} (staged : scene.stack = .table table :: rest) :
    exec runner Table.ofTop site scene =
      some (.ok (scene.nextHandle table.index), (scene.setStack rest).register (.table table)) := by
  rw [Table.ofTop, exec_bind_ok (exec_kindAt_top staged rfl)]
  refine (exec_bind_ok (exec_popRaw staged) _).trans ?_
  exact Act.exec_pin _ _

/-- A new table can always be made. -/
theorem Table.exec_create : exec runner Table.create site scene = some
    (.ok ((scene.answer (.heap (.newTable 0 0))).2.nextHandle (scene.answer (.heap (.newTable 0 0))).1.index),
      (scene.answer (.heap (.newTable 0 0))).2.register (.table (scene.answer (.heap (.newTable 0 0))).1)) := by
  let made := (scene.answer (.heap (.newTable 0 0))).2
  let table := (scene.answer (.heap (.newTable 0 0))).1
  have pushed : exec runner Stack.createTable site scene = some (.ok (), made.setStack (.table table :: made.stack)) := rfl
  exact (exec_bind_ok pushed _).trans (Table.exec_ofTop rfl)

theorem Function.exec_ofTop {function : FunctionRef} (staged : scene.stack = .function function :: rest) :
    exec runner Function.ofTop site scene =
      some (.ok (scene.nextHandle function.index), (scene.setStack rest).register (.function function)) := by
  rw [Function.ofTop, exec_bind_ok (exec_kindAt_top staged rfl)]
  refine (exec_bind_ok (exec_popRaw staged) _).trans ?_
  exact Act.exec_pin _ _

namespace Function

/-- Arguments that were pushed all have a meaning here. -/
theorem pushArguments_ok {pushed : Nat} {arguments : List Value} {after : Scene}
    (ran : exec runner (pushArguments pushed arguments) site scene = some (.ok (), after)) :
    ∃ raws, arguments.mapM scene.rawOf = .ok raws ∧ raws.length = arguments.length ∧
      after = scene.setStack (raws.reverse ++ scene.stack) := by
  induction arguments generalizing pushed scene with
  | nil =>
    cases ran
    exact ⟨[], rfl, rfl, rfl⟩
  | cons argument rest ih =>
    rw [pushArguments, exec_bind, exec_observe, exec_push] at ran
    cases known : scene.rawOf argument with
    | ok raw =>
      rw [known] at ran
      obtain ⟨raws, values, count, rfl⟩ := ih ran
      refine ⟨raw :: raws, ?_, congrArg (· + 1) count, ?_⟩
      · rw [Scene.rawOf_setStack] at values
        rw [List.mapM_cons, known, values]
        rfl
      · simp
    | error error =>
      rw [known] at ran
      change exec runner (remove (pushed + 1) >>= fun _ => throw error) site scene = _ at ran
      rw [exec_bind, Option.bind_eq_some_iff] at ran
      obtain ⟨⟨_ | _, between⟩, -, ⟨⟩⟩ := ran

/-- What is on top after a call that went well is what the callee gave back. -/
theorem invoke_ok {function : Handle} {arguments : List Value} {grown : Scene}
    (ran : exec runner (invoke function arguments) site scene = some (.ok true, grown)) :
    ∃ callee values results returned, scene.resolve function = .ok (.function callee) ∧
      arguments.mapM scene.rawOf = .ok values ∧
      runner (.call (.function callee) values (described site).nested) scene = some (.ok results, returned) ∧
      grown = returned.setStack (results.reverse ++ returned.stack) := by
  rw [invoke, exec_bind, exec_push] at ran
  cases found : scene.resolve function with
  | error error =>
    rw [show scene.rawOf (.function function) = .error error from found] at ran
    cases ran
  | ok top =>
    rw [show scene.rawOf (.function function) = .ok top from found] at ran
    change exec runner (pushArguments 0 arguments >>= _) site _ = _ at ran
    rw [exec_bind, Option.bind_eq_some_iff] at ran
    obtain ⟨⟨_ | _, between⟩, pushed, ran⟩ := ran
    · cases ran
    · obtain ⟨values, known, count, rfl⟩ := pushArguments_ok pushed
      have reversed : values.reverse.length = arguments.length := values.length_reverse.trans count
      obtain ⟨_, ⟨⟩, -⟩ | ⟨callee, outcome, returned, below, called, left⟩ :=
        protectedCall_cases (by simp [reversed]) ran
      simp [← reversed] at below
      cases outcome with
      | error raised => cases left.1
      | ok results =>
        subst below
        refine ⟨callee, values, results, returned, rfl, known, ?_, left.2⟩
        simpa [← reversed, ← List.drop_drop] using called

end Function

namespace Native

/-- Results that have a meaning here go over the stack. -/
theorem exec_pushResults (pushed : Nat) {values : List Value} {raws : List Raw}
    (known : List.Forall₂ (fun value raw => scene.rawOf value = .ok raw) values raws) :
    exec runner (pushResults pushed values) site scene = some (.ok (), scene.setStack (raws.reverse ++ scene.stack)) := by
  induction values generalizing pushed raws scene with
  | nil =>
    cases known
    rfl
  | cons value rest ih =>
    cases known with
    | @cons _ raw _ raws first others =>
      rw [pushResults, exec_bind, exec_observe, exec_push, first]
      have grown : exec runner (pushResults (pushed + 1) rest) site (scene.setStack (raw :: scene.stack)) = _ :=
        ih (pushed + 1) others
      refine Eq.trans grown ?_
      simp

theorem exec_pass {result : CallResult} {values : List Value} {raws : List Raw} (gives : result.values = .ok values)
    (known : List.Forall₂ (fun value raw => scene.rawOf value = .ok raw) values raws) :
    exec runner (pass result) site scene = some (.ok raws, scene) := by
  rw [pass, gives]
  refine (exec_bind_ok (exec_pushResults 0 known) _).trans ?_
  rw [exec_mapError, known.length_eq, exec_takeTop rfl]
  rfl

theorem exec_call (code : HostCode) (native : Native) (arguments : Arguments) : exec runner (native.call code arguments) site scene =
    (exec runner (native.receive arguments) site scene).bind fun (received, checked) =>
      match received with
      | .error message => some (.error message, checked)
      | .ok () =>
        (exec runner (native.body.run code arguments) site checked).bind fun (outcome, finished) =>
          match outcome with
          | .error error => some (.error error.raised, finished)
          | .ok result => exec runner (pass result) site finished := by
  rw [call, exec_bind]
  congr 1
  funext ⟨received, checked⟩
  cases received with
  | error message => rfl
  | ok _ =>
    change exec runner ((native.body.run code arguments).mapError Error.raised >>= pass) site checked = _
    rw [exec_bind, exec_mapError, Option.bind_map]
    congr 1
    funext ⟨outcome, finished⟩
    cases outcome <;> rfl

end Native
end TileScript.Bridge
