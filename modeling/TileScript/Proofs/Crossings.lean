import TileScript.Proofs.CallProtocol

/-! Handles in contexts that are not theirs. Every way into a context goes through the registry, which refuses
them; what was staged before the refusal is taken back. -/

namespace TileScript.Bridge
open Script Attempt

variable {runner : Runner} {site : Site} {scene : Scene} {code : HostCode}

/-- The handles of other contexts. -/
def Value.IsForeign (context : ContextId) (value : Value) : Prop :=
  ∃ handle, value.handle? = some handle ∧ handle.context ≠ context

namespace Scene

/-- A value that is no handle of this context, or one that was not dropped. -/
def Remembers (scene : Scene) (value : Value) : Prop :=
  ∀ handle, value.handle? = some handle → handle.context = scene.context →
    scene.registered handle.pin.registration ≠ none

theorem resolve_foreign {handle : Handle} (foreign : handle.context ≠ scene.context) :
    scene.resolve handle = .error .foreign := if_pos foreign

theorem rawOf_foreign {value : Value} (foreign : value.IsForeign scene.context) :
    scene.rawOf value = .error .foreign := by
  obtain ⟨handle, is, elsewhere⟩ := foreign
  cases value with
  | table _ | function _ =>
    cases is
    exact resolve_foreign elsewhere
  | number _ | string _ | boolean _ | nil => cases is

theorem Remembers.resolve {handle : Handle} (here : handle.context = scene.context)
    (known : scene.registered handle.pin.registration ≠ none) : ∃ raw, scene.resolve handle = .ok raw := by
  obtain ⟨raw, found⟩ := Option.ne_none_iff_exists'.mp known
  exact ⟨raw, resolve_ok.mpr ⟨here, found⟩⟩

theorem Remembers.rawOf {value : Value} (known : scene.Remembers value) (own : ¬ value.IsForeign scene.context) :
    ∃ raw, scene.rawOf value = .ok raw := by
  have here : ∀ handle, value.handle? = some handle → handle.context = scene.context := fun handle is =>
    Classical.byContradiction fun elsewhere => own ⟨handle, is, elsewhere⟩
  cases value with
  | table handle | function handle => exact Remembers.resolve (here handle rfl) (known handle rfl (here handle rfl))
  | number _ | string _ | boolean _ | nil => exact ⟨_, rfl⟩

/-- Whatever comes in is an object that the context itself has registered, or no object at all. -/
theorem rawOf_own {value : Value} {raw : Raw} (known : scene.rawOf value = .ok raw) :
    (∃ handle, value.handle? = some handle ∧ handle.context = scene.context ∧
      scene.registered handle.pin.registration = some raw) ∨
    value.handle? = none ∧ (∀ table, raw ≠ .table table) ∧ ∀ function, raw ≠ .function function := by
  cases value with
  | table handle | function handle =>
    obtain ⟨here, registered⟩ := resolve_ok.mp known
    exact .inl ⟨handle, rfl, here, registered⟩
  | number value =>
    cases known
    rw [ofDouble]
    split <;> exact .inr ⟨rfl, by simp, by simp⟩
  | string _ | boolean _ | nil =>
    cases known
    exact .inr ⟨rfl, by simp [Raw.ofString], by simp [Raw.ofString]⟩

end Scene

/-! ### Values that are pushed one after the other -/

namespace Stack

/-- Pushes values before something is done with them. -/
def pushing {α : Type} (last : Act α) : List Value → Act α
  | [] => last
  | value :: rest => do
    push value
    pushing last rest

theorem exec_push_foreign {value : Value} (foreign : value.IsForeign scene.context) :
    exec runner (push value) site scene = some (.error .foreign, scene) := by
  rw [exec_push, Scene.rawOf_foreign foreign]

theorem exec_push_own {value : Value} {raw : Raw} (known : scene.rawOf value = .ok raw) :
    exec runner (push value) site scene = some (.ok (), scene.setStack (raw :: scene.stack)) := by
  rw [exec_push, known]

theorem exec_pushing_foreign {α : Type} (last : Act α) {values : List Value} (known : ∀ value ∈ values, scene.Remembers value)
    (crossing : ∃ value ∈ values, value.IsForeign scene.context) : ∃ staged,
      exec runner (pushing last values) site scene = some (.error .foreign, scene.setStack (staged ++ scene.stack)) := by
  induction values generalizing scene with
  | nil =>
    obtain ⟨_, ⟨⟩, -⟩ := crossing
  | cons value rest ih =>
    -- The first foreign value ends it; what was staged before is left for the frame around it to take off.
    by_cases foreign : value.IsForeign scene.context
    · refine ⟨[], ?_⟩
      rw [pushing, exec_bind, exec_push_foreign foreign]
      rfl
    · obtain ⟨raw, found⟩ := (known value List.mem_cons_self).rawOf foreign
      have others := ((List.exists_mem_cons_iff _ _ _).mp crossing).resolve_left foreign
      obtain ⟨staged, ran⟩ : ∃ staged, exec runner (pushing last rest) site (scene.setStack (raw :: scene.stack)) = _ :=
        ih (fun other listed => known other (List.mem_cons_of_mem _ listed)) others
      refine ⟨staged ++ [raw], ?_⟩
      rw [pushing, exec_bind, exec_push_own found, List.append_assoc]
      exact ran

theorem exec_framed_foreign {α : Type} (last : Act α) {values : List Value} (known : ∀ value ∈ values, scene.Remembers value)
    (crossing : ∃ value ∈ values, value.IsForeign scene.context) :
    exec runner (framed (pushing last values)) site scene = some (.error .foreign, scene) := by
  obtain ⟨staged, ran⟩ : ∃ staged, exec runner (pushing last values) site scene = _ :=
    exec_pushing_foreign last known crossing
  rw [exec_framed, ran]
  simp

end Stack

namespace Function

theorem exec_pushArguments_foreign {arguments : List Value} {below rest : List Raw} (staged : scene.stack = below ++ rest)
    (known : ∀ value ∈ arguments, scene.Remembers value) (crossing : ∃ value ∈ arguments, value.IsForeign scene.context)
    {pushed : Nat} (count : below.length = pushed + 1) :
    exec runner (pushArguments pushed arguments) site scene = some (.error .foreign, scene.setStack rest) := by
  -- What lies above the rest is the function and the arguments so far, one more than were pushed.
  induction arguments generalizing scene below pushed with
  | nil =>
    obtain ⟨_, ⟨⟩, -⟩ := crossing
  | cons value others ih =>
    rw [pushArguments, exec_bind, exec_observe]
    by_cases foreign : value.IsForeign scene.context
    · rw [Stack.exec_push_foreign foreign]
      change exec runner (Stack.remove (pushed + 1) >>= fun _ => throw _) site scene = _
      rw [exec_bind, ← count, Stack.exec_remove staged]
      rfl
    · obtain ⟨raw, found⟩ := (known value List.mem_cons_self).rawOf foreign
      have grown : (scene.setStack (raw :: scene.stack)).stack = (raw :: below) ++ rest := congrArg (raw :: ·) staged
      rw [Stack.exec_push_own found]
      exact ih grown (fun other listed => known other (List.mem_cons_of_mem _ listed))
        (((List.exists_mem_cons_iff _ _ _).mp crossing).resolve_left foreign) (congrArg (· + 1) count)

theorem exec_call_foreign {function : Handle} {arguments : List Value}
    (known : ∀ value ∈ .function function :: arguments, scene.Remembers value)
    (crossing : ∃ value ∈ .function function :: arguments, value.IsForeign scene.context) :
    exec runner (Function.call function arguments) site scene = some (.error .foreign, scene) := by
  have refused : exec runner (invoke function arguments) site scene = some (.error .foreign, scene) := by
    rw [invoke, exec_bind]
    by_cases foreign : (Value.function function).IsForeign scene.context
    · rw [Stack.exec_push_foreign foreign]
      rfl
    · obtain ⟨raw, found⟩ := (known _ List.mem_cons_self).rawOf foreign
      rw [Stack.exec_push_own found]
      change exec runner (pushArguments 0 arguments >>= _) site (scene.setStack (raw :: scene.stack)) = _
      have staged : (scene.setStack (raw :: scene.stack)).stack = [raw] ++ scene.stack := rfl
      rw [exec_bind, exec_pushArguments_foreign staged (fun other listed => known other (List.mem_cons_of_mem _ listed))
        (((List.exists_mem_cons_iff _ _ _).mp crossing).resolve_left foreign) (show [raw].length = 0 + 1 from rfl)]
      rfl
  change exec runner (Stack.size >>= _) site scene = _
  rw [exec_bind]
  change exec runner (invoke function arguments >>= _) site scene = _
  rw [exec_bind, refused]
  rfl

end Function

/-! ### Ways into a context -/

/-- What the host can do with values and tables and functions in a context. -/
inductive Handover : Type → Type where
  | push (value : Value) : Handover Unit
  | setGlobal (name : String) (value : Value) : Handover Unit
  | get (table : Handle) (key : Value) : Handover Value
  | set (table : Handle) (key value : Value) : Handover Unit
  | getField (table : Handle) (name : String) : Handover Value
  | setField (table : Handle) (name : String) (value : Value) : Handover Unit
  | fieldKind (table : Handle) (name : String) : Handover Kind
  | call (function : Handle) (arguments : List Value) : Handover CallResult

namespace Handover

variable {α : Type}

def act : Handover α → Act α
  | .push value => Stack.push value
  | .setGlobal name value => Global.set name value
  | .get table key => Table.get table key
  | .set table key value => Table.set table key value
  | .getField table name => Table.getField table name
  | .setField table name value => Table.setField table name value
  | .fieldKind table name => Table.fieldKind table name
  | .call function arguments => Function.call function arguments

/-- The values that go to the context, in this order. -/
def handed : Handover α → List Value
  | .push value | .setGlobal _ value => [value]
  | .get table key => [.table table, key]
  | .set table key value => [.table table, key, value]
  | .getField table _ | .fieldKind table _ => [.table table]
  | .setField table _ value => [.table table, value]
  | .call function arguments => .function function :: arguments

/-- A foreign value is refused wherever it stands, and all is as if nothing had been tried. -/
theorem refused (handover : Handover α) (known : ∀ value ∈ handover.handed, scene.Remembers value)
    (crossing : ∃ value ∈ handover.handed, value.IsForeign scene.context) :
    exec runner handover.act site scene = some (.error .foreign, scene) := by
  cases handover with
  | push value =>
    obtain ⟨_, listed, foreign⟩ := crossing
    exact Stack.exec_push_foreign (List.mem_singleton.mp listed ▸ foreign)
  | setGlobal name value =>
    obtain ⟨_, listed, foreign⟩ := crossing
    rw [act, Global.set, exec_bind, Stack.exec_push_foreign (List.mem_singleton.mp listed ▸ foreign)]
    rfl
  | get table key => exact Stack.exec_framed_foreign (do Stack.getTable (-2); Stack.pop) known crossing
  | set table key value => exact Stack.exec_framed_foreign (Stack.setTable (-3)) known crossing
  | getField table name => exact Stack.exec_framed_foreign (do Stack.getField (-1) name; Stack.pop) known crossing
  | setField table name value => exact Stack.exec_framed_foreign (Stack.setField (-2) name) known crossing
  | fieldKind table name =>
    exact Stack.exec_framed_foreign (do Stack.getField (-1) name; Stack.kindAt (-1)) known crossing
  | call function arguments => exact Function.exec_call_foreign known crossing

end Handover

/-! ### Results of native functions -/

namespace Native

theorem exec_pushResults_foreign {values : List Value} {below rest : List Raw} (staged : scene.stack = below ++ rest)
    (known : ∀ value ∈ values, scene.Remembers value) (crossing : ∃ value ∈ values, value.IsForeign scene.context) :
    exec runner (pushResults below.length values) site scene = some (.error Error.foreign.text, scene.setStack rest) := by
  induction values generalizing scene below with
  | nil =>
    obtain ⟨_, ⟨⟩, -⟩ := crossing
  | cons value others ih =>
    rw [pushResults, exec_bind, exec_observe]
    by_cases foreign : value.IsForeign scene.context
    · rw [Stack.exec_push_foreign foreign]
      change exec runner ((observe (Stack.remove below.length) : Attempt String (Except Error Unit)) >>= fun _ => throw _)
        site scene = _
      rw [exec_bind, exec_observe, Stack.exec_remove staged]
      rfl
    · obtain ⟨raw, found⟩ := (known value List.mem_cons_self).rawOf foreign
      have grown : (scene.setStack (raw :: scene.stack)).stack = (raw :: below) ++ rest := congrArg (raw :: ·) staged
      rw [Stack.exec_push_own found]
      exact ih grown (fun other listed => known other (List.mem_cons_of_mem _ listed))
        (((List.exists_mem_cons_iff _ _ _).mp crossing).resolve_left foreign)

theorem exec_pass_foreign {result : CallResult} {values : List Value} (gives : result.values = .ok values)
    (known : ∀ value ∈ values, scene.Remembers value) (crossing : ∃ value ∈ values, value.IsForeign scene.context) :
    exec runner (pass result) site scene = some (.error Error.foreign.text, scene) := by
  have taken : exec runner (pushResults 0 values) site scene = some (.error Error.foreign.text, scene) :=
    exec_pushResults_foreign (List.nil_append _).symm known crossing
  rw [pass, gives]
  exact exec_bind_error taken _

/-- Raising gives nothing back, whoever handles what is raised. -/
theorem evaluation_raise {α : Type} {raised : Raw} {result : Except Raw α} {after : Scene}
    (ran : evaluation runner (site.raise raised : Eval α) scene = some (result, after)) : ∃ told, result = .error told := by
  rw [Site.raise] at ran
  cases handler : site.handler with
  | none =>
    rw [handler] at ran
    cases ran
    exact ⟨_, rfl⟩
  | some function =>
    rw [handler] at ran
    change evaluation runner (site.callOne function [raised] >>= fun told => throw told) scene = _ at ran
    rw [evaluation_bind, Option.bind_eq_some_iff] at ran
    obtain ⟨⟨_ | _, between⟩, -, ⟨⟩⟩ := ran <;> exact ⟨_, rfl⟩

end Native

section Calls

variable {budget : Nat} {place : FunctionRef} {native : Native} {arguments : Arguments} {result : CallResult}
  {values : List Value} {checked finished : Scene} (room : site.nesting < Site.maxNesting)
  (found : scene.interpreter.heap.functions[place.index]? = some (.native native))
  (received : exec (perform code budget) (native.receive arguments) (site.enter arguments.length) scene = some (.ok (), checked))
  (ran : exec (perform code budget) (native.body.run code arguments) (site.enter arguments.length) checked =
    some (.ok result, finished))
  (gives : result.values = .ok values) (known : ∀ value ∈ values, finished.Remembers value)
  (crossing : ∃ value ∈ values, value.IsForeign finished.context)
include room found received ran gives known crossing

/-- The name of the function stands before what is raised. -/
theorem perform_foreign : perform code (budget + 1) (.call (.function place) arguments site) scene =
    evaluation (perform code budget) ((site.enter arguments.length).raise (.failure
      (native.name ++ ": " ++ "handle belongs to a different Lua context") finished.interpreter.heap.numbers))
      (finished.answer (.heap .newNumber)).2 := by
  rw [perform_function room found (.native native), Native.interpret_run_native, Native.exec_call, received]
  simp only [Option.bind_some, ran, Native.exec_pass_foreign gives known crossing]
  rw [Native.fail, evaluation_bind, evaluation_ask]
  rfl

theorem perform_foreign_error {outcome : Outcome} {after : Scene}
    (called : perform code (budget + 1) (.call (.function place) arguments site) scene = some (outcome, after)) :
    ∃ told, outcome = .error told := by
  rw [perform_foreign room found received ran gives known crossing] at called
  exact Native.evaluation_raise called

end Calls
end TileScript.Bridge
