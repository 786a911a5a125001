import TileScript.Proofs.Undisturbed
import TileScript.Proofs.Worlds

/-! Named fields of tables. To read or to set one by its name comes to the same as to do it by a key, and its kind is
that of the value that is read. -/

namespace TileScript.Bridge
open Script Attempt

variable {runner : Runner} {site : Site} {scene : Scene}

/-- Acts that come to the same wherever they are done. -/
def Attempt.Alike {α : Type} (first second : Act α) : Prop :=
  ∀ runner site scene, exec runner first site scene = exec runner second site scene

/-- A scene without what is on its stack. -/
def Scene.unstaged (scene : Scene) : Scene := scene.setStack []

/-- The scene with no more on its stack than there was at some time. -/
def Scene.cut (scene : Scene) (depth : Nat) : Scene := scene.setStack (scene.stack.drop (scene.stack.length - depth))

theorem Scene.cut_setStack_append (scene : Scene) (pushed : List Raw) :
    (scene.setStack (pushed ++ scene.stack)).cut scene.stack.length = scene := by
  simp [Scene.cut]

/-- What it takes to read a value: there is a handle more if it is a table or a function. -/
def Scene.Reads (scene : Scene) : Value → Scene → Prop
  | .table handle, after => ∃ table : TableRef, handle = scene.nextHandle table.index ∧
      after.unstaged = (scene.register (.table table)).unstaged
  | .function handle, after => ∃ function : FunctionRef, handle = scene.nextHandle function.index ∧
      after.unstaged = (scene.register (.function function)).unstaged
  | _, after => after.unstaged = scene.unstaged

/-- A look at the kind of a value says what comes of reading it, and leaves nothing out but the handle. -/
def Foretells : Option (Except Error Kind × Scene) → Option (Except Error Value × Scene) → Prop
  | none, found => found = none
  | some (.error error, looked), found => ∃ after, found = some (.error error, after) ∧ after.unstaged = looked.unstaged
  | some (.ok kind, looked), found =>
    ∃ value after, found = some (.ok value, after) ∧ value.kind = kind ∧ looked.Reads value after

theorem Foretells.result {look : Option (Except Error Kind × Scene)} {found : Option (Except Error Value × Scene)}
    (foretells : Foretells look found) : look.map Prod.fst = found.map fun ran => ran.1.map Value.kind := by
  match look, foretells with
  | none, foretells =>
    rw [show found = none from foretells]
    rfl
  | some (.error error, looked), ⟨after, same, _⟩ =>
    rw [same]
    rfl
  | some (.ok kind, looked), ⟨value, after, same, known, _⟩ =>
    rw [same, ← known]
    rfl

namespace Stack

/-- What is not a table is known by its kind. -/
def strayed (value : Raw) : Error :=
  match kindOf value with
  | .ok kind => .type .table kind
  | .error foreign => .unsupported foreign

theorem exec_tableAt_stray {place : Nat} {value : Raw} (staged : scene.stack[place]? = some value)
    (stray : ∀ table, value ≠ .table table) :
    exec runner (tableAt (-(place + 1 : Nat))) site scene = some (.error (strayed value), scene) := by
  rw [tableAt, exec_bind_ok (exec_rawAt staged)]
  cases value with
  | table table => exact absurd rfl (stray table)
  | nil | boolean _ | integer _ | number _ | string _ | function _ | thread _ | file | failure _ _ => rfl

/-- In a frame that starts with a handle, the rest is done above the object that it denotes. -/
theorem exec_framed_push {α : Type} (act : Act α) (value : Value) :
    exec runner (framed do push value; act) site scene =
      match scene.rawOf value with
      | .error error => some (.error error, scene)
      | .ok raw => (exec runner act site (scene.setStack (raw :: scene.stack))).map
        (Prod.map id fun after => after.cut scene.stack.length) := by
  rw [exec_framed, exec_bind, exec_push]
  cases scene.rawOf value with
  | ok raw => rfl
  | error error => simp

/-- Acts that come to the same above a value, or fail alike after they have pushed something. -/
def AlikeAbove {α : Type} (first second : Act α) : Prop :=
  ∀ (runner : Runner) (site : Site) (scene : Scene) (top : Raw) (rest : List Raw), scene.stack = top :: rest →
    exec runner first site scene = exec runner second site scene ∨ ∃ error pushed pushed',
      exec runner first site scene = some (.error error, scene.setStack (pushed ++ scene.stack)) ∧
        exec runner second site scene = some (.error error, scene.setStack (pushed' ++ scene.stack))

theorem AlikeAbove.framed {α : Type} {first second : Act α} (alike : AlikeAbove first second) (value : Value) :
    Alike (framed do push value; first) (framed do push value; second) := by
  intro runner site scene
  rw [exec_framed_push, exec_framed_push]
  cases scene.rawOf value with
  | error error => rfl
  | ok top =>
    let below := scene.setStack (top :: scene.stack)
    obtain same | ⟨error, pushed, pushed', early, late⟩ := alike runner site below top scene.stack rfl
    · exact congrArg (Option.map _) same
    · -- What was pushed lies above the handle and goes with it.
      have cut : ∀ pushed : List Raw, (below.setStack (pushed ++ below.stack)).cut scene.stack.length = scene := by
        intro pushed
        have whole : pushed ++ below.stack = (pushed ++ [top]) ++ scene.stack := (List.append_assoc pushed [top] _).symm
        rw [whole]
        exact scene.cut_setStack_append (pushed ++ [top])
      simp only [early, late, below, Option.map_some, Prod.map, cut]

/-- A name that is pushed for a key is as good as the name. -/
theorem alike_getTable (name : String) :
    AlikeAbove (do getField (-1) name; pop) (do push (.string name); getTable (-2); pop) := by
  intro runner site scene top rest staged
  let keyed := scene.setStack (.ofString name :: scene.stack)
  have pushed : exec runner (push (.string name)) site scene = some (.ok (), keyed) := exec_push _
  have here : scene.stack[0]? = some top := by rw [staged]; rfl
  have there : keyed.stack[1]? = some top := here
  by_cases known : ∃ table, top = .table table
  · obtain ⟨table, rfl⟩ := known
    have direct : exec runner (getField (-1) name) site scene = _ := exec_bind_ok (exec_tableAt here) _
    have found : exec runner (getTable (-2)) site keyed = exec runner (getField (-1) name) site scene :=
      (exec_bind_ok (exec_tableAt there) _).trans ((exec_bind_ok (exec_popRaw rfl) _).trans direct.symm)
    refine .inl ?_
    rw [exec_bind_ok pushed, exec_bind, exec_bind, found]
  · have stray : ∀ table, top ≠ .table table := fun table same => known ⟨table, same⟩
    refine .inr ⟨strayed top, [], [.ofString name], ?_, ?_⟩
    · exact exec_bind_error (exec_bind_error (exec_tableAt_stray here stray) _) _
    · rw [exec_bind_ok pushed]
      exact exec_bind_error (exec_bind_error (exec_tableAt_stray there stray) _) _

theorem alike_setTable (name : String) (value : Value) :
    AlikeAbove (do push value; setField (-2) name) (do push (.string name); push value; setTable (-3)) := by
  intro runner site scene top rest staged
  let keyed := scene.setStack (.ofString name :: scene.stack)
  have pushed : exec runner (push (.string name)) site scene = some (.ok (), keyed) := exec_push _
  rw [exec_bind_ok pushed, exec_bind, exec_bind, exec_push, exec_push,
    show keyed.rawOf value = scene.rawOf value from rfl]
  cases scene.rawOf value with
  | error error => exact .inr ⟨error, [], [.ofString name], rfl, rfl⟩
  | ok raw =>
    let direct := scene.setStack (raw :: scene.stack)
    let full := scene.setStack (raw :: keyed.stack)
    have here : direct.stack[1]? = some top := by
      change scene.stack[0]? = _
      rw [staged]
      rfl
    have there : full.stack[2]? = some top := here
    by_cases known : ∃ table, top = .table table
    · obtain ⟨table, rfl⟩ := known
      have found : exec runner (tableAt (-2)) site direct = some (.ok table, direct) := exec_tableAt here
      have taken : exec runner popRaw site direct = some (.ok raw, scene) := exec_popRaw rfl
      have found' : exec runner (tableAt (-3)) site full = some (.ok table, full) := exec_tableAt there
      have taken' : exec runner popRaw site full = some (.ok raw, keyed) := exec_popRaw rfl
      have named : exec runner popRaw site keyed = some (.ok (.ofString name), scene) := exec_popRaw rfl
      refine .inl ?_
      change exec runner (setField (-2) name) site direct = exec runner (setTable (-3)) site full
      rw [setField, exec_bind_ok found, exec_bind_ok taken, setTable, exec_bind_ok found', exec_bind_ok taken',
        exec_bind_ok named]
    · -- By now the key is on the stack in one run only.
      have stray : ∀ table, top ≠ .table table := fun table same => known ⟨table, same⟩
      refine .inr ⟨strayed top, [raw], [raw, .ofString name], ?_, ?_⟩
      · exact exec_bind_error (exec_tableAt_stray here stray) _
      · exact exec_bind_error (exec_tableAt_stray there stray) _

theorem getField_ok {index : Int} {name : String} {after : Scene}
    (ran : exec runner (getField index name) site scene = some (.ok (), after)) :
    ∃ value between, after = Scene.setStack between (value :: between.stack) := by
  rw [getField, exec_bind, Option.bind_eq_some_iff] at ran
  obtain ⟨⟨_ | table, _⟩, -, ran⟩ := ran
  · cases ran
  · change exec runner (_ >>= _) site _ = _ at ran
    rw [exec_bind, Option.bind_eq_some_iff] at ran
    obtain ⟨⟨_ | value, between⟩, -, ran⟩ := ran
    · cases ran
    · cases ran
      exact ⟨value, between, rfl⟩

theorem exec_kindAt {top : Raw} {rest : List Raw} (staged : scene.stack = top :: rest) :
    exec runner (kindAt (-1)) site scene = exec runner (Act.kind top) site scene :=
  exec_bind_ok (exec_rawAt (show scene.stack[0]? = some top by rw [staged]; rfl)) _

/-- Of a value on top, the kind is known exactly if the value can be given to the host. -/
theorem foretells_top (value : Raw) (scene : Scene) (depth : Nat) :
    let staged := scene.setStack (value :: scene.stack)
    Foretells ((exec runner (kindAt (-1)) site staged).map (Prod.map id (Scene.cut · depth)))
      ((exec runner pop site staged).map (Prod.map id (Scene.cut · depth))) := by
  intro staged
  have popped : exec runner pop site staged = exec runner (Act.ofRaw value) site scene := exec_pop rfl
  rw [exec_kindAt rfl, popped]
  cases value with
  | nil | boolean _ | integer _ | number _ | string _ => exact ⟨_, _, rfl, rfl, rfl⟩
  | table table =>
    rw [Act.ofRaw, exec_bind_ok (Act.exec_pin _ _)]
    exact ⟨_, _, rfl, rfl, table, rfl, rfl⟩
  | function function =>
    rw [Act.ofRaw, exec_bind_ok (Act.exec_pin _ _)]
    exact ⟨_, _, rfl, rfl, function, rfl, rfl⟩
  | thread _ | file | failure _ _ => exact ⟨_, rfl, rfl⟩

end Stack

namespace Table

theorem alike_get (table : Handle) (name : String) : Alike (Table.getField table name) (Table.get table (.string name)) :=
  (Stack.alike_getTable name).framed _

theorem alike_set (table : Handle) (name : String) (value : Value) :
    Alike (Table.setField table name value) (Table.set table (.string name) value) :=
  (Stack.alike_setTable name value).framed _

theorem foretells_field (runner : Runner) (site : Site) (scene : Scene) (table : Handle) (name : String) :
    Foretells (exec runner (Table.fieldKind table name) site scene) (exec runner (Table.getField table name) site scene) := by
  rw [fieldKind, getField, Stack.exec_framed_push, Stack.exec_framed_push]
  cases scene.rawOf (.table table) with
  | error error => exact ⟨scene, rfl, rfl⟩
  | ok top =>
    let below := scene.setStack (top :: scene.stack)
    change Foretells (Option.map _ (exec runner (_ >>= _) site below)) (Option.map _ (exec runner (_ >>= _) site below))
    rw [exec_bind, exec_bind]
    rcases fetched : exec runner (Stack.getField (-1) name) site below with _ | ⟨error | _, between⟩
    · rfl
    · exact ⟨_, rfl, rfl⟩
    · obtain ⟨value, before, rfl⟩ := Stack.getField_ok fetched
      exact Stack.foretells_top value before scene.stack.length

/-- In a table without a metatable nothing at all is registered for a look at the kind of a field. -/
theorem fieldKind_registers_nothing (runner : Runner) (site : Site) {handle : Handle} {table : TableRef}
    (known : scene.IsBare handle table) (name : String) :
    ∃ result after, exec runner (Table.fieldKind handle name) site scene = some (result, after) ∧
      after.interpreter.registry = scene.interpreter.registry := by
  obtain ⟨heap, -, -, fetched⟩ := exec_fetchField runner site known name
  rw [fieldKind, Stack.exec_framed, fetched, Stack.exec_kindAt rfl]
  exact ⟨_, _, rfl, rfl⟩

end Table

/-- What comes to the same everywhere does so in every context, be it open or closed. -/
theorem Attempt.Alike.within {α : Type} {first second : Act α} (alike : Alike first second) (context : ContextId)
    (runtime : Runtime) (world : World) :
    (Live.within context first).exec runtime world = (Live.within context second).exec runtime world := by
  rw [Live.exec_within, Live.exec_within]
  cases known : world.interpreter? context with
  | none => rw [World.run_closed known, World.run_closed known]
  | some interpreter => rw [World.run_open known, World.run_open known, alike]

theorem Foretells.within {context : ContextId} {look : Act Kind} {taking : Act Value} {runtime : Runtime} {world : World}
    (foretells : ∀ runner site scene, Foretells (exec runner look site scene) (exec runner taking site scene)) :
    ((Live.within context look).exec runtime world).map Prod.fst =
      ((Live.within context taking).exec runtime world).map fun ran => ran.1.map Value.kind := by
  rw [Live.exec_within, Live.exec_within]
  cases known : world.interpreter? context with
  | none =>
    rw [World.run_closed known, World.run_closed known]
    rfl
  | some interpreter =>
    rw [World.run_open known, World.run_open known, Option.map_map, Option.map_map]
    exact (foretells runtime.perform .host (world.scene context interpreter)).result

/-- A field that is read or set by its name is read or set as by a key, whatever metamethods do meanwhile and whether the
context of the table is open or not. Its kind is that of the value that is read, or the failure is the same one, and
reading leaves behind what the look at the kind does, and the handle to the value besides. -/
theorem named_fields_agree (table : Handle) (name : String) :
    Alike (Table.getField table name) (Table.get table (.string name)) ∧
    (∀ value, Alike (Table.setField table name value) (Table.set table (.string name) value)) ∧
    (∀ runner site scene,
      Foretells (exec runner (Table.fieldKind table name) site scene) (exec runner (Table.getField table name) site scene)) ∧
    (∀ runner site (scene : Scene) place, scene.IsBare table place → ∃ result after,
      exec runner (Table.fieldKind table name) site scene = some (result, after) ∧
        after.interpreter.registry = scene.interpreter.registry) ∧
    ∀ (runtime : Runtime) (world : World),
      (Live.within table.context (Table.getField table name)).exec runtime world =
        (Live.within table.context (Table.get table (.string name))).exec runtime world ∧
      (∀ value, (Live.within table.context (Table.setField table name value)).exec runtime world =
        (Live.within table.context (Table.set table (.string name) value)).exec runtime world) ∧
      ((Live.within table.context (Table.fieldKind table name)).exec runtime world).map Prod.fst =
        ((Live.within table.context (Table.getField table name)).exec runtime world).map fun ran => ran.1.map Value.kind := by
  refine ⟨Table.alike_get table name, Table.alike_set table name, ?_, ?_, fun runtime world => ⟨?_, fun value => ?_, ?_⟩⟩
  · exact fun runner site scene => Table.foretells_field runner site scene table name
  · exact fun runner site scene place known => Table.fieldKind_registers_nothing runner site known name
  · exact (Table.alike_get table name).within table.context runtime world
  · exact (Table.alike_set table name value).within table.context runtime world
  · exact Foretells.within fun runner site scene => Table.foretells_field runner site scene table name

/-- The kind of a function among the globals is seen without a handle to it. -/
theorem named_fields_agree_print :
    let scene := Scene.register ⟨⟨0⟩, .initial, .initial .blank, []⟩ (.table Heap.globals)
    let globals : Handle := ⟨⟨⟨0⟩, 0⟩, Heap.globals.index⟩
    ∃ after, exec (fun _ _ => none) (Table.fieldKind globals "print") .host scene = some (.ok .function, after) ∧
      after.interpreter.registry = scene.interpreter.registry := by
  intro scene globals
  have kind : (exec (fun _ _ => none) (Table.fieldKind globals "print") .host scene).map Prod.fst =
      some (.ok .function) := by decide +kernel
  obtain ⟨result, after, ran, kept⟩ := (named_fields_agree globals "print").2.2.2.1 (fun _ _ => none) .host scene
    Heap.globals ⟨rfl, Heap.initial_isPlain Heap.globals⟩
  rw [ran] at kind
  cases kind
  exact ⟨after, ran, kept⟩

end TileScript.Bridge
