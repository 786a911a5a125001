import TileScript.Proofs.CallProtocol
import TileScript.Proofs.Worlds

/-! Values that scripts are asked for. Whatever the function comes to, the host gets a value or an error for it; an
answer that starts with a value of the right type is refused all the same if a later one is of a kind that the host
does not know. -/

namespace TileScript.Bridge
open Script Attempt

variable {runner : Runner} {site : Site} {scene : Scene}

/-- The host knows the kinds of all values. -/
def Readable (raws : List Raw) : Prop := ∀ raw ∈ raws, ∃ kind, kindOf raw = .ok kind

theorem readable_cons {raw : Raw} {rest : List Raw} : Readable (raw :: rest) ↔ (∃ kind, kindOf raw = .ok kind) ∧ Readable rest :=
  List.forall_mem_cons

/-- A value is the first of a kind that the host does not know. -/
structure StopsAt (raws : List Raw) (foreign : ForeignKind) (known : List Raw) (raw : Raw) (rest : List Raw) : Prop where
  whole : raws = known ++ raw :: rest
  readable : Readable known
  unknown : kindOf raw = .error foreign

theorem readable_or_stops (raws : List Raw) : Readable raws ∨ ∃ foreign known raw rest, StopsAt raws foreign known raw rest := by
  induction raws with
  | nil => exact .inl (by simp [Readable])
  | cons first others ih =>
    cases shape : kindOf first with
    | error foreign => exact .inr ⟨foreign, [], first, others, rfl, by simp [Readable], shape⟩
    | ok kind =>
      rcases ih with readable | ⟨foreign, known, raw, rest, rfl, readable, unknown⟩
      · exact .inl (readable_cons.mpr ⟨⟨kind, shape⟩, readable⟩)
      · exact .inr ⟨foreign, first :: known, raw, rest, rfl, readable_cons.mpr ⟨⟨kind, shape⟩, readable⟩, unknown⟩

theorem Act.exec_ofRaw_foreign {raw : Raw} {foreign : ForeignKind} (unknown : kindOf raw = .error foreign) :
    exec runner (ofRaw raw) site scene = some (.error (.unsupported foreign), scene) := by
  cases raw with
  | thread _ | file | failure _ _ =>
    cases unknown
    rfl
  | nil | boolean _ | integer _ | number _ | string _ | table _ | function _ => cases unknown

namespace Function

open Stack

/-- Results are read up to the first one of a kind that the host does not know. -/
theorem exec_readResults_foreign (valid : scene.interpreter.registry.Valid) {results known rest below : List Raw} {raw : Raw}
    {foreign : ForeignKind} (stops : StopsAt results foreign known raw rest) (staged : scene.stack = results.reverse ++ below) :
    ∃ after, exec runner (readResults results.length) site scene = some (.error (.unsupported foreign), after) ∧
      scene.Spares after := by
  obtain ⟨rfl, readable, unknown⟩ := stops
  induction known generalizing scene below with
  | nil =>
    have there : scene.stack[rest.length]? = some raw := by simp [staged]
    have failed : exec runner (readAt (-(rest.length + 1 : Nat))) site scene = some (.error (.unsupported foreign), scene) :=
      (exec_readAt there).trans (Act.exec_ofRaw_foreign unknown)
    exact ⟨scene, exec_bind_error failed _, .refl valid⟩
  | cons first known ih =>
    obtain ⟨⟨kind, shape⟩, readable⟩ := readable_cons.mp readable
    have onTop : scene.stack = (known ++ raw :: rest).reverse ++ first :: below := by
      rw [staged]
      simp
    have there : scene.stack[(known ++ raw :: rest).length]? = some first := by
      rw [onTop, List.getElem?_append_right (Nat.le_of_eq List.length_reverse), List.length_reverse, Nat.sub_self]
      rfl
    obtain ⟨value, between, ran, spares, -⟩ : (Act.ofRaw first).Gives runner site scene _ := Act.gives_ofRaw valid shape
    obtain ⟨after, failed, more⟩ := ih spares.registry readable (spares.stack.trans onTop)
    have read : exec runner (readAt (-((known ++ raw :: rest).length + 1 : Nat))) site scene = some (.ok value, between) :=
      (exec_readAt there).trans ran
    exact ⟨after, (exec_bind_ok read _).trans (exec_bind_error failed _), spares.trans more⟩

theorem exec_takeResults_foreign (valid : scene.interpreter.registry.Valid) {results known rest below : List Raw} {raw : Raw}
    {foreign : ForeignKind} (stops : StopsAt results foreign known raw rest) (staged : scene.stack = results.reverse ++ below) :
    ∃ after, exec runner (takeResults below.length) site scene = some (.error (.unsupported foreign), after) := by
  have grown : scene.stack.length - below.length = results.length := by simp [staged]
  have sized : exec runner size site scene = some (.ok scene.stack.length, scene) := rfl
  rw [takeResults, exec_bind, sized, Option.bind_some]
  dsimp only
  rw [grown]
  cases results with
  | nil => simpa using stops.whole
  | cons first others =>
    cases others with
    | nil =>
      have alone : kindOf first = .error foreign := by
        cases known with
        | nil =>
          obtain ⟨rfl, -⟩ := List.cons.inj stops.whole
          exact stops.unknown
        | cons _ _ => simpa using stops.whole
      have failed : exec runner pop site scene = some (.error (.unsupported foreign), scene.setStack below) :=
        (exec_pop staged).trans (Act.exec_ofRaw_foreign alone)
      exact ⟨scene.setStack below, exec_bind_error failed _⟩
    | cons second others =>
      let results := first :: second :: others
      obtain ⟨read, failed, spares⟩ : ∃ after, exec runner (readResults results.length) site scene = _ ∧ scene.Spares after :=
        exec_readResults_foreign valid stops staged
      have removed : exec runner (remove results.length) site read = some (.ok (), read.setStack below) := by
        rw [← List.length_reverse]
        exact exec_remove (by rw [spares.stack, staged])
      have observed : exec runner (observe (readResults results.length) : Act (Except Error (List Value))) site scene =
          some (.ok (.error (.unsupported foreign)), read) := by
        rw [exec_observe, failed]
        rfl
      exact ⟨read.setStack below, (exec_bind_ok observed _).trans (exec_bind_ok removed _)⟩

theorem call_unreadable {function : Handle} {callee : FunctionRef} {arguments : List Value} {raws : List Raw}
    (known : scene.resolve function = .ok (.function callee)) (staged : List.Forall₂ scene.Stages arguments raws)
    {results readable rest : List Raw} {raw : Raw} {foreign : ForeignKind} {returned : Scene}
    (ran : runner (.call (.function callee) raws (described site).nested) scene = some (.ok results, returned))
    (same : returned.stack = scene.stack) (valid : returned.interpreter.registry.Valid)
    (stops : StopsAt results foreign readable raw rest) :
    ∃ after, exec runner (Function.call function arguments) site scene = some (.error (.unsupported foreign), after) := by
  have still : (returned.setStack (results.reverse ++ returned.stack)).interpreter.registry.Valid := valid
  rw [exec_call known (staged.imp fun _ _ => (·.staged)), ran, ← same]
  exact exec_takeResults_foreign still stops rfl

end Function

/-- A table tells what the host knows of a monitor. -/
structure Scene.Informs (scene : Scene) (table : TableRef) (monitor : Monitor) : Prop where
  id : (scene.interpreter.heap.table table).get (.ofString "id") = ofDouble (Double.ofInt monitor.id)
  name : (scene.interpreter.heap.table table).get (.ofString "name") = .ofString monitor.name
  width : (scene.interpreter.heap.table table).get (.ofString "width") = ofDouble monitor.rect.width
  height : (scene.interpreter.heap.table table).get (.ofString "height") = ofDouble monitor.rect.height
  activeWorkspace : (scene.interpreter.heap.table table).get (.ofString "activeWorkspace") = .ofString monitor.activeWorkspace

theorem exec_monitorTable_informs (runner : Runner) (site : Site) (valid : scene.interpreter.registry.Valid) (monitor : Monitor) :
    ∃ handle table after, scene.Undisturbed after ∧ after.Stages (.table handle) (.table table) ∧ after.Informs table monitor ∧
      exec runner monitor.toTable site scene = some (.ok handle, after) := by
  let fields : List (String × Value) := [("id", .ofInt monitor.id), ("name", .string monitor.name),
    ("width", .number monitor.rect.width), ("height", .number monitor.rect.height),
    ("activeWorkspace", .string monitor.activeWorkspace)]
  obtain ⟨handle, table, made, calm, known, object, inside, created⟩ := Table.exec_create_bare runner site valid
  obtain ⟨after, still, set, filled⟩ : ∃ after, made.Undisturbed after ∧
      exec runner (Table.setFields handle fields) site made = some (.ok (), after) ∧ _ :=
    Table.exec_setFields runner site calm.registry known fields (by simp [fields, Value.handle?, Value.ofInt])
  have found : after.resolve handle = .ok (.table table) := (still.isBare known).found
  have stored := (filled inside (by simp [fields])).1
  simp only [fields, List.forall_mem_cons] at stored
  obtain ⟨id, name, width, height, activeWorkspace, -⟩ := stored
  refine ⟨handle, table, after, calm.trans still, ⟨⟨table, found, object⟩, found⟩, ⟨(Except.ok.inj id).symm,
    (Except.ok.inj name).symm, (Except.ok.inj width).symm, (Except.ok.inj height).symm, (Except.ok.inj activeWorkspace).symm⟩, ?_⟩
  rw [Monitor.toTable, exec_bind_ok created, exec_bind_ok set]
  rfl

/-- A table about a monitor can always be made. -/
theorem exec_monitorTable (runner : Runner) (site : Site) (valid : scene.interpreter.registry.Valid) (monitor : Monitor) :
    ∃ handle table after, scene.Undisturbed after ∧ after.Stages (.table handle) (.table table) ∧
      exec runner monitor.toTable site scene = some (.ok handle, after) := by
  obtain ⟨handle, table, after, calm, stages, -, made⟩ := exec_monitorTable_informs runner site valid monitor
  exact ⟨handle, table, after, calm, stages, made⟩

end TileScript.Bridge

namespace TileScript.Dynamic
open Bridge Script Attempt

variable {α : Type} [Castable α] {runner : Runner} {site : Site} {scene : Scene} {function : Handle} {id : Value}

/-- What a call that was made to ask for a value is taken for. -/
inductive Taken (scene : Scene) : Outcome → Except Error α → Prop where
  | value {raw : Raw} {rest : List Raw} {value : Value} {answer : α} : scene.Shows raw value → Readable rest →
    Castable.cast? value = some answer → Taken scene (.ok (raw :: rest)) (.ok answer)
  | mismatch {raw : Raw} {rest : List Raw} {value : Value} : scene.Shows raw value → Readable rest →
    (Castable.cast? value : Option α) = none → Taken scene (.ok (raw :: rest))
      (.error (.config "Could not cast the return value of Lua callback to dynamic config value"))
  | nothing : Taken scene (.ok []) (.error (.config "Lua callback did not return a value"))
  | raised (raised : Raw) : Taken scene (.error raised) (.error (.config
      ("Failed to call the Lua callback for dynamic config value: " ++ withoutTrace (raisedMessage raised))))
  | unreadable {results known rest : List Raw} {raw : Raw} {foreign : ForeignKind} :
    StopsAt results foreign known raw rest → Taken scene (.ok results) (.error (.unsupported foreign))

/-- What comes of what a call gives back. -/
def understand : CallResult → Except Error α
  | .none => .error (.config "Lua callback did not return a value")
  | .failed message => .error (.config ("Failed to call the Lua callback for dynamic config value: " ++ message))
  | result =>
    match result.first?.bind Castable.cast? with
    | some value => .ok value
    | none => .error (.config "Could not cast the return value of Lua callback to dynamic config value")

/-- To ask for a value comes down to one call. -/
theorem exec_ask_call {asked : Monitor} {info : Handle} {start : Scene}
    (made : exec runner asked.toTable site scene = some (.ok info, start)) :
    exec runner (ask function id asked : Act α) site scene =
      (exec runner (Function.call function [id, .table info]) site start).map fun (called, after) =>
        (called.bind understand, after) := by
  rw [ask, exec_bind, made, Option.map_eq_bind]
  change exec runner (Function.call function [id, .table info] >>= _) site start = _
  rw [exec_bind]
  congr 1
  funext ⟨called, after⟩
  cases called with
  | error error => rfl
  | ok result =>
    cases result with
    | none | failed _ => rfl
    | single value =>
      simp only [Except.bind, understand, Function.comp_apply]
      cases (CallResult.single value).first?.bind (Castable.cast? (α := α)) <;> rfl
    | multiple values =>
      simp only [Except.bind, understand, Function.comp_apply]
      cases (CallResult.multiple values).first?.bind (Castable.cast? (α := α)) <;> rfl

theorem taken_understand {values : List Value} {results : List Raw} (shown : List.Forall₂ scene.Shows results values)
    (readable : Readable results) : Taken scene (.ok results) (understand (.ofValues values) : Except Error α) := by
  cases shown with
  | nil => exact .nothing
  | @cons raw value rest others first later =>
    have head : (CallResult.ofValues (value :: others)).first? = some value := by
      cases others <;> rfl
    have understood : understand (.ofValues (value :: others)) = match (Castable.cast? value : Option α) with
        | some answer => .ok answer
        | none => .error (.config "Could not cast the return value of Lua callback to dynamic config value") := by
      cases others <;> rfl
    rw [understood]
    cases cast : (Castable.cast? value : Option α) with
    | some answer => exact .value first (readable_cons.mp readable).2 cast
    | none => exact .mismatch first (readable_cons.mp readable).2 cast

/-- Whatever the call comes to, it is taken for something. -/
theorem exec_ask_taken {callee : FunctionRef} {info : Handle} {start : Scene}
    {raws : List Raw} {asked : Monitor} (made : exec runner asked.toTable site scene = some (.ok info, start))
    (denotes : start.resolve function = .ok (.function callee)) (staged : List.Forall₂ start.Stages [id, .table info] raws)
    {outcome : Outcome} {returned : Scene}
    (ran : runner (.call (.function callee) raws (described site).nested) start = some (outcome, returned))
    (same : returned.stack = start.stack) (still : returned.interpreter.registry.Valid) :
    ∃ result after, exec runner (ask function id asked : Act α) site scene = some (result, after) ∧
      Taken after outcome result := by
  rw [exec_ask_call made]
  cases outcome with
  | error raised =>
    rw [Function.call_raised denotes staged ran]
    exact ⟨_, _, rfl, .raised raised⟩
  | ok results =>
    rcases readable_or_stops results with readable | ⟨foreign, known, raw, rest, stops⟩
    · obtain ⟨values, after, called, -, shown⟩ := Function.call_returned denotes staged ran same still readable
      rw [called]
      exact ⟨_, _, rfl, taken_understand shown readable⟩
    · obtain ⟨after, called⟩ := Function.call_unreadable denotes staged ran same still stops
      rw [called]
      exact ⟨_, _, rfl, .unreadable stops⟩

/-- A function of an open context is asked with the value that was registered for it and a new table. If that call
ends, the host takes it for a value or an error: for a value if there are results, all of a kind that it knows, and
the first one has the right type. -/
theorem callback_answers (runtime : Runtime) (disciplined : runtime.code.IsDisciplined) {world : World}
    {interpreter : Interpreter} (alive : world.interpreter? function.context = some interpreter)
    (reached : (world.scene function.context interpreter).Reached)
    (held : (world.scene function.context interpreter).Holds (.function function))
    (known : (world.scene function.context interpreter).Holds id) (asked : Monitor) (monitors : List Monitor) :
    ∃ callee given table start, (world.scene function.context interpreter).Undisturbed start ∧
      start.rawOf (.function function) = .ok (.function callee) ∧ start.rawOf id = .ok given ∧
      match runtime.perform (.call (.function callee) [given, .table table] (described .host).nested) start with
      | none => ((callback function id : Dynamic α).evaluate asked monitors).exec runtime world = none
      | some (outcome, _) => ∃ result final,
          ((callback function id : Dynamic α).evaluate asked monitors).exec runtime world =
            some (result, world.leave function.context final) ∧ Taken final outcome result := by
  obtain ⟨info, table, start, calm, told, made⟩ := exec_monitorTable runtime.perform .host reached.valid asked
  obtain ⟨callee, denotes, -⟩ := held
  obtain ⟨given, stages⟩ := known.stages
  have denotes : start.resolve function = .ok (.function callee) := calm.grows.resolve denotes
  have staged : List.Forall₂ start.Stages [id, .table info] [given, .table table] :=
    .cons (calm.grows.stages stages) (.cons told .nil)
  have evaluated : ((callback function id : Dynamic α).evaluate asked monitors).exec runtime world =
      (exec runtime.perform (ask function id asked : Act α) .host (world.scene function.context interpreter)).map
        (Prod.map (fun result => result) (world.leave function.context)) := World.run_open alive
  refine ⟨callee, given, table, start, calm, denotes, (calm.grows.stages stages).staged, ?_⟩
  rw [evaluated]
  cases ran : runtime.perform (.call (.function callee) [given, .table table] (described .host).nested) start with
  | none =>
    have endless : exec runtime.perform (Function.call function [id, .table info]) .host start = none :=
      Function.call_endless denotes staged ran
    rw [exec_ask_call made, endless]
    rfl
  | some called =>
    obtain ⟨outcome, returned⟩ := called
    have still : start.Reached := Scene.Reached.conserved.interpret Scene.Reached.conserved.perform made reached
    have later : returned.Reached := Scene.Reached.conserved.perform ran still
    have same : returned.stack = start.stack := ((runtime.stacks disciplined).task trivial ran).2
    obtain ⟨result, final, asked, taken⟩ := exec_ask_taken (α := α) made denotes staged ran same later.valid
    rw [asked]
    exact ⟨result, final, rfl, taken⟩

/-- The function that tells the type of a value answers with a text. -/
theorem callback_answers_type : ∃ (world : World) (function : Handle) (final : Scene),
    ((callback function (.ofInt 5) : Dynamic String).evaluate ⟨1, "", ⟨.zero, .zero, .zero, .zero⟩, "", true⟩ []).exec
      (.plain 50) world = some (.ok "number", world.leave function.context final) ∧
    ∃ outcome, Taken final outcome (.ok "number" : Except Error String) := by
  let opened : Scene := ⟨⟨0⟩, .initial, .initial .blank, []⟩
  let scene := opened.register (.function Builtin.type.ref)
  let world : World := ⟨#[some scene.interpreter], scene.manager, scene.trace⟩
  let function := opened.nextHandle Builtin.type.ref.index
  let asked : Monitor := ⟨1, "", ⟨.zero, .zero, .zero, .zero⟩, "", true⟩
  have reached : scene.Reached := .answer (.opened _ _ _) (.register (.function Builtin.type.ref))
  have held : scene.Holds (.function function) :=
    ⟨Builtin.type.ref, Scene.resolve_register Registry.empty_valid _ _, rfl⟩
  have ends : (((callback function (.ofInt 5) : Dynamic String).evaluate asked []).exec (.plain 50) world).map
      (fun ran => ran.1.toOption) = some (some "number") := by decide +kernel
  obtain ⟨callee, given, table, start, -, -, -, answers⟩ := callback_answers (α := String) (.plain 50)
    (fun _ _ _ => .pure _) (show world.interpreter? function.context = some scene.interpreter from rfl) reached held
    (show scene.Holds (.ofInt 5) from trivial) asked []
  split at answers
  · rw [answers] at ends
    cases ends
  · next outcome _ _ =>
    obtain ⟨result, final, evaluated, taken⟩ := answers
    rw [evaluated, Option.map_some, Option.some.injEq] at ends
    cases result with
    | error _ => cases ends
    | ok text =>
      cases ends
      exact ⟨world, function, final, evaluated, outcome, taken⟩

/-- A script gives a function whose answer is a thread. -/
def threadScript : Live CallResult := Live.within ⟨0⟩ (do
  let chunk ← Function.ofChunk Function.sourceName "return function() return coroutine.create(print) end"
  Function.call chunk [])

/-- The world of a first context that has run the script. -/
def threaded : World := threadScript.leadsTo (.plain 50) (World.initial .blank).openContext.2

theorem threadScript_ends :
    (threadScript.exec (.plain 50) (World.initial .blank).openContext.2).map (·.1) =
      some (.ok (.single (.function ⟨⟨⟨0⟩, 1⟩, 41⟩))) := by
  decide +kernel

/-- A function that gives back a thread is refused as it is, not for the type of its answer. -/
theorem callback_answers_thread : ∃ (function : Handle) (made after : World),
    (Live.within ⟨0⟩ (do
      let chunk ← Function.ofChunk Function.sourceName "return function() return coroutine.create(print) end"
      Function.call chunk [])).exec (.plain 50) (World.initial .blank).openContext.2 =
        some (.ok (.single (.function function)), made) ∧
    ((callback function (.ofInt 1) : Dynamic Int).evaluate ⟨1, "A", ⟨.zero, .zero, .zero, .zero⟩, "1", true⟩ []).exec
      (.plain 50) made = some (.error (.unsupported .thread), after) := by
  have fails : (((callback ⟨⟨⟨0⟩, 1⟩, 41⟩ (.ofInt 1) : Dynamic Int).evaluate
      ⟨1, "A", ⟨.zero, .zero, .zero, .zero⟩, "1", true⟩ []).exec (.plain 50) threaded).map (·.1) =
      some (.error (.unsupported .thread)) := by decide +kernel
  exact ⟨_, threaded, _, Live.exec_leadsTo threadScript_ends, Live.exec_leadsTo fails⟩

end TileScript.Dynamic
