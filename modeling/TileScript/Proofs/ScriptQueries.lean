import TileScript.Proofs.CallbackAnswers
import TileScript.Proofs.CurrentHandles
import TileScript.Proofs.NewTables

/-! What scripts are handed when they are asked for a value or run as a command: a table that is made for this one
call and tells what the host knows. -/

namespace TileScript.Bridge
open Script Attempt

variable {runner : Runner} {site : Site} {scene : Scene} {α β ε δ : Type}

theorem ofDouble_ofInt {n : Int} (small : n.natAbs ≤ 2 ^ 53) : ofDouble (Double.ofInt n) = .integer (Int64.ofInt n) := by
  rw [ofDouble, Double.toInteger?_ofInt small]

theorem isNil_ofDouble (value : Double) : (ofDouble value).isNil = false := by
  rw [ofDouble]
  split <;> rfl

theorem isNil_ofString (text : String) : (Raw.ofString text).isNil = false := rfl

theorem entriesOf_there {fields : List (String × Raw)} (there : ∀ field ∈ fields, field.2.isNil = false) :
    entriesOf fields = fields.map fun field => (Raw.ofString field.1, field.2) := by
  refine List.filter_eq_self.mpr fun entry member => ?_
  obtain ⟨field, listed, rfl⟩ := List.mem_map.mp member
  rw [there field listed]
  rfl

/-- A value that is not there leaves no entry. -/
theorem entriesOf_ofOption (name : String) (value : β → Value) (there : ∀ known, (value known).toScalar.isNil = false)
    (given : Option β) (rest : List (String × Raw)) :
    entriesOf ((name, (Value.ofOption value given).toScalar) :: rest) =
      (given.map fun known => (Raw.ofString name, (value known).toScalar)).toList ++ entriesOf rest := by
  rw [entriesOf_cons]
  cases given with
  | none => rfl
  | some known =>
    rw [Value.ofOption, there known]
    rfl

theorem Scene.knows_all {values : List Value} (known : ∀ value ∈ values, scene.Knows value) :
    ∃ raws, List.Forall₂ (scene.rawOf · = .ok ·) values raws := by
  induction values with
  | nil => exact ⟨[], .nil⟩
  | cons value rest ih =>
    obtain ⟨⟨raw, first⟩, known⟩ := List.forall_mem_cons.mp known
    obtain ⟨raws, others⟩ := ih known
    exact ⟨raw :: raws, .cons first others⟩

/-! ### Attempts that run no script -/

namespace Attempt

/-- What becomes of it has nothing to do with how tasks are run. -/
def IsIdle (attempt : Attempt ε α) : Prop :=
  ∀ (runner other : Runner) site scene, attempt.exec runner site scene = attempt.exec other site scene

theorem isIdle_settle (result : Except ε α) : (settle result : Attempt ε α).IsIdle := fun _ _ _ _ => rfl

theorem isIdle_pure (value : α) : (pure value : Attempt ε α).IsIdle := fun _ _ _ _ => rfl

theorem isIdle_throw (error : ε) : (throw error : Attempt ε α).IsIdle := fun _ _ _ _ => rfl

theorem isIdle_ask (request : BridgeRequest α) : (ask request : Attempt ε α).IsIdle := fun _ _ _ _ => rfl

theorem IsIdle.bind {attempt : Attempt ε α} {next : α → Attempt ε β} (idle : attempt.IsIdle)
    (onward : ∀ value, (next value).IsIdle) : (attempt >>= next).IsIdle := by
  intro runner other site scene
  rw [exec_bind, exec_bind, idle runner other]
  congr 1
  funext ⟨result, after⟩
  cases result with
  | ok value => exact onward value runner other site after
  | error error => rfl

theorem IsIdle.observe {attempt : Attempt δ α} (idle : attempt.IsIdle) :
    (Attempt.observe attempt : Attempt ε (Except δ α)).IsIdle := by
  intro runner other site scene
  rw [exec_observe, exec_observe, idle runner other]

end Attempt

namespace Act

theorem isIdle_pin (value : Raw) (object : Nat) : (pin value object).IsIdle :=
  (isIdle_ask _).bind fun _ => (isIdle_ask _).bind fun _ => isIdle_pure _

theorem isIdle_ofRaw (raw : Raw) : (ofRaw raw).IsIdle := by
  cases raw with
  | table table => exact (isIdle_pin _ _).bind fun _ => isIdle_pure _
  | function function => exact (isIdle_pin _ _).bind fun _ => isIdle_pure _
  | thread _ | file | failure _ _ => exact isIdle_throw _
  | nil | boolean _ | integer _ | number _ | string _ => exact isIdle_pure _

end Act

namespace Stack

theorem isIdle_pop : pop.IsIdle := by
  refine IsIdle.bind ((isIdle_ask .stack).bind fun values => ?_) Act.isIdle_ofRaw
  cases values with
  | nil => exact isIdle_throw _
  | cons value rest => exact (isIdle_ask _).bind fun _ => isIdle_pure _

theorem isIdle_readAt (index : Int) : (readAt index).IsIdle := by
  refine IsIdle.bind ((isIdle_ask .stack).bind fun values => ?_) Act.isIdle_ofRaw
  split
  · exact isIdle_pure _
  · exact isIdle_throw _

theorem isIdle_remove (count : Nat) : (remove count).IsIdle := by
  refine (isIdle_ask .stack).bind fun values => ?_
  split
  · exact (isIdle_throw _).bind fun _ => isIdle_ask _
  · exact (isIdle_pure _).bind fun _ => isIdle_ask _

end Stack

namespace Function

open Stack

theorem isIdle_readResults (depth : Nat) : (readResults depth).IsIdle := by
  induction depth with
  | zero => exact isIdle_pure _
  | succ depth ih => exact (isIdle_readAt _).bind fun _ => ih.bind fun _ => isIdle_pure _

theorem isIdle_takeResults (before : Nat) : (takeResults before).IsIdle := by
  refine IsIdle.bind ((isIdle_ask .stack).bind fun _ => isIdle_pure _) fun grown => ?_
  split
  · exact isIdle_pure _
  · exact isIdle_pop.bind fun _ => isIdle_pure _
  · exact (isIdle_readResults _).observe.bind fun _ => (isIdle_remove _).bind fun _ =>
      (isIdle_settle _).bind fun _ => isIdle_pure _

theorem isIdle_takeMessage : takeMessage.IsIdle := by
  refine isIdle_pop.bind fun value => ?_
  split <;> exact isIdle_pure _

/-- A call runs one task, and no other one after it. -/
theorem call_once {function : Handle} {callee : FunctionRef} {arguments : List Value} {raws : List Raw}
    (known : scene.resolve function = .ok (.function callee)) (given : List.Forall₂ (scene.rawOf · = .ok ·) arguments raws)
    (site : Site) : ∃ rest : Outcome × Scene → Option (Except Error CallResult × Scene), ∀ runner : Runner,
      exec runner (call function arguments) site scene =
        (runner (.call (.function callee) raws (described site).nested) scene).bind rest := by
  -- What is made of an outcome is what any runner with that outcome would come to.
  refine ⟨fun ran => exec (fun _ _ => some ran) (call function arguments) site scene, fun runner => ?_⟩
  rw [exec_call known given]
  cases runner (.call (.function callee) raws (described site).nested) scene with
  | none => rfl
  | some ran =>
    obtain ⟨outcome, returned⟩ := ran
    rw [Option.bind_some, Option.bind_some, exec_call known given, Option.bind_some]
    cases outcome with
    | ok results => exact isIdle_takeResults ..
    | error raised => exact isIdle_takeMessage ..

end Function
end TileScript.Bridge

namespace TileScript
open Bridge Script Attempt

/-- Where the next table will be. -/
def Bridge.Interpreter.nextTable (interpreter : Interpreter) : TableRef := ⟨interpreter.heap.tables.size⟩

/-! ### What tables tell -/

/-- What a table tells of a monitor. -/
def Monitor.fields (monitor : Monitor) : List (String × Value) := [("id", .ofInt monitor.id), ("name", .string monitor.name),
  ("width", .number monitor.rect.width), ("height", .number monitor.rect.height),
  ("activeWorkspace", .string monitor.activeWorkspace)]

/-- What a table tells of where a command runs. -/
def CommandEnv.fields (env : CommandEnv) : List (String × Value) :=
  [("windowID", .ofOption (fun id : Nat => .ofInt id) env.windowId),
  ("workspaceName", .ofOption .string env.workspace), ("pwd", .ofOption .string env.directory)]

/-- The entries about a monitor. Numbers of the host are doubles, so an identity is the double next to it. -/
def Monitor.entries (monitor : Monitor) : List (Raw × Raw) := [(.ofString "id", ofDouble (Double.ofInt monitor.id)),
  (.ofString "name", .ofString monitor.name), (.ofString "width", ofDouble monitor.rect.width),
  (.ofString "height", ofDouble monitor.rect.height), (.ofString "activeWorkspace", .ofString monitor.activeWorkspace)]

/-- The entries about where a command runs; what is not known has none. -/
def CommandEnv.entries (env : CommandEnv) : List (Raw × Raw) :=
  (env.windowId.map fun id : Nat => (Raw.ofString "windowID", ofDouble (Double.ofInt id))).toList ++
    (env.workspace.map fun name => (Raw.ofString "workspaceName", Raw.ofString name)).toList ++
    (env.directory.map fun path => (Raw.ofString "pwd", Raw.ofString path)).toList

theorem Monitor.entriesOf_fields (monitor : Monitor) : entriesOf (scalars monitor.fields) = monitor.entries :=
  entriesOf_there (by simp [scalars, fields, Value.ofInt, Value.toScalar, isNil_ofDouble, isNil_ofString])

theorem CommandEnv.entriesOf_fields (env : CommandEnv) : entriesOf (scalars env.fields) = env.entries := by
  let window (id : Nat) : Value := .ofInt id
  have numbered (id : Nat) : (window id).toScalar.isNil = false := isNil_ofDouble _
  change entriesOf [("windowID", (Value.ofOption window env.windowId).toScalar),
    ("workspaceName", (Value.ofOption .string env.workspace).toScalar),
    ("pwd", (Value.ofOption .string env.directory).toScalar)] = _
  rw [entriesOf_ofOption "windowID" window numbered, entriesOf_ofOption "workspaceName" .string isNil_ofString,
    entriesOf_ofOption "pwd" .string isNil_ofString, entries, List.append_assoc]
  exact congrArg _ (congrArg _ (List.append_nil _))

/-! ### Queries -/

/-- A script is asked for a value about a monitor, or run as a command. -/
inductive Query : Type → Type 1 where
  | value {α : Type} [Castable α] (function : Handle) (id : Value) (asked : Monitor) (monitors : List Monitor) : Query α
  | command (function : Handle) (env : CommandEnv) : Query Bool

namespace Query

variable {α : Type} {runner : Runner} {site : Script.Site} {scene : Scene}

/-- What the host does. -/
def live : Query α → Live α
  | value function id asked monitors => (Dynamic.callback function id).evaluate asked monitors
  | command function env => (Command.script function).run env

/-- The same in the context of the function. -/
def act : Query α → Act α
  | value function id asked _ => Dynamic.ask function id asked
  | command function env => Command.runScript function env

def function : Query α → Handle
  | value function _ _ _ | command function _ => function

/-- What the function gets before the table. -/
def leading : Query α → List Value
  | value _ id _ _ => [id]
  | command _ _ => []

def fields : Query α → List (String × Value)
  | value _ _ asked _ => asked.fields
  | command _ env => env.fields

/-- The entries that the table has to have. -/
def entries : Query α → List (Raw × Raw)
  | value _ _ asked _ => asked.entries
  | command _ env => env.entries

/-- Makes the table. -/
def inform : Query α → Act Handle
  | value _ _ asked _ => asked.toTable
  | command _ env => env.toTable

/-- What comes of what the call gives back. -/
def conclude : Query α → Except Error CallResult → Except Error α
  | value _ _ _ _, called => called.bind Dynamic.understand
  | command _ _, called => called.map fun result => !result.isFailed

variable (query : Query α)

theorem live_eq : query.live = Live.within query.function.context query.act := by
  cases query <;> rfl

theorem inform_eq : query.inform = Table.ofFields query.fields := by
  cases query with
  | value _ _ _ _ => rfl
  | command _ env =>
    obtain ⟨window, _, _⟩ := env
    cases window <;> rfl

theorem entriesOf_fields : entriesOf (scalars query.fields) = query.entries := by
  cases query with
  | value _ _ asked _ => exact asked.entriesOf_fields
  | command _ env => exact env.entriesOf_fields

theorem fields_free : ∀ field ∈ query.fields, field.2.handle? = none := by
  cases query with
  | value _ _ asked _ => simp [fields, Monitor.fields, Value.ofInt, Value.handle?]
  | command _ env =>
    obtain ⟨window, workspace, directory⟩ := env
    cases window <;> cases workspace <;> cases directory <;>
      simp [fields, CommandEnv.fields, Value.ofOption, Value.ofInt, Value.handle?]

/-- The table that the script is handed, as it is then. -/
def object : TableObject := .ofFields (scalars query.fields)

theorem object_consists : query.object.Consists query.entries := by
  rw [object, ← query.entriesOf_fields]
  have names : (scalars query.fields).map Prod.fst = query.fields.map Prod.fst := by
    simp [scalars]
  refine TableObject.ofFields_consists ?_ ?_
  · rw [names]
    cases query with
    | value _ _ _ _ => exact (by decide : ["id", "name", "width", "height", "activeWorkspace"].Nodup)
    | command _ _ => exact (by decide : ["windowID", "workspaceName", "pwd"].Nodup)
  · cases query with
    | value _ _ _ _ => exact (by decide : 5 ≤ Fields.fewEnough)
    | command _ _ => exact (by decide : 3 ≤ Fields.fewEnough)

theorem exec_inform (valid : scene.interpreter.registry.Valid) : exec runner query.inform site scene =
    some (.ok (scene.nextHandle scene.interpreter.heap.tables.size), scene.withTable query.object) := by
  rw [inform_eq]
  exact Table.exec_ofFields valid query.fields_free

/-- The table is made first, and then the one call is made. -/
theorem exec_act {info : Handle} {start : Scene} (made : exec runner query.inform site scene = some (.ok info, start)) :
    exec runner query.act site scene =
      (exec runner (Function.call query.function (query.leading ++ [.table info])) site start).map
        (Prod.map query.conclude id) := by
  cases query with
  | value function id asked monitors => exact Dynamic.exec_ask_call made
  | command function env =>
    change exec runner (env.toTable >>= _) site scene = _
    rw [exec_bind_ok (show exec runner env.toTable site scene = _ from made), exec_bind, Option.map_eq_bind]
    congr 1
    funext ⟨called, after⟩
    cases called <;> rfl

/-! ### In a world -/

/-- The scene in which the table has been made, just before the call. -/
structure Hands (query : Query α) (runtime : Runtime) (world : World) (table : TableRef) (start : Scene) : Prop where
  made : ∃ interpreter info, world.interpreter? query.function.context = some interpreter ∧
    exec runtime.perform query.inform .host (world.scene query.function.context interpreter) = some (.ok info, start) ∧
    start.resolve info = .ok (.table table)

/-- The function and what it gets before the table are there in an open context. -/
def IsReady (query : Query α) (world : World) : Prop :=
  ∃ interpreter, world.interpreter? query.function.context = some interpreter ∧
    (world.scene query.function.context interpreter).Denotes query.function ∧
    ∀ value ∈ query.leading, (world.scene query.function.context interpreter).Knows value

/-- The function is called once, and gets the table as its last argument. -/
def CallsWith (query : Query α) (world : World) (table : TableRef) (start : Scene) : Prop :=
  ∃ (callee : FunctionRef) (given : List Raw) (rest : Outcome × Scene → Option (Except Error α × World)),
    start.resolve query.function = .ok (.function callee) ∧ List.Forall₂ (start.rawOf · = .ok ·) query.leading given ∧
    ∀ runtime : Runtime, query.live.exec runtime world =
      (runtime.perform (.call (.function callee) (given ++ [.table table]) (described .host).nested) start).bind rest

/-- What the table is made in: it comes after all others, and is registered. -/
def start (query : Query α) (world : World) (interpreter : Interpreter) : Scene :=
  (world.scene query.function.context interpreter).withTable query.object

theorem table_start (world : World) (interpreter : Interpreter) :
    (query.start world interpreter).interpreter.heap.table interpreter.nextTable = query.object := Scene.table_withTable _ _

theorem table_start_old (world : World) {interpreter : Interpreter} {table : TableRef}
    (old : table.index < interpreter.heap.tables.size) :
    (query.start world interpreter).interpreter.heap.table table = interpreter.heap.table table := by
  change ((interpreter.heap.tables.push query.object)[table.index]?).getD _ = (interpreter.heap.tables[table.index]?).getD _
  rw [Array.getElem?_push_lt old, Array.getElem?_eq_getElem old]

variable {query} {world : World} {interpreter : Interpreter}
  (alive : world.interpreter? query.function.context = some interpreter)
include alive

theorem live_exec (runtime : Runtime) : query.live.exec runtime world =
    (exec runtime.perform query.act .host (world.scene query.function.context interpreter)).map
      (Prod.map id (world.leave query.function.context)) := by
  rw [live_eq]
  exact World.run_open alive

variable (valid : interpreter.registry.Valid)
include valid

theorem hands (runtime : Runtime) :
    query.Hands runtime world interpreter.nextTable (query.start world interpreter) :=
  ⟨interpreter, _, alive, query.exec_inform valid, Scene.resolve_withTable valid _⟩

theorem Hands.eq {runtime : Runtime} {table : TableRef} {start : Scene} (hands : query.Hands runtime world table start) :
    table = interpreter.nextTable ∧ start = query.start world interpreter := by
  obtain ⟨_, info, known, made, found⟩ := hands.made
  cases known.symm.trans alive
  cases made.symm.trans (query.exec_inform valid)
  cases found.symm.trans (Scene.resolve_withTable valid _)
  exact ⟨rfl, rfl⟩

theorem IsReady.calls (ready : query.IsReady world) : query.CallsWith world interpreter.nextTable (query.start world interpreter) := by
  obtain ⟨_, here, denotes, known⟩ := ready
  cases here.symm.trans alive
  let scene := world.scene query.function.context interpreter
  let start := query.start world interpreter
  have grows : scene.Grows start := scene.grows_withTable valid _
  obtain ⟨callee, denotes⟩ := grows.denotes denotes
  obtain ⟨given, leading⟩ := Scene.knows_all fun value listed => grows.knows (known value listed)
  let info := scene.nextHandle interpreter.heap.tables.size
  have found : start.rawOf (.table info) = .ok (.table interpreter.nextTable) := scene.resolve_withTable valid _
  have all : List.Forall₂ (start.rawOf · = .ok ·) (query.leading ++ [.table info]) (given ++ [.table interpreter.nextTable]) :=
    List.rel_append leading (.cons found .nil)
  obtain ⟨rest, called⟩ := Function.call_once denotes all .host
  refine ⟨callee, given, fun outcome => ((rest outcome).map (Prod.map query.conclude id)).map
    (Prod.map id (world.leave query.function.context)), denotes, leading, fun runtime => ?_⟩
  have performed : exec runtime.perform query.act .host scene = _ :=
    (query.exec_act (query.exec_inform valid)).trans (congrArg (Option.map _) (called runtime.perform))
  rw [live_exec alive, performed, Option.map_bind, Option.map_bind]
  rfl

end Query
end TileScript
