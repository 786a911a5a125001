import TileScript.Proofs.ContextIsolation
import TileScript.Proofs.Dispatch
import TileScript.Proofs.FreshStart
import TileScript.Proofs.NearestDoubles
import TileScript.Proofs.ScriptQueries

/-! Scripts are handed copies. Whatever scripts have done to the tables that they were handed before, the next one is
a new table without a metatable, with nothing in it but what the host knows at that time. -/

namespace TileScript.Script.HeapRequest

/-- Tables are never taken away. -/
theorem tables_after {α : Type} (request : HeapRequest α) (heap : Heap) :
    heap.tables.size ≤ (request.answer heap).2.tables.size := by
  cases request with
  | newTable items fields =>
    change _ ≤ (heap.tables.push _).size
    rw [Array.size_push]
    exact Nat.le_succ _
  | get table key => exact Nat.le_of_eq (Heap.size_get table key).symm
  | set _ _ _ | setItems _ _ _ | border _ => exact Nat.le_of_eq Array.size_modify.symm
  | setMetatable table metatable =>
    change _ ≤ (heap.setMetatable table metatable).tables.size
    rw [Heap.tables_setMetatable]
    exact Nat.le_of_eq Array.size_modify.symm
  | closure? function =>
    simp only [answer]
    split <;> exact Nat.le_refl _
  | metatable _ | following _ _ | newClosure _ | libraryName? _ | newCell _ | cell _ | setCell _ _ | newNumber | print _
  | takeAwaiting =>
    exact Nat.le_refl _

end TileScript.Script.HeapRequest

namespace TileScript.Bridge
open Script Attempt

theorem Scene.tables_answer {α : Type} (scene : Scene) (request : BridgeRequest α) :
    scene.interpreter.heap.tables.size ≤ (scene.answer request).2.interpreter.heap.tables.size := by
  cases request with
  | heap request => exact request.tables_after scene.interpreter.heap
  | takeLost =>
    change _ ≤ (scene.interpreter.heap.takeLost scene.interpreter.roots).2.tables.size
    rw [Heap.tables_takeLost]
  | newNative _ | newChunk _ | function _ | context | stack | setStack _ | register _ | registered _ | release _ | host
  | runCommand _ _ | change _ | note _ _ => exact Nat.le_refl _

/-- The same context, later: its tables are still there, and its registry is still in order. -/
structure Interpreter.Lasts (before after : Interpreter) : Prop where
  tables : before.heap.tables.size ≤ after.heap.tables.size
  registry : before.registry.Valid → after.registry.Valid

theorem Interpreter.lasts_conserved : Conserved fun before after => before.interpreter.Lasts after.interpreter where
  refl _ := ⟨Nat.le_refl _, id⟩
  trans early late := ⟨Nat.le_trans early.tables late.tables, late.registry ∘ early.registry⟩
  request request scene := ⟨scene.tables_answer request, fun valid => Scene.registry_answer valid request⟩

end TileScript.Bridge

namespace TileScript
open Bridge Script Attempt

/-- A table that a script was handed, and what was in it then. -/
structure Passing where
  context : ContextId
  table : TableRef
  object : TableObject

/-- Which table it is. -/
def Passing.place (passing : Passing) : ContextId × TableRef := (passing.context, passing.table)

namespace World

/-- What a world can come to, and the tables that scripts were handed meanwhile, the last one first. Between two
queries anything is done, by scripts, by native functions and by the host. -/
inductive Course : List Passing → World → Prop where
  | start (host : Host) : Course [] (.initial host)
  | deed {passed world after} (course : Course passed world) (deed : Deed) {answer : deed.Answer}
    (ran : deed.exec world = some (answer, after)) : Course passed after
  | collect {passed world} (course : Course passed world) (held : List Pin) : Course passed (world.collect held)
  | query {passed world after} (course : Course passed world) {α : Type} (query : Query α) (runtime : Runtime) {table start}
    (hands : query.Hands runtime world table start) {result : Except Error α}
    (ran : query.live.exec runtime world = some (result, after)) :
    Course (⟨query.function.context, table, start.interpreter.heap.table table⟩ :: passed) after

/-- The tables that scripts were handed are there, each of them a different one. -/
structure Keeps (world : World) (passed : List Passing) : Prop where
  registries : ∀ context interpreter, world.interpreter? context = some interpreter → interpreter.registry.Valid
  contexts : ∀ passing ∈ passed, passing.context.index < world.contexts.size
  tables : ∀ passing ∈ passed, ∀ interpreter, world.interpreter? passing.context = some interpreter →
    passing.table.index < interpreter.heap.tables.size
  distinct : (passed.map Passing.place).Nodup

variable {world after : World} {passed : List Passing} {context : ContextId} {interpreter : Interpreter}

theorem Keeps.leave (keeps : world.Keeps passed) (known : world.interpreter? context = some interpreter) {scene : Scene}
    (lasts : interpreter.Lasts scene.interpreter) : (world.leave context scene).Keeps passed := by
  have size : (world.leave context scene).contexts.size = world.contexts.size := Array.size_setIfInBounds
  refine ⟨fun other found there => ?_, fun passing listed => size ▸ keeps.contexts passing listed,
    fun passing listed found there => ?_, keeps.distinct⟩
  · rw [interpreter?_leave scene other known] at there
    split at there
    · cases there
      exact lasts.registry (keeps.registries _ _ known)
    · exact keeps.registries other found there
  · rw [interpreter?_leave scene passing.context known] at there
    split at there
    · next here =>
      subst here
      cases there
      exact Nat.lt_of_lt_of_le (keeps.tables passing listed _ known) lasts.tables
    · exact keeps.tables passing listed found there

theorem Keeps.openContext (keeps : world.Keeps passed) : world.openContext.2.Keeps passed := by
  have size : world.openContext.2.contexts.size = world.contexts.size + 1 := Array.size_push _
  refine ⟨fun other found there => ?_, fun passing listed => ?_, fun passing listed found there => ?_, keeps.distinct⟩
  · rw [interpreter?_openContext] at there
    split at there
    · cases there
      exact Registry.empty_valid
    · exact keeps.registries other found there
  · rw [size]
    exact Nat.lt_succ_of_lt (keeps.contexts passing listed)
  · rw [interpreter?_openContext, if_neg (Nat.ne_of_lt (keeps.contexts passing listed))] at there
    exact keeps.tables passing listed found there

theorem Keeps.closeContext (keeps : world.Keeps passed) (context : ContextId) : (world.closeContext context).Keeps passed := by
  have size : (world.closeContext context).contexts.size = world.contexts.size := Array.size_setIfInBounds
  have before : ∀ other found, (world.closeContext context).interpreter? other = some found →
      world.interpreter? other = some found := by
    intro other found there
    rw [interpreter?_closeContext] at there
    split at there
    · cases there
    · exact there
  exact ⟨fun other found there => keeps.registries other found (before other found there),
    fun passing listed => size ▸ keeps.contexts passing listed,
    fun passing listed found there => keeps.tables passing listed found (before _ found there), keeps.distinct⟩

theorem Keeps.collect (keeps : world.Keeps passed) (held : List Pin) : (world.collect held).Keeps passed := by
  have size : (world.collect held).contexts.size = world.contexts.size := Array.size_mapIdx
  refine ⟨fun other found there => ?_, fun passing listed => size ▸ keeps.contexts passing listed,
    fun passing listed found there => ?_, keeps.distinct⟩
  · rw [interpreter?_collect, Option.map_eq_some_iff] at there
    obtain ⟨interpreter, known, rfl⟩ := there
    exact (keeps.registries other interpreter known).retain _
  · rw [interpreter?_collect, Option.map_eq_some_iff] at there
    obtain ⟨interpreter, known, rfl⟩ := there
    exact keeps.tables passing listed interpreter known

theorem Keeps.run (keeps : world.Keeps passed) {α : Type} {act : Act α} {runtime : Runtime} {result : Except Error α}
    (ran : world.run context act runtime = some (result, after)) : after.Keeps passed := by
  obtain ⟨-, -, rfl⟩ | ⟨interpreter, scene, known, performed, rfl⟩ := run_cases ran
  · exact keeps
  · exact keeps.leave known (Interpreter.lasts_conserved.act performed)

theorem Keeps.deed (keeps : world.Keeps passed) {deed : Deed} {answer : deed.Answer}
    (ran : deed.exec world = some (answer, after)) : after.Keeps passed := by
  cases deed with
  | run context act runtime => exact keeps.run ran
  | openContext =>
    cases ran
    exact keeps.openContext
  | closeContext context =>
    cases ran
    exact keeps.closeContext context
  | manage change =>
    cases ran
    exact ⟨keeps.registries, keeps.contexts, keeps.tables, keeps.distinct⟩

/-- A table that comes after all others was not handed out before. -/
theorem Keeps.apart (keeps : world.Keeps passed) (known : world.interpreter? context = some interpreter) :
    ∀ passing ∈ passed, passing.place ≠ (context, interpreter.nextTable) := by
  rintro ⟨_, table, object⟩ listed same
  obtain ⟨rfl, rfl⟩ := Prod.mk.inj same
  exact Nat.lt_irrefl _ (keeps.tables _ listed interpreter known)

theorem Keeps.query (keeps : world.Keeps passed) {α : Type} {query : Query α} {runtime : Runtime} {table : TableRef}
    {start : Scene} (hands : query.Hands runtime world table start) {result : Except Error α}
    (ran : query.live.exec runtime world = some (result, after)) :
    after.Keeps (⟨query.function.context, table, start.interpreter.heap.table table⟩ :: passed) := by
  obtain ⟨interpreter, info, known, made, -⟩ := id hands.made
  have valid := keeps.registries _ _ known
  obtain ⟨rfl, rfl⟩ := hands.eq known valid
  have later : after.Keeps passed := by
    rw [query.live_eq] at ran
    exact keeps.run ran
  rw [query.live_exec known, query.exec_act made, Option.map_map, Option.map_eq_some_iff] at ran
  obtain ⟨⟨_, final⟩, called, ⟨⟩⟩ := ran
  -- The new table is there when the call begins, and so it is when it ends.
  have lasts := Interpreter.lasts_conserved.act called
  have there : interpreter.heap.tables.size < final.interpreter.heap.tables.size := by
    refine Nat.lt_of_lt_of_le ?_ lasts.tables
    change _ < (interpreter.heap.tables.push query.object).size
    rw [Array.size_push]
    exact Nat.lt_succ_self _
  have left : (world.leave query.function.context final).interpreter? query.function.context = some final.interpreter :=
    (interpreter?_leave final _ known).trans (if_pos rfl)
  refine ⟨later.registries, List.forall_mem_cons.mpr ⟨index_lt left, later.contexts⟩,
    List.forall_mem_cons.mpr ⟨fun found here => ?_, later.tables⟩, List.nodup_cons.mpr ⟨fun listed => ?_, keeps.distinct⟩⟩
  · cases here.symm.trans left
    exact there
  · obtain ⟨passing, old, same⟩ := List.mem_map.mp listed
    exact keeps.apart known passing old same

theorem Course.keeps (course : Course passed world) : world.Keeps passed := by
  induction course with
  | start host =>
    refine ⟨fun context interpreter known => ?_, nofun, nofun, List.nodup_nil⟩
    simp [World.initial, World.interpreter?] at known
  | deed _ deed ran keeps => exact keeps.deed ran
  | collect _ held keeps => exact keeps.collect held
  | query _ query runtime hands ran keeps => exact keeps.query hands ran

theorem Course.through (course : Course passed world) {deeds : List Deed} {answers : List (Σ deed : Deed, deed.Answer)}
    (ran : world.through deeds = some (answers, after)) : Course passed after := by
  induction deeds generalizing world answers with
  | nil =>
    cases ran
    exact course
  | cons deed rest ih =>
    rw [World.through, Option.bind_eq_some_iff] at ran
    obtain ⟨⟨answer, between⟩, first, ran⟩ := ran
    rw [Option.map_eq_some_iff] at ran
    obtain ⟨⟨others, _⟩, ran, ⟨⟩⟩ := ran
    exact ih (course.deed deed first) ran

/-- What is done by deeds belongs to a course. -/
theorem Course.keep (course : Course passed world) {α : Type} {runtime : Runtime} {live : Live α}
    (deeds : (Live.deeds runtime).Keeps live) {result : Except Error α} (ran : live.exec runtime world = some (result, after)) :
    Course passed after := by
  obtain ⟨done, answers, through⟩ := deeds world result after ran
  exact course.through through

end World

theorem Session.Step.course {session next : Session} (step : Step session next) {passed : List Passing}
    (course : session.world.Course passed) : next.world.Course passed := by
  cases step with
  | source runtime text ran => exact course.keep (Live.deeds_within _ _) ran
  | initFile runtime file ran => exact course.keep (Live.deeds_initFile _ file) ran
  | focus runtime env ran => exact course.keep (Live.Continuity.keeps_focusChanged fun _ => Live.deeds_within _ _) ran
  | monitorFocus runtime env ran => exact course.keep (Live.Continuity.keeps_monitorChanged fun _ => Live.deeds_within _ _) ran
  | window runtime window startup ran =>
    exact course.keep (Live.Continuity.keeps_windowDetected (fun _ => Live.deeds_within _ _) startup) ran
  | gap runtime position asked monitors ran =>
    exact course.keep (Live.Continuity.keeps_gap (fun _ _ => Live.deeds_within _ _) position monitors) ran
  | collect held => exact course.collect held
  | reload runtime file ran | brokenReload runtime file ran => exact course.keep (Live.deeds_reload _ file) ran

theorem Session.Reachable.course {session : Session} (reachable : session.Reachable) : session.world.Course [] := by
  induction reachable with
  | @create host initPath _ _ runtime _ made => exact (World.Course.start host).keep (Live.deeds_create initPath) made
  | step _ step course => exact step.course course

namespace World

variable {world after : World} {passed : List Passing}

theorem isOpen_run {α : Type} {context : ContextId} {act : Act α} {runtime : Runtime} {result : Except Error α}
    (ran : world.run context act runtime = some (result, after)) (other : ContextId) : after.isOpen other = world.isOpen other := by
  obtain ⟨-, -, rfl⟩ | ⟨interpreter, scene, known, -, rfl⟩ := run_cases ran
  · rfl
  · rw [isOpen, isOpen, interpreter?_leave scene other known]
    split
    · next here =>
      subst here
      rw [known]
      rfl
    · rfl

theorem isOpen_command {command : Command} {env : CommandEnv} {runtime : Runtime} {outcome : Except Error Bool}
    (ran : (command.run env).exec runtime world = some (outcome, after)) (other : ContextId) :
    after.isOpen other = world.isOpen other := by
  cases command with
  | host command =>
    cases ran
    rfl
  | script function => exact isOpen_run ran other

theorem Course.pass (course : Course passed world) {α : Type} (query : Query α) {interpreter : Interpreter}
    (alive : world.interpreter? query.function.context = some interpreter) {runtime : Runtime} {result : Except Error α}
    (ran : query.live.exec runtime world = some (result, after)) :
    after.Course (⟨query.function.context, interpreter.nextTable, query.object⟩ :: passed) := by
  have valid := course.keeps.registries _ _ alive
  rw [← query.table_start world]
  exact course.query query runtime (Query.hands alive valid runtime) ran

/-- Every function among the commands is handed a table of its own about where they run. -/
theorem Course.runAll (course : Course passed world) {runtime : Runtime} {env : CommandEnv} {commands : List Command}
    (here : ∀ command ∈ commands, ∀ function ∈ command.handles, world.isOpen function.context = true)
    {result : Except Error Unit} (ran : (Command.runAll env commands).exec runtime world = some (result, after)) :
    ∃ handed : List Passing, handed.map (·.context) = ((commands.flatMap Command.handles).map (·.context)).reverse ∧
      (∀ passing ∈ handed, passing.object.Consists env.entries) ∧ after.Course (handed ++ passed) := by
  induction commands generalizing world passed with
  | nil =>
    cases ran
    exact ⟨[], rfl, nofun, course⟩
  | cons command rest ih =>
    rw [Command.runAll, Live.exec_bind, Live.exec_observe, Option.bind_map, Option.bind_eq_some_iff] at ran
    obtain ⟨⟨outcome, between⟩, first, ran⟩ := ran
    obtain ⟨now, here⟩ := List.forall_mem_cons.mp here
    have still : ∀ command ∈ rest, ∀ function ∈ command.handles, between.isOpen function.context = true :=
      fun other listed function held => (isOpen_command first _).trans (here other listed function held)
    cases command with
    | host command =>
      have between : between.Course passed := by
        cases first
        exact course.deed (.manage (·.execute command env)) rfl
      exact ih between still ran
    | script function =>
      let query : Query Bool := .command function env
      obtain ⟨interpreter, known⟩ := isOpen_iff.mp (now function (List.mem_singleton_self function))
      let passing : Passing := ⟨function.context, interpreter.nextTable, query.object⟩
      have longer : between.Course (passing :: passed) := course.pass query known first
      obtain ⟨handed, contexts, copies, later⟩ := ih longer still ran
      refine ⟨handed ++ [passing], ?_, fun other listed => ?_, ?_⟩
      · rw [List.map_append, contexts]
        simp [Command.handles, passing]
      · rcases List.mem_append.mp listed with late | this
        · exact copies other late
        · rw [List.mem_singleton.mp this]
          exact query.object_consists
      · rw [List.append_assoc]
        exact later

end World

/-! ### What scripts are handed -/

namespace Query

variable {α : Type} {world : World} {passed : List Passing}

/-- The handles of a query. -/
def handles (query : Query α) : List Handle := query.function :: query.leading.filterMap Value.handle?

/-- What the configuration holds of open contexts can be called. -/
theorem isReady_of_stored {session : Session} (reachable : session.Reachable) {query : Query α}
    (stored : ∀ handle ∈ query.handles, handle ∈ session.world.manager.config.handles)
    (alive : ∀ handle ∈ query.handles, session.world.isOpen handle.context = true) : query.IsReady session.world := by
  have sound : session.world.IsSound (·.IsOlder session.engine.context) session.engine.context := reachable.sound
  have meant : ∀ handle ∈ query.handles, session.world.Denotes session.engine.context handle := by
    intro handle listed
    refine (sound.stored (stored handle listed)).resolve_left fun older => ?_
    have apart : handle.context ≠ session.engine.context := fun same => Nat.lt_irrefl _ (same ▸ older : _ < _)
    have closed := alive handle listed
    rw [World.isOpen, sound.alone _ apart] at closed
    cases closed
  have here : query.function.context = session.engine.context := (meant _ List.mem_cons_self).1
  obtain ⟨interpreter, known, -⟩ := sound.sound
  refine ⟨interpreter, here ▸ known, ?_, fun value given => ?_⟩
  · rw [here]
    exact (World.denotes_iff known).mp (meant _ List.mem_cons_self)
  · cases free : value.handle? with
    | none => exact Scene.knows_free free
    | some handle =>
      have listed : handle ∈ query.handles := List.mem_cons_of_mem _ (List.mem_filterMap.mpr ⟨value, given, free⟩)
      obtain ⟨object, resolved⟩ := (World.denotes_iff known).mp (meant handle listed)
      rw [here]
      cases value with
      | table _ | function _ =>
        cases free
        exact ⟨_, resolved⟩
      | number _ | string _ | boolean _ | nil => cases free

/-- A function of a closed context is not run. -/
theorem exec_closed (query : Query α) (runtime : Runtime) (closed : world.isOpen query.function.context = false) :
    query.live.exec runtime world = some (.error .stale, world) := by
  have gone : world.interpreter? query.function.context = none := Option.isNone_iff_eq_none.mp (by simpa [World.isOpen] using closed)
  cases query with
  | value _ _ _ _ | command _ _ => exact World.run_closed gone

/-- What a query hands over is a copy that nobody has had before. -/
structure IsFresh (query : Query α) (world : World) (passed : List Passing) (interpreter : Interpreter) (table : TableRef)
    (start : Scene) : Prop where
  hands : ∀ runtime, query.Hands runtime world table start
  calls : query.IsReady world → query.CallsWith world table start
  new : interpreter.heap.tables.size ≤ table.index
  apart : ∀ passing ∈ passed, passing.place ≠ (query.function.context, table)
  consists : (start.interpreter.heap.table table).Consists query.entries
  others : ∀ other : TableRef, other.index < interpreter.heap.tables.size →
    start.interpreter.heap.table other = interpreter.heap.table other
  manager : start.manager = world.manager

theorem exists_fresh (course : world.Course passed) {query : Query α} {interpreter : Interpreter}
    (alive : world.interpreter? query.function.context = some interpreter) :
    ∃ table start, query.IsFresh world passed interpreter table start := by
  have valid := course.keeps.registries _ _ alive
  refine ⟨interpreter.nextTable, query.start world interpreter, Query.hands alive valid, IsReady.calls alive valid,
    Nat.le_refl _, course.keeps.apart alive, ?_, fun other => query.table_start_old world, rfl⟩
  rw [query.table_start]
  exact query.object_consists

end Query

theorem World.unused_run {α : Type} {world after : World} {context : ContextId} {act : Act α} {runtime : Runtime}
    {result : Except Error α} (ran : world.run context act runtime = some (result, after)) :
    after.manager.host.unused = world.manager.host.unused := by
  obtain ⟨-, -, rfl⟩ | ⟨interpreter, scene, -, performed, rfl⟩ := World.run_cases ran
  · rfl
  · exact Manager.unused_conserved.act performed

/-- Scripts see copies of what the host knows. Whatever was done before, a function that is asked for a value or run
as a command is handed a table that was not there before, without a metatable, and with exactly the entries of the
monitor that is asked about, or those that are known of where it runs. One of a closed context is handed nothing. What
it does to the table makes no difference to the ones that are handed out later, and none to what the host knows. An
integer is told as the nearest double, which is that integer up to 53 bits. -/
theorem scripts_see_copies :
    (∀ session : Session, session.Reachable → session.world.Course [] ∧
      ∀ {α : Type} (query : Query α), (∀ handle ∈ query.handles, handle ∈ session.world.manager.config.handles) →
        ((∀ handle ∈ query.handles, session.world.isOpen handle.context = true) → query.IsReady session.world) ∧
        (session.world.isOpen query.function.context = false → ∀ runtime : Runtime,
          query.live.exec runtime session.world = some (.error .stale, session.world))) ∧
    (∀ (passed : List Passing) (world : World), world.Course passed →
      (passed.map Passing.place).Nodup ∧
      (∀ {α : Type} (query : Query α) interpreter, world.interpreter? query.function.context = some interpreter →
        ∃ table start, query.IsFresh world passed interpreter table start) ∧
      ∀ (runtime : Runtime) (event : Event) result after, event.dispatch.exec runtime world = some (result, after) →
        (∀ command ∈ event.commands world.manager.config, ∀ function ∈ command.handles,
          world.isOpen function.context = true) →
        ∃ handed : List Passing, handed.map (·.context) =
            (((event.commands world.manager.config).flatMap Command.handles).map (·.context)).reverse ∧
          (∀ passing ∈ handed, passing.object.Consists event.env.entries) ∧ after.Course (handed ++ passed)) ∧
    (∀ {α : Type} (world after : World) context (act : Act α) runtime result,
      world.run context act runtime = some (result, after) → after.manager.host.unused = world.manager.host.unused) ∧
    (∀ n : Int, n.natAbs ≤ 2 ^ 53 → ofDouble (Double.ofInt n) = .integer (Int64.ofInt n)) ∧
    ∀ n : Int, n.natAbs < 2 ^ 64 → (Double.ofInt n).IsNearest n := by
  refine ⟨fun session reachable => ⟨reachable.course, fun query stored =>
      ⟨Query.isReady_of_stored reachable stored, fun closed runtime => query.exec_closed runtime closed⟩⟩,
    fun passed world course => ⟨course.keeps.distinct, fun query interpreter => Query.exists_fresh course,
      fun runtime event result after ran here => ?_⟩, fun world after context act runtime result => World.unused_run,
    fun n => ofDouble_ofInt, fun n => Double.isNearest_ofInt⟩
  rw [event.dispatch_eq] at ran
  exact course.runAll here ran

/-- A first context that has run a text. -/
def World.running (text : String) : World :=
  (Engine.runSource ⟨⟨0⟩, "init.lua"⟩ text).leadsTo (.plain 50) (World.initial .blank).openContext.2

theorem World.course_running {text : String} {result : Except Error (List Value)}
    (ends : ((Engine.runSource ⟨⟨0⟩, "init.lua"⟩ text).exec (.plain 50) (World.initial .blank).openContext.2).map (·.1) =
      some result) : (World.running text).Course [] :=
  ((World.Course.start .blank).deed .openContext rfl).keep (Live.deeds_within _ _) (Live.exec_leadsTo ends)

/-- A script gives a function that keeps its table, writes to it and makes it a metatable. -/
def keepingScript : String :=
  "local kept return function(id, monitor) kept = monitor monitor.id = 0 setmetatable(monitor, kept) return true end"

/-- The function is asked about a monitor. -/
def keepingQuery : Query Bool := .value ⟨⟨⟨0⟩, 1⟩, 41⟩ (.ofInt 5) ⟨7, "A", ⟨.zero, .zero, .zero, .zero⟩, "1", true⟩ []

/-- The world after it has been asked once. -/
def keepingWorld : World := keepingQuery.live.leadsTo (.plain 50) (World.running keepingScript)

/-- What the function does to the table that it is handed. -/
theorem keepingWorld_written :
    ((World.running keepingScript).interpreter? ⟨0⟩).map (·.nextTable) = some ⟨11⟩ ∧
    (keepingQuery.live.exec (.plain 50) (World.running keepingScript)).map (·.1) = some (.ok true) ∧
    (keepingWorld.interpreter? ⟨0⟩).map (fun later => ((later.heap.table ⟨11⟩).get (.ofString "id"),
      (later.heap.table ⟨11⟩).metatable.isSome, later.registry.value? 1)) =
      some (.integer 0, true, some (.function ⟨41⟩)) := by
  decide +kernel

/-- A function that keeps its table, writes to it and gives it a metatable gets another one the next time. -/
theorem scripts_see_copies_twice :
    ∃ (query : Query Bool) (world : World) (first : Passing) (interpreter : Interpreter) (table : TableRef) (start : Scene),
      query.entries = Monitor.entries ⟨7, "A", ⟨.zero, .zero, .zero, .zero⟩, "1", true⟩ ∧ world.Course [first] ∧
      world.interpreter? query.function.context = some interpreter ∧ query.IsReady world ∧
      (interpreter.heap.table first.table).get (.ofString "id") = .integer 0 ∧
      (interpreter.heap.table first.table).metatable.isSome ∧
      first.place ≠ (query.function.context, table) ∧ (start.interpreter.heap.table table).Consists query.entries := by
  have loads : ((Engine.runSource ⟨⟨0⟩, "init.lua"⟩ keepingScript).exec (.plain 50) (World.initial .blank).openContext.2).map
      (·.1) = some (.ok [.function ⟨⟨⟨0⟩, 1⟩, 41⟩]) := by decide +kernel
  obtain ⟨fresh, ends, left⟩ := keepingWorld_written
  obtain ⟨before, alive, next⟩ := Option.map_eq_some_iff.mp fresh
  obtain ⟨interpreter, here, written⟩ := Option.map_eq_some_iff.mp left
  simp only [Prod.mk.injEq] at written
  obtain ⟨cleared, marked, held⟩ := written
  rw [← next] at cleared marked
  have course : keepingWorld.Course [⟨⟨0⟩, before.nextTable, keepingQuery.object⟩] :=
    (World.course_running loads).pass keepingQuery alive (Live.exec_leadsTo ends)
  have ready : keepingQuery.IsReady keepingWorld := by
    refine ⟨interpreter, here, ⟨⟨41⟩, Scene.resolve_ok.mpr ⟨rfl, held⟩⟩, fun value listed => Scene.knows_free ?_⟩
    rw [List.mem_singleton.mp listed]
    rfl
  obtain ⟨-, courses, -⟩ := scripts_see_copies
  obtain ⟨table, start, copy⟩ := (courses _ keepingWorld course).2.1 keepingQuery interpreter here
  exact ⟨keepingQuery, keepingWorld, _, interpreter, table, start, rfl, course, here, ready, cleared, marked,
    copy.apart _ List.mem_cons_self, copy.consists⟩

/-- A script gives a function that tells the identity of a monitor as a text. -/
def tellingScript : String := "return function(id, monitor) return tostring(monitor.id) end"

/-- The function is asked about a monitor whose identity has 54 bits. -/
def tellingQuery : Query String :=
  .value ⟨⟨⟨0⟩, 1⟩, 41⟩ (.ofInt 1) ⟨9007199254740993, "A", ⟨.zero, .zero, .zero, .zero⟩, "1", true⟩ []

/-- Numbers of the host are doubles, so an identity with more than 53 bits is not told as it is. -/
theorem scripts_see_copies_rounded :
    ∃ (query : Query String) (world after : World) (table : TableRef) (start : Scene),
      query = .value ⟨⟨⟨0⟩, 1⟩, 41⟩ (.ofInt 1) ⟨9007199254740993, "A", ⟨.zero, .zero, .zero, .zero⟩, "1", true⟩ [] ∧
      world.Course [] ∧ (∀ runtime, query.Hands runtime world table start) ∧
      (start.interpreter.heap.table table).get (.ofString "id") = .integer 9007199254740992 ∧
      query.live.exec (.plain 50) world = some (.ok "9007199254740992", after) ∧
      Raw.integer 9007199254740992 ≠ .integer (Int64.ofInt 9007199254740993) := by
  have loads : ((Engine.runSource ⟨⟨0⟩, "init.lua"⟩ tellingScript).exec (.plain 50) (World.initial .blank).openContext.2).map
      (·.1) = some (.ok [.function ⟨⟨⟨0⟩, 1⟩, 41⟩]) := by decide +kernel
  have tells : (tellingQuery.live.exec (.plain 50) (World.running tellingScript)).map (·.1) =
      some (.ok "9007199254740992") := by decide +kernel
  have opened : ((World.running tellingScript).interpreter? ⟨0⟩).isSome := by decide +kernel
  have rounded : (Raw.ofString "id", Raw.integer 9007199254740992) ∈ tellingQuery.entries := by decide +kernel
  have course := World.course_running loads
  obtain ⟨interpreter, alive⟩ := Option.isSome_iff_exists.mp opened
  obtain ⟨table, start, fresh⟩ : ∃ table start,
      tellingQuery.IsFresh (World.running tellingScript) [] interpreter table start := Query.exists_fresh course alive
  exact ⟨tellingQuery, _, _, table, start, rfl, course, fresh.hands, fresh.consists.get _ rounded,
    Live.exec_leadsTo tells, by decide⟩

end TileScript
