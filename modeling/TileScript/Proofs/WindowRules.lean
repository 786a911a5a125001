import TileScript.Proofs.Dispatch
import TileScript.Proofs.NativeEffects

/-! Rules for windows, from the calls that register them to the windows that are detected. A call that succeeds
makes a rule of just the options in its table, and a window runs the commands of the rules that it chooses. -/

namespace TileScript
open Bridge Script Attempt

/-! ### Checked options -/

namespace Script.Raw

variable {raw : Raw}

theorem givesText_of_fits (fits : (Parameter.optional (.kind .string)).Fits raw) : raw.GivesText raw.text? := by
  rcases Parameter.eq_nil_or_fits fits with rfl | known
  · exact .absent
  · obtain ⟨bytes, rfl⟩ := bytes_of_kind known
    exact .present bytes

theorem givesFlag_of_fits (fits : (Parameter.optional (.kind .boolean)).Fits raw) : raw.GivesFlag raw.flag? := by
  rcases Parameter.eq_nil_or_fits fits with rfl | known
  · exact .absent
  · cases raw with
    | boolean flag => exact .present flag
    | nil | integer _ | number _ | string _ | table _ | function _ | thread _ | file | failure _ _ => cases known

end Script.Raw

theorem WindowOptions.givenBy_ofFields {field : String → Raw}
    (fits : ∀ declared ∈ Api.windowOptions.fields, declared.2.Fits (field declared.1)) : (ofFields field).GivenBy field := by
  simp only [Api.windowOptions, TableSchema.fields, List.forall_mem_cons] at fits
  obtain ⟨appId, appName, title, workspace, duringStartup, checkFurther, -⟩ := fits
  exact ⟨Raw.givesText_of_fits appId, Raw.givesText_of_fits appName, Raw.givesText_of_fits title,
    Raw.givesText_of_fits workspace, Raw.givesFlag_of_fits duringStartup, Raw.givesFlag_of_fits checkFurther⟩

/-! ### Calls -/

namespace WindowRule

/-- A call that registers a rule, between two scenes. -/
structure Call where
  arguments : Arguments
  before : Scene
  after : Scene

/-- The table of a call gives the options, and its other arguments mean the commands. -/
def Call.Registers (call : Call) (registration : Registration) : Prop :=
  ∃ table commands, call.arguments = .table table :: commands ∧
    registration.options.GivenBy (call.before.interpreter.heap.field table) ∧
    List.Forall₂ (call.after.Means call.before.manager.host) commands registration.commands

variable {runner : Runner} {site : Site} {code : HostCode} {arguments : Arguments} {results : List Raw} {before after : Scene}

theorem registers_of_call (valid : before.interpreter.registry.Valid)
    (bare : ∀ table rest, arguments = .table table :: rest → (before.interpreter.heap.table table).metatable = none)
    (ran : ((Native.ofApi .onWindowDetected).call code arguments).exec runner site before = some (.ok results, after)) :
    ∃ rule registration, Call.Registers ⟨arguments, before, after⟩ registration ∧
      rule.Realizes code.patterns registration ∧
      after.manager.config.onWindowDetected = before.manager.config.onWindowDetected ++ [rule] := by
  obtain ⟨received, between, checked, same, known⟩ :
      ((Native.ofApi .onWindowDetected).receive arguments).Sees runner site before _ :=
    Native.sees_receive (Check.sees_rule valid arguments bare)
  rw [Native.exec_call, checked] at ran
  cases received with
  | error message => cases ran
  | ok _ =>
    obtain ⟨_, rest, rfl, ⟨table, rfl, fits⟩, -⟩ := known () rfl
    have plain : (between.interpreter.heap.table table).metatable = none :=
      (same.metatables.same table).trans (bare table rest rfl)
    obtain ⟨result, later, made, registered⟩ :
        (Api.onWindowDetected.run code.patterns (.table table :: rest)).Yields runner site between _ :=
      ApiCall.yields_rule same.registry rest plain
    change (exec runner (Api.onWindowDetected.run code.patterns (.table table :: rest)) site between).bind _ = _ at ran
    rw [made] at ran
    cases result with
    | error error => cases ran
    | ok result =>
      obtain ⟨rule, realizes, meant, rfl, changed⟩ := registered
      have passed : exec runner (Native.pass (.single (.boolean true))) site later = some (.ok [.boolean true], later) :=
        Scene.Conveys.exec_pass (.single rfl)
      obtain ⟨⟨⟩, rfl⟩ := Prod.mk.inj (Option.some.inj (passed.symm.trans ran))
      rw [same.reads.field] at realizes
      rw [same.manager] at meant changed
      refine ⟨rule, _, ⟨table, rest, rfl, WindowOptions.givenBy_ofFields fits, meant⟩, realizes, ?_⟩
      rw [changed]
      rfl

/-- Calls that succeed, one after the other, in a dialect of patterns. Between them anything may happen that leaves the
rules as they are. -/
inductive Course (dialect : Pattern.Dialect) : List WindowRule → List Call → List WindowRule → Prop where
  | done (rules : List WindowRule) : Course dialect rules [] rules
  | call {runner : Runner} {site : Site} {code : HostCode} {arguments : Arguments} {results : List Raw} {before after : Scene}
    {calls : List Call} {rules : List WindowRule} : code.patterns = dialect →
    before.interpreter.registry.Valid →
    (∀ table rest, arguments = .table table :: rest → (before.interpreter.heap.table table).metatable = none) →
    ((Native.ofApi .onWindowDetected).call code arguments).exec runner site before = some (.ok results, after) →
    Course dialect after.manager.config.onWindowDetected calls rules →
    Course dialect before.manager.config.onWindowDetected (⟨arguments, before, after⟩ :: calls) rules

theorem Course.realized {dialect : Pattern.Dialect} {old rules : List WindowRule} {calls : List Call}
    (course : Course dialect old calls rules) :
    ∃ added registrations, rules = old ++ added ∧ List.Forall₂ Call.Registers calls registrations ∧
      List.Forall₂ (WindowRule.Realizes · dialect) added registrations := by
  induction course with
  | done rules => exact ⟨[], [], (List.append_nil rules).symm, .nil, .nil⟩
  | call speaks valid bare ran _ ih =>
    subst speaks
    obtain ⟨rule, registration, registers, realizes, appended⟩ := registers_of_call valid bare ran
    obtain ⟨added, registrations, whole, others, realized⟩ := ih
    refine ⟨rule :: added, registration :: registrations, ?_, .cons registers others, .cons realizes realized⟩
    rw [whole, appended, List.append_assoc, List.singleton_append]

end WindowRule

/-- However many calls have registered rules before a window is detected: it runs the commands of all calls whose
options hold of it, in order, as long as no call before has options that hold and do not ask to go on. -/
theorem detected_windows_run_chosen {dialect : Pattern.Dialect} {calls : List WindowRule.Call} {rules : List WindowRule}
    (course : WindowRule.Course dialect [] calls rules) :
    ∃ registrations, List.Forall₂ WindowRule.Call.Registers calls registrations ∧
      ∀ (runtime : Runtime) (world : World), world.manager.config.onWindowDetected = rules →
        ∀ (window : DetectedWindow) (startup : Bool) (result : Except Error Unit) (after : World),
          (Engine.windowDetected window startup).exec runtime world = some (result, after) ↔ result = .ok () ∧
            ∃ performed, performed.map (·.command) = Registration.chosen dialect window startup [] registrations ∧
              Command.Ran runtime ⟨some window.id, window.workspace, none⟩ world performed after := by
  obtain ⟨added, registrations, rfl, registered, realized⟩ := course.realized
  refine ⟨registrations, registered, fun runtime world same window startup result after => ?_⟩
  have selected : world.manager.config.windowCommands window startup = Registration.chosen dialect window startup [] registrations := by
    rw [Registration.chosen_eq realized, if_pos (by simp [Registration.LetOn])]
    exact congrArg (WindowRule.select window startup) same
  have runs : (Engine.windowDetected window startup).exec runtime world =
      (Command.runAll ⟨some window.id, window.workspace, none⟩ (world.manager.config.windowCommands window startup)).exec
        runtime world := rfl
  rw [runs, Command.exec_runAll_iff, selected]

/-- A rule for one app, and one for all windows: the first shuts off the second for a window of that app. -/
theorem detected_windows_run_chosen_app : ∃ calls rules registrations, WindowRule.Course .standard [] calls rules ∧
    calls.length = 2 ∧
    List.Forall₂ WindowRule.Call.Registers calls registrations ∧
    ∃ world after : World, world.manager.config.onWindowDetected = rules ∧
      (Engine.windowDetected ⟨7, some "term", none, "", none⟩ false).exec (.plain 0) world = some (.ok (), after) ∧
      after.manager.host.executed = [⟨⟨["focus", "left"]⟩, ⟨some 7, none, none⟩⟩] ∧
      ∃ performed, performed.map (·.command) =
          Registration.chosen .standard ⟨7, some "term", none, "", none⟩ false [] registrations ∧
        Command.Ran (.plain 0) ⟨some 7, none, none⟩ world performed after := by
  let heap : Heap := Heap.initial.modifyTable Heap.globals (·.set (.ofString "appId") (.ofString "term"))
  let first : Scene := ⟨⟨1⟩, ⟨heap, [], .empty⟩, .initial .blank, []⟩
  let second (between : Scene) : Scene := ⟨⟨1⟩, .initial, between.manager, []⟩
  let last (between : Scene) : World := ⟨#[], between.manager, []⟩
  let register (command : String) (scene : Scene) : Option (Except String (List Raw) × Scene) :=
    ((Native.ofApi .onWindowDetected).call .none [.table Heap.globals, .ofString command]).exec (fun _ _ => none) .host scene
  have kept : Heap.initial.KeepsMetatables heap := Heap.keepsMetatables_modifyTable Heap.globals fun _ => rfl
  have ends : ((register "focus left" first).bind fun one => (register "focus right" (second one.2)).bind fun two =>
      ((Engine.windowDetected ⟨7, some "term", none, "", none⟩ false).exec (.plain 0) (last two.2)).map fun done =>
        (one.1.isOk, two.1.isOk, done.2.manager.host.executed)) =
      some (true, true, [⟨⟨["focus", "left"]⟩, ⟨some 7, none, none⟩⟩]) := by decide +kernel
  obtain ⟨⟨one, between⟩, registered, ends⟩ := Option.bind_eq_some_iff.mp ends
  obtain ⟨⟨two, between'⟩, registered', ends⟩ := Option.bind_eq_some_iff.mp ends
  obtain ⟨⟨result, after⟩, ran, ends⟩ := Option.map_eq_some_iff.mp ends
  obtain ⟨succeeded, ends⟩ := Prod.mk.inj ends
  obtain ⟨succeeded', executed⟩ := Prod.mk.inj ends
  cases one with
  | error _ => cases succeeded
  | ok _ =>
    cases two with
    | error _ => cases succeeded'
    | ok _ =>
      have later : WindowRule.Course .standard (second between).manager.config.onWindowDetected
          [⟨[.table Heap.globals, .ofString "focus right"], second between, between'⟩]
          between'.manager.config.onWindowDetected :=
        .call rfl Registry.empty_valid (fun table _ _ => Heap.initial_isPlain table) registered' (.done _)
      have course : WindowRule.Course .standard first.manager.config.onWindowDetected
          [⟨[.table Heap.globals, .ofString "focus left"], first, between⟩, ⟨_, second between, between'⟩]
          between'.manager.config.onWindowDetected :=
        .call rfl Registry.empty_valid (fun table _ _ => kept.isPlain Heap.initial_isPlain table) registered later
      obtain ⟨registrations, registers, runs⟩ := detected_windows_run_chosen course
      obtain ⟨rfl, performed⟩ := (runs (.plain 0) (last between') rfl _ _ _ _).mp ran
      exact ⟨_, _, registrations, course, rfl, registers, last between', after, rfl, ran, executed, performed⟩

end TileScript
