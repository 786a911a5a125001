import TileScript.Proofs.Reloads
import TileScript.Rehearsal

/-! A rehearsal runs the init script and then the chunks, one after the other and all of them in one context, and goes
no further than the first of them that fails or ends the process. There is a summary only when all of them have come to
their ends. What tables do when they are told of the end of the engine comes last. -/

namespace TileScript
open Bridge Script Attempt

theorem Bridge.Attempt.exec_evaluate_ok {ε α : Type} {runner : Runner} {computation : Site → Eval α} {site : Site}
    {scene after : Scene} {result : Except ε (Except Raw α)}
    (ran : exec runner (evaluate computation) site scene = some (result, after)) : ∃ told, result = .ok told := by
  rw [exec_evaluate, Option.map_eq_some_iff] at ran
  obtain ⟨⟨told, _⟩, -, ⟨⟩⟩ := ran
  exact ⟨told, rfl⟩

/-- What is raised at the end of a context is lost, so that the end itself does not fail. -/
theorem Bridge.Act.finish_ok {runner : Runner} {site : Site} {scene after : Scene} {result : Except Error Unit}
    (ran : finish.exec runner site scene = some (result, after)) : result = .ok () := by
  rw [finish, exec_bind_ok (exec_ask _), exec_bind, Option.bind_eq_some_iff] at ran
  obtain ⟨⟨first, between⟩, told, ran⟩ := ran
  obtain ⟨_, rfl⟩ := exec_evaluate_ok told
  dsimp only at ran
  rw [exec_bind_ok (exec_ask _), exec_bind, Option.bind_eq_some_iff] at ran
  obtain ⟨⟨second, last⟩, told, ran⟩ := ran
  obtain ⟨_, rfl⟩ := exec_evaluate_ok told
  cases ran
  rfl

/-- A context is open, and all that its scripts have printed is written. -/
def World.IsQuiet (world : World) (context : ContextId) : Prop :=
  ∃ interpreter, world.interpreter? context = some interpreter ∧ interpreter.heap.printed = .empty

theorem World.takePrinted_open {world : World} {context : ContextId} {interpreter : Interpreter}
    (known : world.interpreter? context = some interpreter) :
    (world.takePrinted context).1 = interpreter.heap.printed ∧ (world.takePrinted context).2.IsQuiet context := by
  let quiet : Interpreter := { interpreter with heap := { interpreter.heap with printed := .empty } }
  have taken : world.takePrinted context = (interpreter.heap.printed, world.leave context (world.scene context quiet)) := by
    simp only [takePrinted, known]
    rfl
  rw [taken]
  exact ⟨rfl, quiet, (interpreter?_leave _ context known).trans (if_pos rfl), rfl⟩

namespace Rehearsal

/-! ### What can come of it -/

section Turns

variable {α : Type} (runtime : Runtime) (engine : Engine) (act : Act α) (world : World)

/-- Something comes to its end: with a result, with what was printed until then, and in a world that has forgotten what
was printed. -/
def Ends (result : Except Error α) (printed : ByteArray) (after : World) : Prop :=
  ∃ left, world.drive engine.context act runtime = .ok (result, left) ∧ left.takePrinted engine.context = (printed, after)

/-- A script ends the process, and all contexts with it. -/
def Exits (status : UInt8) (printed : ByteArray) (after : World) : Prop :=
  ∃ scene, world.drive engine.context act runtime = .error (.exit status scene) ∧
    scene.interpreter.heap.printed = printed ∧ after = ⟨#[], scene.manager, scene.trace⟩

def IsEndless : Prop := world.drive engine.context act runtime = .error .endless

/-- Something stops a rehearsal. -/
inductive Stops : Ending → ByteArray → World → Prop where
  | failed {error printed after} (ends : Ends runtime engine act world (.error error) printed after) :
    Stops (.failed error) printed after
  | exited {status printed after} (exits : Exits runtime engine act world status printed after) :
    Stops (.exited status) printed after

end Turns

/-- Scripts that all end well, each in the world that the one before it has left. What they print is written as it
comes, and a line after it for a script that returns any values. -/
inductive Passes (runtime : Runtime) (engine : Engine) : List (Act (List Value)) → World → ByteArray → World → Prop where
  | nil {world} : Passes runtime engine [] world .empty world
  | silent {script rest world printed between written after}
    (ends : Ends runtime engine script world (.ok []) printed between)
    (later : Passes runtime engine rest between written after) :
    Passes runtime engine (script :: rest) world (printed ++ written) after
  | line {script rest world values printed between written after} (given : values ≠ [])
    (ends : Ends runtime engine script world (.ok values) printed between)
    (later : Passes runtime engine rest between written after) :
    Passes runtime engine (script :: rest) world
      (printed ++ ("\t".intercalate (values.map valueText) ++ "\n").toUTF8 ++ written) after

/-- What is written when nothing has stopped the rehearsal: what is configured, each part in a line of its own. -/
def summaryOf (world : World) : ByteArray := ("".intercalate (world.manager.config.summary.map (· ++ "\n"))).toUTF8

/-- One of the scripts has its turn: all those before it have passed. -/
def Reaches (runtime : Runtime) (engine : Engine) (scripts : List (Act (List Value))) (world : World)
    (script : Act (List Value)) (written : ByteArray) (between : World) : Prop :=
  ∃ before later, scripts = before ++ script :: later ∧ Passes runtime engine before world written between

/-- The process has not ended yet. -/
def IsRunning : Ending → Prop
  | .exited _ => False
  | .complete | .failed _ => True

/-- What the end of the engine adds to a rehearsal: what tables print that are told of it. They can end the process. -/
inductive Concludes (runtime : Runtime) (engine : Engine) : Ending → World → ByteArray → Ending → World → Prop where
  | ended {status world} : Concludes runtime engine (.exited status) world .empty (.exited status) world
  | told {ending world printed after} (running : IsRunning ending)
    (ends : Ends runtime engine Act.finish world (.ok ()) printed after) :
    Concludes runtime engine ending world printed ending after
  | exited {ending world status printed after} (running : IsRunning ending)
    (exits : Exits runtime engine Act.finish world status printed after) :
    Concludes runtime engine ending world printed (.exited status) after

/-- All that is done with an engine: scripts are run in order, and then the engine ends. -/
def runWhole (runtime : Runtime) (engine : Engine) (scripts : List (Act (List Value))) : Part Ending :=
  runScripts runtime engine scripts >>= conclude runtime engine

/-- A rehearsal goes on for ever if a script does whose turn it is, or a table that is told of the end. -/
inductive GoesOn (runtime : Runtime) (engine : Engine) (all : List (Act (List Value))) (world : World) : Prop where
  | script {script written between} (reached : Reaches runtime engine all world script written between)
    (endless : IsEndless runtime engine script between)
  | failed {script written between error printed after} (reached : Reaches runtime engine all world script written between)
    (ends : Ends runtime engine script between (.error error) printed after)
    (endless : IsEndless runtime engine Act.finish after)
  | complete {written after} (passed : Passes runtime engine all world written after)
    (endless : IsEndless runtime engine Act.finish after)

/-! ### Turns -/

variable {α : Type} {runtime : Runtime} {engine : Engine} {act : Act α} {world between after : World} {result : Except Error α}
  {written printed : ByteArray} {ending : Ending} {interpreter : Interpreter}

theorem Ends.turn (ends : Ends runtime engine act world result printed after) (already : ByteArray) :
    turn runtime engine act ⟨already, world⟩ = some (result.mapError .failed, ⟨already ++ printed, after⟩) := by
  obtain ⟨left, ran, taken⟩ := ends
  simp only [Rehearsal.turn, ran, taken]

theorem Stops.turn (stops : Stops runtime engine act world ending printed after) (already : ByteArray) :
    turn runtime engine act ⟨already, world⟩ = some (.error ending, ⟨already ++ printed, after⟩) := by
  cases stops with
  | failed ends => exact ends.turn already
  | exited exits =>
    obtain ⟨scene, ran, rfl, rfl⟩ := exits
    simp only [Rehearsal.turn, ran]

theorem IsEndless.turn (endless : IsEndless runtime engine act world) (already : ByteArray) :
    turn runtime engine act ⟨already, world⟩ = none := by
  rw [IsEndless] at endless
  simp only [Rehearsal.turn, endless]

/-- A turn comes to its end, stops the rehearsal, or goes on for ever. -/
theorem ends_or_stops (runtime : Runtime) (engine : Engine) (act : Act α) (world : World) :
    (∃ value printed after, Ends runtime engine act world (.ok value) printed after) ∨
    (∃ ending printed after, Stops runtime engine act world ending printed after) ∨ IsEndless runtime engine act world := by
  cases ran : world.drive engine.context act runtime with
  | ok ended =>
    obtain ⟨error | value, left⟩ := ended
    · exact .inr (.inl ⟨_, _, _, .failed ⟨left, ran, rfl⟩⟩)
    · exact .inl ⟨value, _, _, left, ran, rfl⟩
  | error halt =>
    cases halt with
    | endless => exact .inr (.inr ran)
    | exit status scene => exact .inr (.inl ⟨_, _, _, .exited ⟨scene, ran, rfl, rfl⟩⟩)

/-- A turn in an open context is a run there. All that was printed is written after it. -/
theorem Ends.runs (known : world.interpreter? engine.context = some interpreter)
    (ends : Ends runtime engine act world result printed after) : ∃ scene,
      act.exec runtime.perform .host (world.scene engine.context interpreter) = some (result, scene) ∧
        printed = scene.interpreter.heap.printed ∧ after.IsQuiet engine.context := by
  obtain ⟨left, drove, taken⟩ := ends
  have ran : world.run engine.context act runtime = some (result, left) := by
    rw [World.run, drove]
    rfl
  obtain ⟨closed, -⟩ | ⟨_, scene, alive, performed, rfl⟩ := World.run_cases ran
  · cases closed.symm.trans known
  · cases alive.symm.trans known
    have still : (world.leave engine.context scene).interpreter? engine.context = some scene.interpreter :=
      (World.interpreter?_leave scene _ known).trans (if_pos rfl)
    obtain ⟨noted, quiet⟩ := World.takePrinted_open still
    rw [taken] at noted quiet
    exact ⟨scene, performed, noted, quiet⟩

/-! ### Scripts in order -/

section Scripts

variable {script : Act (List Value)} {all first rest : List (Act (List Value))} {values : List Value}

theorem lineOf_nil : (lineOf []).toUTF8 = .empty := rfl

theorem lineOf_some (given : values ≠ []) : lineOf values = "\t".intercalate (values.map valueText) ++ "\n" := by
  rw [lineOf, if_neg (by simpa using given)]

theorem Passes.cons (ends : Ends runtime engine script world (.ok values) printed between)
    (later : Passes runtime engine rest between written after) :
    Passes runtime engine (script :: rest) world (printed ++ (lineOf values).toUTF8 ++ written) after := by
  by_cases given : values = []
  · subst given
    rw [lineOf_nil, ByteArray.append_empty]
    exact .silent ends later
  · rw [lineOf_some given]
    exact .line given ends later

/-- The context stays open, and scripts that pass leave nothing unwritten of what they print. -/
theorem Passes.isQuiet (passed : Passes runtime engine all world written after)
    (alive : ∃ interpreter, world.interpreter? engine.context = some interpreter) :
    (∃ interpreter, after.interpreter? engine.context = some interpreter) ∧ (all ≠ [] → after.IsQuiet engine.context) := by
  induction passed with
  | nil => exact ⟨alive, absurd rfl⟩
  | silent ends later ih | line _ ends later ih =>
    obtain ⟨_, known⟩ := alive
    obtain ⟨_, -, -, quiet⟩ := ends.runs known
    obtain ⟨still, others⟩ := ih ⟨_, quiet.choose_spec.1⟩
    refine ⟨still, fun _ => ?_⟩
    cases later with
    | nil => exact quiet
    | silent _ _ | line _ _ _ => exact others (List.cons_ne_nil _ _)

theorem Reaches.head : Reaches runtime engine (script :: rest) world script .empty world := ⟨[], rest, rfl, .nil⟩

theorem Reaches.cons {next : Act (List Value)} (ends : Ends runtime engine script world (.ok values) printed between)
    (reached : Reaches runtime engine rest between next written after) :
    Reaches runtime engine (script :: rest) world next (printed ++ (lineOf values).toUTF8 ++ written) after := by
  obtain ⟨before, later, rfl, passed⟩ := reached
  exact ⟨script :: before, later, rfl, passed.cons ends⟩

theorem scripts_append (engine : Engine) (file : ScriptFile) (chunks more : List String) :
    scripts engine file (chunks ++ more) = scripts engine file chunks ++ more.map Engine.source := by
  rw [scripts, scripts, List.map_append, List.cons_append]

theorem Reaches.append (reached : Reaches runtime engine first world script written between)
    (more : List (Act (List Value))) : Reaches runtime engine (first ++ more) world script written between := by
  obtain ⟨before, later, rfl, passed⟩ := reached
  exact ⟨before, later ++ more, by rw [List.append_assoc, List.cons_append], passed⟩

/-- Scripts all pass, or there is a first one that stops the rehearsal or goes on for ever. -/
theorem passes_or_reaches (runtime : Runtime) (engine : Engine) (all : List (Act (List Value))) (world : World) :
    (∃ written after, Passes runtime engine all world written after) ∨
    ∃ script written between, Reaches runtime engine all world script written between ∧
      ((∃ ending printed after, Stops runtime engine script between ending printed after) ∨
        IsEndless runtime engine script between) := by
  induction all generalizing world with
  | nil => exact .inl ⟨_, _, .nil⟩
  | cons script rest ih =>
    -- A script that passes leaves it to those after it, in the world that it has left.
    obtain ⟨values, printed, left, ends⟩ | stopped := ends_or_stops runtime engine script world
    · obtain ⟨written, after, passed⟩ | ⟨next, written, between, reached, stopped⟩ := ih left
      · exact .inl ⟨_, _, passed.cons ends⟩
      · exact .inr ⟨_, _, _, reached.cons ends, stopped⟩
    · exact .inr ⟨_, _, _, .head, stopped⟩

theorem runScripts_nil (already : ByteArray) (world : World) :
    runScripts runtime engine [] ⟨already, world⟩ = some (.complete, ⟨already ++ summaryOf world, world⟩) := rfl

theorem runScripts_cons (stage : Stage) :
    runScripts runtime engine (script :: rest) stage =
      (turn runtime engine script stage).bind fun
        | (.error ending, left) => some (ending, left)
        | (.ok values, left) => runScripts runtime engine rest ⟨left.written ++ (lineOf values).toUTF8, left.world⟩ := by
  change (turn runtime engine script stage).bind _ = _
  congr 1
  funext ⟨result, left⟩
  cases result <;> rfl

theorem Ends.runScripts (ends : Ends runtime engine script world (.ok values) printed after) (already : ByteArray)
    (rest : List (Act (List Value))) : runScripts runtime engine (script :: rest) ⟨already, world⟩ =
      runScripts runtime engine rest ⟨already ++ printed ++ (lineOf values).toUTF8, after⟩ := by
  rw [runScripts_cons, ends.turn]
  rfl

/-- What comes after scripts that pass goes on from where they have ended. -/
theorem Passes.runScripts (passed : Passes runtime engine first world written between) (already : ByteArray)
    (rest : List (Act (List Value))) : runScripts runtime engine (first ++ rest) ⟨already, world⟩ =
      runScripts runtime engine rest ⟨already ++ written, between⟩ := by
  induction passed generalizing already with
  | nil => rw [ByteArray.append_empty, List.nil_append]
  | silent ends later ih =>
    rw [List.cons_append, ends.runScripts, ih, lineOf_nil, ByteArray.append_empty, ByteArray.append_assoc]
  | line given ends later ih =>
    rw [List.cons_append, ends.runScripts, ih, lineOf_some given]
    simp only [ByteArray.append_assoc]

theorem Passes.runScripts_complete (passed : Passes runtime engine all world written after) :
    Rehearsal.runScripts runtime engine all ⟨.empty, world⟩ = some (.complete, ⟨written ++ summaryOf after, after⟩) := by
  have ended := passed.runScripts .empty []
  rwa [List.append_nil, runScripts_nil, ByteArray.empty_append] at ended

theorem Reaches.runScripts_stopped (reached : Reaches runtime engine all world script written between)
    (stops : Stops runtime engine script between ending printed after) :
    runScripts runtime engine all ⟨.empty, world⟩ = some (ending, ⟨written ++ printed, after⟩) := by
  obtain ⟨before, later, rfl, passed⟩ := reached
  rw [passed.runScripts, runScripts_cons, stops.turn, ByteArray.empty_append]
  rfl

theorem Reaches.runScripts_endless (reached : Reaches runtime engine all world script written between)
    (endless : IsEndless runtime engine script between) : runScripts runtime engine all ⟨.empty, world⟩ = none := by
  obtain ⟨before, later, rfl, passed⟩ := reached
  rw [passed.runScripts, runScripts_cons, endless.turn]
  rfl

end Scripts

/-! ### The end of the engine -/

section Ending

variable {final : Ending} {last : World} {spoken : ByteArray}

theorem conclude_running (running : IsRunning ending) (stage : Stage) :
    conclude runtime engine ending stage = (turn runtime engine Act.finish stage).bind fun
      | (.error instead, left) => some (instead, left)
      | (.ok (), left) => some (ending, left) := by
  cases ending with
  | exited _ => exact running.elim
  | complete | failed _ =>
    change (turn runtime engine Act.finish stage).bind _ = _
    congr 1
    funext ⟨result, left⟩
    cases result <;> rfl

theorem Concludes.conclude (concludes : Concludes runtime engine ending world spoken final last) (already : ByteArray) :
    conclude runtime engine ending ⟨already, world⟩ = some (final, ⟨already ++ spoken, last⟩) := by
  cases concludes with
  | ended =>
    rw [ByteArray.append_empty]
    rfl
  | told running ends =>
    rw [conclude_running running, ends.turn]
    rfl
  | exited running exits =>
    rw [conclude_running running, Stops.turn (.exited exits)]
    rfl

theorem conclude_endless (running : IsRunning ending) (endless : IsEndless runtime engine Act.finish world)
    (already : ByteArray) : conclude runtime engine ending ⟨already, world⟩ = none := by
  rw [conclude_running running, endless.turn]
  rfl

/-- A rehearsal is concluded in a context that is open, unless a table goes on for ever that is told of the end. -/
theorem concludes_or_endless (runtime : Runtime) (ending : Ending)
    (alive : IsRunning ending → world.IsQuiet engine.context) :
    (∃ spoken final last, Concludes runtime engine ending world spoken final last) ∨
      IsRunning ending ∧ IsEndless runtime engine Act.finish world := by
  have told (running : IsRunning ending) : (∃ spoken final last, Concludes runtime engine ending world spoken final last) ∨
      IsRunning ending ∧ IsEndless runtime engine Act.finish world := by
    obtain ⟨_, printed, after, ends⟩ | ⟨_, printed, after, stops⟩ | endless :=
      ends_or_stops runtime engine Act.finish world
    · exact .inl ⟨_, _, _, .told running ends⟩
    · cases stops with
      | failed ends =>
        obtain ⟨interpreter, known, -⟩ := alive running
        obtain ⟨_, finished, -⟩ := ends.runs known
        cases Act.finish_ok finished
      | exited exits => exact .inl ⟨_, _, _, .exited running exits⟩
    · exact .inr ⟨running, endless⟩
  cases ending with
  | exited status => exact .inl ⟨_, _, _, .ended⟩
  | complete | failed _ => exact told trivial

/-- Where no table waits for the end, nothing comes of it. -/
theorem Concludes.of_idle (concludes : Concludes runtime engine ending world spoken final last)
    (quiet : IsRunning ending → world.IsQuiet engine.context) (idle : world.IsIdle engine.context) :
    spoken = .empty ∧ final = ending := by
  have finished {interpreter : Interpreter} (known : world.interpreter? engine.context = some interpreter) :
      Act.finish.exec runtime.perform .host (world.scene engine.context interpreter) =
        some (.ok (), world.scene engine.context interpreter) := Act.exec_finish_of_idle (idle interpreter known)
  cases concludes with
  | ended => exact ⟨rfl, rfl⟩
  | told running ends =>
    obtain ⟨interpreter, known, silent⟩ := quiet running
    obtain ⟨_, ran, rfl, -⟩ := ends.runs known
    cases (finished known).symm.trans ran
    exact ⟨silent, rfl⟩
  | exited running exits =>
    obtain ⟨interpreter, known, -⟩ := quiet running
    obtain ⟨_, drove, -⟩ := exits
    have none : world.run engine.context Act.finish runtime = none := by
      rw [World.run, drove]
      rfl
    rw [World.run_open known, finished known] at none
    cases none

end Ending

/-! ### Reports -/

/-- A rehearsal makes an engine with the blank host, and reports what is done with it. -/
theorem report?_eq (initPath : String) (file : ScriptFile) (budget : Nat) :
    ∃ (engine : Engine) (start : World), (Engine.create initPath).exec budget (.initial .blank) = some (.ok engine, start) ∧
      start.manager = .initial .blank ∧ (∃ interpreter, start.interpreter? engine.context = some interpreter) ∧
      ∀ chunks, report? initPath file chunks budget =
        (runWhole budget engine (scripts engine file chunks) ⟨.empty, start⟩).map
          fun (ending, stage) => ⟨stage.written, ending⟩ := by
  obtain ⟨scene, -, furnished, created⟩ := Engine.create_runs budget (.initial .blank) initPath
  have known := World.interpreter?_leave scene ⟨0⟩ (World.initial .blank).interpreter?_opened
  refine ⟨_, _, created, furnished.manager, ⟨_, known.trans (if_pos rfl)⟩, fun chunks => ?_⟩
  have made : (Engine.create initPath budget).run (World.initial .blank) = _ := created
  rw [report?, made, Option.map_eq_bind]
  rfl

variable {script : Act (List Value)} {all : List (Act (List Value))} {final : Ending} {last : World} {spoken : ByteArray}

theorem Reaches.runWhole (reached : Reaches runtime engine all world script written between)
    (stops : Stops runtime engine script between ending printed after)
    (concludes : Concludes runtime engine ending after spoken final last) :
    runWhole runtime engine all ⟨.empty, world⟩ = some (final, ⟨written ++ printed ++ spoken, last⟩) := by
  change (Rehearsal.runScripts runtime engine all ⟨.empty, world⟩).bind _ = _
  rw [reached.runScripts_stopped stops]
  exact concludes.conclude _

theorem Passes.runWhole (passed : Passes runtime engine all world written after)
    (concludes : Concludes runtime engine .complete after spoken final last) :
    runWhole runtime engine all ⟨.empty, world⟩ = some (final, ⟨written ++ summaryOf after ++ spoken, last⟩) := by
  change (Rehearsal.runScripts runtime engine all ⟨.empty, world⟩).bind _ = _
  rw [passed.runScripts_complete]
  exact concludes.conclude _

theorem GoesOn.runWhole (goes : GoesOn runtime engine all world) : runWhole runtime engine all ⟨.empty, world⟩ = none := by
  change (Rehearsal.runScripts runtime engine all ⟨.empty, world⟩).bind _ = _
  cases goes with
  | script reached endless =>
    rw [reached.runScripts_endless endless]
    rfl
  | failed reached ends endless =>
    rw [reached.runScripts_stopped (.failed ends)]
    exact conclude_endless (show IsRunning (.failed _) from trivial) endless _
  | complete passed endless =>
    rw [passed.runScripts_complete]
    exact conclude_endless (show IsRunning .complete from trivial) endless _

/-- One of the scripts stops the rehearsal or all of them pass, and it is concluded; or it goes on for ever. -/
theorem stops_or_passes (runtime : Runtime) (given : all ≠ [])
    (alive : ∃ interpreter, world.interpreter? engine.context = some interpreter) :
    (∃ script written between ending printed after spoken final last,
      Reaches runtime engine all world script written between ∧ Stops runtime engine script between ending printed after ∧
      Concludes runtime engine ending after spoken final last ∧ (IsRunning ending → after.IsQuiet engine.context)) ∨
    (∃ written after spoken final last, Passes runtime engine all world written after ∧
      Concludes runtime engine .complete after spoken final last ∧ after.IsQuiet engine.context) ∨
    GoesOn runtime engine all world := by
  obtain ⟨written, after, passed⟩ | ⟨script, written, between, reached, ⟨ending, printed, after, stops⟩ | endless⟩ :=
    passes_or_reaches runtime engine all world
  · have quiet := (passed.isQuiet alive).2 given
    obtain ⟨spoken, final, last, concludes⟩ | ⟨-, endless⟩ := concludes_or_endless runtime .complete fun _ => quiet
    · exact .inr (.inl ⟨_, _, _, _, _, passed, concludes, quiet⟩)
    · exact .inr (.inr (.complete passed endless))
  · have quiet : IsRunning ending → after.IsQuiet engine.context := by
      intro running
      cases stops with
      | failed ends =>
        obtain ⟨before, later, -, passed⟩ := reached
        obtain ⟨_, known⟩ := (passed.isQuiet alive).1
        obtain ⟨_, -, -, still⟩ := ends.runs known
        exact still
      | exited exits => exact running.elim
    obtain ⟨spoken, final, last, concludes⟩ | ⟨running, endless⟩ := concludes_or_endless runtime ending quiet
    · exact .inl ⟨_, _, _, _, _, _, _, _, _, reached, stops, concludes, quiet⟩
    · cases stops with
      | failed ends => exact .inr (.inr (.failed reached ends endless))
      | exited exits => exact running.elim
  · exact .inr (.inr (.script reached endless))

/-- The init script and the chunks are run in order, in one engine and each in the world that those before it have left,
until one of them fails or ends the process. Then nothing more is written but what it has printed itself, and more
chunks would change nothing. If none does then the summary of what they have configured is written at the end. Tables
that are told of the end of the engine can still print and end the process; where none waits for it, nothing is added.
A failure is logged and the code is 1; the code is 0 if there was none, and the status that the process has been ended
with. There is no report only if a script or the end goes on for ever. -/
theorem stops_at_first_failure (initPath : String) (file : ScriptFile) (chunks : List String) (budget : Nat) :
    (∀ report : Report, match report.ending with
      | .complete => report.exitCode = 0 ∧ report.logged = none
      | .failed error => report.exitCode = 1 ∧ report.logged = some error.text
      | .exited status => report.exitCode = status.toUInt32 ∧ report.logged = none) ∧
    ∃ engine start, (Engine.create initPath).exec budget (.initial .blank) = some (.ok engine, start) ∧
      start.manager = .initial .blank ∧
      (∀ report, report? initPath file chunks budget = some report ↔
        (∃ script written between ending printed after spoken last,
          Reaches budget engine (scripts engine file chunks) start script written between ∧
          Stops budget engine script between ending printed after ∧
          Concludes budget engine ending after spoken report.ending last ∧
          (after.IsIdle engine.context → spoken = .empty ∧ report.ending = ending) ∧
          report.written = written ++ printed ++ spoken ∧
          ∀ more, report? initPath file (chunks ++ more) budget = some report ∧
            runWhole budget engine (scripts engine file (chunks ++ more)) ⟨.empty, start⟩ =
              some (report.ending, ⟨report.written, last⟩)) ∨
        ∃ written after spoken last, Passes budget engine (scripts engine file chunks) start written after ∧
          Concludes budget engine .complete after spoken report.ending last ∧
          (after.IsIdle engine.context → spoken = .empty ∧ report.ending = .complete) ∧
          report.written = written ++ summaryOf after ++ spoken ∧
          runWhole budget engine (scripts engine file chunks) ⟨.empty, start⟩ =
            some (report.ending, ⟨report.written, last⟩)) ∧
      (report? initPath file chunks budget = none ↔ GoesOn budget engine (scripts engine file chunks) start) := by
  refine ⟨fun report => ?_, ?_⟩
  · obtain ⟨written, ending⟩ := report
    cases ending <;> exact ⟨rfl, rfl⟩
  obtain ⟨engine, start, created, manager, alive, runs⟩ := report?_eq initPath file budget
  have given : scripts engine file chunks ≠ [] := List.cons_ne_nil _ _
  have outcome := stops_or_passes (.plain budget) given alive
  refine ⟨engine, start, created, manager, fun report => ⟨fun answered => ?_, ?_⟩, ⟨fun unanswered => ?_, fun goes => ?_⟩⟩
  · obtain ⟨script, written, between, ending, printed, after, spoken, final, last, reached, stops, concludes, quiet⟩ |
      ⟨written, after, spoken, final, last, passed, concludes, quiet⟩ | goes := outcome
    · have ran more := (scripts_append engine file chunks more ▸ reached.append _).runWhole stops concludes
      have given : report = ⟨written ++ printed ++ spoken, final⟩ := by
        rw [runs, reached.runWhole stops concludes] at answered
        exact (Option.some.inj answered).symm
      subst given
      refine .inl ⟨script, written, between, ending, printed, after, spoken, last, reached, stops, concludes,
        concludes.of_idle quiet, rfl, fun more => ⟨?_, ran more⟩⟩
      rw [runs, ran more]
      rfl
    · have ran := passed.runWhole concludes
      rw [runs, ran] at answered
      cases answered
      exact .inr ⟨written, after, spoken, last, passed, concludes, concludes.of_idle fun _ => quiet, rfl, ran⟩
    · rw [runs, goes.runWhole] at answered
      cases answered
  · rintro (⟨script, written, between, ending, printed, after, spoken, last, -, -, -, -, -, unchanged⟩ |
      ⟨written, after, spoken, last, -, -, -, -, ran⟩)
    · have same := (unchanged []).1
      rwa [List.append_nil] at same
    · rw [runs, ran]
      rfl
  · obtain ⟨script, written, between, ending, printed, after, spoken, final, last, reached, stops, concludes, -⟩ |
      ⟨written, after, spoken, final, last, passed, concludes, -⟩ | goes := outcome
    · rw [runs, reached.runWhole stops concludes] at unanswered
      cases unanswered
    · rw [runs, passed.runWhole concludes] at unanswered
      cases unanswered
    · exact goes
  · rw [runs, goes.runWhole]
    rfl

/-- A chunk that ends the process leaves neither a failure nor a summary behind, and its own status. -/
theorem exit_is_no_failure : ∃ report, report? "init.lua" .missing ["os.exit(7)"] 50 = some report ∧
    report.exitCode = 7 ∧ report.logged = none ∧ report.written = .empty := by
  have ends : (report? "init.lua" .missing ["os.exit(7)"] 50).map
      (fun report => (report.exitCode, report.logged, report.written)) = some (7, none, .empty) := by decide +kernel
  obtain ⟨report, reported, same⟩ := Option.map_eq_some_iff.mp ends
  simp only [Prod.mk.injEq] at same
  exact ⟨report, reported, same⟩

end Rehearsal
end TileScript
