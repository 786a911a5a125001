import TileScript.CommandLine
import TileScript.Engine.Basic

/-!
A rehearsal runs an init script and further chunks for a blank host, writes what the chunks return,
and at the end what was configured. It stops at the first failure, and where a script ends the
process.
-/

namespace TileScript

open Bridge

/-- How a rehearsal ends. -/
inductive Ending where
  | complete
  | failed (error : Error)
  /-- A script has ended the process. -/
  | exited (status : UInt8)
  deriving Inhabited

/-- What a rehearsal wrote, and how it ended. -/
structure Report where
  written : ByteArray
  ending : Ending
  deriving Inhabited

namespace Report

/-- The code that a rehearsal ends with. -/
def exitCode (report : Report) : UInt32 :=
  match report.ending with
  | .complete => 0
  | .failed _ => 1
  | .exited status => status.toUInt32

/-- What is logged as an error. -/
def logged (report : Report) : Option String :=
  match report.ending with
  | .failed error => some error.text
  | .complete | .exited _ => none

end Report

namespace Rehearsal

/-- Numbers from this size on are written like those with a fraction. -/
def wholeLimit : Nat := 1000000000000000

/-- How a returned value is written. -/
def valueText : Value → String
  | .nil => "nil"
  | .boolean value => toString value
  | .number value =>
    if value.isWhole && value.wholePart.natAbs < wholeLimit then toString value.wholePart
    else value.shortestText
  | .string value => value
  | .table _ => "<table>"
  | .function _ => "<function>"

/-- The line for the values of a chunk; without values there is none. -/
def lineOf (values : List Value) : String :=
  if values.isEmpty then "" else "\t".intercalate (values.map valueText) ++ "\n"

/-- A rehearsal under way: what is written, and the world it has led to. -/
structure Stage where
  written : ByteArray
  world : World
  deriving Inhabited

/-- A part of a rehearsal; it has no result if a script does not end within the budget. -/
abbrev Part (α : Type) : Type := StateT Stage Option α

variable {α : Type} (runtime : Runtime) (engine : Engine)

def write (text : String) : Part Unit :=
  modify fun stage => { stage with written := stage.written ++ text.toUTF8 }

/-- Does something in the context of the engine, and writes what scripts print meanwhile. The
rehearsal may come to an end here. If a script ends the process then no context is left. -/
def turn (act : Act α) : Part (Except Ending α)
  | ⟨written, world⟩ =>
    match world.drive engine.context act runtime with
    | .ok (result, world) =>
      let (printed, world) := world.takePrinted engine.context
      some (result.mapError .failed, ⟨written ++ printed, world⟩)
    | .error (.exit status ⟨_, interpreter, manager, trace⟩) =>
      some (.error (.exited status), ⟨written ++ interpreter.heap.printed, ⟨#[], manager, trace⟩⟩)
    | .error .endless => none

/-- Runs scripts in order and writes a line for each, then the summary. -/
def runScripts : List (Act (List Value)) → Part Ending
  | [] => do
    let lines := (← get).world.manager.config.summary.map (· ++ "\n")
    write ("".intercalate lines)
    return .complete
  | script :: rest => do
    match ← turn runtime engine script with
    | .error ending => return ending
    | .ok values =>
      write (lineOf values)
      runScripts rest

/-- Ends the engine, unless the whole process has ended. Tables that are told of it can still print,
and can end the process. -/
def conclude : Ending → Part Ending
  | .exited status => return .exited status
  | ending => do
    match ← turn runtime engine Act.finish with
    | .error instead => return instead
    | .ok () => return ending

/-- What a rehearsal runs: the init script, whose values are of no account, and the chunks. -/
def scripts (file : ScriptFile) (chunks : List String) : List (Act (List Value)) :=
  (do Engine.initScript engine.initPath file; return []) :: chunks.map Engine.source

/-- What comes of an engine that was made, or of the failure to make one. -/
def rehearse (file : ScriptFile) (chunks : List String) :
    Except Error Engine × World → Option Report
  | (.error error, _) => some ⟨.empty, .failed error⟩
  | (.ok engine, world) => do
    let scripts := scripts engine file chunks
    let (ending, stage) ← (runScripts runtime engine scripts >>= conclude runtime engine) ⟨.empty, world⟩
    return ⟨stage.written, ending⟩

/-- A rehearsal from nothing; it has no report if a script does not end within the budget. -/
def report? (initPath : String) (file : ScriptFile) (chunks : List String) (budget : Nat) :
    Option Report :=
  ((Engine.create initPath budget).run (.initial .blank)).bind (rehearse budget file chunks)

end Rehearsal
end TileScript
