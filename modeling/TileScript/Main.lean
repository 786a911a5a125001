import TileScript.Rehearsal

/-!
The command line: reads the arguments and the init script, and prints the report of the rehearsal.
-/

namespace TileScript.Main

/-- How many steps deep a run of scripts may go. -/
def budget : Nat := 0x4000000000000000

/-- The code of the system for reading a directory as a file. -/
def isDirectory : UInt32 := 21

/-- What stands at a path. A path through something that is no directory leads nowhere, and so does
one on which a directory cannot be entered. -/
def readScript (path : String) : IO ScriptFile := do
  try return .bytes (← IO.FS.readBinFile path)
  catch
    | .noFileOrDirectory _ _ _ => return .missing
    | .inappropriateType _ code _ => return if code == isDirectory then .directory else .missing
    | .permissionDenied _ code details =>
      try
        let _ ← IO.FS.realPath path
        return .unreadable (details ++ " (os error " ++ toString code ++ ")")
      catch _ => return .missing
    | error => throw error

/-- Rehearses what the options ask for; the answer is the exit code. -/
def runOptions (options : Options) : IO UInt32 := do
  let configHome ← IO.getEnv "XDG_CONFIG_HOME"
  let home := (← IO.getEnv "HOME").getD ""
  let path := options.init.getD (InitScript.defaultPath configHome home)
  match Rehearsal.report? path (← readScript path) options.eval budget with
  | none =>
    IO.eprintln "ERROR the scripts do not end"
    return 1
  | some report =>
    let output ← IO.getStdout
    output.write report.written
    output.flush
    if let some reason := report.logged then
      IO.eprintln ("ERROR " ++ reason)
    return report.exitCode

end TileScript.Main

def main (arguments : List String) : IO UInt32 := do
  match TileScript.Options.ofArguments arguments with
  | .ok options => TileScript.Main.runOptions options
  | .error refusal =>
    IO.print refusal.answer
    return refusal.exitCode.toUInt32
