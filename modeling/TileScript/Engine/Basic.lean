import TileScript.Engine.Command
import TileScript.Engine.Install

/-!
The engine: one context with everything that scripts are offered, the init script, and the events
that run what scripts have registered.
-/

namespace TileScript

open Bridge

/-- What stands at the path of a script. -/
inductive ScriptFile where
  | missing
  | directory
  /-- A file that cannot be read, for a reason that the system gives. -/
  | unreadable (reason : String)
  | bytes (content : ByteArray)
  deriving Inhabited

namespace ScriptFile

def read : ScriptFile → Except Error String
  | .missing => .error (.io "No such file or directory (os error 2)")
  | .directory => .error (.io "Is a directory (os error 21)")
  | .unreadable reason => .error (.io reason)
  | .bytes content =>
    match String.fromUTF8? content with
    | some text => .ok text
    | none => .error (.io "stream did not contain valid UTF-8")

/-- The longest name of a chunk, in bytes. -/
def maxName : Nat := 59

/-- How messages call a file: its path, or the end of one that is too long. -/
def chunkName (path : String) : String :=
  let bytes := path.toUTF8
  if bytes.size ≤ maxName then path
  else "..." ++ Utf8.decode (bytes.extract (bytes.size + 3 - maxName) bytes.size)

def load (path : String) (file : ScriptFile) : Act Handle := do
  Function.ofChunk (chunkName path) (← Attempt.settle file.read)

end ScriptFile

/-- The context in use, and where the init script is looked for. -/
structure Engine where
  context : ContextId
  initPath : String
  deriving Repr, Inhabited

namespace Engine

/-- An engine with a new context. The init script is not run. -/
def create (initPath : String) : Live Engine := do
  let context ← Live.openContext
  Live.within context install
  return ⟨context, initPath⟩

/-- What a text returns when it is run. -/
def source (text : String) : Act (List Value) := do
  let chunk ← Function.ofChunk Function.sourceName text
  Attempt.settle ((← Function.call chunk []).values.mapError Error.runtime)

/-- What the init script does. There may be none. -/
def initScript (initPath : String) : ScriptFile → Act Unit
  | .missing => return
  | file => do
    let chunk ← file.load initPath
    let _ ← Attempt.settle ((← Function.call chunk []).values.mapError Error.runtime)

/-- Runs a text, and gives back what it returned. -/
def runSource (engine : Engine) (text : String) : Live (List Value) :=
  Live.within engine.context (source text)

/-- Runs the init script, if there is one. -/
def runInitFile (engine : Engine) (file : ScriptFile) : Live Unit :=
  match file with
  | .missing => return
  | file => Live.within engine.context (initScript engine.initPath file)

/-- Starts over: the configuration before any script, a new context in the place of the old one, and
the init script run again. The old context ends when the configuration has been reset, so that what
its tables do then is done to the new one. The second answer says how the init script went. -/
def reload (engine : Engine) (file : ScriptFile) : Live (Engine × Except Error Unit) := do
  Live.configure fun _ => .initial
  Live.closeContext engine.context
  let renewed ← create engine.initPath
  modify fun world => { world with manager := world.manager.activate Config.mainMode }
  return (renewed, ← Live.observe (renewed.runInitFile file))

/-! ### Events -/

def focusChanged (env : CommandEnv) : Live Unit := do
  Command.runAll env (← Live.config).onFocusChanged

def monitorChanged (env : CommandEnv) : Live Unit := do
  Command.runAll env (← Live.config).onMonitorChanged

/-- Runs the commands for a new window; `startup` says whether it was there before. -/
def windowDetected (window : DetectedWindow) (startup : Bool) : Live Unit := do
  Command.runAll ⟨some window.id, window.workspace, none⟩
    ((← Live.config).windowCommands window startup)

def gap (position : GapPosition) (asked : Monitor) (monitors : List Monitor) : Live Int := do
  ((← Live.config).gaps.get position).evaluate asked monitors

end Engine
end TileScript
