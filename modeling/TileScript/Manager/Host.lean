import TileScript.Manager.Mode

/-!
The window manager as scripts meet it: it reads and runs commands and answers questions about
windows and workspaces. This one gives prepared answers and keeps a record of what it was asked to
do.
-/

namespace TileScript

/-- Where a command runs. -/
structure CommandEnv where
  windowId : Option Nat
  workspace : Option String
  directory : Option String
  deriving DecidableEq, Repr, Inhabited

/-- No window, no workspace, no directory. -/
def CommandEnv.empty : CommandEnv := ⟨none, none, none⟩

structure CommandOutput where
  stdout : List String
  stderr : List String
  exitCode : Int
  deriving DecidableEq, Repr, Inhabited

/-- Success without a word. -/
def CommandOutput.silent : CommandOutput := ⟨[], [], 0⟩

structure WindowInfo where
  title : String
  appName : Option String
  deriving DecidableEq, Repr, Inhabited

inductive WorkspaceName where
  | focused
  | named (name : String)
  deriving DecidableEq, Repr

/-- One name is reserved for the workspace that has the focus. -/
def WorkspaceName.ofString (name : String) : WorkspaceName :=
  if name = "focused" then .focused else .named name

/-- A command that was run, and where. -/
structure Execution where
  command : HostCommand
  env : CommandEnv
  deriving DecidableEq, Repr, Inhabited

/-- The prepared answers and the record, which grows at its end. -/
structure Host where
  windows : List (Nat × WindowInfo)
  workspaces : List (String × Nat)
  focusedWorkspace : String
  rejected : List String
  outputs : List (String × CommandOutput)
  executed : List Execution
  applied : List Mode
  deriving DecidableEq, Repr, Inhabited

namespace Host

/-- A host without windows and workspaces that knows every command. -/
def blank : Host := ⟨[], [], "", [], [], [], []⟩

def withWindow (host : Host) (id : Nat) (info : WindowInfo) : Host :=
  { host with windows := (id, info) :: host.windows }

def withWorkspace (host : Host) (name : String) (count : Nat) : Host :=
  { host with workspaces := (name, count) :: host.workspaces }

def withOutput (host : Host) (name : String) (output : CommandOutput) : Host :=
  { host with outputs := (name, output) :: host.outputs }

/-- Why words are no command. -/
inductive Refusal where
  | empty
  | unknown (name : String)
  deriving DecidableEq, Repr

def Refusal.message : Refusal → String
  | .empty => "Can't parse empty string command"
  | .unknown name => "Unrecognized subcommand '" ++ name ++ "'"

def readCommand (host : Host) (words : List String) : Except Refusal HostCommand :=
  match words with
  | [] => .error .empty
  | name :: _ => if host.rejected.contains name then .error (.unknown name) else .ok ⟨words⟩

/-- Why a value is no command. -/
inductive CommandFault where
  | refused (refusal : Refusal)
  | wrongKind (kind : Kind)
  deriving DecidableEq, Repr

def CommandFault.message : CommandFault → String
  | .refused refusal => refusal.message
  | .wrongKind kind => "expected a command string or function, but got " ++ kind.name

/-- The command that a value means: a text is split into words, a function is kept. -/
def commandOf (host : Host) : Bridge.Value → Except CommandFault Command
  | .string text => (.host <$> host.readCommand (Words.split text)).mapError .refused
  | .function function => .ok (.script function)
  | other => .error (.wrongKind other.kind)

def output (host : Host) (command : HostCommand) : CommandOutput :=
  (host.outputs.lookup command.name).getD .silent

def record (host : Host) (command : HostCommand) (env : CommandEnv) : Host :=
  { host with executed := host.executed ++ [⟨command, env⟩] }

def window? (host : Host) (id : Nat) : Option WindowInfo := host.windows.lookup id

def windowCount (host : Host) (workspace : WorkspaceName) : Nat :=
  let name := match workspace with
    | .focused => host.focusedWorkspace
    | .named name => name
  (host.workspaces.lookup name).getD 0

/-- Makes the bindings of a mode the ones in force. -/
def apply (host : Host) (mode : Mode) : Host := { host with applied := host.applied ++ [mode] }

end Host
end TileScript
