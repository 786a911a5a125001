import TileScript.Bridge.Value

/-!
What can go wrong between host and script, and the wording of each cause.
-/

namespace TileScript.Bridge

/-- What starts the account of the calls that led to a raised error. A message ends before it. -/
def traceHeading : String := "\nstack traceback:"

/-- The characters of a text before the first place where `mark` begins, all if there is none. -/
def before (mark : List Char) : List Char → List Char
  | [] => []
  | c :: rest => if mark.isPrefixOf (c :: rest) then [] else c :: before mark rest

def withoutTrace (message : String) : String :=
  String.ofList (before traceHeading.toList message.toList)

/-- The kinds of script values that no host value stands for. -/
inductive ForeignKind where
  | thread
  | userdata
  | error
  deriving DecidableEq, Repr

def ForeignKind.name : ForeignKind → String
  | .thread => "thread"
  | .userdata => "userdata"
  | .error => "error"

inductive Error where
  /-- A script could not be read. -/
  | load (message : String)
  /-- A call failed. -/
  | runtime (message : String)
  | unsupported (kind : ForeignKind)
  | type (expected actual : Kind)
  | stackIndex (index : Int) (size : Nat)
  | argumentIndex (index : Int) (count : Nat)
  /-- The context of a handle is gone. -/
  | stale
  /-- A handle was used with another context than its own. -/
  | foreign
  /-- A value of the configuration could not be computed. -/
  | config (message : String)
  /-- A script raised this message while the host used one of its tables. -/
  | script (message : String)
  /-- A pin was given to a context that does not own it. -/
  | foreignPin
  /-- A file could not be read. -/
  | io (message : String)
  deriving DecidableEq, Repr, Inhabited

namespace Error

/-- The whole text of an error, for a raised one with the account of calls. -/
def text : Error → String
  | .load message | .runtime message | .config message | .io message => message
  | .unsupported kind => "unsupported Lua value kind: " ++ kind.name
  | .type expected actual => "expected " ++ expected.name ++ ", got " ++ actual.name
  | .stackIndex index size =>
    "stack index " ++ toString index ++ " is out of range (stack size " ++ toString size ++ ")"
  | .argumentIndex index count =>
    "argument " ++ toString index ++ " is out of range, only " ++ toString count ++
      " arguments were provided"
  | .stale => "handle refers to an interpreter that no longer exists"
  | .foreign => "handle belongs to a different Lua context"
  | .script message => "runtime error: " ++ message ++ traceHeading ++ "\n\t[C]: in ?"
  | .foreignPin => "RegistryKey used from different Lua state"

/-- The message a native function raises for an error: of what a script raised, the raised text
alone. -/
def raised : Error → String
  | .script message => withoutTrace message
  | error => error.text

/-- Whether the error means that the configuration or the bridge itself is broken. -/
def isFatal : Error → Bool
  | .unsupported _ | .config _ => true
  | _ => false

end Error
end TileScript.Bridge
