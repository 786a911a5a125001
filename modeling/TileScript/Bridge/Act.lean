import TileScript.Bridge.Scene
import TileScript.Script.Access

/-!
Acts: what the host and its native functions do in a context. An act is a program, so it can reach
nothing but what its requests offer; it may fail, and what it did before it failed stays done. It
works in one context: native functions that use handles of other contexts are not described.
-/

namespace TileScript.Bridge

open Script (Raw Eval Task Outcome Program Site Builtin)

/-- An evaluation as a program that can reach no more than the heap. -/
def ofEval {α : Type} (computation : Eval α) : Program BridgeRequest (Except Raw α) :=
  computation.run.lift fun request => .heap request

/-- A program that runs somewhere and may fail. -/
abbrev Attempt (ε : Type) : Type → Type 1 := ReaderT Site (ExceptT ε (Program BridgeRequest))

/-- What the host does in a context. -/
abbrev Act := Attempt Error

namespace Attempt

variable {α ε δ : Type}

def ask (request : BridgeRequest α) : Attempt ε α := fun _ => ExceptT.lift (.request request .pure)

/-- The outcome of an attempt, which ends here if it failed. -/
def observe (attempt : Attempt δ α) : Attempt ε (Except δ α) := fun site =>
  ExceptT.lift (attempt site).run

def settle (result : Except ε α) : Attempt ε α := fun _ => ExceptT.mk (.pure result)

/-- Gives failures another form. -/
def mapError (change : ε → δ) (attempt : Attempt ε α) : Attempt δ α := fun site =>
  ExceptT.mk (Except.mapError change <$> (attempt site).run)

/-- A place where what is raised is described to the host. -/
def described (site : Site) : Site :=
  { site with handler := some (.function Builtin.describe.ref) }

/-- Evaluates in a call of its own. -/
def evaluate (computation : Site → Eval α) : Attempt ε (Except Raw α) := fun site =>
  ExceptT.lift (ofEval (computation ((described site).nested.enter 0)))

/-- Calls a value from here. -/
def call (callee : Raw) (arguments : List Raw) : Attempt ε Outcome := fun site =>
  ExceptT.lift (.run (.call callee arguments (described site).nested) .pure)

end Attempt

/-- The message of what was raised and described to the host. -/
def raisedMessage : Raw → String
  | .failure message _ => message
  | .string bytes => Utf8.decode bytes
  | _ => ""

namespace Act

open Attempt

variable {α : Type}

/-- Evaluates; what is raised becomes the failure of the host's use of a table. -/
def use (computation : Site → Eval α) : Act α := do
  match ← evaluate computation with
  | .ok value => return value
  | .error raised => throw (.script (raisedMessage raised))

/-- The end of a context: its tables are told of it that wait for it, first those that cannot be
reached any more. Tables are told at no other time. -/
def finish : Act Unit := do
  let lost ← ask .takeLost
  let _ ← evaluate (·.finalize lost)
  let others ← ask (.heap .takeAwaiting)
  let _ ← evaluate (·.finalize others)

/-! ### Values of the host and of scripts -/

def kind (value : Raw) : Act Kind := settle ((kindOf value).mapError Error.unsupported)

def pin (value : Raw) (object : Nat) : Act Handle := do
  let registration ← ask (.register value)
  return ⟨⟨← ask .context, registration⟩, object⟩

/-- The object that a handle denotes. -/
def resolve (handle : Handle) : Act Raw := do
  if handle.context ≠ (← ask .context) then throw .foreign
  match ← ask (.registered handle.pin.registration) with
  | some value => return value
  | none => throw .stale

/-- The value as scripts see it. -/
def toRaw : Value → Act Raw
  | .number value => return ofDouble value
  | .string value => return .ofString value
  | .boolean value => return .boolean value
  | .nil => return .nil
  | .table handle => resolve handle
  | .function handle => resolve handle

/-- The value as the host sees it. Every table and function gets a handle of its own. -/
def ofRaw (value : Raw) : Act Value :=
  match value with
  | .nil => return .nil
  | .boolean value => return .boolean value
  | .integer value => return .number (Integer.toDouble value)
  | .number value => return .number value
  | .string bytes => return .string (Utf8.decode bytes)
  | .table table => return .table (← pin value table.index)
  | .function function => return .function (← pin value function.index)
  | .thread _ => throw (.unsupported .thread)
  | .file => throw (.unsupported .userdata)
  | .failure _ _ => throw (.unsupported .error)

end Act
end TileScript.Bridge
