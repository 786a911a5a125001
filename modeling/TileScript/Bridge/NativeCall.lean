import TileScript.Bridge.ApiCall
import TileScript.Bridge.Check

/-!
Calls of native functions: the arguments are checked, the body runs, and its results go back over
the stack. Every failure on the way is raised with the name of the function in front.
-/

namespace TileScript.Bridge

open Script (Raw Outcome Program Site)
open Attempt

/-- What the host brings along: its dialect of patterns, and code that native functions run by its
number, with captured values and arguments. -/
structure HostCode where
  patterns : Pattern.Dialect
  run : Nat → List Value → Arguments → Act CallResult

/-- No code beyond what native functions have of their own. -/
def HostCode.none : HostCode := ⟨.standard, fun _ _ _ => return .none⟩

namespace NativeBody

def applyFirst (arguments : Arguments) : Act CallResult := do
  match ← arguments.collect with
  | .function function :: rest => Function.call function rest
  | _ => return .failed "apply needs a function"

def run (code : HostCode) (arguments : Arguments) : NativeBody → Act CallResult
  | .reply values => return .ofValues values
  | .refuse message => return .failed message
  | .fail error => throw error
  | .select positions => do return .multiple (← arguments.select positions)
  | .kinds positions => do
    return .multiple ((← arguments.kinds positions).map fun kind => .string kind.name)
  | .count => return .single (.ofInt arguments.length)
  | .collect => do return .multiple (← arguments.collect)
  | .apply => applyFirst arguments
  | .silent => return .none
  | .api function => function.run code.patterns arguments
  | .host number captured => code.run number captured arguments

end NativeBody

namespace Native

/-- Pushes results. If one cannot be pushed, those before it are dropped. -/
def pushResults : (pushed : Nat) → List Value → Attempt String Unit
  | _, [] => return
  | pushed, value :: rest => do
    match ← (observe (Stack.push value) : Attempt String (Except Error Unit)) with
    | .ok _ => pushResults (pushed + 1) rest
    | .error error =>
      let _ ← (observe (Stack.remove pushed) : Attempt String (Except Error Unit))
      throw error.text

/-- Passes what a native function gives back on over the stack. -/
def pass (result : CallResult) : Attempt String (List Raw) :=
  match result.values with
  | .error message => throw message
  | .ok values => do
    pushResults 0 values
    (Stack.takeTop values.length).mapError Error.text

/-- Checks the arguments of a native function, and notes them if it is traced. -/
def receive (native : Native) (arguments : Arguments) : Attempt String Unit := do
  match native.schema with
  | some signature => Check.arguments arguments signature
  | none => pure ()
  if native.isTraced then
    let _ ← arguments.collect.mapError Error.raised
    ask (.note native.name arguments)

/-- Runs a native function with its arguments; a failure is a message. -/
def call (code : HostCode) (native : Native) (arguments : Arguments) :
    Attempt String (List Raw) := do
  native.receive arguments
  pass (← (native.body.run code arguments).mapError Error.raised)

def fail (native : Native) (message : String) (site : Site) : Script.Eval (List Raw) := do
  let number ← Script.Eval.ask .newNumber
  site.raise (.failure (native.name ++ ": " ++ message) number)

def run (code : HostCode) (native : Native) (arguments : Arguments) (site : Site) :
    Program BridgeRequest Outcome := do
  let inside := site.enter arguments.length
  match ← (native.call code arguments inside).run with
  | .ok results => return .ok results
  | .error message => ofEval (native.fail message inside)

end Native
end TileScript.Bridge
