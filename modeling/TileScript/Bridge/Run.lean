import TileScript.Bridge.NativeCall
import TileScript.Script.Library

/-!
Running programs. A task is run step by step with a budget: every instruction and every call uses
some of it up. A run can come to a halt instead of an end: it does not end within its budget, or a
script has ended the whole process. Both are apart from every way in which a run can fail.
-/

namespace TileScript.Bridge

open Script (Raw Eval Outcome Task Step Program Site Machine)

def stepOf (code : HostCode) : Task → Program BridgeRequest Step
  | .execute machine => do
    match ← ofEval machine.step with
    | .ok step => return step
    | .error raised => return .finish ((← ofEval (machine.unwind raised)).bind .error)
  | .call callee arguments site => do
    match ← ofEval (site.prepare callee arguments) with
    | .error raised => return .finish (.error raised)
    | .ok (function, arguments) =>
      match ← Program.request (BridgeRequest.function function) Program.pure with
      | some (.closure closure) =>
        match ← ofEval (Machine.start closure arguments site) with
        | .ok machine => return .again (.execute machine)
        | .error raised => return .finish (.error raised)
      | some (.builtin builtin) => return .finish (← ofEval (builtin.run arguments site))
      | some (.native native) => return .finish (← native.run code arguments site)
      | none => return .finish (.ok [])
  | .exit status => return .exit status

/-- Why a run has no result: it does not end within its budget, or a script has ended the process,
and left this scene behind. -/
inductive Halt where
  | endless
  | exit (status : UInt8) (scene : Scene)
  deriving Inhabited

/-- Runs a program, with a way to run the tasks that it asks for. -/
def follow {α : Type} (drive : Task → Scene → Except Halt (Outcome × Scene)) :
    Program BridgeRequest α → Scene → Except Halt (α × Scene)
  | .pure value, scene => .ok (value, scene)
  | .request operation next, scene =>
    match scene.answer operation with
    | (value, scene) => follow drive (next value) scene
  | .run task next, scene =>
    match drive task scene with
    | .error halt => .error halt
    | .ok (outcome, scene) => follow drive (next outcome) scene

/-- Runs a task within a budget. -/
def drive (code : HostCode) : (budget : Nat) → Task → Scene → Except Halt (Outcome × Scene)
  | 0, _, _ => .error .endless
  | budget + 1, task, scene =>
    match follow (drive code budget) (stepOf code task) scene with
    | .error halt => .error halt
    | .ok (.finish outcome, scene) => .ok (outcome, scene)
    | .ok (.again task, scene) => drive code budget task scene
    | .ok (.exit status, scene) => .error (.exit status scene)

/-- What a run has at hand: the code of the host, and a budget for every task. -/
structure Runtime where
  code : HostCode
  budget : Nat

/-- A runtime without code of the host. -/
def Runtime.plain (budget : Nat) : Runtime := ⟨.none, budget⟩

instance : Coe Nat Runtime := ⟨Runtime.plain⟩

def Runtime.drive (runtime : Runtime) : Task → Scene → Except Halt (Outcome × Scene) :=
  Bridge.drive runtime.code runtime.budget

/-- Runs what the host does in a context, to its end or a halt. -/
def Act.drive {α : Type} (act : Act α) (runtime : Runtime) (scene : Scene) :
    Except Halt (Except Error α × Scene) :=
  follow runtime.drive (act .host).run scene

/-- Runs what the host does in a context; there is no result after a halt. -/
def Act.run {α : Type} (act : Act α) (runtime : Runtime) (scene : Scene) :
    Option (Except Error α × Scene) :=
  (act.drive runtime scene).toOption

end TileScript.Bridge
