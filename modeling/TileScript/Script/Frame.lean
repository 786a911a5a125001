import TileScript.Script.Heap
import TileScript.Script.Naming

/-!
The state of functions that are under way: where they are, and what is in their registers. Calls
from script to script stand in one machine, on top of one another; every other call is nested inside
the function that makes it.
-/

namespace TileScript.Script

/-- Where a function that is under way is: at an instruction, or outside all scripts. -/
inductive Spot where
  | script (function : Prototype) (place : Nat)
  | outside
  deriving Inhabited

/-- What stands before a message about a place. -/
def Spot.label : Spot → String
  | .script function place => function.chunk ++ ":" ++ toString (function.line place) ++ ": "
  | .outside => ""

/-- Where something happens while scripts run. -/
structure Site where
  /-- Where the functions under way are, the innermost one first. -/
  spots : List Spot
  /-- How many calls are under way that are not from script to script. -/
  nesting : Nat
  /-- How many slots of the stack are in use. -/
  height : Nat
  /-- What is called with a raised value, for another one that is raised in its place. -/
  handler : Option Raw
  /-- Whether the stack has overflowed, and only its reserve is left. -/
  inReserve : Bool
  deriving Inhabited

namespace Site

/-- The host calls functions with two slots in use, and what is raised is described to it. -/
def host : Site := ⟨[], 0, 2, some (.function Builtin.describe.ref), false⟩

/-- What stands before a message about the innermost function. -/
def label (site : Site) : String := (site.spots.head?.map Spot.label).getD ""

/-- What stands before a message about the function at a level, from one at the innermost. -/
def labelAt (site : Site) (level : Nat) : String :=
  (site.spots[level - 1]?.map Spot.label).getD ""

/-- What a value of the innermost function is called. -/
def naming? (site : Site) (subject : Subject) : Option Naming :=
  match site.spots.head? with
  | some (.script function place) => function.naming? place subject
  | _ => none

/-- What the function is called that the innermost function calls. -/
def calleeNaming? (site : Site) : Option Naming :=
  match site.spots.head? with
  | some (.script function place) => function.calleeNaming? place
  | _ => none

/-- Inside a function that is called here and is not written in a script. -/
def enter (site : Site) (arguments : Nat) : Site :=
  { site with spots := .outside :: site.spots, height := site.height + 1 + arguments }

/-- The same place for a call that is nested inside. -/
def nested (site : Site) : Site := { site with nesting := site.nesting + 1 }

/-- How many calls may be nested inside one another. -/
def maxNesting : Nat := 200

/-- How many may be nested while too deep a nesting is handled. -/
def maxFaultNesting : Nat := 220

/-- How many slots the stack has. -/
def maxHeight : Nat := 1000000

/-- How many slots there are besides while an overflow of the stack is handled. -/
def reserve : Nat := 200

end Site

/-- A register: a value, or a variable that is shared with functions inside. -/
inductive Slot where
  | value (value : Raw)
  | shared (cell : CellRef)
  deriving Inhabited

/-- A function that is under way. -/
structure Frame where
  function : Prototype
  upvalues : Array CellRef
  registers : Array Slot
  /-- The instruction that is run next; of a function that waits for a call, the call. -/
  place : Nat
  /-- Values of which there may be any number, as if in the registers from `openAt` on. -/
  openAt : Nat
  openValues : List Raw
  /-- The arguments beyond the parameters. -/
  extra : List Raw
  /-- How many slots of the stack are below the function, and below its registers. -/
  height : Nat
  base : Nat
  /-- Where the functions are that it was called from. -/
  spots : List Spot
  /-- Registers whose values are told when their variables end, the last one first. -/
  closing : List Nat
  deriving Inhabited

namespace Frame

/-- The start of a call. The registers of a function that takes any number of arguments come after
all of them. -/
def start (closure : Closure) (arguments : List Raw) (site : Site) : Frame :=
  let function := closure.function
  let parameters := (arguments.take function.parameters).map Slot.value
  let others := Array.replicate (function.size - parameters.length) (Slot.value .nil)
  let shift := if function.isVariadic then arguments.length + 1 else 0
  { function := function
    upvalues := closure.upvalues
    registers := parameters.toArray ++ others
    place := 0
    openAt := 0
    openValues := []
    extra := if function.isVariadic then arguments.drop function.parameters else []
    height := site.height
    base := site.height + 1 + shift
    spots := site.spots
    closing := [] }

/-- The instruction that is run next; a function ends after its last one. -/
def instruction (frame : Frame) : Instruction :=
  frame.function.code[frame.place]?.getD (.leave 0 (some 0))

def goTo (frame : Frame) (place : Nat) : Frame := { frame with place := place }

def next (frame : Frame) : Frame := { frame with place := frame.place + 1 }

end Frame

/-- Functions of scripts that call one another: the one that runs, those that wait for it, the
nearest one first, and where the first one was called. -/
structure Machine where
  frame : Frame
  below : List Frame
  site : Site
  deriving Inhabited

namespace Machine

/-- The place that is run now, where `height` slots are in use. -/
def siteAt (machine : Machine) (height : Nat) : Site :=
  { machine.site with
    spots := .script machine.frame.function machine.frame.place :: machine.frame.spots
    height := height }

/-- The place that is run now, with all registers in use. -/
def here (machine : Machine) : Site :=
  machine.siteAt (machine.frame.base + machine.frame.function.size)

def callSite (machine : Machine) (register : Nat) : Site :=
  machine.siteAt (machine.frame.base + register)

def withFrame (machine : Machine) (frame : Frame) : Machine := { machine with frame := frame }

end Machine
end TileScript.Script
