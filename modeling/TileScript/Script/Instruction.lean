import TileScript.Script.Calculation

/-!
What scripts are compiled to: instructions for a machine with registers. Every instruction has the
line that faults name, and registers that hold local variables are known by name, so that a fault
can say what it is about.
-/

namespace TileScript.Script

/-- Where an instruction takes an operand from. -/
inductive Source where
  | register (index : Nat)
  | constant (value : Raw)
  deriving DecidableEq, Inhabited

inductive UnaryOperator where
  | negate
  | bitNot
  | not
  | length
  deriving DecidableEq, Repr, Inhabited

/-- An instruction. Registers and upvalues are numbers; a destination is the number of an
instruction. Where a count may be missing, it is up to the values themselves. -/
inductive Instruction where
  | move (target source : Nat)
  | load (target : Nat) (value : Raw)
  /-- Loads false and passes over the next instruction. -/
  | loadFalse (target : Nat)
  | loadNil (first last : Nat)
  | getUpvalue (target index : Nat)
  | setUpvalue (source index : Nat)
  /-- Reads a field of the table that an upvalue holds. -/
  | getGlobal (target upvalue : Nat) (key : ByteArray)
  | get (target object key : Nat)
  | getInteger (target object key : Nat)
  | getField (target object : Nat) (key : ByteArray)
  | setGlobal (upvalue : Nat) (key : ByteArray) (value : Source)
  | set (object key : Nat) (value : Source)
  | setInteger (object key : Nat) (value : Source)
  | setField (object : Nat) (key : ByteArray) (value : Source)
  /-- A new table with room for items and for other fields. -/
  | newTable (target items fields : Nat)
  /-- Reads a method, and puts the object it is called for behind it. -/
  | method (target object : Nat) (key : Source)
  /-- The operands stand the other way around in the script if `isFlipped`. -/
  | arithmetic (operator : ArithmeticOperator) (target left : Nat) (right : Source)
      (isFlipped : Bool)
  | unary (operator : UnaryOperator) (target source : Nat)
  | concatenate (first count : Nat)
  /-- Ends the life of the variables from a register on. -/
  | close (first : Nat)
  /-- Lets the value of a register be told when its variable ends. -/
  | closeLater (register : Nat)
  | jump (destination : Nat)
  /-- Passes over the next instruction, a jump, unless the equality of the two is as expected. -/
  | equal (left : Nat) (right : Source) (expected : Bool)
  /-- Passes over the next instruction, a jump, unless the order of the two is as expected. -/
  | order (operator : OrderOperator) (left right : Source) (expected : Bool)
  /-- Passes over the next instruction, a jump, unless the truth of the value is as expected. -/
  | test (source : Nat) (expected : Bool)
  /-- Like `test`, and before the jump keeps the value. -/
  | testSet (target : Option Nat) (source : Nat) (expected : Bool)
  | call (function : Nat) (arguments results : Option Nat)
  | tailCall (function : Nat) (arguments : Option Nat)
  | leave (first : Nat) (count : Option Nat)
  /-- Starts a loop over numbers, or passes over it. -/
  | prepareCount (base destination : Nat)
  | repeatCount (base destination : Nat)
  /-- Goes to the end of a loop over an iterator, where the iterator is called. -/
  | prepareEach (base destination : Nat)
  | callEach (base count : Nat)
  | repeatEach (base destination : Nat)
  /-- Puts the values behind a table into it as items; so many are in it already. -/
  | setItems (table : Nat) (count : Option Nat) (stored : Nat)
  | closure (target index : Nat)
  | varargs (target : Nat) (count : Option Nat)
  /-- Puts arguments beyond the parameters aside. -/
  | separateArguments (parameters : Nat)
  deriving DecidableEq, Inhabited

namespace Instruction

/-- The instruction with another register for its result. -/
def retarget (target : Nat) : Instruction → Instruction
  | .move _ source => .move target source
  | .load _ value => .load target value
  | .loadFalse _ => .loadFalse target
  | .getUpvalue _ index => .getUpvalue target index
  | .getGlobal _ upvalue key => .getGlobal target upvalue key
  | .get _ object key => .get target object key
  | .getInteger _ object key => .getInteger target object key
  | .getField _ object key => .getField target object key
  | .newTable _ items fields => .newTable target items fields
  | .arithmetic operator _ left right isFlipped => .arithmetic operator target left right isFlipped
  | .unary operator _ source => .unary operator target source
  | .closure _ index => .closure target index
  | .varargs _ count => .varargs target count
  | instruction => instruction

def redirect (destination : Nat) : Instruction → Instruction
  | .jump _ => .jump destination
  | .prepareCount base _ => .prepareCount base destination
  | .repeatCount base _ => .repeatCount base destination
  | .prepareEach base _ => .prepareEach base destination
  | .repeatEach base _ => .repeatEach base destination
  | instruction => instruction

/-- A condition with the opposite expectation. -/
def negate : Instruction → Instruction
  | .equal left right expected => .equal left right (!expected)
  | .order operator left right expected => .order operator left right (!expected)
  | .test source expected => .test source (!expected)
  | .testSet target source expected => .testSet target source (!expected)
  | instruction => instruction

/-- Whether a jump follows that the instruction may pass over. -/
def isCondition : Instruction → Bool
  | .equal .. | .order .. | .test .. | .testSet .. => true
  | _ => false

/-- An open call or `...` with a count of results. -/
def withResults (count : Option Nat) : Instruction → Instruction
  | .call function arguments _ => .call function arguments count
  | .varargs target _ => .varargs target count
  | instruction => instruction

/-- Whether the instruction changes a register, as far as names of registers go. -/
def changes (register : Nat) : Instruction → Bool
  | .loadNil first last => first ≤ register && register ≤ last
  | .callEach base _ => base + 2 ≤ register
  | .call function _ _ | .tailCall function _ => function ≤ register
  | .move target _ | .load target _ | .loadFalse target | .getUpvalue target _
  | .getGlobal target _ _ | .get target _ _ | .getInteger target _ _ | .getField target _ _
  | .newTable target _ _ | .method target _ _ | .arithmetic _ target _ _ _ | .unary _ target _
  | .concatenate target _ | .testSet (some target) _ _ | .prepareCount target _
  | .repeatCount target _ | .repeatEach target _ | .closure target _ | .varargs target _
  | .separateArguments target => target == register
  | _ => false

end Instruction

/-- The name of the variable that holds the global variables. -/
def environmentName : String := "_ENV"

/-- The name of a register while instructions from `first` up to `last` are under way. -/
structure LocalName where
  name : String
  first : Nat
  last : Nat
  deriving DecidableEq, Repr, Inhabited

/-- Where a function finds a variable of the functions around it when it is made: in a register of
the function just around it, or among the upvalues of that one. -/
structure UpvalueSource where
  name : String
  isRegister : Bool
  index : Nat
  deriving DecidableEq, Repr, Inhabited

/-- A function as it stands in a script. -/
structure Prototype where
  chunk : String
  parameters : Nat
  isVariadic : Bool
  /-- How many registers it needs. -/
  size : Nat
  code : Array Instruction
  /-- The line of each instruction. -/
  lines : Array Nat
  upvalues : Array UpvalueSource
  locals : Array LocalName
  functions : List Prototype

instance : Inhabited Prototype := ⟨⟨"", 0, false, 0, #[], #[], #[], #[], []⟩⟩

end TileScript.Script
