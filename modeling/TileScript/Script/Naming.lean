import TileScript.Script.Instruction

/-!
What a fault calls the values it is about. A register with a variable has the name of the variable;
any other one is known by the instruction that set it, if that is sure to have run.
-/

namespace TileScript.Script

inductive NamingKind where
  | localVariable
  | upvalue
  | constant
  | global
  | field
  | method
  | iterator
  | metamethod
  deriving DecidableEq, Repr

def NamingKind.text : NamingKind → String
  | .localVariable => "local"
  | .upvalue => "upvalue"
  | .constant => "constant"
  | .global => "global"
  | .field => "field"
  | .method => "method"
  | .iterator => "for iterator"
  | .metamethod => "metamethod"

/-- What kind of thing a value is to its function, and its name there. -/
structure Naming where
  kind : NamingKind
  name : ByteArray

/-- Bytes up to the first zero: names and messages end there. -/
def upToZero (bytes : ByteArray) : ByteArray :=
  ⟨bytes.data.takeWhile (· != 0)⟩

namespace Naming

def ofText (kind : NamingKind) (name : String) : Naming := ⟨kind, name.toUTF8⟩

/-- How a fault mentions a value, with a space in front. -/
def mention (naming : Naming) : ByteArray :=
  (" (" ++ naming.kind.text ++ " '").toUTF8 ++ upToZero naming.name ++ "')".toUTF8

end Naming

/-- Which value of a function a fault is about. -/
inductive Subject where
  | register (index : Nat)
  | upvalue (index : Nat)
  /-- A value that has no place in the function. -/
  | other
  deriving DecidableEq, Repr, Inhabited

def Source.subject : Source → Subject
  | .register index => .register index
  | .constant _ => .other

/-- What a register is known by at an instruction. -/
inductive Origin where
  | named (naming : Naming)
  /-- The instruction that set it. -/
  | setAt (place : Nat)
  | unknown

/-- What stands for a name that is not known. -/
def unknownName : ByteArray := "?".toUTF8

namespace Prototype

def variableName? (function : Prototype) (place register : Nat) : Option String :=
  let active := (function.locals.toList.takeWhile (·.first ≤ place)).filter (place < ·.last)
  active[register]?.map (·.name)

/-- The last instruction before `place` that changed a register; none if a jump may have passed over
it. -/
def setter? (function : Prototype) (place register : Nat) : Option Nat :=
  let change : Option Nat × Nat → Instruction × Nat → Option Nat × Nat
    | (found, reached), (.jump destination, _) =>
      (found, if destination ≤ place && reached < destination then destination else reached)
    | (found, reached), (instruction, here) =>
      if instruction.changes register then (if here < reached then none else some here, reached)
      else (found, reached)
  ((function.code.toList.take place).zipIdx.foldl change (none, 0)).1

def upvalueName (function : Prototype) (index : Nat) : String :=
  (function.upvalues[index]?.map (·.name)).getD "?"

/-- What a register is known by at an instruction. The value of a variable or a constant is still
known after it was moved to a later register. -/
def origin (function : Prototype) (place register : Nat) : Origin :=
  match function.variableName? place register with
  | some name => .named (.ofText .localVariable name)
  | none =>
    match function.setter? place register with
    | none => .unknown
    | some setter =>
      match function.code[setter]? with
      | some (.move _ source) =>
        if source < register then origin function setter source else .setAt setter
      | some (.getUpvalue _ index) => .named (.ofText .upvalue (function.upvalueName index))
      | some (.load _ (.string bytes)) => .named ⟨.constant, bytes⟩
      | _ => .setAt setter
termination_by register

/-- The name of a key in a register: it is known if it is a constant. -/
def keyName (function : Prototype) (place register : Nat) : ByteArray :=
  match function.origin place register with
  | .named ⟨.constant, bytes⟩ => bytes
  | _ => unknownName

/-- A field of the table in a register: a global variable if that is the environment. -/
def fieldKind (function : Prototype) (place table : Nat) : NamingKind :=
  match function.origin place table with
  | .named ⟨kind, name⟩ =>
    if (kind = .localVariable || kind = .upvalue) && upToZero name = environmentName.toUTF8 then
      .global
    else .field
  | _ => .field

/-- What the value that an instruction sets is called. -/
def resultNaming? (function : Prototype) (place : Nat) : Instruction → Option Naming
  | .getGlobal _ upvalue key =>
    let isEnvironment := function.upvalueName upvalue == environmentName
    some ⟨if isEnvironment then .global else .field, key⟩
  | .get _ table key =>
    some ⟨function.fieldKind place table, function.keyName place key⟩
  | .getInteger _ _ _ => some (.ofText .field "integer index")
  | .getField _ table key => some ⟨function.fieldKind place table, key⟩
  | .method _ _ (.constant (.string key)) => some ⟨.method, key⟩
  | .method _ _ (.constant _) => some ⟨.method, unknownName⟩
  | .method _ _ (.register key) => some ⟨.method, function.keyName place key⟩
  | _ => none

/-- What the value in a register is called at an instruction. -/
def registerNaming? (function : Prototype) (place register : Nat) : Option Naming :=
  match function.origin place register with
  | .named naming => some naming
  | .setAt setter => function.code[setter]?.bind (function.resultNaming? setter)
  | .unknown => none

/-- What a value is called at an instruction. -/
def naming? (function : Prototype) (place : Nat) : Subject → Option Naming
  | .register index => function.registerNaming? place index
  | .upvalue index => some (.ofText .upvalue (function.upvalueName index))
  | .other => none

/-- What the function is called that an instruction calls, on its own or through a metatable. -/
def calleeNaming? (function : Prototype) (place : Nat) : Option Naming :=
  let metamethod (name : String) : Option Naming := some (.ofText .metamethod name)
  match function.code[place]? with
  | some (.call register _ _) | some (.tailCall register _) =>
    function.registerNaming? place register
  | some (.callEach _ _) => some (.ofText .iterator "for iterator")
  | some (.method ..) | some (.getGlobal ..) | some (.get ..) | some (.getInteger ..)
  | some (.getField ..) => metamethod "index"
  | some (.setGlobal ..) | some (.set ..) | some (.setInteger ..) | some (.setField ..) =>
    metamethod "newindex"
  | some (.arithmetic operator _ _ _ _) => metamethod operator.name
  | some (.unary .negate _ _) => metamethod "unm"
  | some (.unary .bitNot _ _) => metamethod "bnot"
  | some (.unary .length _ _) => metamethod "len"
  | some (.concatenate _ _) => metamethod "concat"
  | some (.equal _ (.register _) _) => metamethod "eq"
  | some (.order .less _ _ _) => metamethod "lt"
  | some (.order .lessOrEqual _ _ _) => metamethod "le"
  | some (.close _) | some (.leave _ _) => metamethod "close"
  | _ => none

def line (function : Prototype) (place : Nat) : Nat := function.lines[place]?.getD 0

end Prototype
end TileScript.Script
