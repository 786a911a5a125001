import TileScript.Number.Double

/-!
Values as the host sees them. Integers and fractions are both numbers here; tables and functions
stay in their context, and the host holds handles to them.
-/

namespace TileScript

/-- The kinds of values that cross between host and script. -/
inductive Kind where
  | number
  | string
  | boolean
  | nil
  | table
  | function
  deriving DecidableEq, Repr, Inhabited

namespace Kind

def name : Kind → String
  | .number => "number"
  | .string => "string"
  | .boolean => "boolean"
  | .nil => "nil"
  | .table => "table"
  | .function => "function"

def all : List Kind := [.number, .string, .boolean, .nil, .table, .function]

def ofName? (name : String) : Option Kind := all.find? (·.name == name)

end Kind

namespace Bridge

/-- The identity of a context; none is ever used twice. -/
structure ContextId where
  index : Nat
  deriving DecidableEq, Repr, Inhabited

/-- An entry of the registry of a context. -/
structure Pin where
  context : ContextId
  registration : Nat
  deriving DecidableEq, Repr, Inhabited

/-- An object of a context, kept alive by a pin. -/
structure Handle where
  pin : Pin
  object : Nat
  deriving DecidableEq, Repr, Inhabited

namespace Handle

def context (handle : Handle) : ContextId := handle.pin.context

/-- Whether two handles denote the same object, however it is pinned. -/
def same (a b : Handle) : Bool := a.context == b.context && a.object == b.object

/-- Handles with one for every object they denote. -/
def distinct : List Handle → List Handle
  | [] => []
  | handle :: rest =>
    if rest.any handle.same then distinct rest else handle :: distinct rest

end Handle

/-- A value as the host sees it. -/
inductive Value where
  | number (value : Double)
  | string (value : String)
  | boolean (value : Bool)
  | nil
  | table (handle : Handle)
  | function (handle : Handle)
  deriving DecidableEq, Repr, Inhabited

namespace Value

def kind : Value → Kind
  | .number _ => .number
  | .string _ => .string
  | .boolean _ => .boolean
  | .nil => .nil
  | .table _ => .table
  | .function _ => .function

def isNil : Value → Bool
  | .nil => true
  | _ => false

def number? : Value → Option Double
  | .number value => some value
  | _ => none

/-- A number without its fraction. -/
def integer? : Value → Option Int
  | .number value => some value.truncate
  | _ => none

def string? : Value → Option String
  | .string value => some value
  | _ => none

def boolean? : Value → Option Bool
  | .boolean value => some value
  | _ => none

def table? : Value → Option Handle
  | .table handle => some handle
  | _ => none

def function? : Value → Option Handle
  | .function handle => some handle
  | _ => none

def handle? : Value → Option Handle
  | .table handle | .function handle => some handle
  | _ => none

/-- Equality of values: numbers by their value, so that NaN differs from itself, and handles by the
object they denote. -/
def same : Value → Value → Bool
  | .number a, .number b => a.equals b
  | .string a, .string b => a == b
  | .boolean a, .boolean b => a == b
  | .nil, .nil => true
  | .table a, .table b => a.same b
  | .function a, .function b => a.same b
  | _, _ => false

def ofInt (value : Int) : Value := .number (Double.ofInt value)

def ofOption {α : Type} (value : α → Value) : Option α → Value
  | some a => value a
  | none => .nil

end Value

/-- Host types that a value can be cast to; nothing is converted on the way. -/
class Castable (α : Type) where
  cast? : Value → Option α

instance : Castable Int := ⟨Value.integer?⟩

instance : Castable String := ⟨Value.string?⟩

instance : Castable Bool := ⟨Value.boolean?⟩

/-- What a call gives back, whichever way it went. -/
inductive CallResult where
  | none
  | single (value : Value)
  | multiple (values : List Value)
  | failed (message : String)
  deriving DecidableEq, Repr, Inhabited

namespace CallResult

def ofValues : List Value → CallResult
  | [] => .none
  | [value] => .single value
  | values => .multiple values

def first? : CallResult → Option Value
  | .single value => some value
  | .multiple values => values.head?
  | .none | .failed _ => Option.none

def isFailed : CallResult → Bool
  | .failed _ => true
  | _ => false

/-- The values of a call, or the message of its failure. -/
def values : CallResult → Except String (List Value)
  | .none => .ok []
  | .single value => .ok [value]
  | .multiple values => .ok values
  | .failed message => .error message

end CallResult
end Bridge
end TileScript
