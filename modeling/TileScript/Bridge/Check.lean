import TileScript.Bridge.Object

/-!
Checking the arguments of a native function, from the first one to the last. A fixed parameter takes
one argument; a variadic one takes arguments as long as they match, and the last parameter does not
let one go that does not match. A refusal is a message that names the first place that does not fit.
-/

namespace TileScript.Bridge

open Script (Raw)
open Attempt

/-- A check that refuses with a message. -/
abbrev Check := Attempt String Unit

namespace Check

/-- The answer to an act; an error refuses with its text. -/
def answer {α : Type} (act : Act α) : Attempt String α := act.mapError Error.text

def accepts (check : Check) : Attempt String Bool := do
  match ← (observe check : Attempt String (Except String Unit)) with
  | .ok _ => return true
  | .error _ => return false

/-- Refuses because of a kind. -/
def expected {α : Type} (what : String) (actual : Kind) : Attempt String α :=
  throw ("expected " ++ what ++ ", but got " ++ actual.name)

def expectedField {α : Type} (what field : String) (actual : Kind) : Attempt String α :=
  throw ("expected " ++ what ++ " for field '" ++ field ++ "', but got " ++ actual.name)

/-- The path of a field below a path, which is empty at the argument itself. -/
def below (path name : String) : String := if path.isEmpty then name else path ++ "." ++ name

mutual

/-- Checks the fields of a table in order. A refusal at the top repeats the whole schema. -/
def table (table : Handle) (path : String) (schema : TableSchema) : Check :=
  match schema with
  | .mk fields =>
    if path.isEmpty then
      (checkFields table path fields).mapError fun message =>
        message ++ ". Required schema for the table: " ++ schema.describe
    else checkFields table path fields

def checkFields (table : Handle) (path : String) : List (String × Parameter) → Check
  | [] => return
  | (name, parameter) :: rest => do
    checkField table name (below path name) parameter
    checkFields table path rest

/-- Checks the field `name`, which messages call `field`. -/
def checkField (table : Handle) (name field : String) (parameter : Parameter) : Check :=
  match parameter with
  | .specific type => checkFieldType table name field type
  | .oneOf types => do
    if ← anyFieldType table name field types then return
    else expectedField (describeTypes types) field (← answer (Table.fieldKind table name))
  | .any => return

/-- Whether the field is of one of some types; none is tried after the first that fits. -/
def anyFieldType (table : Handle) (name field : String) :
    List ParameterType → Attempt String Bool
  | [] => return false
  | type :: rest => do
    if ← accepts (checkFieldType table name field type) then return true
    else anyFieldType table name field rest

def checkFieldType (parent : Handle) (name field : String) (type : ParameterType) : Check :=
  match type with
  | .kind wanted => do
    let actual ← answer (Table.fieldKind parent name)
    if actual ≠ wanted then expectedField wanted.name field actual
  | .schema schema => do
    match ← answer (Table.getField parent name) with
    | .table inner => table inner field schema
    | other => expectedField "a table" field other.kind

end

def argumentType (value : Raw) : ParameterType → Check
  | .kind wanted => do
    let actual ← answer (Act.kind value)
    if actual ≠ wanted then expected wanted.name actual
  | .schema schema => do
    match ← answer (Act.ofRaw value) with
    | .table handle => table handle "" schema
    | other => expected "a table" other.kind

/-- Whether an argument is of one of some types. -/
def anyArgumentType (value : Raw) : List ParameterType → Attempt String Bool
  | [] => return false
  | type :: rest => do
    if ← accepts (argumentType value type) then return true else anyArgumentType value rest

def argument (value : Raw) : Parameter → Check
  | .specific type => argumentType value type
  | .oneOf types => do
    if ← anyArgumentType value types then return
    else expected (describeTypes types) (← answer (Act.kind value))
  | .any => return

/-- A refusal of the argument at a place. -/
def atPlace (place : Nat) (check : Check) : Check :=
  check.mapError fun message => "at argument " ++ toString place ++ ": " ++ message

/-- Takes over arguments from a place on as long as they match; the rest is left. -/
def takeMatching (parameter : Parameter) (isLast : Bool) :
    (place : Nat) → List Raw → Attempt String (Nat × List Raw)
  | place, [] => return (place, [])
  | place, value :: rest => do
    match ← (observe (argument value parameter) : Attempt String (Except String Unit)) with
    | .ok _ => takeMatching parameter isLast (place + 1) rest
    | .error message =>
      if isLast then throw ("at argument " ++ toString place ++ ": " ++ message)
      else return (place, value :: rest)

/-- Checks the arguments from a place on, out of `count` in all. -/
def fromPlace (count : Nat) : (place : Nat) → List Raw → List Argument → Check
  | place, values, [] =>
    if values.isEmpty then return
    else
      throw ("expected no more arguments, but received extra arguments starting at argument " ++
        toString place)
  | place, values, .fixed parameter :: rest => do
    match values with
    | [] =>
      throw ("expected " ++ parameter.describe ++ " at argument " ++ toString place ++
        ", but only " ++ toString count ++ " arguments were provided")
    | value :: values =>
      atPlace place (argument value parameter)
      fromPlace count (place + 1) values rest
  | place, values, .variadic parameter :: rest => do
    let (place, values) ← takeMatching parameter rest.isEmpty place values
    fromPlace count place values rest

def arguments (values : List Raw) (signature : List Argument) : Check :=
  fromPlace values.length 1 values signature

end Check
end TileScript.Bridge
