import TileScript.Number.Digits
import TileScript.Number.Numeral

/-!
Values as scripts compute with them. Strings are bytes; tables and functions are places in the heap
of a context.
-/

namespace TileScript.Script

/-- Byte arrays are equal if their bytes are. -/
instance (priority := 2000) bytesDecidableEq : DecidableEq ByteArray := ByteArray.instDecidableEq

structure TableRef where
  index : Nat
  deriving DecidableEq, Repr, Inhabited

structure FunctionRef where
  index : Nat
  deriving DecidableEq, Repr, Inhabited

/-- The place of a local variable. -/
structure CellRef where
  index : Nat
  deriving DecidableEq, Repr, Inhabited

inductive Raw where
  | nil
  | boolean (value : Bool)
  | integer (value : Integer)
  | number (value : Double)
  | string (bytes : ByteArray)
  | table (table : TableRef)
  | function (function : FunctionRef)
  | thread (number : Nat)
  /-- The standard output. -/
  | file
  /-- What a native function raised. Threads and failures have numbers of their own. -/
  | failure (message : String) (number : Nat)
  deriving DecidableEq, Inhabited

namespace Raw

def ofString (text : String) : Raw := .string text.toUTF8

/-- The name of the kind, as scripts see it. -/
def typeName : Raw → String
  | .nil => "nil"
  | .boolean _ => "boolean"
  | .integer _ | .number _ => "number"
  | .string _ => "string"
  | .table _ => "table"
  | .function _ => "function"
  | .thread _ => "thread"
  | .file | .failure _ _ => "userdata"

/-- Everything but nil and false counts as true. -/
def isTrue : Raw → Bool
  | .nil | .boolean false => false
  | _ => true

def isNil : Raw → Bool
  | .nil => true
  | _ => false

def isNumber : Raw → Bool
  | .integer _ | .number _ => true
  | _ => false

def isString : Raw → Bool
  | .string _ => true
  | _ => false

/-- Equality: numbers by their value, strings by their bytes, objects by their identity. -/
def equals : Raw → Raw → Bool
  | .integer a, .integer b => a == b
  | .number a, .number b => a.equals b
  | .integer a, .number b => b.equalsInt a.toInt
  | .number a, .integer b => a.equalsInt b.toInt
  | a, b => decide (a = b)

/-- The form of a value as a key: a number that equals an integer is that integer. -/
def toKey : Raw → Raw
  | .number value =>
    match value.toInteger? with
    | some n => .integer (Int64.ofInt n)
    | none => .number value
  | value => value

/-- Why a value cannot be a key. -/
inductive BadKey where
  | nil
  | nan
  deriving DecidableEq, Repr

def BadKey.message : BadKey → String
  | .nil => "table index is nil"
  | .nan => "table index is NaN"

def badKey? : Raw → Option BadKey
  | .nil => some .nil
  | .number value => if value.isNaN then some .nan else none
  | _ => none

def ofNumeral : Numeral → Raw
  | .integer value => .integer value
  | .number value => .number value

/-- The text in bytes, if every byte is an ASCII character. -/
def asciiText? (bytes : ByteArray) : Option (List Char) :=
  bytes.toList.mapM fun byte => if byte < 128 then some (Char.ofNat byte.toNat) else none

/-- A number, or a string that writes one. -/
def toNumeral? : Raw → Option Numeral
  | .integer value => some (.integer value)
  | .number value => some (.number value)
  | .string bytes => (asciiText? bytes).bind Numeral.ofText?
  | _ => none

/-- An integer, or what converts to one without loss. -/
def toInteger? (value : Raw) : Option Integer := value.toNumeral?.bind Numeral.toInteger?

/-- The text of a number or a string, where one is asked for. -/
def toBytes? : Raw → Option ByteArray
  | .string bytes => some bytes
  | .integer value => some (toString value.toInt).toUTF8
  | .number value => some value.scriptText.toUTF8
  | _ => none

end Raw

end TileScript.Script
