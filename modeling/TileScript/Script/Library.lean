import TileScript.Script.Machine
import TileScript.Script.Matching

/-!
What the functions of the library do.
-/

namespace TileScript.Script

structure LibraryCall where
  builtin : Builtin
  arguments : List Raw
  /-- Where it is called. -/
  site : Site

namespace LibraryCall

variable {α : Type}

def inside (call : LibraryCall) : Site := call.site.enter call.arguments.length

/-! ### Faults -/

/-- Raises a message about the place of the call. -/
def failBytes (call : LibraryCall) (message : ByteArray) : Eval α :=
  call.inside.raise (.string (call.site.label.toUTF8 ++ message))

def fail (call : LibraryCall) (message : String) : Eval α := call.failBytes message.toUTF8

/-- The name of a function that is not called by a name. -/
def libraryName (call : LibraryCall) : Eval ByteArray := do
  return (← Eval.ask (.libraryName? call.builtin.ref)).getD unknownName

/-- Fails because of an argument. The function is named as it is called; the object of a method does
not count as an argument. -/
def badArgument (call : LibraryCall) (number : Nat) (message : ByteArray) : Eval α := do
  let reason := " (".toUTF8 ++ message ++ ")".toUTF8
  let blame (number : Nat) (name : ByteArray) : Eval α :=
    call.failBytes (("bad argument #" ++ toString number ++ " to '").toUTF8 ++ upToZero name ++
      "'".toUTF8 ++ reason)
  match call.site.calleeNaming? with
  | some ⟨.method, name⟩ =>
    if number ≤ 1 then
      call.failBytes ("calling '".toUTF8 ++ upToZero name ++ "' on bad self".toUTF8 ++ reason)
    else blame (number - 1) name
  | some ⟨_, name⟩ => blame number name
  | none => blame number (← call.libraryName)

/-! ### Arguments -/

/-- An argument, from one. -/
def argument? (call : LibraryCall) (number : Nat) : Option Raw := call.arguments[number - 1]?

def argument (call : LibraryCall) (number : Nat) : Raw := (call.argument? number).getD .nil

def wrongType (call : LibraryCall) (number : Nat) (expected : String) : Eval α := do
  let actual ← match call.argument? number with
    | none => pure "no value".toUTF8
    | some value =>
      match ← Site.metavalue value "__name" with
      | .string name => pure (upToZero name)
      | _ => pure value.typeName.toUTF8
  call.badArgument number ((expected ++ " expected, got ").toUTF8 ++ actual)

/-- An argument that has to be there. -/
def any (call : LibraryCall) (number : Nat) : Eval Raw :=
  match call.argument? number with
  | some value => return value
  | none => call.badArgument number "value expected".toUTF8

def table (call : LibraryCall) (number : Nat) : Eval TableRef :=
  match call.argument number with
  | .table table => return table
  | _ => call.wrongType number "table"

def integer (call : LibraryCall) (number : Nat) : Eval Int :=
  match (call.argument number).toInteger? with
  | some value => return value.toInt
  | none =>
    if (call.argument number).toNumeral?.isSome then
      call.badArgument number "number has no integer representation".toUTF8
    else call.wrongType number "number"

/-- An integer that may be left out. -/
def integerOr (call : LibraryCall) (number : Nat) (fallback : Int) : Eval Int :=
  if (call.argument number).isNil then return fallback else call.integer number

def bytes (call : LibraryCall) (number : Nat) : Eval ByteArray :=
  match (call.argument number).toBytes? with
  | some bytes => return bytes
  | none => call.wrongType number "string"

/-- A text that may be left out. -/
def bytesOrEmpty (call : LibraryCall) (number : Nat) : Eval ByteArray :=
  if (call.argument number).isNil then return .empty else call.bytes number

/-! ### Errors -/

/-- Raises a value. A string gets the line of the call at a level in front, none at level zero. -/
def raise (call : LibraryCall) (value : Raw) (level : Int) : Eval α :=
  match value with
  | .string bytes =>
    let label := if 0 < level then call.site.labelAt level.toNat else ""
    call.inside.raise (.string (label.toUTF8 ++ bytes))
  | value => call.inside.raise value

/-- Raises the first argument; the second says at which level. -/
def error (call : LibraryCall) : Eval (List Raw) := do
  let level ← call.integerOr 2 1
  call.raise (call.argument 1) level

def assert (call : LibraryCall) : Eval (List Raw) := do
  let condition ← call.any 1
  if condition.isTrue then return call.arguments
  else call.raise ((call.argument? 2).getD (.ofString "assertion failed!")) 1

/-- Calls a value with another handler, and gives back what it raises. There are `slots` slots
between this function and the value. -/
def protect (call : LibraryCall) (handler : Option Raw) (slots : Nat) (callee : Raw)
    (arguments : List Raw) : Eval (List Raw) := do
  let site :=
    { call.inside with handler := handler, height := call.site.height + slots }
  match ← Eval.attempt (.call callee arguments site.nested) with
  | .ok values => return .boolean true :: values
  | .error raised => return [.boolean false, raised]

def pcall (call : LibraryCall) : Eval (List Raw) := do
  let callee ← call.any 1
  call.protect none 2 callee (call.arguments.drop 1)

def xpcall (call : LibraryCall) : Eval (List Raw) := do
  match call.argument 2 with
  | .function handler =>
    call.protect (some (.function handler)) 4 (call.argument 1) (call.arguments.drop 2)
  | _ => call.wrongType 2 "function"

/-- What the host gets for a raised value: what a native function raised as it is, and the text of
everything else. -/
def describe (call : LibraryCall) : Eval (List Raw) := do
  match call.argument 1 with
  | .failure message number => return [.failure message number]
  | value => return [.string (upToZero (← call.inside.text call.site value))]

/-! ### Basic functions -/

def select (call : LibraryCall) : Eval (List Raw) := do
  let rest := call.arguments.drop 1
  match call.argument 1 with
  | .string bytes =>
    if bytes.toList.head? = some 35 then return [.integer (Int64.ofNat rest.length)]
    else fromPlace call rest
  | _ => fromPlace call rest
where
  fromPlace (call : LibraryCall) (rest : List Raw) : Eval (List Raw) := do
    let n ← call.integer 1
    if 0 < n then return rest.drop (n - 1).toNat
    else if n < 0 && decide (-n ≤ rest.length) then return rest.drop (rest.length + n).toNat
    else call.badArgument 1 "index out of range".toUTF8

/-- Prints the texts of the arguments; what was printed before one of them fails stays printed. -/
def print (call : LibraryCall) : Eval (List Raw) := do
  printAll "" call.arguments
  Eval.ask (.print "\n".toUTF8)
  return []
where
  printAll (separator : String) : List Raw → Eval Unit
    | [] => return
    | value :: rest => do
      let text ← call.inside.text call.site value
      Eval.ask (.print (separator.toUTF8 ++ text))
      printAll "\t" rest

def ofBase? (base : Nat) (text : List Char) : Option Integer :=
  let trimmed := ((text.dropWhile Numeral.isSpace).reverse.dropWhile Numeral.isSpace).reverse
  let (negative, digits) := match trimmed with
    | '-' :: rest => (true, rest)
    | rest => (false, rest)
  let digit? (c : Char) : Option Nat :=
    let value :=
      if c.isDigit then c.toNat - '0'.toNat
      else if c.isAlpha then c.toLower.toNat - 'a'.toNat + 10
      else base
    if value < base then some value else none
  match digits.isEmpty, digits.mapM digit? with
  | false, some values =>
    let value : Int := Numeral.ofDigits base values
    some (Int64.ofInt (if negative then -value else value))
  | _, _ => none

def tonumber (call : LibraryCall) : Eval (List Raw) := do
  if (call.argument 2).isNil then
    match (← call.any 1).toNumeral? with
    | some value => return [.ofNumeral value]
    | none => return [.nil]
  else
    let base ← call.integer 2
    match call.argument 1 with
    | .string bytes =>
      if base < 2 || 36 < base then call.badArgument 2 "base out of range".toUTF8
      match (Raw.asciiText? bytes).bind (ofBase? base.toNat) with
      | some value => return [.integer value]
      | none => return [.nil]
    | _ => call.wrongType 1 "string"

/-! ### Tables past their metatables -/

def setmetatable (call : LibraryCall) : Eval (List Raw) := do
  let table ← call.table 1
  let chosen ← match call.argument? 2 with
    | some (.table metatable) => pure (some metatable)
    | some .nil => pure none
    | _ => call.wrongType 2 "nil or table"
  if !(← Site.metavalue (.table table) "__metatable").isNil then
    call.fail "cannot change a protected metatable"
  Eval.ask (.setMetatable table chosen)
  return [.table table]

def getmetatable (call : LibraryCall) : Eval (List Raw) := do
  let value ← call.any 1
  match ← Eval.ask (.metatable value) with
  | none => return [.nil]
  | some metatable =>
    let shown ← Site.metavalue value "__metatable"
    return [if shown.isNil then .table metatable else shown]

def rawset (call : LibraryCall) : Eval (List Raw) := do
  let table ← call.table 1
  let key ← call.any 2
  let value ← call.any 3
  call.inside.rawSet table key value
  return [.table table]

def rawget (call : LibraryCall) : Eval (List Raw) := do
  let table ← call.table 1
  return [← Eval.ask (.get table (← call.any 2))]

def rawequal (call : LibraryCall) : Eval (List Raw) := do
  return [.boolean ((← call.any 1).equals (← call.any 2))]

def rawlen (call : LibraryCall) : Eval (List Raw) := do
  match call.argument 1 with
  | .table table => return [.integer (Int64.ofNat (← Eval.ask (.border table)))]
  | .string bytes => return [.integer (Int64.ofNat bytes.size)]
  | _ => call.wrongType 1 "table or string"

def next (call : LibraryCall) : Eval (List Raw) := do
  let table ← call.table 1
  match ← Eval.ask (.following table (call.argument 2)) with
  | some (some (key, value)) => return [key, value]
  | some none => return [.nil]
  | none => call.inside.fail "invalid key to 'next'"

def pairs (call : LibraryCall) : Eval (List Raw) := do
  let value ← call.any 1
  match ← Site.metavalue value "__pairs" with
  | .nil => return [.function Builtin.next.ref, value, .nil]
  | handler =>
    let values ← call.inside.call handler [value]
    return [values.headD .nil, (values.drop 1).headD .nil, (values.drop 2).headD .nil]

def ipairsStep (call : LibraryCall) : Eval (List Raw) := do
  let place := Raw.integer (Int64.ofInt (← call.integer 2) + 1)
  let value ← call.inside.index (call.argument 1) place .other
  if value.isNil then return [.nil] else return [place, value]

/-! ### Numbers -/

def mathType (call : LibraryCall) : Eval (List Raw) := do
  match ← call.any 1 with
  | .integer _ => return [.ofString "integer"]
  | .number _ => return [.ofString "float"]
  | _ => return [.nil]

/-- The greatest integer that is not above a number; it stays a double-precision number if it does
not fit 64 bits. -/
def floor (call : LibraryCall) : Eval (List Raw) := do
  match call.argument 1, (call.argument 1).toNumeral? with
  | .integer value, _ => return [.integer value]
  | _, some value =>
    let below := value.toDouble.floorNumber
    match below.toInteger? with
    | some n => return [.integer (Int64.ofInt n)]
    | none => return [.number below]
  | _, none => call.wrongType 1 "number"

/-! ### Lists -/

def placeKey (place : Int) : Raw := .integer (Int64.ofInt place)

/-- The length of the first argument. -/
def length (call : LibraryCall) : Eval Int := do
  match (← call.inside.length (call.argument 1) .other).toInteger? with
  | some length => return length.toInt
  | none => call.fail "object length is not an integer"

/-- Moves the items from a place on one place up, the last one first. -/
def shift (call : LibraryCall) (table : Raw) (place : Int) : Nat → Eval Unit
  | 0 => return
  | count + 1 => do
    let value ← call.inside.index table (placeKey (place + count)) .other
    call.inside.assign table (placeKey (place + count + 1)) value .other
    shift call table place count

def insert (call : LibraryCall) : Eval (List Raw) := do
  let table ← call.table 1
  let free := (← call.length) + 1
  match call.arguments.length with
  | 2 =>
    call.inside.assign (.table table) (placeKey free) (call.argument 2) .other
    return []
  | 3 =>
    let place ← call.integer 2
    if place < 1 || free < place then call.badArgument 2 "position out of bounds".toUTF8
    call.shift (.table table) place (free - place).toNat
    call.inside.assign (.table table) (placeKey place) (call.argument 3) .other
    return []
  | _ => call.fail "wrong number of arguments to 'insert'"

/-- The texts of items behind a text, with a separator before each one of them but the first. -/
def join (call : LibraryCall) (separator : ByteArray) : (count : Nat) → (place : Int) →
    (isFirst : Bool) → ByteArray → Eval ByteArray
  | 0, _, _, joined => return joined
  | count + 1, place, isFirst, joined => do
    let value ← call.inside.index (call.argument 1) (placeKey place) .other
    match value.toBytes? with
    | none =>
      call.fail ("invalid value (" ++ value.typeName ++ ") at index " ++ toString place ++
        " in table for 'concat'")
    | some bytes =>
      let joined := if isFirst then bytes else joined ++ separator ++ bytes
      join call separator count (place + 1) false joined

def concat (call : LibraryCall) : Eval (List Raw) := do
  let _ ← call.table 1
  let length ← call.length
  let separator ← call.bytesOrEmpty 2
  let first ← call.integerOr 3 1
  let last ← call.integerOr 4 length
  return [.string (← call.join separator (last - first + 1).toNat first true .empty)]

/-- The items from a place on, behind others that are listed backwards. -/
def items (call : LibraryCall) : (count : Nat) → (place : Int) → List Raw → Eval (List Raw)
  | 0, _, found => return found.reverse
  | count + 1, place, found => do
    let value ← call.inside.index (call.argument 1) (placeKey place) .other
    items call count (place + 1) (value :: found)

def unpack (call : LibraryCall) : Eval (List Raw) := do
  let first ← call.integerOr 2 1
  let last ← if (call.argument 3).isNil then call.length else call.integer 3
  let count := (last - first + 1).toNat
  if Site.maxHeight < call.inside.height + count then call.fail "too many results to unpack"
  call.items count first []

/-! ### Strings -/

/-- A place counted from the end if it is negative. -/
def fromStart (size : Nat) (place : Int) : Int :=
  if 0 ≤ place then place else if size < -place then 0 else size + place + 1

def sub (call : LibraryCall) : Eval (List Raw) := do
  let bytes ← call.bytes 1
  let first := max 1 (fromStart bytes.size (← call.integer 2))
  let last : Int := min (bytes.size : Int) (fromStart bytes.size (← call.integerOr 3 (-1)))
  return [.string (bytes.extract (first - 1).toNat (max last (first - 1)).toNat)]

/-- What a part of a text is that a pattern has remembered: its bytes, or where it stands. -/
def captured (call : LibraryCall) (text : ByteArray) : Matching.Capture → Eval Raw
  | ⟨_, .opened⟩ => call.fail "unfinished capture"
  | ⟨start, .place⟩ => return .integer (Int64.ofNat (start + 1))
  | ⟨start, .length length⟩ => return .string (text.extract start (start + length))

/-- Looks for a pattern, or for a text as it is written if the fourth argument says so. -/
def find (call : LibraryCall) : Eval (List Raw) := do
  let bytes ← call.bytes 1
  let wanted ← call.bytes 2
  let first := max 1 (fromStart bytes.size (← call.integerOr 3 1))
  let place := (first - 1).toNat
  if bytes.size < place then return [.nil]
  else if (call.argument 4).isTrue || Matching.isPlain wanted.toList then
    match Matching.findPlain wanted.toList (bytes.toList.drop place) place with
    | some start => return span start (start + wanted.size)
    | none => return [.nil]
  else
    match Matching.find bytes wanted.toList place with
    | .ok (some (start, after, captures)) =>
      return span start after ++ (← captures.mapM (call.captured bytes))
    | .ok none => return [.nil]
    | .error message => call.fail message
where
  span (start after : Nat) : List Raw :=
    [.integer (Int64.ofNat (start + 1)), .integer (Int64.ofNat after)]

/-- A text with another one behind it some number of times. -/
def extended (piece : ByteArray) : Nat → ByteArray → ByteArray
  | 0, text => text
  | count + 1, text => extended piece count (text ++ piece)

/-- A text some number of times with a separator between. -/
def repeated (text separator : ByteArray) : Nat → ByteArray
  | 0 => .empty
  | count + 1 => extended (separator ++ text) count text

/-- The greatest size that a text can have at all, in bytes. -/
def maxSize : Nat := 0x7fffffffffffffff

/-- How many bytes of a text there is memory for. -/
def memory : Nat := 0xffffffff

def rep (call : LibraryCall) : Eval (List Raw) := do
  let text ← call.bytes 1
  let count := (← call.integer 2).toNat
  let separator ← call.bytesOrEmpty 3
  let size := count * (text.size + separator.size)
  if maxSize < size then call.fail "resulting string too large"
  if memory < size - separator.size then call.inside.raise (.ofString "not enough memory")
  return [.string (repeated text separator count)]

/-! ### Arithmetic of strings -/

/-- Leaves an operation to the metatable of the second operand, unless that is a string. -/
def leaveToSecond (call : LibraryCall) (name : String) : Eval (List Raw) := do
  let left := call.argument 1
  let right := call.argument 2
  let handler ← if right.isString then pure .nil else Site.metavalue right ("__" ++ name)
  if handler.isNil then
    call.fail ("attempt to " ++ name ++ " a '" ++ left.typeName ++ "' with a '" ++
      right.typeName ++ "'")
  else return [← call.inside.callOne handler [left, right]]

/-- Arithmetic of numbers and of strings that write numbers. -/
def arithmetic (call : LibraryCall) (operator : ArithmeticOperator) : Eval (List Raw) := do
  match (call.argument 1).toNumeral?, (call.argument 2).toNumeral? with
  | some left, some right =>
    match operator.result? left right with
    | some (.ok result) => return [.ofNumeral result]
    | some (.error fault) => call.inside.fail fault.message
    | none => return [.nil]
  | _, _ => call.leaveToSecond operator.name

/-- The opposite of a number that a string writes. -/
def negate (call : LibraryCall) : Eval (List Raw) := do
  match (call.argument 1).toNumeral?, (call.argument 2).toNumeral? with
  | some _, some (.integer value) => return [.integer (0 - value)]
  | some _, some (.number value) => return [.number value.negate]
  | _, _ => call.leaveToSecond "unm"

/-! ### The process -/

/-- Ends the process. Its status is the lowest byte of a number, or says whether there was success,
as there was if nothing is given. The second argument asks for all tables that wait to be told of
their end before. -/
def exit (call : LibraryCall) : Eval (List Raw) := do
  let status ← match call.argument 1 with
    | .boolean succeeded => pure (if succeeded then 0 else 1)
    | _ => call.integerOr 1 0
  if (call.argument 2).isTrue then
    call.inside.finalize (← Eval.ask .takeAwaiting)
  Eval.perform (.exit (UInt8.ofNat (status % 256).toNat))

end LibraryCall

namespace Builtin

/-- How many slots a function of the library can use. -/
def slots : Nat := 20

def run (builtin : Builtin) (arguments : List Raw) (site : Site) : Eval (List Raw) := do
  site.claim (site.height + 1 + arguments.length + slots)
  let call : LibraryCall := ⟨builtin, arguments, site⟩
  match builtin with
  | .type => return [.ofString (← call.any 1).typeName]
  | .tostring => return [.string (← call.inside.text site (← call.any 1))]
  | .tonumber => call.tonumber
  | .print => call.print
  | .error => call.error
  | .pcall => call.pcall
  | .xpcall => call.xpcall
  | .assert => call.assert
  | .select => call.select
  | .setmetatable => call.setmetatable
  | .getmetatable => call.getmetatable
  | .rawset => call.rawset
  | .rawget => call.rawget
  | .rawequal => call.rawequal
  | .rawlen => call.rawlen
  | .pairs => call.pairs
  | .ipairs => return [.function Builtin.ipairsStep.ref, ← call.any 1, .integer 0]
  | .ipairsStep => call.ipairsStep
  | .next => call.next
  | .mathType => call.mathType
  | .mathFloor => call.floor
  | .tableInsert => call.insert
  | .tableConcat => call.concat
  | .tableUnpack => call.unpack
  | .stringSub => call.sub
  | .stringFind => call.find
  | .stringRepeat => call.rep
  | .coroutineCreate =>
    match call.argument 1 with
    | .function _ => return [.thread (← Eval.ask .newNumber)]
    | _ => call.wrongType 1 "function"
  | .osExit => call.exit
  | .stringArithmetic operator => call.arithmetic operator
  | .stringNegate => call.negate
  | .fileText => return [.ofString "file (0x00000000000000)"]
  | .failureText =>
    match call.argument 1 with
    | .failure message _ => return [.ofString (Bridge.Error.script message).text]
    | value => return [value]
  | .describe => call.describe

end Builtin
end TileScript.Script
