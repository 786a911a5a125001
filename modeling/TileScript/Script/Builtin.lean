import TileScript.Script.Calculation

/-!
The functions that every script finds, and the tables they are found in. The library that scripts
have elsewhere is larger: what is not listed here is nil for them.
-/

namespace TileScript.Script

inductive Builtin where
  | type
  | tostring
  | tonumber
  | print
  | error
  | pcall
  | xpcall
  | assert
  | select
  | setmetatable
  | getmetatable
  | rawset
  | rawget
  | rawequal
  | rawlen
  | pairs
  | ipairs
  /-- One step of a loop over a list. -/
  | ipairsStep
  | next
  | mathType
  | mathFloor
  | tableInsert
  | tableConcat
  | tableUnpack
  | stringSub
  | stringFind
  | stringRepeat
  | coroutineCreate
  | osExit
  /-- Arithmetic of strings that write numbers. -/
  | stringArithmetic (operator : ArithmeticOperator)
  | stringNegate
  /-- The text of the standard output. -/
  | fileText
  /-- The text of what a native function raised. -/
  | failureText
  /-- What the host makes of a raised value where it is raised. -/
  | describe
  deriving DecidableEq, Repr

/-- The tables of the library. -/
inductive LibraryTable where
  | globals
  | string
  | table
  | math
  | coroutine
  | io
  | stringMeta
  /-- The metatable of the standard output. -/
  | fileMeta
  /-- The methods of the standard output. -/
  | fileMethods
  /-- The metatable of what native functions raise. -/
  | failureMeta
  | os
  deriving DecidableEq, Repr

namespace LibraryTable

/-- All tables, in the order in which a heap holds them at first. -/
def all : List LibraryTable :=
  [
    .globals, .string, .table, .math, .coroutine, .io, .stringMeta, .fileMeta, .fileMethods,
    .failureMeta, .os
  ]

def index : LibraryTable → Nat
  | .globals => 0
  | .string => 1
  | .table => 2
  | .math => 3
  | .coroutine => 4
  | .io => 5
  | .stringMeta => 6
  | .fileMeta => 7
  | .fileMethods => 8
  | .failureMeta => 9
  | .os => 10

def globalName? : LibraryTable → Option String
  | .globals => some "_G"
  | .string => some "string"
  | .table => some "table"
  | .math => some "math"
  | .coroutine => some "coroutine"
  | .io => some "io"
  | .os => some "os"
  | .stringMeta | .fileMeta | .fileMethods | .failureMeta => none

end LibraryTable

namespace Builtin

/-- The arithmetic that strings take part in. -/
def stringOperators : List ArithmeticOperator :=
  [.add, .subtract, .multiply, .modulo, .power, .divide, .floorDivide]

def all : List Builtin :=
  [
    .type, .tostring, .tonumber, .print, .error, .pcall, .xpcall, .assert, .select, .setmetatable,
    .getmetatable, .rawset, .rawget, .rawequal, .rawlen, .pairs, .ipairs, .ipairsStep, .next,
    .mathType, .mathFloor, .tableInsert, .tableConcat, .tableUnpack, .stringSub, .stringFind,
    .stringRepeat, .coroutineCreate, .stringNegate, .fileText, .failureText, .describe
  ] ++ stringOperators.map .stringArithmetic ++ [.osExit]

/-- Where a function is found: its table, and its name there. -/
def home? : Builtin → Option (LibraryTable × String)
  | .type => some (.globals, "type")
  | .tostring => some (.globals, "tostring")
  | .tonumber => some (.globals, "tonumber")
  | .print => some (.globals, "print")
  | .error => some (.globals, "error")
  | .pcall => some (.globals, "pcall")
  | .xpcall => some (.globals, "xpcall")
  | .assert => some (.globals, "assert")
  | .select => some (.globals, "select")
  | .setmetatable => some (.globals, "setmetatable")
  | .getmetatable => some (.globals, "getmetatable")
  | .rawset => some (.globals, "rawset")
  | .rawget => some (.globals, "rawget")
  | .rawequal => some (.globals, "rawequal")
  | .rawlen => some (.globals, "rawlen")
  | .pairs => some (.globals, "pairs")
  | .ipairs => some (.globals, "ipairs")
  | .next => some (.globals, "next")
  | .mathType => some (.math, "type")
  | .mathFloor => some (.math, "floor")
  | .tableInsert => some (.table, "insert")
  | .tableConcat => some (.table, "concat")
  | .tableUnpack => some (.table, "unpack")
  | .stringSub => some (.string, "sub")
  | .stringFind => some (.string, "find")
  | .stringRepeat => some (.string, "rep")
  | .coroutineCreate => some (.coroutine, "create")
  | .osExit => some (.os, "exit")
  | .stringArithmetic operator => some (.stringMeta, "__" ++ operator.name)
  | .stringNegate => some (.stringMeta, "__unm")
  | .fileText => some (.fileMeta, "__tostring")
  | .failureText => some (.failureMeta, "__tostring")
  | .ipairsStep | .describe => none

end Builtin
end TileScript.Script
