import TileScript.Bridge.Native
import TileScript.Script.Builtin
import TileScript.Script.Fields
import TileScript.Script.Instruction

/-!
The heap of a context. It only grows: what was once allocated stays at its place, and its identity
is never given to another object.
-/

namespace TileScript.Script

/-- A function of a script with the variables around it that it uses. -/
structure Closure where
  function : Prototype
  upvalues : Array CellRef
  deriving Inhabited

inductive FunctionObject where
  | closure (closure : Closure)
  | builtin (builtin : Builtin)
  | native (native : Bridge.Native)
  deriving Inhabited

/-- What a table holds: the values at 1, 2, … up to some place, and all others by their keys. -/
structure Contents where
  items : Array Raw
  others : Fields
  deriving Inhabited

namespace Contents

def empty : Contents := ⟨#[], .empty⟩

/-- Where the value of a key is among the items. -/
def item? (contents : Contents) : Raw → Option Nat
  | .integer n =>
    if 1 ≤ n.toInt && n.toInt ≤ contents.items.size then some (n.toInt.toNat - 1) else none
  | _ => none

/-- The value at a key in normal form, nil if there is none. -/
def get (contents : Contents) (key : Raw) : Raw :=
  match contents.item? key with
  | some index => contents.items[index]?.getD .nil
  | none => contents.others.get key

/-- Sets the value at a key in normal form. -/
def set (contents : Contents) (key value : Raw) : Contents :=
  match contents.item? key with
  | some index => { contents with items := contents.items.setIfInBounds index value }
  | none =>
    if key = .integer (Int64.ofNat (contents.items.size + 1)) && !value.isNil then
      ⟨contents.items.push value, contents.others.set key .nil⟩
    else { contents with others := contents.others.set key value }

/-- The entries that are there. -/
def present (contents : Contents) : List (Raw × Raw) :=
  let items := contents.items.toList.zipIdx.map fun (value, index) =>
    (Raw.integer (Int64.ofNat (index + 1)), value)
  (items ++ contents.others.toList).filter fun entry => !entry.2.isNil

end Contents

structure TableObject where
  contents : Contents
  arrangement : Arrangement
  metatable : Option TableRef
  deriving Inhabited

namespace TableObject

def empty (items fields : Nat) : TableObject := ⟨.empty, .empty items fields, none⟩

def get (table : TableObject) (key : Raw) : Raw := table.contents.get key.toKey

def present (table : TableObject) : List (Raw × Raw) := table.contents.present

/-- Whether there is a value at a key in normal form. -/
def holds (contents : Contents) (key : Raw) : Bool := !(contents.get key).isNil

/-- Sets a value. A new key gets a place in the arrangement. -/
def set (table : TableObject) (key value : Raw) : TableObject :=
  let ⟨contents, arrangement, metatable⟩ := table
  let key := key.toKey
  let arrangement := arrangement.touch key
  let arrangement :=
    if value.isNil then arrangement else arrangement.insert (holds contents) key
  ⟨contents.set key value, arrangement, metatable⟩

/-- Sets the items after the first `stored` ones. -/
def setItems (table : TableObject) (stored : Nat) (values : List Raw) : TableObject :=
  let ⟨contents, arrangement, metatable⟩ := table
  let arrangement := arrangement.reserve (holds contents) (stored + values.length)
  let contents := values.zipIdx.foldl
    (fun contents (value, index) => contents.set (Arrangement.itemKey (stored + index + 1)) value)
    contents
  ⟨contents, arrangement, metatable⟩

/-- Whether reading leaves the table as it is. -/
def isSettled (table : TableObject) : Bool := table.arrangement.items ≤ table.arrangement.hint

/-- Notes that a key is read. -/
def touch (table : TableObject) (key : Raw) : TableObject :=
  let ⟨contents, arrangement, metatable⟩ := table
  ⟨contents, arrangement.touch key.toKey, metatable⟩

/-- A count of places that are taken, with the next one free. -/
def border (table : TableObject) : Nat × TableObject :=
  let ⟨contents, arrangement, metatable⟩ := table
  let (found, arrangement) := arrangement.border (holds contents)
  (found, ⟨contents, arrangement, metatable⟩)

/-- The entry after a key, the first one after nil; `none` if there is no such key. -/
def following (table : TableObject) (key : Raw) : Option (Option (Raw × Raw)) :=
  (table.arrangement.following (holds table.contents) key).map fun next =>
    next.map fun key => (key, table.contents.get key)

end TableObject

structure Heap where
  tables : Array TableObject
  functions : Array FunctionObject
  cells : Array Raw
  /-- How many threads and failures have got a number. -/
  numbers : Nat
  printed : ByteArray
  /-- The tables that are to be told of their end, the one that asked for it last first. -/
  awaiting : List TableRef
  deriving Inhabited

namespace Heap

def libraryRef (library : LibraryTable) : TableRef := ⟨library.index⟩

def globals : TableRef := libraryRef .globals

def table (heap : Heap) (place : TableRef) : TableObject :=
  heap.tables[place.index]?.getD (.empty 0 0)

def modifyTable (heap : Heap) (place : TableRef) (change : TableObject → TableObject) : Heap :=
  match heap with
  | ⟨tables, functions, cells, numbers, printed, awaiting⟩ =>
    ⟨tables.modify place.index change, functions, cells, numbers, printed, awaiting⟩

def newTable (heap : Heap) (object : TableObject) : TableRef × Heap :=
  match heap with
  | ⟨tables, functions, cells, numbers, printed, awaiting⟩ =>
    (⟨tables.size⟩, ⟨tables.push object, functions, cells, numbers, printed, awaiting⟩)

def newFunction (heap : Heap) (object : FunctionObject) : FunctionRef × Heap :=
  match heap with
  | ⟨tables, functions, cells, numbers, printed, awaiting⟩ =>
    (⟨functions.size⟩, ⟨tables, functions.push object, cells, numbers, printed, awaiting⟩)

def cell (heap : Heap) (cell : CellRef) : Raw := heap.cells[cell.index]?.getD .nil

def newCell (heap : Heap) (value : Raw) : CellRef × Heap :=
  match heap with
  | ⟨tables, functions, cells, numbers, printed, awaiting⟩ =>
    (⟨cells.size⟩, ⟨tables, functions, cells.push value, numbers, printed, awaiting⟩)

def setCell (heap : Heap) (cell : CellRef) (value : Raw) : Heap :=
  match heap with
  | ⟨tables, functions, cells, numbers, printed, awaiting⟩ =>
    ⟨tables, functions, cells.setIfInBounds cell.index value, numbers, printed, awaiting⟩

/-- Takes in a chunk. The variables around it are those of its environment. -/
def newChunk (heap : Heap) (function : Prototype) : FunctionRef × Heap :=
  let (cell, heap) := heap.newCell (.table globals)
  heap.newFunction (.closure ⟨function, #[cell]⟩)

/-- A number that no thread or failure has. -/
def newNumber (heap : Heap) : Nat × Heap :=
  match heap with
  | ⟨tables, functions, cells, numbers, printed, awaiting⟩ =>
    (numbers, ⟨tables, functions, cells, numbers + 1, printed, awaiting⟩)

def print (heap : Heap) (text : ByteArray) : Heap :=
  match heap with
  | ⟨tables, functions, cells, numbers, printed, awaiting⟩ =>
    ⟨tables, functions, cells, numbers, printed ++ text, awaiting⟩

/-! ### The end of tables -/

/-- Whether tables with a metatable are to be told of their end. -/
def isFinalizing (heap : Heap) (metatable : TableRef) : Bool :=
  !((heap.table metatable).get (.ofString "__gc")).isNil

/-- Lets a table wait for its end. It waits once, however often this is asked for. -/
def await (heap : Heap) (place : TableRef) : Heap :=
  match heap with
  | ⟨tables, functions, cells, numbers, printed, awaiting⟩ =>
    ⟨tables, functions, cells, numbers, printed,
      if awaiting.contains place then awaiting else place :: awaiting⟩

/-- Gives a table a metatable, or takes it away. What the metatable says of the end of the table
counts as it is now. -/
def setMetatable (heap : Heap) (place : TableRef) (chosen : Option TableRef) : Heap :=
  let heap := heap.modifyTable place fun object => { object with metatable := chosen }
  if chosen.any heap.isFinalizing then heap.await place else heap

theorem tables_setMetatable (heap : Heap) (place : TableRef) (chosen : Option TableRef) :
    (heap.setMetatable place chosen).tables =
      heap.tables.modify place.index fun object => { object with metatable := chosen } := by
  simp only [setMetatable]
  split <;> rfl

theorem functions_setMetatable (heap : Heap) (place : TableRef) (chosen : Option TableRef) :
    (heap.setMetatable place chosen).functions = heap.functions := by
  simp only [setMetatable]
  split <;> rfl

/-- The tables among those that wait for which it is time, which wait no longer. -/
def takeAwaiting (heap : Heap) (isDue : TableRef → Bool) : List TableRef × Heap :=
  match heap with
  | ⟨tables, functions, cells, numbers, printed, awaiting⟩ =>
    let (due, others) := awaiting.partition isDue
    (due, ⟨tables, functions, cells, numbers, printed, others⟩)

theorem tables_takeAwaiting (heap : Heap) (isDue : TableRef → Bool) :
    (heap.takeAwaiting isDue).2.tables = heap.tables := rfl

theorem functions_takeAwaiting (heap : Heap) (isDue : TableRef → Bool) :
    (heap.takeAwaiting isDue).2.functions = heap.functions := rfl

/-! ### The library -/

def metatable (heap : Heap) : Raw → Option TableRef
  | .table table => (heap.table table).metatable
  | .string _ => some (libraryRef .stringMeta)
  | .file => some (libraryRef .fileMeta)
  | .failure _ _ => some (libraryRef .failureMeta)
  | _ => none

/-- The values of the library that are no functions. -/
def constants : LibraryTable → List (Raw × Raw)
  | .globals =>
    LibraryTable.all.filterMap fun library =>
      library.globalName?.map fun name => (.ofString name, .table (libraryRef library))
  | .math =>
    [
      (.ofString "maxinteger", .integer (Int64.ofInt Double.maxInteger)),
      (.ofString "mininteger", .integer (Int64.ofInt Double.minInteger)),
      (.ofString "huge", .number (.ofSignMagnitude false Double.infiniteMagnitude))
    ]
  | .io => [(.ofString "stdout", .file)]
  | .stringMeta => [(.ofString "__index", .table (libraryRef .string))]
  | .fileMeta =>
    [
      (.ofString "__name", .ofString "FILE*"),
      (.ofString "__index", .table (libraryRef .fileMethods))
    ]
  | .failureMeta => [(.ofString "__metatable", .boolean false)]
  | _ => []

/-- A table of the library, with the functions at home in it. -/
def libraryTable (library : LibraryTable) : TableObject :=
  let functions := Builtin.all.zipIdx.filterMap fun (builtin, index) =>
    match builtin.home? with
    | some (home, name) =>
      if home = library then some (Raw.ofString name, Raw.function ⟨index⟩) else none
    | none => none
  (functions ++ constants library).foldl (fun object (key, value) => object.set key value)
    (.empty 0 0)

/-- The heap before any script. -/
def initial : Heap where
  tables := (LibraryTable.all.map libraryTable).toArray
  functions := (Builtin.all.map FunctionObject.builtin).toArray
  cells := #[]
  numbers := 0
  printed := .empty
  awaiting := []

/-- The name under which the library holds a function. -/
def libraryName? (heap : Heap) (function : FunctionRef) : Option ByteArray :=
  LibraryTable.all.findSome? fun library =>
    match library.globalName? with
    | none => none
    | some name =>
      (heap.table (libraryRef library)).present.findSome? fun
        | (.string key, .function found) =>
          if found = function then
            some (if library = .globals then key else (name ++ ".").toUTF8 ++ key)
          else none
        | _ => none

end Heap

def Builtin.ref (builtin : Builtin) : FunctionRef := ⟨Builtin.all.idxOf builtin⟩

end TileScript.Script
