import TileScript.Script.Heap

/-!
What can be reached in a heap: some values, and whatever they hold on to, directly or through others.
-/

namespace TileScript.Script

/-- What can hold on to values. -/
inductive Holder where
  | table (place : TableRef)
  | function (place : FunctionRef)
  | cell (place : CellRef)
  deriving DecidableEq, Repr, Inhabited

/-- The holder that a value is. What a thread would run is not kept, so it holds on to nothing. -/
def Raw.holder? : Raw → Option Holder
  | .table place => some (.table place)
  | .function place => some (.function place)
  | _ => none

/-- A mark for every holder of a heap. -/
structure HolderMarks where
  tables : Array Bool
  functions : Array Bool
  cells : Array Bool

namespace HolderMarks

def empty (heap : Heap) : HolderMarks :=
  ⟨.replicate heap.tables.size false, .replicate heap.functions.size false,
    .replicate heap.cells.size false⟩

def has (marks : HolderMarks) : Holder → Bool
  | .table place => marks.tables[place.index]?.getD false
  | .function place => marks.functions[place.index]?.getD false
  | .cell place => marks.cells[place.index]?.getD false

def add (marks : HolderMarks) (holder : Holder) : HolderMarks :=
  match marks with
  | ⟨tables, functions, cells⟩ =>
    match holder with
    | .table place => ⟨tables.setIfInBounds place.index true, functions, cells⟩
    | .function place => ⟨tables, functions.setIfInBounds place.index true, cells⟩
    | .cell place => ⟨tables, functions, cells.setIfInBounds place.index true⟩

end HolderMarks

namespace Heap

/-- Which of its entries a table does not hold on to: those that are weak in their keys, and those
that are weak in their values. -/
def weakness (heap : Heap) (object : TableObject) : Bool × Bool :=
  match object.metatable.map fun place => (heap.table place).get (.ofString "__mode") with
  | some (.string mode) =>
    (mode.toList.contains (UInt8.ofNat 'k'.toNat), mode.toList.contains (UInt8.ofNat 'v'.toNat))
  | _ => (false, false)

/-- What a holder holds on to directly. -/
def heldBy (heap : Heap) : Holder → List Holder
  | .table place =>
    let object := heap.table place
    let (weakKeys, weakValues) := heap.weakness object
    let entries := object.present.flatMap fun (key, value) =>
      (if weakKeys then [] else key.holder?.toList) ++
        if weakValues then [] else value.holder?.toList
    object.metatable.toList.map .table ++ entries
  | .function place =>
    match heap.functions[place.index]? with
    | some (.closure closure) => closure.upvalues.toList.map .cell
    | _ => []
  | .cell place => (heap.cell place).holder?.toList

/-- Marks what is pending and everything that it holds on to. -/
def mark (heap : Heap) : (fuel : Nat) → (pending : List Holder) → HolderMarks → HolderMarks
  | 0, _, marks => marks
  | _, [], marks => marks
  | fuel + 1, holder :: pending, marks =>
    if marks.has holder then mark heap fuel pending marks
    else mark heap fuel (heap.heldBy holder ++ pending) (marks.add holder)

/-- All holders there are. -/
def holders (heap : Heap) : List Holder :=
  (List.range heap.tables.size).map (fun index => .table ⟨index⟩) ++
    (List.range heap.functions.size).map (fun index => .function ⟨index⟩) ++
    (List.range heap.cells.size).map fun index => .cell ⟨index⟩

/-- Marks everything that can be reached from some values. Every holder becomes pending once for
each time that it is held. -/
def reachable (heap : Heap) (roots : List Raw) : HolderMarks :=
  let pending := roots.filterMap Raw.holder?
  let links := heap.holders.flatMap heap.heldBy
  heap.mark (pending.length + links.length) pending (.empty heap)

/-- The tables that wait for their end and cannot be reached from some values any more. They wait no
longer. -/
def takeLost (heap : Heap) (roots : List Raw) : List TableRef × Heap :=
  if heap.awaiting.isEmpty then ([], heap)
  else
    let marks := heap.reachable roots
    heap.takeAwaiting fun place => !marks.has (.table place)

theorem tables_takeLost (heap : Heap) (roots : List Raw) : (heap.takeLost roots).2.tables = heap.tables := by
  unfold takeLost
  split
  · rfl
  · exact tables_takeAwaiting heap _

theorem functions_takeLost (heap : Heap) (roots : List Raw) :
    (heap.takeLost roots).2.functions = heap.functions := by
  unfold takeLost
  split
  · rfl
  · exact functions_takeAwaiting heap _

end Heap
end TileScript.Script
