import TileScript.Bridge.Error

/-!
Values written out in full at one moment.
-/

namespace TileScript.Bridge

/-- A value with everything that can be reached from it. -/
inductive Snapshot where
  | number (value : Double)
  | string (value : String)
  | boolean (value : Bool)
  | nil
  | function
  /-- The entries of a table, in the order of their keys. -/
  | table (entries : List (Snapshot × Snapshot))
  /-- A table that is inside itself. -/
  | cycle
  /-- A table that cannot be read. -/
  | unreadable (error : Error)
  deriving Repr, Inhabited

/-- A call of a native function that is noted, with its arguments at that moment. -/
structure TraceEntry where
  name : String
  arguments : List Snapshot
  deriving Repr, Inhabited

end TileScript.Bridge
