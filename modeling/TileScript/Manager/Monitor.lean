import TileScript.Number.Unsigned
import TileScript.Number.Double
import TileScript.Pattern.Search
import TileScript.Pattern.Reader

/-!
Monitors, their order, and the texts that refer to them: the main one, the secondary of two, a place
in the order, or a pattern for the name.
-/

namespace TileScript

structure Rect where
  x : Double
  y : Double
  width : Double
  height : Double
  deriving DecidableEq, Repr, Inhabited

structure Monitor where
  id : Int
  name : String
  rect : Rect
  activeWorkspace : String
  isMain : Bool
  deriving DecidableEq, Repr, Inhabited

namespace Monitor

/-- Whether `a` comes no later than `b`: from left to right, then from top to bottom, in the total
order of bit patterns. -/
def notAfter (a b : Monitor) : Bool :=
  decide (a.rect.x.rank < b.rect.x.rank) ||
    (a.rect.x.rank == b.rect.x.rank && decide (a.rect.y.rank ≤ b.rect.y.rank))

/-- Monitors in their order; those at the same place stay as they are. -/
def sort (monitors : List Monitor) : List Monitor := monitors.mergeSort notAfter

/-- Whether two monitors have the same top left corner, as numbers. -/
def sameCorner (a b : Monitor) : Bool := a.rect.x.equals b.rect.x && a.rect.y.equals b.rect.y

end Monitor

/-- A reference to a monitor. -/
inductive MonitorRef where
  | main
  | secondary
  /-- A place in the order of monitors, from one. -/
  | sequence (number : Nat)
  /-- The first monitor whose name has a match. -/
  | pattern (name : Pattern)
  deriving Repr, Inhabited

namespace MonitorRef

/-- What is wrong with the text of a reference. -/
inductive Fault where
  | zero
  | empty
  | pattern (refusal : Pattern.Refusal)
  deriving DecidableEq, Repr

def Fault.message (text : String) : Fault → String
  | .zero => "Monitor sequence numbers start from 1"
  | .empty => "Empty string is an illegal monitor description"
  | .pattern cause => "Can't parse '" ++ text ++ "' regex: " ++ cause.report text

/-- The greatest place in a sequence. -/
def maxSequence : Nat := 0xffffffffffffffff

/-- The reference that a text writes. What is no number in range is a pattern of the dialect. -/
def read (dialect : Pattern.Dialect) (text : String) : Except Fault MonitorRef :=
  if text = "main" then .ok .main
  else if text = "secondary" then .ok .secondary
  else
    match unsigned? maxSequence text.toList with
    | some 0 => .error .zero
    | some number => .ok (.sequence number)
    | none =>
      if text.isEmpty then .error .empty
      else
        match dialect.read text with
        | .ok name => .ok (.pattern name)
        | .error refusal => .error (.pattern refusal)

/-- The reference that a text writes in the standard dialect. -/
def ofString (text : String) : Except Fault MonitorRef := read .standard text

def text : MonitorRef → String
  | .main => "main"
  | .secondary => "secondary"
  | .sequence number => toString number
  | .pattern name => name.source

/-- The monitor meant among monitors in their order. -/
def resolve : MonitorRef → List Monitor → Option Monitor
  | .main, sorted => sorted.find? (·.isMain)
  | .secondary, sorted =>
    match sorted with
    | [a, b] => some (if a.isMain then b else a)
    | _ => none
  | .sequence 0, _ => none
  | .sequence (number + 1), sorted => sorted[number]?
  | .pattern name, sorted => sorted.find? fun monitor => name.isIn monitor.name

/-- Equality of references: patterns by the text they were read from. -/
def same : MonitorRef → MonitorRef → Bool
  | .main, .main => true
  | .secondary, .secondary => true
  | .sequence a, .sequence b => a == b
  | .pattern a, .pattern b => a.source == b.source
  | _, _ => false

end MonitorRef
end TileScript
