import TileScript.Text.Word
import TileScript.Text.Fold

/-!
Search patterns: sets of characters, conditions on a place in a text, and the trees built from them.
-/

namespace TileScript
namespace Pattern

/-- A set of characters as a pattern writes it. -/
inductive CharSet where
  | exactly (ranges : CharRanges)
  | anyCase (ranges : CharRanges)
  | complement (set : CharSet)
  | union (left right : CharSet)
  | intersection (left right : CharSet)
  | difference (left right : CharSet)
  | symmetricDifference (left right : CharSet)
  deriving DecidableEq, Repr, Inhabited

namespace CharSet

def empty : CharSet := .exactly []

def ofRanges (ranges : CharRanges) (ignoreCase : Bool) : CharSet :=
  if ignoreCase then .anyCase ranges else .exactly ranges

/-- Whether a character is in the set. Where case is ignored, one variant of it in the ranges is
enough. -/
def contains : CharSet → Char → Bool
  | .exactly ranges, c => ranges.contains c
  | .anyCase ranges, c =>
    (CaseFold.variants c.toNat).any fun code => ranges.contains (Char.ofNat code)
  | .complement set, c => !set.contains c
  | .union left right, c => left.contains c || right.contains c
  | .intersection left right, c => left.contains c && right.contains c
  | .difference left right, c => left.contains c && !right.contains c
  | .symmetricDifference left right, c => left.contains c != right.contains c

/-- The characters of a set as ranges in ascending order. -/
def ranges : CharSet → CharRanges
  | .exactly ranges => ranges.normal
  | .anyCase ranges => CaseFold.closure ranges
  | .complement set => set.ranges.complement
  | .union left right => left.ranges.union right.ranges
  | .intersection left right => left.ranges.intersection right.ranges
  | .difference left right => left.ranges.difference right.ranges
  | .symmetricDifference left right =>
    (left.ranges.difference right.ranges).union (right.ranges.difference left.ranges)

end CharSet

/-- A condition on a place in a text. -/
inductive Condition where
  | textStart
  | textEnd
  | lineStart
  | lineEnd
  /-- Of lines that may also end in a carriage return, with or without a line feed. -/
  | returnLineStart
  | returnLineEnd
  | wordBoundary
  | notWordBoundary
  | wordStart
  | wordEnd
  | wordStartHalf
  | wordEndHalf
  deriving DecidableEq, Repr

/-- Whether a condition holds between the character before a place and the one after it. -/
def Condition.holds (condition : Condition) (before after : Option Char) : Bool :=
  let inWord (c : Option Char) : Bool := c.any CharRanges.word.contains
  match condition with
  | .textStart => before.isNone
  | .textEnd => after.isNone
  | .lineStart => before.all (· == '\n')
  | .lineEnd => after.all (· == '\n')
  | .returnLineStart => before.all (· == '\n') || (before == some '\r' && after != some '\n')
  | .returnLineEnd => after.all (· == '\r') || (after == some '\n' && before != some '\r')
  | .wordBoundary => inWord before != inWord after
  | .notWordBoundary => inWord before == inWord after
  | .wordStart => !inWord before && inWord after
  | .wordEnd => inWord before && !inWord after
  | .wordStartHalf => !inWord before
  | .wordEndHalf => !inWord after

/-- What a pattern asks for. -/
inductive Node where
  | empty
  | set (set : CharSet)
  | condition (condition : Condition)
  | sequence (first second : Node)
  | choice (left right : Node)
  /-- At least `least` times, and at most `most` times if that is given. -/
  | repeated (node : Node) (least : Nat) (most : Option Nat)
  /-- A group whose part of the text is remembered. -/
  | capture (node : Node)
  deriving DecidableEq, Repr, Inhabited

namespace Node

/-- Whether all that the node can match is the empty text. -/
def isVacuous : Node → Bool
  | .empty | .condition _ => true
  | .set _ => false
  | .sequence first second => first.isVacuous && second.isVacuous
  | .choice left right => left.isVacuous && right.isVacuous
  | .repeated node _ _ | .capture node => node.isVacuous

/-- Whether the node can match the empty text, if its conditions hold. -/
def isNullable : Node → Bool
  | .empty | .condition _ => true
  | .set _ => false
  | .sequence first second => first.isNullable && second.isNullable
  | .choice left right => left.isNullable || right.isNullable
  | .repeated node least _ => least == 0 || node.isNullable
  | .capture node => node.isNullable

/-- One node after the other; nothing stands beside an empty one. -/
def followedBy : Node → Node → Node
  | .empty, second => second
  | first, .empty => first
  | first, second => .sequence first second

/-- A repetition. To repeat what matches only the empty text adds nothing after the first time. -/
def times (node : Node) (least : Nat) (most : Option Nat) : Node :=
  let (least, most) :=
    if node.isVacuous then (min least 1, some (min (most.getD 1) 1)) else (least, most)
  match least, most with
  | 0, some 0 => .empty
  | 1, some 1 => node
  | least, most => .repeated node least most

def set? : Node → Option CharSet
  | .set allowed => some allowed
  | _ => none

/-- One of some nodes; sets alone make one set. -/
def oneOf : List Node → Node
  | [] => .empty
  | [node] => node
  | node :: nodes =>
    match node.set?, nodes.mapM set? with
    | some first, some others => .set (others.foldl .union first)
    | _, _ => nodes.foldl .choice node

end Node

end Pattern

/-- A pattern: the text it was read from, and in which texts it is found. Patterns of one text are the
same. -/
structure Pattern where
  source : String
  isIn : String → Bool
  deriving Inhabited

instance : Repr Pattern := ⟨fun pattern => reprPrec pattern.source⟩

end TileScript
