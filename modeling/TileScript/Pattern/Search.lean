import TileScript.Pattern.Basic

/-!
Search for a pattern anywhere in a text. A set of places of the text is a list of marks, one for
each place; every node maps the places where a match may start to those where it may end.
-/

namespace TileScript
namespace Pattern

/-- One mark for each place of a text: before every character, and at the end. -/
abbrev Marks := List Bool

namespace Marks

def union (a b : Marks) : Marks := List.zipWith (· || ·) a b

/-- What precedes and follows each place of a text. -/
def surroundings : Option Char → List Char → List (Option Char × Option Char)
  | before, [] => [(before, none)]
  | before, c :: rest => (before, some c) :: surroundings (some c) rest

/-- The places where a condition holds. -/
def holding (condition : Condition) (text : List Char) : Marks :=
  (surroundings none text).map fun (before, after) => condition.holds before after

/-- The places one character of the set further on. -/
def advance (set : CharSet) (text : List Char) (marks : Marks) : Marks :=
  false :: List.zipWith (fun mark c => mark && set.contains c) marks text

/-- `step` taken exactly `count` times; a step that changes nothing is not taken again. -/
def iterate (step : Marks → Marks) : Nat → Marks → Marks
  | 0, marks => marks
  | count + 1, marks =>
    let next := step marks
    if next == marks then marks else iterate step count next

/-- `reached`, and what at most `count` steps from `fresh` add to it. Only places that were not
reached before are stepped from. -/
def extend (step : Marks → Marks) : Nat → (reached fresh : Marks) → Marks
  | 0, reached, _ => reached
  | count + 1, reached, fresh =>
    if fresh.any id then
      let fresh := List.zipWith (fun old new => new && !old) reached (step fresh)
      extend step count (union reached fresh) fresh
    else
      reached

end Marks

/-- The places where a match of the node may end that starts at one of the given places. A
repetition without a bound is taken as often as the text has places: more non-empty rounds than that
do not fit. -/
def Node.reach (text : List Char) : Node → Marks → Marks
  | .empty, marks => marks
  | .set allowed, marks => Marks.advance allowed text marks
  | .condition needed, marks => List.zipWith (· && ·) marks (Marks.holding needed text)
  | .sequence first second, marks => second.reach text (first.reach text marks)
  | .choice left right, marks => Marks.union (left.reach text marks) (right.reach text marks)
  | .repeated node least most, marks =>
    let rounds := match most with
      | some most => most - least
      | none => marks.length
    let begun := Marks.iterate (node.reach text) least marks
    Marks.extend (node.reach text) rounds begun begun
  | .capture node, marks => node.reach text marks

def Node.isIn (node : Node) (text : String) : Bool :=
  (node.reach text.toList (List.replicate (text.toList.length + 1) true)).any id

end Pattern
end TileScript
