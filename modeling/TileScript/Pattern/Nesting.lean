import TileScript.Pattern.Fault

/-!
How deep the parts of a pattern lie in each other. Groups, repetitions, classes and their operators
nest, and so do sequences and alternatives of more than one part.
-/

namespace TileScript
namespace Pattern

/-- For each depth, outermost first, where the first part at that depth is written. -/
abbrev Nesting := List Span

namespace Nesting

/-- The nesting of two parts side by side: at each depth the earlier part comes first. -/
def beside (earlier later : Nesting) : Nesting := earlier ++ later.drop earlier.length

/-- The nesting of parts side by side, in their order. -/
def ofParts (parts : List Nesting) : Nesting := parts.foldl beside []

/-- The greatest depth of a pattern. -/
def limit : Nat := 250

/-- The first part that lies too deep. -/
def excess? (nesting : Nesting) : Option Span := nesting[limit]?

theorem excess?_eq_none_iff (nesting : Nesting) : nesting.excess? = none ↔ nesting.length ≤ limit :=
  List.getElem?_eq_none_iff

end Nesting
end Pattern
end TileScript
