import TileScript.Pattern.Basic
import TileScript.Text.ByteSequence

/-!
The size of a pattern: the memory of the automaton over bytes that searches for it. There is one
that reads a text forward and remembers captured parts, and one that reads it backward; the larger
one counts. A state takes `stateSize` bytes, with `rangeSize` for each byte range and `branchSize`
for each branch of a state that has several.
-/

namespace TileScript
namespace Pattern

/-- Memory in bytes of the automaton for either direction. -/
structure Size where
  forward : Nat
  backward : Nat
  deriving DecidableEq, Repr

namespace Size

/-- The same in both directions. -/
def both (bytes : Nat) : Size := ⟨bytes, bytes⟩

instance : Add Size := ⟨fun a b => ⟨a.forward + b.forward, a.backward + b.backward⟩⟩

/-- Several copies. -/
def times (count : Nat) (size : Size) : Size := ⟨count * size.forward, count * size.backward⟩

def stateSize : Nat := 32

def rangeSize : Nat := 8

def branchSize : Nat := 4

/-! ### Sets of characters -/

/-- The byte sequences that remain after each first byte range of some sequences. -/
def continuations (sequences : List ByteSequence) : List (List ByteSequence) :=
  (sequences.splitBy fun a b => a.head? == b.head?).map fun group => group.map List.tail

/-- All that can remain of the sequences after some of their byte ranges, up to a depth. What
remains when a sequence is over is left out. -/
def remainders : Nat → List ByteSequence → List (List ByteSequence)
  | 0, _ => []
  | depth + 1, sequences =>
    if sequences.all (·.isEmpty) then []
    else sequences :: (continuations sequences).flatMap (remainders depth)

/-- The number of byte ranges that can come next. -/
def branching (sequences : List ByteSequence) : Nat := (continuations sequences).length

def total (counts : List Nat) : Nat := counts.foldl (· + ·) 0

/-- The longest encoding of a character. -/
def maxBytes : Nat := 4

/-- The automaton of a set. A single character is a chain of bytes, and ASCII characters are told
apart by one state. Otherwise, what reads forward shares the states from which the same bytes can
follow, and what reads backward shares the states that the same bytes lead to. -/
def ofRanges (ranges : CharRanges) : Size :=
  let sequences := ByteSequence.ofRanges ranges
  let single := match ranges with
    | [(first, last)] => first == last
    | _ => false
  if single then
    both (stateSize * total (sequences.map List.length))
  else if ranges.all fun (_, last) => decide (last < 0x80) then
    both (2 * stateSize + rangeSize * ranges.length)
  else
    let states := remainders maxBytes sequences
    let shared := states.eraseDups
    ⟨stateSize * (shared.length + 1) + rangeSize * total (shared.map branching),
      stateSize * (total (states.map branching) + 2) + branchSize * sequences.length⟩

end Size

open Size

/-- The automaton of a node; `asBranch` says that it is one of several alternatives. -/
def Node.automaton (asBranch : Bool) : Node → Size
  | .choice left right =>
    left.automaton true + right.automaton true + both (if asBranch then 0 else 2 * stateSize)
  | .empty | .condition _ => both (stateSize + (if asBranch then branchSize else 0))
  | .set allowed =>
    Size.ofRanges allowed.ranges + both (if asBranch then branchSize else 0)
  | .sequence first second =>
    first.automaton false + second.automaton false + both (if asBranch then branchSize else 0)
  | .capture node =>
    node.automaton false + ⟨2 * stateSize, 0⟩ + both (if asBranch then branchSize else 0)
  | .repeated node least most =>
    let one := node.automaton false
    let loop := both (stateSize + 2 * branchSize)
    let whole := match least, most with
      | 0, some 1 => one + loop + both stateSize
      | 0, none =>
        if node.isNullable then one + loop + loop + both stateSize else one + loop
      | least, none => one.times least + loop
      | 0, some most => (one + loop).times most + both (2 * stateSize)
      | least, some most =>
        if least = most then one.times least
        else one.times least + (one + loop).times (most - least) + both stateSize
    whole + both (if asBranch then branchSize else 0)

/-- The size of a pattern. Both automata may begin anywhere, and end in a state of their own; the
one that reads forward remembers where the match starts and ends. -/
def Node.size (node : Node) : Nat :=
  let size := node.automaton false
  let anywhere := 3 * stateSize + rangeSize + 2 * branchSize
  max (size.forward + anywhere + 3 * stateSize) (size.backward + anywhere + stateSize)

end Pattern
end TileScript
