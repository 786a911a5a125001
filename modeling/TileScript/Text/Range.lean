/-!
Sets of characters as lists of code point ranges, and the Unicode properties that the language of
patterns and the splitting of commands ask for.
-/

namespace TileScript

/-- A set of code points as inclusive ranges. -/
abbrev CharRanges := List (Nat × Nat)

namespace CharRanges

def contains (ranges : CharRanges) (c : Char) : Bool :=
  ranges.any fun (first, last) => decide (first ≤ c.toNat) && decide (c.toNat ≤ last)

/-- Merges ranges that overlap or touch; they are in ascending order. -/
def joined : CharRanges → CharRanges
  | [] => []
  | [range] => [range]
  | (first, last) :: (start, stop) :: rest =>
    if start ≤ last + 1 then joined ((first, max last stop) :: rest)
    else (first, last) :: joined ((start, stop) :: rest)
  termination_by ranges => ranges.length

/-- The same set as ranges in ascending order with gaps between them. -/
def normal (ranges : CharRanges) : CharRanges :=
  joined (ranges.mergeSort fun a b => decide (a.1 ≤ b.1))

/-- The greatest code point. -/
def greatest : Nat := 0x10ffff

/-- The codes from `start` on that are in none of the ranges, which are in ascending order. -/
def gaps (start : Nat) : CharRanges → CharRanges
  | [] => if start ≤ greatest then [(start, greatest)] else []
  | (first, last) :: rest =>
    if start < first then (start, first - 1) :: gaps (last + 1) rest else gaps (last + 1) rest

def complement (ranges : CharRanges) : CharRanges := gaps 0 ranges.normal

def union (left right : CharRanges) : CharRanges := normal (left ++ right)

def intersection (left right : CharRanges) : CharRanges :=
  (left.complement.union right.complement).complement

def difference (left right : CharRanges) : CharRanges := left.intersection right.complement

/-- The property White_Space. -/
def blank : CharRanges :=
  [
    (0x9, 0xd), (0x20, 0x20), (0x85, 0x85), (0xa0, 0xa0), (0x1680, 0x1680), (0x2000, 0x200a),
    (0x2028, 0x2029), (0x202f, 0x202f), (0x205f, 0x205f), (0x3000, 0x3000)
  ]

/-- The decimal digits of every script (general category Nd). -/
def digit : CharRanges :=
  [
    (0x30, 0x39), (0x660, 0x669), (0x6f0, 0x6f9), (0x7c0, 0x7c9), (0x966, 0x96f), (0x9e6, 0x9ef),
    (0xa66, 0xa6f), (0xae6, 0xaef), (0xb66, 0xb6f), (0xbe6, 0xbef), (0xc66, 0xc6f), (0xce6, 0xcef),
    (0xd66, 0xd6f), (0xde6, 0xdef), (0xe50, 0xe59), (0xed0, 0xed9), (0xf20, 0xf29),
    (0x1040, 0x1049), (0x1090, 0x1099), (0x17e0, 0x17e9), (0x1810, 0x1819), (0x1946, 0x194f),
    (0x19d0, 0x19d9), (0x1a80, 0x1a89), (0x1a90, 0x1a99), (0x1b50, 0x1b59), (0x1bb0, 0x1bb9),
    (0x1c40, 0x1c49), (0x1c50, 0x1c59), (0xa620, 0xa629), (0xa8d0, 0xa8d9), (0xa900, 0xa909),
    (0xa9d0, 0xa9d9), (0xa9f0, 0xa9f9), (0xaa50, 0xaa59), (0xabf0, 0xabf9), (0xff10, 0xff19),
    (0x104a0, 0x104a9), (0x10d30, 0x10d39), (0x10d40, 0x10d49), (0x11066, 0x1106f),
    (0x110f0, 0x110f9), (0x11136, 0x1113f), (0x111d0, 0x111d9), (0x112f0, 0x112f9),
    (0x11450, 0x11459), (0x114d0, 0x114d9), (0x11650, 0x11659), (0x116c0, 0x116c9),
    (0x116d0, 0x116e3), (0x11730, 0x11739), (0x118e0, 0x118e9), (0x11950, 0x11959),
    (0x11bf0, 0x11bf9), (0x11c50, 0x11c59), (0x11d50, 0x11d59), (0x11da0, 0x11da9),
    (0x11f50, 0x11f59), (0x16130, 0x16139), (0x16a60, 0x16a69), (0x16ac0, 0x16ac9),
    (0x16b50, 0x16b59), (0x16d70, 0x16d79), (0x1ccf0, 0x1ccf9), (0x1d7ce, 0x1d7ff),
    (0x1e140, 0x1e149), (0x1e2f0, 0x1e2f9), (0x1e4f0, 0x1e4f9), (0x1e5f1, 0x1e5fa),
    (0x1e950, 0x1e959), (0x1fbf0, 0x1fbf9)
  ]

end CharRanges

/-- White space of any script. -/
def isBlank (c : Char) : Bool := CharRanges.blank.contains c

end TileScript
