import TileScript.Text.Range

/-!
Ranges of characters as sequences of byte ranges of their UTF-8 encodings: a character is in one of
the ranges exactly when, byte by byte, its encoding is in one of the sequences.
-/

namespace TileScript

/-- Byte ranges, one for each byte of an encoding. -/
abbrev ByteSequence := List (Nat × Nat)

namespace ByteSequence

/-- The codes that are encoded in one length, with the base of the first byte and the number of
bytes that follow it. Surrogates are encoded in none. -/
def lengths : List (Nat × Nat × Nat × Nat) :=
  [
    (0x0, 0x7f, 0x0, 0), (0x80, 0x7ff, 0xc0, 1), (0x800, 0xd7ff, 0xe0, 2),
    (0xe000, 0xffff, 0xe0, 2), (0x10000, 0x10ffff, 0xf0, 3)
  ]

/-- How many codes share a first byte that `count` bytes follow. -/
def block (count : Nat) : Nat := 0x40 * (match count with | 0 | 1 => 1 | 2 => 0x40 | _ => 0x1000)

/-- The sequences for the codes from `first` to `last` whose first byte counts from `base` and is
followed by as many bytes as the second argument says. A first byte with all that can follow it is
kept apart from one with less. -/
def pieces (base : Nat) : Nat → (first last : Nat) → List ByteSequence
  | 0, first, last => [[(base + first, base + last)]]
  | count + 1, first, last =>
    let size := block (count + 1)
    let low := first / size
    let high := last / size
    let under (lead start stop : Nat) : List ByteSequence :=
      (pieces 0x80 count start stop).map ((base + lead, base + lead) :: ·)
    if low = high then
      under low (first % size) (last % size)
    else
      let startsWhole := first % size = 0
      let endsWhole := last % size = size - 1
      let begin := if startsWhole then low else low + 1
      let stop := if endsWhole then high + 1 else high
      let whole : List ByteSequence :=
        if begin < stop then
          [(base + begin, base + stop - 1) :: List.replicate (count + 1) (0x80, 0xbf)]
        else []
      (if startsWhole then [] else under low (first % size) (size - 1)) ++ whole ++
        (if endsWhole then [] else under high 0 (last % size))

def ofRange (first last : Nat) : List ByteSequence :=
  lengths.flatMap fun (least, most, base, count) =>
    let low := max first least
    let high := min last most
    if low ≤ high then pieces base count low high else []

def ofRanges (ranges : CharRanges) : List ByteSequence :=
  ranges.flatMap fun (first, last) => ofRange first last

end ByteSequence
end TileScript
