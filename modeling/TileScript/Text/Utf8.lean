/-!
Text out of bytes. Valid UTF-8 is taken as it is; anything else becomes U+FFFD, one for each longest
piece that could have begun a character.
-/

namespace TileScript
namespace Utf8

/-- What stands for bytes that are no character. -/
def replacement : Char := '\uFFFD'

/-- A character that has begun: its code so far, how many bytes it still wants, and the range of the
next one. -/
structure Begun where
  code : Nat
  wanted : Nat
  low : Nat
  high : Nat

/-- What the first byte of a character says, if it can be one. -/
def lead? (b : Nat) : Option Begun :=
  if b < 0x80 then some ⟨b, 0, 0, 0⟩
  else if b < 0xc2 then none
  else if b < 0xe0 then some ⟨b - 0xc0, 1, 0x80, 0xbf⟩
  else if b = 0xe0 then some ⟨0, 2, 0xa0, 0xbf⟩
  else if b = 0xed then some ⟨0xd, 2, 0x80, 0x9f⟩
  else if b < 0xf0 then some ⟨b - 0xe0, 2, 0x80, 0xbf⟩
  else if b = 0xf0 then some ⟨0, 3, 0x90, 0xbf⟩
  else if b < 0xf4 then some ⟨b - 0xf0, 3, 0x80, 0xbf⟩
  else if b = 0xf4 then some ⟨4, 3, 0x80, 0x8f⟩
  else none

/-- The rest of a character: its code and the bytes after it, or the bytes from the first one that
does not belong to it. -/
def finish (begun : Begun) : List UInt8 → Option Nat × List UInt8
  | [] => (if begun.wanted = 0 then some begun.code else none, [])
  | b :: rest =>
    if begun.wanted = 0 then (some begun.code, b :: rest)
    else if begun.low ≤ b.toNat && b.toNat ≤ begun.high then
      finish ⟨begun.code * 64 + (b.toNat - 0x80), begun.wanted - 1, 0x80, 0xbf⟩ rest
    else
      (none, b :: rest)

/-- The characters of at most `fuel` pieces of `bytes`. -/
def characters : Nat → List UInt8 → List Char
  | 0, _ => []
  | _, [] => []
  | fuel + 1, b :: rest =>
    match lead? b.toNat with
    | none => replacement :: characters fuel rest
    | some begun =>
      match finish begun rest with
      | (some code, after) => Char.ofNat code :: characters fuel after
      | (none, after) => replacement :: characters fuel after

def decode (bytes : ByteArray) : String :=
  match String.fromUTF8? bytes with
  | some text => text
  | none => String.ofList (characters bytes.size bytes.toList)

theorem decode_toUTF8 (text : String) : decode text.toUTF8 = text := by
  have valid : text.toUTF8.IsValidUTF8 := text.isValidUTF8
  unfold decode String.fromUTF8?
  rw [dif_pos valid]
  rfl

end Utf8
end TileScript
