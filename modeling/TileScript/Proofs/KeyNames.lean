import Mathlib.Logic.ExistsUnique
import TileScript.Proofs.ChordNotation
import TileScript.Proofs.PaddedNumbers

/-! The keys that a chord can name. The number of a function key is read as numbers are read elsewhere, with a plus
or zeros before its digits too, and stays in the chord as it was written: such a key has more texts than the one it
is known by. -/

namespace TileScript
namespace Chord

/-- A key of the keyboard. -/
inductive Key where
  | character (c : Char)
  | named (name : String)
  | function (number : Nat)
  deriving DecidableEq

namespace Key

/-- The keys there are. -/
def IsKnown : Key → Prop
  | character c => c.isLower ∨ c.isDigit
  | named name => name ∈ namedKeys
  | function number => 1 ≤ number ∧ number ≤ functionKeys

/-- The text a key is known by. -/
def text : Key → List Char
  | character c => [c]
  | named name => name.toList
  | function number => 'f' :: Nat.toDigits 10 number

/-- A text of a function key that has a plus or zeros before its digits. -/
def Pads (name : List Char) : Key → Prop
  | function number => ∃ signed zeros, (signed = true ∨ 0 < zeros) ∧ name = 'f' :: padded signed zeros number
  | _ => False

/-- A text, in lower case, that a chord can have for the key. -/
def Spells (name : List Char) (key : Key) : Prop := name = key.text ∨ key.Pads name

theorem spells_function {name : List Char} {number : Nat} :
    (function number).Spells name ↔ ∃ signed zeros, name = 'f' :: padded signed zeros number := by
  constructor
  · rintro (rfl | ⟨signed, zeros, -, rfl⟩)
    · exact ⟨false, 0, rfl⟩
    · exact ⟨signed, zeros, rfl⟩
  · rintro ⟨signed, zeros, rfl⟩
    by_cases extra : signed = true ∨ 0 < zeros
    · exact .inr ⟨signed, zeros, extra, rfl⟩
    · obtain ⟨plain, none⟩ := not_or.mp extra
      obtain rfl := Bool.eq_false_iff.mpr plain
      obtain rfl := Nat.eq_zero_of_not_pos none
      exact .inl rfl

theorem spells_function_iff {name : List Char} {number : Nat} (known : (function number).IsKnown) :
    (function number).Spells name ↔ ∃ digits, name = 'f' :: digits ∧ unsigned? functionKeyLimit digits = some number := by
  have within : number ≤ functionKeyLimit := Nat.le_trans known.2 (by decide)
  simp only [spells_function, unsigned?_eq_some_iff, within, true_and]
  constructor
  · rintro ⟨signed, zeros, rfl⟩
    exact ⟨_, rfl, signed, zeros, rfl⟩
  · rintro ⟨_, rfl, signed, zeros, rfl⟩
    exact ⟨signed, zeros, rfl⟩

theorem spells_character {name : List Char} {c : Char} : (character c).Spells name ↔ name = [c] := by
  simp [Spells, Pads, text]

theorem spells_named {name : List Char} {word : String} : (named word).Spells name ↔ name = word.toList := by
  simp [Spells, Pads, text]

/-! ### One key for each text -/

theorem length_named : ∀ name ∈ namedKeys, name.toList.length ≠ 1 := by
  decide

/-- No key with a name is taken for a function key. -/
theorem number_named : ∀ name ∈ namedKeys, name.toList.head? = some 'f' →
    unsigned? functionKeyLimit name.toList.tail = none := by
  decide

theorem plain_named : ∀ name ∈ namedKeys, '-' ∉ name.toList := by
  decide

theorem ne_nil_of_unsigned? {limit number : Nat} {digits : List Char} (read : unsigned? limit digits = some number) :
    digits ≠ [] := by
  rintro rfl
  cases read

theorem not_spells_character_named {name : List Char} {c : Char} {word : String} (known : (named word).IsKnown)
    (spelled : (character c).Spells name) : ¬ (named word).Spells name := by
  intro also
  obtain rfl := spells_character.mp spelled
  exact length_named word known (congrArg List.length (spells_named.mp also).symm)

theorem not_spells_character_function {name : List Char} {c : Char} {number : Nat} (known : (function number).IsKnown)
    (spelled : (character c).Spells name) : ¬ (function number).Spells name := by
  intro also
  obtain rfl := spells_character.mp spelled
  obtain ⟨digits, whole, read⟩ := (spells_function_iff known).mp also
  exact ne_nil_of_unsigned? read (List.tail_eq_of_cons_eq whole).symm

theorem not_spells_named_function {name : List Char} {word : String} {number : Nat} (known : (named word).IsKnown)
    (there : (function number).IsKnown) (spelled : (named word).Spells name) : ¬ (function number).Spells name := by
  intro also
  obtain ⟨digits, rfl, read⟩ := (spells_function_iff there).mp also
  have whole : 'f' :: digits = word.toList := spells_named.mp spelled
  have unread := number_named word known (whole ▸ rfl)
  rw [← whole, List.tail_cons, read] at unread
  cases unread

theorem Spells.unique {name : List Char} {key other : Key} (known : key.IsKnown) (there : other.IsKnown)
    (spelled : key.Spells name) (also : other.Spells name) : key = other := by
  cases key with
  | character c =>
    cases other with
    | character d =>
      have same := (spells_character.mp spelled).symm.trans (spells_character.mp also)
      rw [List.head_eq_of_cons_eq same]
    | named word => exact absurd also (not_spells_character_named there spelled)
    | function number => exact absurd also (not_spells_character_function there spelled)
  | named word =>
    cases other with
    | character c => exact absurd spelled (not_spells_character_named known also)
    | named second =>
      have same := (spells_named.mp spelled).symm.trans (spells_named.mp also)
      rw [String.toList_inj.mp same]
    | function number => exact absurd also (not_spells_named_function known there spelled)
  | function number =>
    cases other with
    | character c => exact absurd spelled (not_spells_character_function known also)
    | named word => exact absurd spelled (not_spells_named_function there known also)
    | function second =>
      obtain ⟨digits, rfl, read⟩ := (spells_function_iff known).mp spelled
      obtain ⟨others, whole, more⟩ := (spells_function_iff there).mp also
      obtain rfl := List.tail_eq_of_cons_eq whole
      rw [Option.some.inj (read.symm.trans more)]

/-! ### What the reader takes for a key -/

theorem isAlphanum_iff {c : Char} (lower : c.toLower = c) : c.isAlphanum ↔ c.isLower ∨ c.isDigit := by
  have small : c.isUpper = false := by
    refine Bool.eq_false_iff.mpr fun upper => ?_
    have bounds : c.val ≥ 'A'.val ∧ c.val ≤ 'Z'.val := of_decide_eq_true upper
    have range := toLower_range bounds
    rw [lower] at range
    have high : c.val.toNat ≤ 90 := UInt32.le_iff_toNat_le.mp bounds.2
    omega
  have shape : c.isAlphanum = ((c.isUpper || c.isLower) || c.isDigit) := rfl
  rw [shape, small, Bool.false_or, Bool.or_eq_true]

theorem isKey_word {name : List Char} (length : name.length ≠ 1) :
    isKey name ↔ String.ofList name ∈ namedKeys ∨ ∃ digits number, name = 'f' :: digits ∧
      unsigned? functionKeyLimit digits = some number ∧ 1 ≤ number ∧ number ≤ functionKeys := by
  unfold isKey
  split
  · exact absurd rfl length
  · rw [Bool.or_eq_true, List.contains_iff_mem]
    refine or_congr_right ?_
    split
    · simp [Option.any_eq_true]
    next other =>
      refine iff_of_false (by simp) ?_
      rintro ⟨digits, number, rfl, -⟩
      exact other digits rfl

theorem isKey_iff {name : List Char} (lower : lowercase name = name) :
    isKey name ↔ ∃ key : Key, key.IsKnown ∧ key.Spells name := by
  by_cases length : name.length = 1
  · obtain ⟨c, rfl⟩ := List.length_eq_one_iff.mp length
    refine Iff.trans (isAlphanum_iff (List.head_eq_of_cons_eq lower)) ⟨fun known => ⟨character c, known, .inl rfl⟩, ?_⟩
    rintro ⟨key, known, spelled⟩
    have same := spelled
    cases key with
    | character d =>
      obtain rfl := List.head_eq_of_cons_eq (spells_character.mp spelled)
      exact known
    | named word => exact absurd spelled (not_spells_character_named known (spells_character.mpr rfl))
    | function number => exact absurd spelled (not_spells_character_function known (spells_character.mpr rfl))
  · rw [isKey_word length]
    constructor
    · rintro (named | ⟨digits, number, rfl, read, known⟩)
      · exact ⟨.named (String.ofList name), named, spells_named.mpr String.toList_ofList.symm⟩
      · exact ⟨function number, known, (spells_function_iff known).mpr ⟨digits, rfl, read⟩⟩
    · rintro ⟨key, known, spelled⟩
      cases key with
      | character c => exact absurd (spells_character.mp spelled ▸ rfl) length
      | named word =>
        rw [spells_named.mp spelled, String.ofList_toList]
        exact .inl known
      | function number =>
        obtain ⟨digits, whole, read⟩ := (spells_function_iff known).mp spelled
        exact .inr ⟨digits, number, whole, read, known⟩

theorem Spells.plain {name : List Char} {key : Key} (known : key.IsKnown) (spelled : key.Spells name) : '-' ∉ name := by
  cases key with
  | character c =>
    obtain rfl := spells_character.mp spelled
    intro member
    obtain rfl := List.mem_singleton.mp member
    exact absurd known (by simp [IsKnown])
  | named word => exact spells_named.mp spelled ▸ plain_named word known
  | function number =>
    obtain ⟨signed, zeros, rfl⟩ := spells_function.mp spelled
    have digits : '-' ∉ List.replicate zeros '0' ++ Nat.toDigits 10 number := fun member =>
      absurd (isDigit_padded zeros number '-' member) (by decide)
    cases signed <;> simpa [padded] using digits

end Key

/-! ### The texts that write a chord -/

/-- A text of modifiers, in any case, and then one of the names in lower case. -/
def Written (text : String) (name : List Char → Prop) : Prop :=
  ∃ (held : List (List Char)) (key : List Char), text.toList = held.flatMap (· ++ ['-']) ++ key ∧
    (∀ part ∈ held, ∃ modifier : Modifier, lowercase part = modifier.name.toList) ∧ name (lowercase key)

theorem dash_of_lowercase {text : List Char} (plain : '-' ∉ lowercase text) : '-' ∉ text :=
  fun member => plain (List.mem_map.mpr ⟨'-', member, rfl⟩)

theorem plain_modifier {part : List Char} (named : ∃ modifier : Modifier, lowercase part = modifier.name.toList) :
    '-' ∉ part := by
  obtain ⟨modifier, same⟩ := named
  refine dash_of_lowercase (same ▸ ?_)
  cases modifier <;> decide

theorem Written.cuts {text : String} {name : List Char → Prop} (written : Written text name)
    (plain : ∀ key, name key → '-' ∉ key) : ∃ held key, Cuts text.toList held key ∧
      (∀ part ∈ held, ∃ modifier : Modifier, lowercase part = modifier.name.toList) ∧ name (lowercase key) := by
  obtain ⟨held, key, whole, named, known⟩ := written
  exact ⟨held, key, ⟨whole, fun part member => plain_modifier (named part member), dash_of_lowercase (plain _ known)⟩,
    named, known⟩

theorem exists_key_iff (text : String) : (∃ chord, ofString text = .ok chord) ↔
    ∃! key : Key, key.IsKnown ∧ Written text key.Spells := by
  constructor
  · intro read
    obtain ⟨held, last, cut⟩ := exists_cuts text.toList
    obtain ⟨known, named⟩ := cut.exists_ofString.mp read
    obtain ⟨key, there, spelled⟩ := (Key.isKey_iff (lowercase_lowercase last)).mp known
    refine ⟨key, ⟨there, held, last, cut.whole, named, spelled⟩, ?_⟩
    rintro other ⟨also, written⟩
    obtain ⟨others, final, more, -, second⟩ := written.cuts fun name => Key.Spells.plain also
    obtain ⟨-, rfl⟩ := cut.unique more
    exact Key.Spells.unique also there second spelled
  · rintro ⟨key, ⟨known, written⟩, -⟩
    obtain ⟨held, last, cut, named, spelled⟩ := written.cuts fun name => Key.Spells.plain known
    exact cut.exists_ofString.mpr ⟨(Key.isKey_iff (lowercase_lowercase last)).mpr ⟨key, known, spelled⟩, named⟩

theorem written_key {text : String} {chord : Chord} (read : ofString text = .ok chord) :
    Written text (· = chord.key.toList) := by
  obtain ⟨held, last, cut⟩ := exists_cuts text.toList
  obtain ⟨-, named⟩ := cut.exists_ofString.mp ⟨chord, read⟩
  obtain ⟨-, modifiers, -, rfl⟩ := cut.ofString_eq_ok.mp read
  exact ⟨held, last, cut.whole, named, String.toList_ofList.symm⟩

/-- A chord is read from modifiers and the text of a key, with dashes between them, and from nothing else. The text
of the key is the one it is known by or, for a function key, one with a plus or zeros before the number, and no text
is one of two keys. The chord has the text as it was written. -/
theorem keys_read (text : String) :
    ((∃ chord, ofString text = .ok chord) ↔
      ∃! key : Key, key.IsKnown ∧ Written text fun name => name = key.text ∨ key.Pads name) ∧
    ∀ chord, ofString text = .ok chord → Written text (· = chord.key.toList) :=
  ⟨exists_key_iff text, fun _ => written_key⟩

theorem keys_read_padded : ofString "Alt-F007" = .ok ⟨[.alt], "f007"⟩ ∧ Written "Alt-F007" (· = "f007".toList) :=
  have read : ofString "Alt-F007" = .ok ⟨[.alt], "f007"⟩ := rfl
  ⟨read, (keys_read "Alt-F007").2 _ read⟩

/-- A chord with a text of the key f5 that is not the one it is known by, and another chord for the same key. -/
theorem padded_apart : ofString "f5" = .ok ⟨[], "f5"⟩ ∧ ofString "f+5" = .ok ⟨[], "f+5"⟩ ∧
    (Key.function 5).Spells "f5".toList ∧ (Key.function 5).Spells "f+5".toList ∧
    ¬ ∃ key : Key, key.IsKnown ∧ Written "f+5" (· = key.text) := by
  refine ⟨rfl, rfl, .inl rfl, .inr ⟨true, 0, .inl rfl, rfl⟩, ?_⟩
  rintro ⟨key, known, written⟩
  obtain ⟨held, last, cut, -, same⟩ := written.cuts fun name spelled => Key.Spells.plain known (.inl spelled)
  have single : Cuts "f+5".toList [] "f+5".toList := ⟨rfl, nofun, by decide⟩
  obtain ⟨-, rfl⟩ := cut.unique single
  have whole : "f+5".toList = key.text := same
  cases key with
  | character c => exact absurd (congrArg List.length whole) (show (3 : Nat) ≠ 1 by decide)
  | named word =>
    obtain rfl := String.toList_inj.mp whole
    exact absurd known (show "f+5" ∉ namedKeys by decide)
  | function number =>
    have digits : ['+', '5'] = Nat.toDigits 10 number := List.tail_eq_of_cons_eq whole
    have digit := isDigit_padded 0 number '+' (show '+' ∈ Nat.toDigits 10 number from digits ▸ List.mem_cons_self ..)
    exact absurd digit (by decide)

end Chord
end TileScript
