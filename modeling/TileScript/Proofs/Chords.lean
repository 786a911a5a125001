import TileScript.Manager.Change

/-! Chords and their texts. The canonical text of a chord that was read is one of its spellings, so that
different chords have different texts, and what does not spell a chord is no such text. -/

namespace TileScript

/-! ### Lower case -/

theorem toLower_fixed {c : Char} (lower : ¬ (c.val ≥ 'A'.val ∧ c.val ≤ 'Z'.val)) : c.toLower = c :=
  dif_neg lower

/-- Letters in upper case become letters that are not. -/
theorem toLower_range {c : Char} (upper : c.val ≥ 'A'.val ∧ c.val ≤ 'Z'.val) : 97 ≤ c.toLower.val.toNat := by
  have shifted : c.toLower.val = c.val + ('a'.val - 'A'.val) :=
    congrArg Char.val (dif_pos upper)
  rw [shifted]
  simp only [UInt32.le_iff_toNat_le, ge_iff_le] at upper
  have low : (65 : Nat) ≤ c.val.toNat := upper.1
  have high : c.val.toNat ≤ 90 := upper.2
  have sum : (c.val + ('a'.val - 'A'.val)).toNat = (c.val.toNat + 32) % 2 ^ 32 := UInt32.toNat_add ..
  omega

theorem toLower_toLower (c : Char) : c.toLower.toLower = c.toLower := by
  by_cases upper : c.val ≥ 'A'.val ∧ c.val ≤ 'Z'.val
  · have range := toLower_range upper
    refine toLower_fixed fun again => ?_
    have high : c.toLower.val.toNat ≤ 90 := UInt32.le_iff_toNat_le.mp again.2
    omega
  · rw [toLower_fixed upper, toLower_fixed upper]

theorem eq_dash_of_toLower {c : Char} (dash : c.toLower = '-') : c = '-' := by
  by_cases upper : c.val ≥ 'A'.val ∧ c.val ≤ 'Z'.val
  · have range := toLower_range upper
    rw [dash] at range
    exact absurd range (by decide)
  · exact toLower_fixed upper ▸ dash

theorem lowercase_lowercase (text : List Char) : lowercase (lowercase text) = lowercase text := by
  simp only [lowercase, List.map_map]
  exact List.map_congr_left fun c _ => toLower_toLower c

theorem dash_lowercase {text : List Char} (plain : '-' ∉ text) : '-' ∉ lowercase text := by
  intro member
  obtain ⟨c, inside, dash⟩ := List.mem_map.mp member
  exact plain (eq_dash_of_toLower dash ▸ inside)

namespace Chord

/-! ### Parts -/

theorem parts_ne_nil (text : List Char) : parts text ≠ [] := by
  cases text with
  | nil => simp [parts]
  | cons c rest =>
    rw [parts]
    split
    · split <;> simp
    · simp

theorem parts_cons (c : Char) (rest : List Char) : ∃ part more, parts rest = part :: more ∧
    parts (c :: rest) = if c = '-' then [] :: part :: more else (c :: part) :: more := by
  obtain ⟨part, more, known⟩ := List.exists_cons_of_ne_nil (parts_ne_nil rest)
  refine ⟨part, more, known, ?_⟩
  rw [parts, known]
  simp

theorem dash_parts {text part : List Char} (member : part ∈ parts text) : '-' ∉ part := by
  induction text generalizing part with
  | nil =>
    obtain rfl := List.mem_singleton.mp member
    simp
  | cons c rest ih =>
    obtain ⟨first, more, known, split⟩ := parts_cons c rest
    rw [split] at member
    rw [known] at ih
    by_cases dash : c = '-'
    · rw [if_pos dash, List.mem_cons] at member
      rcases member with rfl | later
      · simp
      · exact ih later
    · rw [if_neg dash, List.mem_cons] at member
      rcases member with rfl | later
      · have plain := ih (List.mem_cons_self ..)
        simp [plain, Ne.symm dash]
      · exact ih (List.mem_cons_of_mem _ later)

theorem parts_plain {text : List Char} (plain : '-' ∉ text) : parts text = [text] := by
  induction text with
  | nil => rfl
  | cons c rest ih =>
    simp only [List.mem_cons, not_or] at plain
    obtain ⟨first, more, known, split⟩ := parts_cons c rest
    rw [ih plain.2, List.cons.injEq] at known
    obtain ⟨rfl, rfl⟩ := known
    rw [split, if_neg (Ne.symm plain.1)]

theorem parts_append {part : List Char} (plain : '-' ∉ part) (rest : List Char) :
    parts (part ++ '-' :: rest) = part :: parts rest := by
  induction part with
  | nil =>
    obtain ⟨first, more, known, split⟩ := parts_cons '-' rest
    rw [List.nil_append, split, if_pos rfl, known]
  | cons c part ih =>
    simp only [List.mem_cons, not_or] at plain
    obtain ⟨first, more, known, split⟩ := parts_cons c (part ++ '-' :: rest)
    rw [ih plain.2, List.cons.injEq] at known
    obtain ⟨rfl, rfl⟩ := known
    rw [List.cons_append, split, if_neg (Ne.symm plain.1)]

/-! ### Canonical texts -/

theorem modifiersOf_names (modifiers : List Modifier) :
    modifiersOf (modifiers.map fun modifier => modifier.name.toList) = .ok modifiers := by
  induction modifiers with
  | nil => rfl
  | cons modifier rest ih =>
    have known : Modifier.ofName? modifier.name.toList = some modifier := by cases modifier <;> decide
    rw [List.map_cons, modifiersOf, known, ih]
    rfl

/-- A chord that some text spells. -/
def IsWritten (chord : Chord) : Prop := ∃ text, ofString text = .ok chord

/-- What reading a text comes to. -/
structure IsCanonical (chord : Chord) : Prop where
  modifiers : Modifier.all.filter (chord.modifiers.contains ·) = chord.modifiers
  plain : '-' ∉ chord.key.toList
  lower : lowercase chord.key.toList = chord.key.toList
  known : isKey chord.key.toList
  nonempty : chord.key.toList ≠ []

theorem IsWritten.canonical {chord : Chord} (written : chord.IsWritten) : chord.IsCanonical := by
  obtain ⟨text, read⟩ := written
  have last : (parts text.toList).getLast?.getD [] ∈ parts text.toList := by
    rw [List.getLast?_eq_some_getLast (parts_ne_nil _), Option.getD_some]
    exact List.getLast_mem _
  have plain := dash_lowercase (dash_parts last)
  rw [ofString] at read
  generalize (parts text.toList).getLast?.getD [] = key at plain read
  split at read
  · cases read
  next given =>
    split at read
    · cases read
    next known =>
      cases held : modifiersOf (parts text.toList).dropLast with
      | error fault =>
        rw [held] at read
        cases read
      | ok held' =>
        rw [held] at read
        cases read
        refine ⟨?_, ?_, ?_, ?_, ?_⟩
        · refine List.filter_congr fun modifier member => ?_
          simp [member]
        · simpa using plain
        · simp [lowercase_lowercase]
        · simpa using known
        · simpa using given

theorem toList_description (chord : Chord) : chord.description.toList =
    (chord.modifiers.map fun modifier => modifier.name.toList).flatMap (· ++ ['-']) ++ chord.key.toList := by
  simp [description, String.toList_append, String.toList_join, List.flatMap_map]

theorem parts_description {chord : Chord} (plain : '-' ∉ chord.key.toList) : parts chord.description.toList =
    (chord.modifiers.map fun modifier => modifier.name.toList) ++ [chord.key.toList] := by
  rw [toList_description]
  induction chord.modifiers with
  | nil => exact parts_plain plain
  | cons modifier rest ih =>
    have dashless : '-' ∉ modifier.name.toList := by cases modifier <;> decide
    rw [List.map_cons, List.flatMap_cons, List.append_assoc, List.append_assoc, List.singleton_append,
      parts_append dashless, ih, List.cons_append]

theorem IsCanonical.ofString {chord : Chord} (canonical : chord.IsCanonical) : ofString chord.description = .ok chord := by
  have named : isKey chord.key.toList = true := canonical.known
  have given : chord.key.toList.isEmpty = false := List.isEmpty_eq_false_iff.mpr canonical.nonempty
  rw [Chord.ofString, parts_description canonical.plain]
  simp only [List.getLast?_concat, Option.getD_some, List.dropLast_concat, canonical.lower, given, named, modifiersOf_names,
    Bool.false_eq_true, if_false, Bool.not_true, String.ofList_toList]
  exact congrArg (fun modifiers => Except.ok (Chord.mk modifiers chord.key)) canonical.modifiers

/-- The canonical text of a chord spells it. -/
theorem IsWritten.ofString {chord : Chord} (written : chord.IsWritten) : Chord.ofString chord.description = .ok chord :=
  written.canonical.ofString

theorem IsWritten.eq_of_description {chord other : Chord} (written : chord.IsWritten) (known : other.IsWritten)
    (same : chord.description = other.description) : chord = other := by
  have read := written.ofString
  rw [same, known.ofString] at read
  exact (Except.ok.inj read).symm

/-- What spells no chord describes none. -/
theorem IsWritten.description_ne {chord : Chord} (written : chord.IsWritten) {text : String} {fault : Fault}
    (unread : Chord.ofString text = .error fault) : chord.description ≠ text := by
  rintro rfl
  cases written.ofString.symm.trans unread

end Chord

/-- Only chords that some text spells are bound. -/
def Change.IsWritten : Change → Prop
  | .bind _ binding => binding.chord.IsWritten
  | _ => True

end TileScript
