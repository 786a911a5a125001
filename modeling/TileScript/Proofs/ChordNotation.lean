import TileScript.Proofs.Chords

/-! How chords are written. A text is cut at its dashes: its last part names the key, and those before it name
modifiers. Two texts write one chord when they name the same key and the same modifiers, in any order, any case
and any number of times. -/

namespace TileScript

/-- Where a modifier stands in the canonical order. -/
def Modifier.place (modifier : Modifier) : Nat := all.idxOf modifier

theorem Modifier.mem_all (modifier : Modifier) : modifier ∈ all := by
  cases modifier <;> decide

theorem Modifier.name_injective {modifier other : Modifier} (same : modifier.name.toList = other.name.toList) :
    modifier = other := by
  cases modifier <;> cases other <;> first | rfl | exact absurd same (by decide)

theorem Modifier.ofName?_eq_some {part : List Char} {modifier : Modifier} :
    ofName? part = some modifier ↔ lowercase part = modifier.name.toList := by
  constructor
  · intro known
    rw [ofName?] at known
    have same := List.find?_some known
    exact (eq_of_beq same).symm
  · intro spelled
    rw [ofName?, spelled]
    cases modifier <;> decide

namespace Chord

/-- A text, cut at its dashes. -/
structure Cuts (text : List Char) (held : List (List Char)) (key : List Char) : Prop where
  whole : text = held.flatMap (· ++ ['-']) ++ key
  plain : ∀ part ∈ held, '-' ∉ part
  last : '-' ∉ key

/-- A modifier that one of the parts names. -/
def Names (held : List (List Char)) (modifier : Modifier) : Prop := ∃ part ∈ held, lowercase part = modifier.name.toList

theorem Cuts.parts {text key : List Char} {held : List (List Char)} (cut : Cuts text held key) :
    parts text = held ++ [key] := by
  obtain ⟨rfl, plain, last⟩ := cut
  induction held with
  | nil => exact parts_plain last
  | cons part rest ih =>
    obtain ⟨dashless, others⟩ := List.forall_mem_cons.mp plain
    rw [List.flatMap_cons, List.append_assoc, List.append_assoc, List.singleton_append, parts_append dashless, ih others,
      List.cons_append]

theorem Cuts.unique {text key last : List Char} {held others : List (List Char)} (cut : Cuts text held key)
    (also : Cuts text others last) : held = others ∧ key = last := by
  have parts : held ++ [key] = others ++ [last] := cut.parts.symm.trans also.parts
  obtain ⟨same, final⟩ := List.append_inj' parts rfl
  exact ⟨same, List.head_eq_of_cons_eq final⟩

theorem exists_cuts (text : List Char) : ∃ held key, Cuts text held key := by
  induction text with
  | nil => exact ⟨[], [], rfl, by simp, by simp⟩
  | cons c rest ih =>
    obtain ⟨held, key, rfl, plain, last⟩ := ih
    by_cases dash : c = '-'
    · exact ⟨[] :: held, key, by simp [dash], by simpa using plain, last⟩
    · have dashless (part : List Char) (inside : '-' ∉ part) : '-' ∉ c :: part := by
        simp [inside, Ne.symm dash]
      cases held with
      | nil => exact ⟨[], c :: key, rfl, plain, dashless key last⟩
      | cons part others =>
        obtain ⟨first, later⟩ := List.forall_mem_cons.mp plain
        exact ⟨(c :: part) :: others, key, rfl, List.forall_mem_cons.mpr ⟨dashless part first, later⟩, last⟩

/-! ### What a text writes -/

theorem modifiersOf_eq_ok {held : List (List Char)} {modifiers : List Modifier} :
    modifiersOf held = .ok modifiers ↔ held.map lowercase = modifiers.map fun modifier => modifier.name.toList := by
  induction held generalizing modifiers with
  | nil =>
    rw [modifiersOf, Except.ok.injEq, List.map_nil, List.nil_eq, List.nil_eq, List.map_eq_nil_iff]
  | cons part rest ih =>
    rw [modifiersOf, List.map_cons]
    cases known : Modifier.ofName? part with
    | none =>
      refine iff_of_false ?_ fun spelled => ?_
      · intro read
        cases read
      · obtain ⟨modifier, others, rfl, same, -⟩ := List.map_eq_cons_iff.mp spelled.symm
        rw [Modifier.ofName?_eq_some.mpr same.symm] at known
        cases known
    | some modifier =>
      have spelled := Modifier.ofName?_eq_some.mp known
      rw [spelled]
      constructor
      · intro read
        cases others : modifiersOf rest with
        | error fault =>
          simp only [others] at read
          cases read
        | ok later =>
          simp only [others] at read
          cases read
          rw [List.map_cons, ih.mp others]
      · intro same
        obtain ⟨other, later, rfl, first, others⟩ := List.map_eq_cons_iff.mp same.symm
        obtain rfl := Modifier.name_injective first
        simp only [ih.mpr others.symm]
        rfl

theorem exists_modifiersOf {held : List (List Char)} : (∃ modifiers, modifiersOf held = .ok modifiers) ↔
    ∀ part ∈ held, ∃ modifier : Modifier, lowercase part = modifier.name.toList := by
  constructor
  · rintro ⟨modifiers, read⟩ part member
    have spelled : lowercase part ∈ modifiers.map fun modifier => modifier.name.toList :=
      modifiersOf_eq_ok.mp read ▸ List.mem_map_of_mem member
    obtain ⟨modifier, -, same⟩ := List.mem_map.mp spelled
    exact ⟨modifier, same.symm⟩
  · intro all
    induction held with
    | nil => exact ⟨[], rfl⟩
    | cons part rest ih =>
      obtain ⟨⟨modifier, first⟩, others⟩ := List.forall_mem_cons.mp all
      obtain ⟨modifiers, read⟩ := ih others
      refine ⟨modifier :: modifiers, modifiersOf_eq_ok.mpr ?_⟩
      rw [List.map_cons, List.map_cons, first, modifiersOf_eq_ok.mp read]

theorem mem_modifiersOf {held : List (List Char)} {modifiers : List Modifier} (read : modifiersOf held = .ok modifiers)
    (modifier : Modifier) : modifier ∈ modifiers ↔ Names held modifier := by
  have spelled := modifiersOf_eq_ok.mp read
  constructor
  · intro member
    have inside : modifier.name.toList ∈ held.map lowercase :=
      spelled ▸ List.mem_map_of_mem (f := fun modifier : Modifier => modifier.name.toList) member
    exact List.mem_map.mp inside
  · rintro ⟨part, member, same⟩
    have inside : lowercase part ∈ modifiers.map fun modifier => modifier.name.toList :=
      spelled ▸ List.mem_map_of_mem member
    obtain ⟨other, known, name⟩ := List.mem_map.mp inside
    exact Modifier.name_injective (name.trans same) ▸ known

/-- A text writes a chord when its last part is a key and the others are modifiers; it says nothing else. -/
theorem Cuts.ofString_eq_ok {text : String} {held : List (List Char)} {key : List Char}
    (cut : Cuts text.toList held key) {chord : Chord} :
    ofString text = .ok chord ↔ isKey (lowercase key) ∧ ∃ modifiers, modifiersOf held = .ok modifiers ∧
      chord = ⟨Modifier.all.filter (modifiers.contains ·), String.ofList (lowercase key)⟩ := by
  have read : ofString text = if (lowercase key).isEmpty then .error .missingKey
      else if !isKey (lowercase key) then .error (.unknownKey (String.ofList (lowercase key)))
      else (modifiersOf held).map fun modifiers =>
        ⟨Modifier.all.filter (modifiers.contains ·), String.ofList (lowercase key)⟩ := by
    rw [ofString, cut.parts, List.dropLast_concat, List.getLast?_concat, Option.getD_some]
  rw [read]
  cases known : isKey (lowercase key) with
  | false =>
    refine iff_of_false ?_ (by simp)
    split <;> simp
  | true =>
    have given : (lowercase key).isEmpty = false := by
      cases empty : lowercase key with
      | nil => exact absurd (empty ▸ known) (by decide)
      | cons c rest => rfl
    rw [given]
    cases modifiersOf held with
    | error fault => simp [Except.map]
    | ok modifiers => simp [Except.map, eq_comm]

theorem Cuts.exists_ofString {text : String} {held : List (List Char)} {key : List Char} (cut : Cuts text.toList held key) :
    (∃ chord, ofString text = .ok chord) ↔
      isKey (lowercase key) ∧ ∀ part ∈ held, ∃ modifier : Modifier, lowercase part = modifier.name.toList := by
  simp only [cut.ofString_eq_ok, ← exists_modifiersOf]
  constructor
  · rintro ⟨chord, known, modifiers, read, -⟩
    exact ⟨known, modifiers, read⟩
  · rintro ⟨known, modifiers, read⟩
    exact ⟨_, known, modifiers, read, rfl⟩

/-! ### Spellings of one chord -/

theorem filter_all_eq {first second : Modifier → Bool} :
    Modifier.all.filter first = Modifier.all.filter second ↔ ∀ modifier, first modifier = second modifier := by
  constructor
  · intro same modifier
    have member := congrArg (modifier ∈ ·) same
    simp only [List.mem_filter, Modifier.mem_all, true_and, eq_iff_iff] at member
    exact Bool.eq_iff_iff.mpr member
  · intro same
    exact List.filter_congr fun modifier _ => same modifier

/-- Two texts write one chord exactly when they name the same key and the same modifiers. -/
theorem eq_iff_of_cuts {text other : String} {chord second : Chord} {held others : List (List Char)} {key last : List Char}
    (cut : Cuts text.toList held key) (also : Cuts other.toList others last)
    (read : ofString text = .ok chord) (known : ofString other = .ok second) :
    chord = second ↔ lowercase key = lowercase last ∧ ∀ modifier, Names held modifier ↔ Names others modifier := by
  obtain ⟨-, modifiers, named, rfl⟩ := cut.ofString_eq_ok.mp read
  obtain ⟨-, more, calls, rfl⟩ := also.ofString_eq_ok.mp known
  rw [Chord.mk.injEq, filter_all_eq, String.ofList_inj, and_comm]
  refine and_congr_right fun _ => forall_congr' fun modifier => ?_
  rw [Bool.eq_iff_iff, List.contains_iff_mem, List.contains_iff_mem, mem_modifiersOf named, mem_modifiersOf calls]

theorem pairwise_all : Modifier.all.Pairwise (·.place < ·.place) := by
  decide

theorem IsCanonical.increasing {chord : Chord} (canonical : chord.IsCanonical) :
    chord.modifiers.Pairwise (·.place < ·.place) :=
  canonical.modifiers ▸ pairwise_all.filter _

/-- Reading brings every spelling to one form: modifiers in canonical order, each once, and a key in lower case.
The canonical text reads back as its chord, and texts write one chord when they have one canonical text, which is
when they name the same key and the same modifiers. -/
theorem spellings {text other : String} {chord second : Chord}
    (read : ofString text = .ok chord) (also : ofString other = .ok second) :
    chord.modifiers.Pairwise (·.place < ·.place) ∧
    lowercase chord.key.toList = chord.key.toList ∧ chord.key ≠ "" ∧
    ofString chord.description = .ok chord ∧
    (chord = second ↔ chord.description = second.description) ∧
    ∃ held key others last, Cuts text.toList held key ∧ Cuts other.toList others last ∧
      (chord = second ↔ lowercase key = lowercase last ∧ ∀ modifier, Names held modifier ↔ Names others modifier) := by
  have written : chord.IsWritten := ⟨text, read⟩
  have canonical := written.canonical
  have nonempty : chord.key ≠ "" := fun empty => canonical.nonempty (by rw [empty]; rfl)
  obtain ⟨held, key, cut⟩ := exists_cuts text.toList
  obtain ⟨others, last, more⟩ := exists_cuts other.toList
  exact ⟨canonical.increasing, canonical.lower, nonempty, written.ofString,
    ⟨congrArg description, written.eq_of_description ⟨other, also⟩⟩,
    held, key, others, last, cut, more, eq_iff_of_cuts cut more read also⟩

theorem spellings_alt_shift_h :
    ofString "Shift-Alt-H" = .ok ⟨[.alt, .shift], "h"⟩ ∧ ofString "alt-SHIFT-shift-h" = .ok ⟨[.alt, .shift], "h"⟩ ∧
    ∃ held key others last, Cuts "Shift-Alt-H".toList held key ∧ Cuts "alt-SHIFT-shift-h".toList others last ∧
      lowercase key = lowercase last ∧ ∀ modifier, Names held modifier ↔ Names others modifier := by
  have read : ofString "Shift-Alt-H" = .ok ⟨[.alt, .shift], "h"⟩ := by rfl
  have also : ofString "alt-SHIFT-shift-h" = .ok ⟨[.alt, .shift], "h"⟩ := by rfl
  obtain ⟨-, -, -, -, -, held, key, others, last, cut, more, same⟩ := spellings read also
  exact ⟨read, also, held, key, others, last, cut, more, same.mp rfl⟩

end Chord
end TileScript
