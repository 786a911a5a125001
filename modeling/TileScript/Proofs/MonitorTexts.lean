import TileScript.Manager.Monitor
import TileScript.Proofs.DigitPatterns
import TileScript.Proofs.PaddedNumbers

/-! The texts of references to monitors. A reference is read back from its own text, which is one of the texts it can
be read from. A numeral is a place in the order of monitors as long as it fits; one that does not is a pattern like
any other text, and means a monitor by its name. -/

namespace TileScript

namespace MonitorRef

variable {dialect : Pattern.Dialect} {written : String} {reference : MonitorRef}

theorem read_number {number : Nat} (numeral : unsigned? maxSequence written.toList = some number) :
    read dialect written = if number = 0 then .error .zero else .ok (.sequence number) := by
  have plain : written ≠ "main" := by
    rintro rfl
    cases numeral
  have single : written ≠ "secondary" := by
    rintro rfl
    cases numeral
  rw [read, if_neg plain, if_neg single, numeral]
  cases number <;> rfl

theorem toList_text_sequence (number : Nat) : (sequence number).text.toList = padded false 0 number := by
  rw [text, Nat.toString_eq_repr, Nat.toList_repr]
  rfl

/-- A reference that was read is one of the two words, a number that fits, or a pattern with the whole text. -/
theorem read_cases (ok : read dialect written = .ok reference) :
    reference = .main ∨ reference = .secondary ∨
    (∃ number, 0 < number ∧ number ≤ maxSequence ∧ reference = .sequence number) ∨
    ∃ name : Pattern, name.source = written ∧ reference = .pattern name := by
  unfold read at ok
  split at ok
  · cases ok
    exact .inl rfl
  split at ok
  · cases ok
    exact .inr (.inl rfl)
  split at ok
  · cases ok
  next number other found =>
    cases ok
    exact .inr (.inr (.inl ⟨number, Nat.pos_of_ne_zero other, (unsigned?_eq_some_iff.mp found).1, rfl⟩))
  split at ok
  · cases ok
  split at ok
  next name found =>
    cases ok
    exact .inr (.inr (.inr ⟨name, dialect.source_read found, rfl⟩))
  · cases ok

theorem read_text (ok : read dialect written = .ok reference) : read dialect reference.text = .ok reference := by
  obtain rfl | rfl | ⟨number, positive, within, rfl⟩ | ⟨name, rfl, rfl⟩ := read_cases ok
  · rfl
  · rfl
  · have found : unsigned? maxSequence (sequence number).text.toList = some number :=
      unsigned?_eq_some_iff.mpr ⟨within, false, 0, toList_text_sequence number⟩
    rw [read_number found, if_neg (Nat.ne_of_gt positive)]
  · exact ok

theorem same_refl (reference : MonitorRef) : reference.same reference = true := by
  cases reference <;> simp [same]

theorem text_eq_of_same {reference other : MonitorRef} (same : reference.same other) : reference.text = other.text := by
  cases reference <;> cases other <;> simp_all [MonitorRef.same, text]

/-- Whatever the dialect of patterns is, a reference is read back from its text, and references are equal if and only
if their texts are. -/
theorem text_reads_back (ok : read dialect written = .ok reference) :
    read dialect reference.text = .ok reference ∧ reference.same reference = true ∧
    ∀ other second, read dialect other = .ok second → (reference.same second = true ↔ reference.text = second.text) := by
  refine ⟨read_text ok, same_refl reference, fun other second found => ⟨text_eq_of_same, fun texts => ?_⟩⟩
  have again := (read_text ok).symm.trans (texts ▸ read_text found)
  cases again
  exact same_refl reference

theorem text_reads_back_padded : ofString "+007" = .ok (.sequence 7) ∧ ofString "7" = .ok (.sequence 7) ∧
    ofString "08" = .ok (.sequence 8) ∧ ((sequence 7).same (.sequence 8) = true ↔ "7" = "8") := by
  have read : ofString "+007" = .ok (.sequence 7) := rfl
  have next : ofString "08" = .ok (.sequence 8) := rfl
  obtain ⟨again, -, distinct⟩ := text_reads_back read
  exact ⟨read, again, next, distinct "08" (.sequence 8) next⟩

/-! ### Numerals -/

theorem unsigned?_digits {limit : Nat} {digits : List Char} (all : ∀ c ∈ digits, c.isDigit) (given : digits ≠ []) :
    unsigned? limit digits = if digitsValue digits ≤ limit then some (digitsValue digits) else none := by
  have plain : ∀ rest, digits = '+' :: rest → False := by
    rintro rest rfl
    exact absurd (all '+' List.mem_cons_self) (by decide)
  rw [unsigned?, List.isEmpty_eq_false_iff.mpr given, List.all_eq_true.mpr all]
  · rfl
  · exact plain

/-- What has a digit in it is neither of the two words. -/
theorem ofString_digits {text : String} (all : ∀ c ∈ text.toList, c.isDigit) (given : text ≠ "")
    (outside : maxSequence < digitsValue text.toList) :
    ofString text = match Pattern.read text with
      | .ok name => .ok (.pattern name)
      | .error refusal => .error (.pattern refusal) := by
  have plain : text ≠ "main" := by
    rintro rfl
    exact absurd (all 'm' (by decide)) (by decide)
  have single : text ≠ "secondary" := by
    rintro rfl
    exact absurd (all 's' (by decide)) (by decide)
  have unread : unsigned? maxSequence text.toList = none := by
    rw [unsigned?_digits all (fun empty => given (String.toList_eq_nil_iff.mp empty)), if_neg (Nat.not_le_of_lt outside)]
  have something : text.isEmpty = false := by
    simpa [String.isEmpty_iff] using given
  rw [ofString, read, if_neg plain, if_neg single, unread, something]
  rfl

/-- A numeral is a place in the order of monitors if it fits and is not zero. If it does not fit, then it is a pattern
for the names that it is a part of, unless it is too long for one. -/
theorem numerals_read (text : String) (all : ∀ c ∈ text.toList, c.isDigit) (given : text ≠ "") :
    (digitsValue text.toList = 0 → ofString text = .error .zero) ∧
    (0 < digitsValue text.toList → digitsValue text.toList ≤ maxSequence →
      ofString text = .ok (.sequence (digitsValue text.toList))) ∧
    (maxSequence < digitsValue text.toList → ∃ name : Pattern, name.source = text ∧
      (∀ monitor, name.isIn monitor = true ↔ text.toList <:+: monitor.toList) ∧
      ofString text = if Pattern.sizeLimit < 32 * text.toList.length + 208 then .error (.pattern .tooLarge)
        else .ok (.pattern name)) := by
  have some : text.toList ≠ [] := fun empty => given (String.toList_eq_nil_iff.mp empty)
  have numeral : unsigned? maxSequence text.toList =
      if digitsValue text.toList ≤ maxSequence then .some (digitsValue text.toList) else none := unsigned?_digits all some
  refine ⟨fun zero => ?_, fun positive within => ?_, fun outside => ?_⟩
  · rw [zero] at numeral
    rw [ofString, read_number numeral, if_pos rfl]
  · rw [if_pos within] at numeral
    rw [ofString, read_number numeral, if_neg (Nat.ne_of_gt positive)]
  · refine ⟨⟨text, (Pattern.word text.toList).isIn⟩, rfl, fun monitor => Pattern.isIn_word all monitor, ?_⟩
    rw [ofString_digits all given outside, Pattern.read_digits all, Pattern.size_word all some]
    by_cases long : Pattern.sizeLimit < 32 * text.toList.length + 208
    · rw [if_pos long, if_pos long]
    · rw [if_neg long, if_neg long]

theorem numerals_read_greatest : ofString "018446744073709551615" = .ok (.sequence maxSequence) ∧
    ∃ name : Pattern, ofString "18446744073709551616" = .ok (.pattern name) ∧
      name.isIn "Wall 18446744073709551616" = true := by
  have fits : digitsValue "018446744073709551615".toList = maxSequence := by decide +kernel
  have exceeds : maxSequence < digitsValue "18446744073709551616".toList := by decide +kernel
  have first := (numerals_read "018446744073709551615" (List.all_eq_true.mp (by decide)) (by decide)).2.1
  rw [fits] at first
  have second := (numerals_read "18446744073709551616" (List.all_eq_true.mp (by decide)) (by decide)).2.2
  obtain ⟨name, -, found, read⟩ := second exceeds
  have short : ¬ Pattern.sizeLimit < 32 * "18446744073709551616".toList.length + 208 := by decide +kernel
  rw [if_neg short] at read
  exact ⟨first (by decide +kernel) (Nat.le_refl _), name, read, (found _).mpr ⟨"Wall ".toList, [], rfl⟩⟩

/-- The least number that does not fit, which means a monitor with these digits in its name. -/
theorem numeral_in_name : (∀ c ∈ "18446744073709551616".toList, c.isDigit) ∧
    digitsValue "18446744073709551616".toList = maxSequence + 1 ∧
    ∃ name : Pattern, ofString "18446744073709551616" = .ok (.pattern name) ∧
      ∃ monitor : Monitor, (pattern name).resolve [monitor] = some monitor := by
  have digits : ∀ c ∈ "18446744073709551616".toList, c.isDigit := List.all_eq_true.mp (by decide)
  have value : digitsValue "18446744073709551616".toList = maxSequence + 1 := by decide +kernel
  have exceeds : maxSequence < digitsValue "18446744073709551616".toList := by
    rw [value]
    exact Nat.lt_succ_self maxSequence
  have short : ¬ Pattern.sizeLimit < 32 * "18446744073709551616".toList.length + 208 := by decide +kernel
  have read := ofString_digits digits (by decide) exceeds
  rw [Pattern.read_digits digits, Pattern.size_word digits (by decide), if_neg short] at read
  have found := (Pattern.isIn_word digits "Wall 18446744073709551616").mpr
    ⟨"Wall ".toList, [], rfl⟩
  let wall : Monitor := ⟨1, "Wall 18446744073709551616", ⟨.zero, .zero, .zero, .zero⟩, "1", true⟩
  let name : Pattern := ⟨"18446744073709551616", (Pattern.word "18446744073709551616".toList).isIn⟩
  have chosen : (pattern name).resolve [wall] = some wall := by
    rw [resolve, List.find?_cons_of_pos]
    change name.isIn "Wall 18446744073709551616" = true
    exact found
  exact ⟨digits, value, _, read, wall, chosen⟩

end MonitorRef
end TileScript
