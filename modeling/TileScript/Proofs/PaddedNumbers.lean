import TileScript.Number.Unsigned

/-! The texts of a number. Zeros may stand before its digits, and a plus before them; every text that is read as
the number is one of these. -/

namespace TileScript

/-- The digits of a number after some zeros, and after a plus if it has a sign. -/
def padded (signed : Bool) (zeros n : Nat) : List Char :=
  (if signed then ['+'] else []) ++ (List.replicate zeros '0' ++ Nat.toDigits 10 n)

theorem digitsValue_eq (digits : List Char) : digitsValue digits = Nat.ofDigitChars 10 digits 0 := by
  rw [Nat.ofDigitChars_eq_foldl, digitsValue]
  simp only [Nat.mul_comm]

theorem digit_range {c : Char} (digit : c.isDigit) : '0'.toNat ≤ c.toNat ∧ c.toNat - '0'.toNat < 10 := by
  obtain ⟨low, high⟩ := Char.isDigit_iff_toNat.mp digit
  have span : '9'.toNat = '0'.toNat + 9 := rfl
  omega

theorem toDigits_digit {c : Char} (digit : c.isDigit) : Nat.toDigits 10 (c.toNat - '0'.toNat) = [c] := by
  obtain ⟨low, value⟩ := digit_range digit
  rw [Nat.toDigits_of_lt_base value]
  have same : (Nat.digitChar (c.toNat - '0'.toNat)).toNat = c.toNat := by
    rw [Nat.toNat_digitChar_of_lt_ten value]
    exact Nat.add_sub_cancel' low
  exact congrArg (· :: []) (Char.toNat_inj.mp same)

theorem toDigits_ofDigitChars {digits : List Char} (all : ∀ c ∈ digits, c.isDigit) {n : Nat} (positive : 0 < n) :
    Nat.toDigits 10 (Nat.ofDigitChars 10 digits n) = Nat.toDigits 10 n ++ digits := by
  induction digits generalizing n with
  | nil => simp
  | cons c rest ih =>
    obtain ⟨digit, others⟩ := List.forall_mem_cons.mp all
    obtain ⟨-, value⟩ := digit_range digit
    have longer : Nat.toDigits 10 (10 * n + (c.toNat - '0'.toNat)) = Nat.toDigits 10 n ++ [c] := by
      rw [← Nat.toDigits_append_toDigits (by decide) positive value, toDigits_digit digit]
    rw [Nat.ofDigitChars_cons, ih others (by omega), longer, List.append_assoc, List.singleton_append]

theorem digits_eq_padded {digits : List Char} (all : ∀ c ∈ digits, c.isDigit) (some : digits ≠ []) :
    ∃ zeros, digits = List.replicate zeros '0' ++ Nat.toDigits 10 (digitsValue digits) := by
  induction digits with
  | nil => exact absurd rfl some
  | cons c rest ih =>
    obtain ⟨digit, others⟩ := List.forall_mem_cons.mp all
    have value : digitsValue (c :: rest) = Nat.ofDigitChars 10 rest (c.toNat - '0'.toNat) := by
      rw [digitsValue_eq, Nat.ofDigitChars_cons, Nat.mul_zero, Nat.zero_add]
    -- Zeros in front are counted until a digit comes that is none: from there on no digit is lost.
    by_cases zero : c = '0'
    · subst zero
      by_cases last : rest = []
      · subst last
        exact ⟨0, rfl⟩
      · obtain ⟨zeros, parts⟩ := ih others last
        refine ⟨zeros + 1, ?_⟩
        rw [value, Nat.sub_self, ← digitsValue_eq, List.replicate_succ, List.cons_append, ← parts]
    · have positive : 0 < c.toNat - '0'.toNat := by
        have apart : c.toNat ≠ '0'.toNat := fun same => zero (Char.toNat_inj.mp same)
        have low := (digit_range digit).1
        omega
      refine ⟨0, ?_⟩
      rw [value, toDigits_ofDigitChars others positive, toDigits_digit digit]
      rfl

theorem digitsValue_padded (zeros n : Nat) : digitsValue (List.replicate zeros '0' ++ Nat.toDigits 10 n) = n := by
  rw [digitsValue_eq, Nat.ofDigitChars_append, Nat.ofDigitChars_replicate_zero]
  simp

theorem isDigit_padded (zeros n : Nat) : ∀ c ∈ List.replicate zeros '0' ++ Nat.toDigits 10 n, c.isDigit := by
  intro c member
  rcases List.mem_append.mp member with zero | digit
  · rw [List.eq_of_mem_replicate zero]
    rfl
  · exact Nat.isDigit_of_mem_toDigits (show 0 < 10 by decide) (show 10 ≤ 10 by decide) digit

theorem padded_ne_nil (zeros n : Nat) : List.replicate zeros '0' ++ Nat.toDigits 10 n ≠ [] := by
  simp [Nat.toDigits_ne_nil]

theorem value_eq_some_iff {limit n : Nat} {digits : List Char} :
    (if digits.isEmpty || !digits.all Char.isDigit then none
      else if digitsValue digits ≤ limit then some (digitsValue digits) else none) = some n ↔
      n ≤ limit ∧ ∃ zeros, digits = List.replicate zeros '0' ++ Nat.toDigits 10 n := by
  constructor
  · intro read
    split at read
    · cases read
    next wellFormed =>
      split at read
      next within =>
        obtain rfl := Option.some.inj read
        simp only [Bool.or_eq_true, List.isEmpty_iff, Bool.not_eq_true', Bool.eq_false_iff, not_or, Classical.not_not,
          List.all_eq_true, ne_eq] at wellFormed
        exact ⟨within, digits_eq_padded wellFormed.2 wellFormed.1⟩
      · cases read
  · rintro ⟨within, zeros, rfl⟩
    have digits : (List.replicate zeros '0' ++ Nat.toDigits 10 n).all Char.isDigit = true :=
      List.all_eq_true.mpr (isDigit_padded zeros n)
    have given : (List.replicate zeros '0' ++ Nat.toDigits 10 n).isEmpty = false :=
      List.isEmpty_eq_false_iff.mpr (padded_ne_nil zeros n)
    rw [digits, given, digitsValue_padded, if_pos within]
    rfl

/-- A number within the limit is read from all of its texts, and from nothing else. -/
theorem unsigned?_eq_some_iff {limit n : Nat} {text : List Char} :
    unsigned? limit text = some n ↔ n ≤ limit ∧ ∃ signed zeros, text = padded signed zeros n := by
  by_cases plus : text.head? = some '+'
  · obtain ⟨digits, rfl⟩ := List.head?_eq_some_iff.mp plus
    refine Iff.trans value_eq_some_iff (and_congr_right fun _ => ⟨?_, ?_⟩)
    · rintro ⟨zeros, rfl⟩
      exact ⟨true, zeros, rfl⟩
    · rintro ⟨signed, zeros, whole⟩
      cases signed with
      | true => exact ⟨zeros, List.tail_eq_of_cons_eq whole⟩
      | false =>
        have member : '+' ∈ padded false zeros n := whole ▸ List.mem_cons_self ..
        exact absurd (isDigit_padded zeros n '+' member) (by decide)
  · have same : unsigned? limit text = if text.isEmpty || !text.all Char.isDigit then none
        else if digitsValue text ≤ limit then some (digitsValue text) else none := by
      rw [unsigned?]
      rintro digits rfl
      exact plus rfl
    rw [same]
    refine Iff.trans value_eq_some_iff (and_congr_right fun _ => ⟨?_, ?_⟩)
    · rintro ⟨zeros, rfl⟩
      exact ⟨false, zeros, rfl⟩
    · rintro ⟨signed, zeros, rfl⟩
      cases signed with
      | true => exact absurd rfl plus
      | false => exact ⟨zeros, rfl⟩

end TileScript
