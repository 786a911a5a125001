import TileScript.Proofs.MonitorOrder

/-! The order of monitors is the one they are looked at in: from left to right, and from top to bottom where two are
equally far to the left. Numbers are in the order of their values, which the order of bit patterns follows but for the
two zeros, which are two places there. Monitors of which one is at the negative zero and one at the other come in that
order, whichever is higher. -/

namespace TileScript
namespace Double

/-! ### Values -/

/-- A magnitude as a number of units, of which the least positive number is one. -/
def units (magnitude : Nat) : Nat :=
  if magnitude < hiddenBit then magnitude
  else (magnitude % hiddenBit + hiddenBit) * twoPow (magnitude / hiddenBit - 1)

theorem units_normal {magnitude : Nat} (normal : hiddenBit ≤ magnitude) :
    units magnitude = (magnitude % hiddenBit + hiddenBit) * twoPow (magnitude / hiddenBit - 1) :=
  if_neg (Nat.not_lt_of_le normal)

/-- Among numbers with one exponent, the next significand is more units. -/
theorem units_lt_succ_within {magnitude : Nat} (normal : hiddenBit ≤ magnitude)
    (room : magnitude % hiddenBit + 1 ≠ hiddenBit) : units magnitude < units (magnitude + 1) := by
  have rest : (magnitude + 1) % hiddenBit = magnitude % hiddenBit + 1 := by
    simp only [hiddenBit] at room ⊢
    omega
  have exponent : (magnitude + 1) / hiddenBit = magnitude / hiddenBit := by
    simp only [hiddenBit] at room ⊢
    omega
  rw [units_normal normal, units_normal (Nat.le_succ_of_le normal), rest, exponent]
  exact Nat.mul_lt_mul_of_pos_right (by omega) (Nat.two_pow_pos _)

/-- The first number with an exponent is more units than the last one with the exponent below. -/
theorem units_lt_succ_across {magnitude : Nat} (last : magnitude % hiddenBit + 1 = hiddenBit) :
    units magnitude < units (magnitude + 1) := by
  have normal : hiddenBit ≤ magnitude + 1 := last ▸ Nat.succ_le_succ (Nat.mod_le ..)
  have rest : (magnitude + 1) % hiddenBit = 0 := by
    simp only [hiddenBit] at last ⊢
    omega
  have exponent : (magnitude + 1) / hiddenBit - 1 = magnitude / hiddenBit := by
    simp only [hiddenBit] at last ⊢
    omega
  rw [units_normal normal, rest, exponent, Nat.zero_add]
  by_cases subnormal : magnitude < hiddenBit
  · rw [units, if_pos subnormal, Nat.div_eq_of_lt subnormal]
    exact Nat.lt_of_lt_of_eq subnormal (Nat.mul_one _).symm
  · obtain ⟨count, same⟩ : ∃ count, magnitude / hiddenBit = count + 1 :=
      Nat.exists_eq_succ_of_ne_zero (Nat.div_pos (Nat.le_of_not_lt subnormal) (by decide)).ne'
    rw [units_normal (Nat.le_of_not_lt subnormal), same]
    calc
      (magnitude % hiddenBit + hiddenBit) * twoPow count < hiddenBit * 2 * twoPow count :=
        Nat.mul_lt_mul_of_pos_right (by omega) (Nat.two_pow_pos _)
      _ = hiddenBit * twoPow (count + 1) := by rw [Nat.mul_assoc, Nat.mul_comm 2]; rfl

theorem units_lt_succ (magnitude : Nat) : units magnitude < units (magnitude + 1) := by
  by_cases last : magnitude % hiddenBit + 1 = hiddenBit
  · exact units_lt_succ_across last
  by_cases subnormal : magnitude < hiddenBit
  · have small : magnitude + 1 < hiddenBit := by
      rw [Nat.mod_eq_of_lt subnormal] at last
      omega
    rw [units, units, if_pos subnormal, if_pos small]
    exact Nat.lt_succ_self magnitude
  · exact units_lt_succ_within (Nat.le_of_not_lt subnormal) last

theorem units_strictMono : StrictMono units := strictMono_nat_of_lt_succ units_lt_succ

/-- The units of a number, with its sign. -/
def signedUnits (d : Double) : Int := if d.isNegative then -(units d.magnitude : Int) else units d.magnitude

theorem twoPow_add (m n : Nat) : twoPow (m + n) = twoPow m * twoPow n := Nat.pow_add 2 m n

theorem significand_units (d : Double) :
    d.significand * twoPow d.exponent.toNat * twoPow 1074 = units d.magnitude * twoPow d.scale := by
  by_cases small : d.magnitude < hiddenBit
  · have exponent : d.exponent = -1074 := by
      rw [Double.exponent, Nat.div_eq_of_lt small]
      rfl
    have power : d.exponent.toNat = 0 := by rw [exponent]; rfl
    have scale : d.scale = 1074 := by rw [Double.scale, exponent]; rfl
    rw [significand, units, if_pos small, if_pos small, power, scale]
    exact congrArg (· * twoPow 1074) (Nat.mul_one d.magnitude)
  · have first : 1 ≤ d.magnitude / hiddenBit := Nat.div_pos (Nat.le_of_not_lt small) (by decide)
    have exponent : d.exponent = (d.magnitude / hiddenBit : Nat) - 1075 := by
      rw [Double.exponent, Nat.max_eq_right first]
    have powers : d.exponent.toNat + 1074 = d.magnitude / hiddenBit - 1 + d.scale := by
      rw [scale, exponent]
      omega
    rw [significand, units_normal (Nat.le_of_not_lt small), if_neg small, Nat.mul_assoc, Nat.mul_assoc, ← twoPow_add,
      ← twoPow_add, powers]

/-- All numbers are fractions with one denominator. -/
theorem numerator_units (d : Double) : d.numerator * twoPow 1074 = d.signedUnits * twoPow d.scale := by
  have size : (d.significand * twoPow d.exponent.toNat * twoPow 1074 : Int) = units d.magnitude * twoPow d.scale := by
    exact_mod_cast significand_units d
  rw [numerator, signedUnits]
  split
  · rw [Int.neg_mul, Int.neg_mul, size]
  · exact size

theorem signedUnits_lt_iff (a b : Double) : a.signedUnits < b.signedUnits ↔ a.signedMagnitude < b.signedMagnitude := by
  have greater := units_strictMono.lt_iff_lt (a := a.magnitude) (b := b.magnitude)
  have smaller := units_strictMono.lt_iff_lt (a := b.magnitude) (b := a.magnitude)
  have positive := units_strictMono.lt_iff_lt (a := 0) (b := a.magnitude)
  have positive' := units_strictMono.lt_iff_lt (a := 0) (b := b.magnitude)
  have least : units 0 = 0 := rfl
  simp only [signedUnits, signedMagnitude]
  split <;> split <;> omega

/-- A smaller value is a smaller magnitude with its sign. -/
theorem values_lt_iff (a b : Double) :
    a.numerator * twoPow b.scale < b.numerator * twoPow a.scale ↔ a.signedMagnitude < b.signedMagnitude := by
  have positive : ∀ n, (0 : Int) < twoPow n := fun n => Int.natCast_pos.mpr (Nat.two_pow_pos n)
  calc
    a.numerator * twoPow b.scale < b.numerator * twoPow a.scale
      ↔ a.numerator * twoPow b.scale * twoPow 1074 < b.numerator * twoPow a.scale * twoPow 1074 :=
        (Int.mul_lt_mul_right (positive 1074)).symm
    _ ↔ a.signedUnits * (twoPow a.scale * twoPow b.scale) < b.signedUnits * (twoPow a.scale * twoPow b.scale) := by
      rw [Int.mul_right_comm, numerator_units, Int.mul_right_comm b.numerator, numerator_units, Int.mul_assoc,
        Int.mul_assoc b.signedUnits, Int.mul_comm (twoPow b.scale : Int)]
    _ ↔ a.signedUnits < b.signedUnits := Int.mul_lt_mul_right (Int.mul_pos (positive _) (positive _))
    _ ↔ a.signedMagnitude < b.signedMagnitude := signedUnits_lt_iff a b

/-- Smaller as a number. A finite number is its numerator over its power of two, and so compared by multiplying
crosswise; an infinity goes as the power of two that is beyond them all. -/
def IsBelow (a b : Double) : Prop :=
  ¬ a.isNaN ∧ ¬ b.isNaN ∧ a.numerator * twoPow b.scale < b.numerator * twoPow a.scale

theorem less_iff {a b : Double} : a.less b = true ↔ a.IsBelow b := by
  rw [IsBelow, values_lt_iff]
  simp [less, and_assoc]

/-! ### Bit patterns -/

theorem IsBelow.rank_lt {a b : Double} (below : a.IsBelow b) : a.rank < b.rank := by
  have signed := (values_lt_iff a b).mp below.2.2
  simp only [signedMagnitude, rank] at signed ⊢
  grind

theorem signedMagnitude_eq {a b : Double} (equal : a.equals b) : a.signedMagnitude = b.signedMagnitude :=
  eq_of_beq (Bool.and_eq_true_iff.mp equal).2

/-- Numbers that are equal and have the same sign are the same. -/
theorem eq_of_equals {a b : Double} (equal : a.equals b) (sign : a.isNegative = b.isNegative) : a = b := by
  have signed := signedMagnitude_eq equal
  refine rank_injective ?_
  simp only [signedMagnitude, rank] at signed ⊢
  grind

/-- Only zeros are equal and have different signs. -/
theorem zeros_of_equals {a b : Double} (equal : a.equals b) (negative : a.isNegative) (positive : ¬ b.isNegative) :
    a = zero.negate ∧ b = zero := by
  have signed := signedMagnitude_eq equal
  have below : zero.negate.rank = -1 := by decide
  have above : zero.rank = 0 := by decide
  simp only [signedMagnitude, if_pos negative, if_neg positive] at signed
  constructor
  · refine rank_injective (below ▸ ?_)
    rw [rank, if_pos negative]
    omega
  · refine rank_injective (above ▸ ?_)
    rw [rank, if_neg positive]
    omega

end Double

namespace Monitor

/-- Further to the left. -/
def LeftOf (a b : Monitor) : Prop := a.rect.x.IsBelow b.rect.x

/-- As far to the left and further up. -/
def Above (a b : Monitor) : Prop := a.rect.x.equals b.rect.x ∧ a.rect.y.IsBelow b.rect.y

theorem LeftOf.place_lt {a b : Monitor} (left : a.LeftOf b) : a.place < b.place :=
  Prod.Lex.toLex_lt_toLex.mpr (.inl left.rank_lt)

theorem Above.place_lt {a b : Monitor} (above : a.Above b) (sign : a.rect.x.isNegative = b.rect.x.isNegative) :
    a.place < b.place :=
  Prod.Lex.toLex_lt_toLex.mpr
    (.inr ⟨congrArg Double.rank (Double.eq_of_equals above.1 sign), above.2.rank_lt⟩)

/-- What has the smaller place is listed earlier. -/
theorem Ordered.index_lt {monitors : List Monitor} (ordered : Ordered monitors) {a b : Monitor} {i j : Nat}
    (first : monitors[i]? = some a) (second : monitors[j]? = some b) (place : a.place < b.place) : i < j := by
  obtain ⟨inside, rfl⟩ := List.getElem?_eq_some_iff.mp first
  obtain ⟨inside', rfl⟩ := List.getElem?_eq_some_iff.mp second
  refine Nat.lt_of_not_le fun after => ?_
  obtain before | same := Nat.lt_or_eq_of_le after
  · exact absurd (List.pairwise_iff_getElem.mp ordered j i inside' inside before) (not_le_of_gt place)
  · subst same
    exact lt_irrefl _ place

end Monitor

/-- A number in a sequence counts monitors in their order, from one. -/
theorem MonitorRef.resolve_sequence {sorted : List Monitor} {number : Nat} {found : Monitor} :
    (sequence number).resolve sorted = some found ↔ ∃ index, number = index + 1 ∧ sorted[index]? = some found := by
  cases number with
  | zero => simp [resolve]
  | succ index => simp [resolve]

namespace Monitor

/-- Monitors in their order are those that were listed, from left to right and from top to bottom, and are counted so.
If one is at the negative zero and another at the other zero, which is no further to the left, then that comes first,
and not the higher one. -/
theorem counted_in_reading_order (monitors : List Monitor) :
    (sort monitors).Perm monitors ∧
    (∀ (a b : Monitor) (i j : Nat), (sort monitors)[i]? = some a → (sort monitors)[j]? = some b →
      (a.LeftOf b ∨ (a.Above b ∧ a.rect.x.isNegative = b.rect.x.isNegative) → i < j) ∧
      (a.rect.x.equals b.rect.x → a.rect.x.isNegative → ¬ b.rect.x.isNegative →
        a.rect.x = Double.zero.negate ∧ b.rect.x = Double.zero ∧ i < j)) ∧
    ∀ number found, (MonitorRef.sequence number).resolve (sort monitors) = some found ↔
      ∃ index, number = index + 1 ∧ (sort monitors)[index]? = some found := by
  refine ⟨List.mergeSort_perm monitors notAfter, fun a b i j first second => ⟨?_, ?_⟩,
    fun _ _ => MonitorRef.resolve_sequence⟩
  · rintro (left | ⟨above, sign⟩)
    · exact (sort_ordered monitors).index_lt first second left.place_lt
    · exact (sort_ordered monitors).index_lt first second (above.place_lt sign)
  · intro equal negative positive
    obtain ⟨left, right⟩ := Double.zeros_of_equals equal negative positive
    have before : a.rect.x.rank < b.rect.x.rank := by
      rw [left, right]
      decide
    exact ⟨left, right, (sort_ordered monitors).index_lt first second (Prod.Lex.toLex_lt_toLex.mpr (.inl before))⟩

/-- A monitor that is above another, and comes after it. -/
theorem negative_zero_first : ∃ upper lower : Monitor,
    (∀ monitor ∈ [upper, lower], ¬ monitor.rect.x.isNaN ∧ ¬ monitor.rect.y.isNaN) ∧ upper.Above lower ∧
      sort [upper, lower] = [lower, upper] := by
  let upper : Monitor := ⟨1, "Wall", ⟨.zero, .zero, .zero, .zero⟩, "1", true⟩
  let lower : Monitor := ⟨2, "Desk", ⟨Double.zero.negate, ⟨0x4090e00000000000⟩, .zero, .zero⟩, "2", false⟩
  have numbers : ∀ monitor ∈ [upper, lower], ¬ monitor.rect.x.isNaN ∧ ¬ monitor.rect.y.isNaN := by decide +kernel
  have higher : upper.rect.y.IsBelow lower.rect.y := Double.less_iff.mp (by decide +kernel)
  have sooner : upper.notAfter lower = false := by decide +kernel
  have sorted : sort [upper, lower] = [lower, upper] := by
    simp [sort, List.mergeSort, sooner]
  exact ⟨upper, lower, numbers, ⟨by decide, higher⟩, sorted⟩

end Monitor
end TileScript
