import TileScript.Proofs.WholeNumbers

/-! Integers as doubles, also those with more than 53 bits. The double that the host gets for one is as near to it as a
double can be. -/

namespace TileScript.Double

/-- No finite number is nearer to an integer. The distances are compared over a common denominator. -/
structure IsNearest (d : Double) (n : Int) : Prop where
  finite : d.isFinite = true
  closest : ∀ other : Double, other.isFinite = true →
    (d.numerator - n * twoPow d.scale).natAbs * twoPow other.scale ≤
      (other.numerator - n * twoPow other.scale).natAbs * twoPow d.scale

/-- What is rounded is the nearest multiple of the unit. -/
theorem roundShift_closest (n s : Nat) (k : Int) :
    (((roundShift n s * twoPow s : Nat) : Int) - n).natAbs ≤ (k * twoPow s - n).natAbs := by
  have rest := Nat.mod_lt n (Nat.two_pow_pos s)
  have whole := Nat.div_add_mod' n (twoPow s)
  simp only [roundShift]
  change n % twoPow s < twoPow s at rest
  generalize twoPow s = unit at *
  generalize n / unit = quotient at *
  generalize n % unit = part at *
  -- A multiple is not above the quotient, or it is not below the one after it.
  have apart : part ≤ (k * unit - n).natAbs ∨ unit - part ≤ (k * unit - n).natAbs := by
    by_cases below : k ≤ quotient
    · have bound := Int.mul_le_mul_of_nonneg_right below (Int.natCast_nonneg unit)
      omega
    · have bound := Int.mul_le_mul_of_nonneg_right (Int.add_one_le_of_lt (Int.not_le.mp below)) (Int.natCast_nonneg unit)
      rw [Int.add_mul, Int.one_mul] at bound
      omega
  split
  next up =>
    simp only [Bool.or_eq_true, decide_eq_true_eq, Bool.and_eq_true, beq_iff_eq] at up
    rw [Nat.add_mul, Nat.one_mul]
    omega
  next down =>
    simp only [Bool.or_eq_true, decide_eq_true_eq, Bool.and_eq_true, beq_iff_eq] at down
    omega

/-- A number with 53 bits before the unit is rounded to one with 53 bits, or to the least one with 54. -/
theorem roundShift_range {n s : Nat} (low : hiddenBit * twoPow s ≤ n) (high : n < 2 * hiddenBit * twoPow s) :
    hiddenBit ≤ roundShift n s ∧ roundShift n s ≤ 2 * hiddenBit := by
  have unit : 0 < twoPow s := Nat.two_pow_pos s
  have least : hiddenBit ≤ n / twoPow s := (Nat.le_div_iff_mul_le unit).mpr low
  have most : n / twoPow s < 2 * hiddenBit := (Nat.div_lt_iff_lt_mul unit).mpr high
  simp only [roundShift]
  split <;> omega

variable {n : Int} {s : Nat}

/-- Of a longer integer 53 bits are kept. -/
theorem ofInt_long (place : n.natAbs.log2 = 52 + s) (some : n.natAbs ≠ 0) (few : s < 900) :
    (ofInt n).isFinite = true ∧ (ofInt n).scale = 0 ∧
      (ofInt n).numerator = n.sign * ((roundShift n.natAbs s * twoPow s : Nat) : Int) := by
  have low : hiddenBit * twoPow s ≤ n.natAbs := by
    have least := Nat.log2_self_le some
    rwa [place, Nat.pow_add] at least
  have high : n.natAbs < 2 * hiddenBit * twoPow s := by
    have most : n.natAbs < 2 ^ (n.natAbs.log2 + 1) := Nat.lt_log2_self
    rwa [place, Nat.add_right_comm, Nat.pow_add] at most
  obtain ⟨least, most⟩ := roundShift_range low high
  have bits : ofInt n = ofSignMagnitude (decide (n < 0)) ((s + 1074) * hiddenBit + roundShift n.natAbs s) := by
    have unit : max (((n.natAbs.log2 : Int) - (0 : Nat)) - 52) (-1074) = (s : Int) := by omega
    have finite : (s + 1074) * hiddenBit + roundShift n.natAbs s ≤ infiniteMagnitude := by
      have infinite : infiniteMagnitude = 2047 * hiddenBit := rfl
      have bound := Nat.mul_le_mul_right hiddenBit (Nat.le_of_lt few)
      rw [Nat.add_mul]
      omega
    have up : ¬ (s : Int) + (0 : Nat) < 0 := by omega
    have shift : ((s : Int) + (0 : Nat)).toNat = s := by omega
    have stored : ((s : Int) + 1074).toNat = s + 1074 := by omega
    rw [ofInt, ofScaled, if_neg some]
    simp only [unit, if_neg up, shift, stored, Nat.min_eq_left finite]
  -- The carry of rounding goes to the next exponent, where the significand is the least one.
  obtain ⟨e, f, first, last, rest, same, value⟩ : ∃ e f, 1075 ≤ e ∧ e < 2047 ∧ f < hiddenBit ∧
      (s + 1074) * hiddenBit + roundShift n.natAbs s = e * hiddenBit + f ∧
      (hiddenBit + f) * twoPow (e - 1075) = roundShift n.natAbs s * twoPow s := by
    have positive : 0 < hiddenBit := Nat.two_pow_pos 52
    rcases Nat.lt_or_ge (roundShift n.natAbs s) (2 * hiddenBit) with less | carry
    · refine ⟨s + 1075, roundShift n.natAbs s - hiddenBit, by omega, by omega, by omega, ?_, ?_⟩
      · rw [show s + 1075 = (s + 1074) + 1 by omega, Nat.add_mul (s + 1074)]
        omega
      · rw [Nat.add_sub_cancel' least, Nat.add_sub_cancel]
    · have exact : roundShift n.natAbs s = 2 * hiddenBit := Nat.le_antisymm most carry
      refine ⟨s + 1076, 0, by omega, by omega, positive, ?_, ?_⟩
      · rw [exact]
        ring
      · rw [exact, show s + 1076 - 1075 = s + 1 by omega, show twoPow (s + 1) = 2 * twoPow s from Nat.pow_succ']
        ring
  obtain ⟨finite, negative, exponent, significand⟩ :=
    parts_ofSignMagnitude (decide (n < 0)) (Nat.le_trans (by decide) first) last rest
  rw [← same, ← bits] at finite negative exponent significand
  refine ⟨finite, ?_, ?_⟩
  · rw [Double.scale, exponent]
    omega
  · have up : ((e : Int) - 1075).toNat = e - 1075 := by omega
    have size : ((hiddenBit + f : Nat) : Int) * twoPow (e - 1075) = ((roundShift n.natAbs s * twoPow s : Nat) : Int) := by
      exact_mod_cast value
    rw [Double.numerator, exponent, significand, negative, up, size]
    simp only [decide_eq_true_eq]
    split
    next below => rw [Int.sign_eq_neg_one_of_neg below, Int.neg_one_mul]
    next above =>
      rw [Int.sign_eq_one_of_pos (by omega), Int.one_mul]

/-- A finite number is a multiple of a unit, or it has no more than 52 bits before it. -/
theorem multiple_or_small (d : Double) (some : 0 < s) :
    (d.scale = 0 ∧ ∃ k : Int, d.numerator = k * twoPow s) ∨
      d.numerator.natAbs ≤ hiddenBit * twoPow s * twoPow d.scale := by
  have size := natAbs_numerator d
  by_cases long : (s : Int) ≤ d.exponent
  · left
    have divides : twoPow s ∣ d.numerator.natAbs := by
      rw [size]
      exact Nat.dvd_mul_left_of_dvd (Nat.pow_dvd_pow 2 (by omega)) _
    obtain ⟨k, same⟩ := Int.natCast_dvd.mpr divides
    exact ⟨by rw [Double.scale]; omega, k, same.trans (Int.mul_comm _ _)⟩
  · right
    have positive : 0 < hiddenBit := Nat.two_pow_pos 52
    have digits : d.significand ≤ 2 * hiddenBit := by
      rw [Double.significand]
      split
      · omega
      · have rest := Nat.mod_lt d.magnitude positive
        omega
    calc d.numerator.natAbs
      _ = d.significand * 2 ^ d.exponent.toNat := size
      _ ≤ 2 * hiddenBit * 2 ^ (s - 1) := Nat.mul_le_mul digits (Nat.pow_le_pow_right (by decide) (by omega))
      _ = hiddenBit * twoPow s := by
        obtain ⟨t, rfl⟩ := Nat.exists_eq_add_of_lt some
        rw [Nat.zero_add, Nat.add_sub_cancel, show twoPow (t + 1) = 2 * twoPow t from Nat.pow_succ']
        change _ * twoPow t = _
        ring
      _ ≤ hiddenBit * twoPow s * twoPow d.scale := Nat.le_mul_of_pos_right _ (Nat.two_pow_pos _)

theorem sign_mul_sign (nonzero : n ≠ 0) : n.sign * n.sign = 1 := by
  rcases Int.lt_or_gt_of_ne nonzero with below | above
  · rw [Int.sign_eq_neg_one_of_neg below]
    rfl
  · rw [Int.sign_eq_one_of_pos above]
    rfl

/-- Distances are the same on both sides of zero. -/
theorem distance_mirrored (nonzero : n ≠ 0) (x t : Int) : (x - n * t).natAbs = (n.sign * x - n.natAbs * t).natAbs := by
  have value : n.sign * n.natAbs = n := Int.sign_mul_natAbs n
  have same : n.sign * (x - n * t) = n.sign * x - n.natAbs * t := calc
    n.sign * (x - n * t) = n.sign * (x - n.sign * n.natAbs * t) := by rw [value]
    _ = n.sign * x - n.sign * n.sign * n.natAbs * t := by ring
    _ = _ := by rw [sign_mul_sign nonzero, Int.one_mul]
  rw [← same, Int.natAbs_mul, Int.natAbs_sign_of_ne_zero nonzero, Nat.one_mul]

/-- A number with few bits is as far from a long integer as the least one with all 53 bits, or farther. -/
theorem distance_small {size t : Nat} {x : Int} (long : hiddenBit * twoPow s ≤ size)
    (small : x.natAbs ≤ hiddenBit * twoPow s * twoPow t) :
    (hiddenBit * twoPow s - size : Int).natAbs * twoPow t ≤ (x - size * twoPow t).natAbs := by
  have apart : (hiddenBit * twoPow s - size : Int).natAbs = size - hiddenBit * twoPow s := by
    have cast : ((hiddenBit * twoPow s : Nat) : Int) = hiddenBit * twoPow s := Int.natCast_mul ..
    omega
  have cast : ((size * twoPow t : Nat) : Int) = size * twoPow t := Int.natCast_mul ..
  have above := Nat.mul_le_mul_right (twoPow t) long
  rw [apart, Nat.sub_mul, ← cast]
  omega

theorem isNearest_ofInt_long (place : n.natAbs.log2 = 52 + s) (many : 0 < s) (few : s < 900) : (ofInt n).IsNearest n := by
  have some : n.natAbs ≠ 0 := by
    intro zero
    rw [zero, Nat.log2_zero] at place
    omega
  have nonzero := Int.natAbs_ne_zero.mp some
  have low : hiddenBit * twoPow s ≤ n.natAbs := by
    have least := Nat.log2_self_le some
    rwa [place, Nat.pow_add] at least
  obtain ⟨finite, scale, numerator⟩ := ofInt_long place some few
  have unit : ((twoPow 0 : Nat) : Int) = 1 := rfl
  have distance : ((ofInt n).numerator - n * twoPow 0).natAbs =
      (((roundShift n.natAbs s * twoPow s : Nat) : Int) - n.natAbs).natAbs := by
    rw [numerator, distance_mirrored nonzero, ← Int.mul_assoc, sign_mul_sign nonzero, Int.one_mul, unit, Int.mul_one]
  refine ⟨finite, fun other _ => ?_⟩
  rw [scale, distance, distance_mirrored nonzero, show twoPow 0 = 1 from rfl, Nat.mul_one]
  obtain ⟨whole, k, same⟩ | small := multiple_or_small other many
  · rw [whole, same, unit, show twoPow 0 = 1 from rfl, Nat.mul_one, Int.mul_one, ← Int.mul_assoc]
    exact roundShift_closest _ _ _
  · have mirrored : (n.sign * other.numerator).natAbs = other.numerator.natAbs := by
      rw [Int.natAbs_mul, Int.natAbs_sign_of_ne_zero nonzero, Nat.one_mul]
    have rounded := Nat.mul_le_mul_right (twoPow other.scale) (roundShift_closest n.natAbs s hiddenBit)
    exact Nat.le_trans rounded (distance_small low (mirrored ▸ small))

/-- The double that the host gets for an integer is the nearest one. -/
theorem isNearest_ofInt (small : n.natAbs < 2 ^ 64) : (ofInt n).IsNearest n := by
  rcases Nat.lt_or_ge (2 ^ 53) n.natAbs with long | short
  · have some : n.natAbs ≠ 0 := Nat.ne_of_gt (Nat.lt_trans (Nat.two_pow_pos 53) long)
    have low : 53 ≤ n.natAbs.log2 := (Nat.le_log2 some).mpr (Nat.le_of_lt long)
    have high : n.natAbs.log2 < 64 := (Nat.log2_lt some).mpr small
    obtain ⟨s, place⟩ : ∃ s, n.natAbs.log2 = 52 + s := ⟨n.natAbs.log2 - 52, by omega⟩
    exact isNearest_ofInt_long place (by omega) (by omega)
  · obtain ⟨finite, exact⟩ : (ofInt n).isFinite = true ∧ (ofInt n).numerator = n * twoPow (ofInt n).scale := by
      rcases eq_or_ne n 0 with rfl | nonzero
      · decide +kernel
      · obtain ⟨e, f, first, last, rest, value⟩ := exists_bits nonzero short
        exact numerator_ofInt first last rest value
    refine ⟨finite, fun other _ => ?_⟩
    rw [exact, Int.sub_self, Int.natAbs_zero, Nat.zero_mul]
    exact Nat.zero_le _

end TileScript.Double
