import TileScript.Bridge.Scene
import Mathlib.Tactic.Ring

/-! Whole numbers as doubles. A double without a fraction that fits 64 bits is an integer in scripts, and
that integer is the same number again. -/

namespace TileScript.Double

/-! ### Bits -/

theorem magnitude_ofSignMagnitude (negative : Bool) {magnitude : Nat} (small : magnitude < signBit) :
    (ofSignMagnitude negative magnitude).magnitude = magnitude := by
  have bound : magnitude < 0x8000000000000000 := small
  cases negative <;>
    simp only [ofSignMagnitude, Double.magnitude, signBit, UInt64.toNat_ofNat', if_true, if_false, Bool.false_eq_true] <;> omega

theorem isNegative_ofSignMagnitude (negative : Bool) {magnitude : Nat} (small : magnitude < signBit) :
    (ofSignMagnitude negative magnitude).isNegative = negative := by
  have bound : magnitude < 0x8000000000000000 := small
  cases negative <;>
    simp only [ofSignMagnitude, isNegative, signBit, UInt64.toNat_ofNat', if_true, if_false, Bool.false_eq_true,
      decide_eq_true_eq, decide_eq_false_iff_not] <;> omega

theorem equals_of_same {a b : Double} (left : a.isNaN = false) (right : b.isNaN = false)
    (same : a.signedMagnitude = b.signedMagnitude) : a.equals b = true := by
  simp [equals, left, right, same]

/-! ### Integers with at most 53 bits -/

theorem roundShift_exact {n s : Nat} (k : Nat) (exact : n = k * twoPow s) : roundShift n s = k := by
  have positive : 0 < twoPow s := Nat.two_pow_pos s
  have quotient : n / twoPow s = k := by rw [exact, Nat.mul_div_cancel _ positive]
  have rest : n % twoPow s = 0 := by rw [exact, Nat.mul_mod_left]
  simp only [roundShift, quotient, rest]
  rw [if_neg]
  simp
  omega

/-- The place of the first bit is the only one that fits the number. -/
theorem log2_scaled {size e f : Nat} (rest : f < hiddenBit)
    (value : size * 2 ^ (1075 - e) = (hiddenBit + f) * 2 ^ (e - 1075)) : size.log2 + (1075 - e) = 52 + (e - 1075) := by
  have hidden : hiddenBit = 2 ^ 52 := rfl
  have positive : size ≠ 0 := by
    rintro rfl
    have : 0 < (hiddenBit + f) * 2 ^ (e - 1075) := Nat.mul_pos (by omega) (Nat.two_pow_pos _)
    omega
  have below : 2 ^ (size.log2 + (1075 - e)) < 2 ^ (53 + (e - 1075)) := calc
    2 ^ (size.log2 + (1075 - e)) = 2 ^ size.log2 * 2 ^ (1075 - e) := Nat.pow_add ..
    _ ≤ size * 2 ^ (1075 - e) := Nat.mul_le_mul_right _ (Nat.log2_self_le positive)
    _ = (hiddenBit + f) * 2 ^ (e - 1075) := value
    _ < 2 ^ 53 * 2 ^ (e - 1075) := Nat.mul_lt_mul_of_pos_right (by omega) (Nat.two_pow_pos _)
    _ = 2 ^ (53 + (e - 1075)) := (Nat.pow_add ..).symm
  have above : 2 ^ (52 + (e - 1075)) < 2 ^ (size.log2 + 1 + (1075 - e)) := calc
    2 ^ (52 + (e - 1075)) = 2 ^ 52 * 2 ^ (e - 1075) := Nat.pow_add ..
    _ ≤ (hiddenBit + f) * 2 ^ (e - 1075) := Nat.mul_le_mul_right _ (by omega)
    _ = size * 2 ^ (1075 - e) := value.symm
    _ < 2 ^ (size.log2 + 1) * 2 ^ (1075 - e) := Nat.mul_lt_mul_of_pos_right Nat.lt_log2_self (Nat.two_pow_pos _)
    _ = 2 ^ (size.log2 + 1 + (1075 - e)) := (Nat.pow_add ..).symm
  have early := (Nat.pow_lt_pow_iff_right (Nat.lt_succ_self 1)).mp below
  have late := (Nat.pow_lt_pow_iff_right (Nat.lt_succ_self 1)).mp above
  omega

theorem ofInt_exact {n : Int} {e f : Nat} (first : 1 ≤ e) (last : e < 2047) (rest : f < hiddenBit)
    (value : n.natAbs * 2 ^ (1075 - e) = (hiddenBit + f) * 2 ^ (e - 1075)) :
    ofInt n = ofSignMagnitude (decide (n < 0)) (e * hiddenBit + f) := by
  have hidden : hiddenBit = 2 ^ 52 := rfl
  have positive : n.natAbs ≠ 0 := by
    intro zero
    rw [zero] at value
    have : 0 < (hiddenBit + f) * 2 ^ (e - 1075) := Nat.mul_pos (by omega) (Nat.two_pow_pos _)
    omega
  have log := log2_scaled rest value
  have unit : max (((n.natAbs.log2 : Int) - (0 : Nat)) - 52) (-1074) = (e : Int) - 1075 := by omega
  have rounded : (if (e : Int) - 1075 + (0 : Nat) < 0 then n.natAbs * twoPow (-((e : Int) - 1075 + (0 : Nat))).toNat
      else roundShift n.natAbs ((e : Int) - 1075 + (0 : Nat)).toNat) = hiddenBit + f := by
    split
    next low =>
      have shift : (-((e : Int) - 1075 + (0 : Nat))).toNat = 1075 - e := by omega
      have none : e - 1075 = 0 := by omega
      rw [shift, show twoPow (1075 - e) = 2 ^ (1075 - e) from rfl, value, none, Nat.pow_zero, Nat.mul_one]
    next high =>
      have shift : ((e : Int) - 1075 + (0 : Nat)).toNat = e - 1075 := by omega
      have none : 1075 - e = 0 := by omega
      rw [none, Nat.pow_zero, Nat.mul_one] at value
      rw [shift]
      exact roundShift_exact _ value
  have magnitude : ((e : Int) - 1075 + 1074).toNat * hiddenBit + (hiddenBit + f) = e * hiddenBit + f := by
    have stored : ((e : Int) - 1075 + 1074).toNat + 1 = e := by omega
    calc
      ((e : Int) - 1075 + 1074).toNat * hiddenBit + (hiddenBit + f)
          = (((e : Int) - 1075 + 1074).toNat + 1) * hiddenBit + f := by ring
      _ = e * hiddenBit + f := by rw [stored]
  have finite : e * hiddenBit + f ≤ infiniteMagnitude := by
    have infinite : infiniteMagnitude = 2047 * 2 ^ 52 := rfl
    have bound := Nat.mul_le_mul_right hiddenBit (Nat.le_of_lt_succ last)
    omega
  rw [ofInt, ofScaled, if_neg positive]
  simp only [unit, rounded, magnitude, Nat.min_eq_left finite]

/-! ### Doubles without a fraction -/

variable {d : Double}

theorem twoPow_lt {small large : Nat} (less : small < large) : twoPow small < twoPow large :=
  Nat.pow_lt_pow_right (Nat.lt_succ_self 1) less

theorem natAbs_numerator (d : Double) : d.numerator.natAbs = d.significand * 2 ^ d.exponent.toNat := by
  rw [numerator, twoPow]
  split <;> simp [Int.natAbs_mul, Int.natAbs_pow]

theorem wholePart_mul (whole : d.numerator % twoPow d.scale = 0) : d.wholePart * (twoPow d.scale : Int) = d.numerator :=
  Int.tdiv_mul_cancel (Int.dvd_of_emod_eq_zero whole)

/-- A number below the least normal one is zero if it has no fraction. -/
theorem magnitude_subnormal (small : d.magnitude < hiddenBit) (whole : d.numerator % twoPow d.scale = 0) :
    d.magnitude = 0 := by
  have exponent : d.exponent = -1074 := by
    rw [Double.exponent, Nat.div_eq_of_lt small]
    rfl
  have scale : d.scale = 1074 := by rw [Double.scale, exponent]; rfl
  have size : d.numerator.natAbs = d.magnitude := by
    rw [natAbs_numerator, exponent, significand, if_pos small]
    exact Nat.mul_one _
  have divides : twoPow 1074 ∣ d.magnitude := by
    rw [← size, ← Int.natCast_dvd]
    rw [scale] at whole
    exact Int.dvd_of_emod_eq_zero whole
  exact Nat.eq_zero_of_dvd_of_lt divides (Nat.lt_trans small (twoPow_lt (by decide : 52 < 1074)))

/-- The value of a normal number without a fraction has the bits of its significand. -/
theorem natAbs_wholePart (normal : hiddenBit ≤ d.magnitude) (whole : d.numerator % twoPow d.scale = 0) :
    d.wholePart.natAbs * 2 ^ (1075 - d.magnitude / hiddenBit) =
      (hiddenBit + d.magnitude % hiddenBit) * 2 ^ (d.magnitude / hiddenBit - 1075) := by
  have first : 1 ≤ d.magnitude / hiddenBit := Nat.div_pos normal (Nat.two_pow_pos 52)
  have exponent : d.exponent = (d.magnitude / hiddenBit : Nat) - 1075 := by
    rw [Double.exponent, Nat.max_eq_right first]
  have scale : d.scale = 1075 - d.magnitude / hiddenBit := by
    rw [Double.scale, exponent]
    omega
  have power : d.exponent.toNat = d.magnitude / hiddenBit - 1075 := by omega
  have size := natAbs_numerator d
  rw [← wholePart_mul whole, Int.natAbs_mul, Int.natAbs_natCast, scale, power, significand,
    if_neg (Nat.not_lt.mpr normal), Nat.add_comm _ hiddenBit] at size
  exact size

theorem isNegative_wholePart (nonzero : d.significand ≠ 0) (whole : d.numerator % twoPow d.scale = 0) :
    decide (d.wholePart < 0) = d.isNegative := by
  have unit : 0 < (twoPow d.scale : Int) := Int.natCast_pos.mpr (Nat.two_pow_pos _)
  have size : 0 < (d.significand * twoPow d.exponent.toNat : Int) := by
    exact_mod_cast Nat.mul_pos (Nat.pos_of_ne_zero nonzero) (Nat.two_pow_pos _)
  have product := wholePart_mul whole
  rw [numerator] at product
  cases negative : d.isNegative with
  | true =>
    rw [negative] at product
    simp only [if_true] at product
    refine decide_eq_true (Int.not_le.mp fun nonnegative => ?_)
    have := Int.mul_nonneg nonnegative (Int.le_of_lt unit)
    omega
  | false =>
    rw [negative] at product
    simp only [Bool.false_eq_true, if_false] at product
    refine decide_eq_false fun negative => ?_
    have := Int.mul_neg_of_neg_of_pos negative unit
    omega

theorem equals_ofInt_small (number : d.isNaN = false) (small : d.magnitude < hiddenBit)
    (whole : d.numerator % twoPow d.scale = 0) : d.equals (ofInt d.wholePart) = true := by
  have zero := magnitude_subnormal small whole
  have none : d.wholePart = 0 := by
    have size := natAbs_numerator d
    rw [significand, if_pos small, zero, Nat.zero_mul] at size
    rw [wholePart, Int.natAbs_eq_zero.mp size, Int.zero_tdiv]
  rw [none]
  -- Zero has two representations, which are equal numbers.
  refine equals_of_same number rfl ?_
  rw [signedMagnitude, zero]
  simp
  rfl

theorem equals_ofInt_normal (number : d.isNaN = false) (finite : d.magnitude < infiniteMagnitude)
    (normal : hiddenBit ≤ d.magnitude) (whole : d.numerator % twoPow d.scale = 0) : d.equals (ofInt d.wholePart) = true := by
  have below : d.magnitude < signBit := Nat.lt_trans finite (by decide)
  have last : d.magnitude / hiddenBit < 2047 := Nat.div_lt_of_lt_mul finite
  have significant : d.significand ≠ 0 := by
    rw [significand, if_neg (Nat.not_lt.mpr normal)]
    exact Nat.ne_of_gt (Nat.add_pos_right _ (Nat.two_pow_pos 52))
  -- The integer has the exponent and the significand of the double, and so its bits.
  rw [ofInt_exact (Nat.div_pos normal (Nat.two_pow_pos 52)) last (Nat.mod_lt _ (Nat.two_pow_pos 52))
    (natAbs_wholePart normal whole), Nat.div_add_mod', isNegative_wholePart significant whole]
  refine equals_of_same number ?_ ?_
  · rw [isNaN, magnitude_ofSignMagnitude _ below]
    exact number
  · rw [signedMagnitude, signedMagnitude, magnitude_ofSignMagnitude _ below, isNegative_ofSignMagnitude _ below]

/-- An integer that scripts get for a double is that number. -/
theorem equals_ofInt {n : Int} (known : d.toInteger? = some n) : d.equals (ofInt n) = true := by
  rw [toInteger?] at known
  split at known
  next fits =>
    cases known
    simp only [Bool.and_eq_true, decide_eq_true_eq] at fits
    obtain ⟨⟨whole, -⟩, -⟩ := fits
    rw [isWhole, Bool.and_eq_true, beq_iff_eq, isFinite, decide_eq_true_eq] at whole
    obtain ⟨finite, exact⟩ := whole
    have number : d.isNaN = false := decide_eq_false (Nat.not_lt.mpr (Nat.le_of_lt finite))
    rcases Nat.lt_or_ge d.magnitude hiddenBit with small | normal
    · exact equals_ofInt_small number small exact
    · exact equals_ofInt_normal number finite normal exact
  next => cases known

/-! ### Integers as doubles -/

/-- The exponent and the stored bits of an integer with up to 53 bits. -/
theorem exists_bits {n : Int} (nonzero : n ≠ 0) (small : n.natAbs ≤ 2 ^ 53) : ∃ e f, 1 ≤ e ∧ e < 2047 ∧ f < hiddenBit ∧
    n.natAbs * 2 ^ (1075 - e) = (hiddenBit + f) * 2 ^ (e - 1075) := by
  have hidden : hiddenBit = 2 ^ 52 := rfl
  rcases Nat.lt_or_ge n.natAbs (2 ^ 53) with less | most
  · have some : n.natAbs ≠ 0 := Int.natAbs_ne_zero.mpr nonzero
    obtain ⟨place, low, high, last⟩ : ∃ place, 2 ^ place ≤ n.natAbs ∧ n.natAbs < 2 ^ (place + 1) ∧ place < 53 :=
      ⟨n.natAbs.log2, Nat.log2_self_le some, Nat.lt_log2_self, (Nat.log2_lt some).mpr less⟩
    have above : hiddenBit ≤ n.natAbs * 2 ^ (52 - place) := calc
      hiddenBit = 2 ^ place * 2 ^ (52 - place) := by rw [hidden, ← Nat.pow_add]; congr 1; omega
      _ ≤ _ := Nat.mul_le_mul_right _ low
    have below : n.natAbs * 2 ^ (52 - place) < 2 * hiddenBit := calc
      _ < 2 ^ (place + 1) * 2 ^ (52 - place) := Nat.mul_lt_mul_of_pos_right high (Nat.two_pow_pos _)
      _ = 2 * hiddenBit := by rw [hidden, ← Nat.pow_add, ← Nat.pow_succ']; congr 1; omega
    refine ⟨place + 1023, n.natAbs * 2 ^ (52 - place) - hiddenBit, by omega, by omega, by omega, ?_⟩
    have up : 1075 - (place + 1023) = 52 - place := by omega
    have down : place + 1023 - 1075 = 0 := Nat.sub_eq_zero_of_le (by omega)
    rw [up, down, Nat.pow_zero, Nat.mul_one]
    omega
  · exact ⟨1076, 0, by omega, by omega, Nat.two_pow_pos 52, by omega⟩

/-- The parts of a normal number whose bits are known. -/
theorem parts_ofSignMagnitude (negative : Bool) {e f : Nat} (first : 1 ≤ e) (last : e < 2047) (rest : f < hiddenBit) :
    (ofSignMagnitude negative (e * hiddenBit + f)).isFinite = true ∧
    (ofSignMagnitude negative (e * hiddenBit + f)).isNegative = negative ∧
    (ofSignMagnitude negative (e * hiddenBit + f)).exponent = (e : Int) - 1075 ∧
    (ofSignMagnitude negative (e * hiddenBit + f)).significand = hiddenBit + f := by
  have positive : 0 < hiddenBit := Nat.two_pow_pos 52
  have finite : e * hiddenBit + f < infiniteMagnitude := by
    have infinite : infiniteMagnitude = 2047 * hiddenBit := rfl
    have bound := Nat.mul_le_mul_right hiddenBit (Nat.le_of_lt_succ last)
    omega
  have stored : e * hiddenBit + f < signBit := Nat.lt_trans finite (by decide)
  have magnitude := magnitude_ofSignMagnitude negative stored
  have normal : ¬ e * hiddenBit + f < hiddenBit := by
    have := Nat.mul_le_mul_right hiddenBit first
    omega
  refine ⟨?_, isNegative_ofSignMagnitude negative stored, ?_, ?_⟩
  · rw [isFinite, magnitude, decide_eq_true finite]
  · rw [Double.exponent, magnitude, Nat.add_comm, Nat.add_mul_div_right _ _ positive, Nat.div_eq_of_lt rest, Nat.zero_add,
      Nat.max_eq_right first]
  · rw [Double.significand, magnitude, if_neg normal, Nat.mul_add_mod', Nat.mod_eq_of_lt rest, Nat.add_comm]

/-- Such an integer is a multiple of the unit that the fraction of its double is counted in. -/
theorem numerator_ofInt {n : Int} {e f : Nat} (first : 1 ≤ e) (last : e < 2047) (rest : f < hiddenBit)
    (value : n.natAbs * 2 ^ (1075 - e) = (hiddenBit + f) * 2 ^ (e - 1075)) :
    (ofInt n).isFinite = true ∧ (ofInt n).numerator = n * (twoPow (ofInt n).scale : Int) := by
  obtain ⟨finite, negative, exponent, significand⟩ := parts_ofSignMagnitude (decide (n < 0)) first last rest
  rw [← ofInt_exact first last rest value] at finite negative exponent significand
  have scale : (ofInt n).scale = 1075 - e := by
    rw [Double.scale, exponent]
    omega
  have size : ((hiddenBit + f : Nat) : Int) * twoPow ((e : Int) - 1075).toNat = n.natAbs * (twoPow (1075 - e) : Int) := by
    rw [show ((e : Int) - 1075).toNat = e - 1075 by omega]
    exact_mod_cast value.symm
  refine ⟨finite, ?_⟩
  rw [Double.numerator, exponent, significand, negative, scale, size]
  simp only [decide_eq_true_eq]
  split
  · next below => rw [← Int.neg_mul, Int.ofNat_natAbs_of_nonpos (Int.le_of_lt below), Int.neg_neg]
  · next above => rw [Int.natAbs_of_nonneg (Int.not_lt.mp above)]

/-- Up to 53 bits an integer is a double. -/
theorem toInteger?_ofInt {n : Int} (small : n.natAbs ≤ 2 ^ 53) : (ofInt n).toInteger? = some n := by
  rcases eq_or_ne n 0 with rfl | nonzero
  · decide +kernel
  obtain ⟨e, f, first, last, rest, value⟩ := exists_bits nonzero small
  obtain ⟨finite, numerator⟩ := numerator_ofInt first last rest value
  have whole : (ofInt n).isWhole = true := by
    rw [isWhole, finite, numerator, Int.mul_emod_left]
    rfl
  have unit : (twoPow (ofInt n).scale : Int) ≠ 0 := Int.natCast_ne_zero.mpr (Nat.two_pow_pos _).ne'
  have part : (ofInt n).wholePart = n := by rw [wholePart, numerator, Int.mul_tdiv_cancel _ unit]
  have lower : minInteger ≤ n := by
    rw [minInteger]
    omega
  have upper : n ≤ maxInteger := by
    rw [maxInteger]
    omega
  rw [toInteger?, whole, part, decide_eq_true lower, decide_eq_true upper]
  rfl

end TileScript.Double
