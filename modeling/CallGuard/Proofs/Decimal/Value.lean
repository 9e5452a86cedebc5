import CallGuard.Decimal.Binary64
import Mathlib.Algebra.Order.Field.Power
import Mathlib.Data.Rat.Floor
import Mathlib.Tactic.Linarith
import Mathlib.Tactic.Positivity

/-!
The rationals that doubles denote. Rounding up is exact, although it is computed with natural numbers
only, and a large whole number keeps its highest bit when it is rounded to a double.
-/
namespace CallGuard.Decimal

theorem scaleTwo_pos (num : Nat) {den : Nat} (h : 0 < den) (e : Int) :
    0 < (scaleTwo num den e).2 := by
  unfold scaleTwo
  split
  · rw [Nat.shiftLeft_eq]
    positivity
  · exact h

theorem scaleTwo_div (num den : Nat) (e : Int) :
    ((scaleTwo num den e).1 : ℚ) / (scaleTwo num den e).2 = num / den * 2 ^ (-e) := by
  unfold scaleTwo
  split
  · rename_i nonneg
    obtain ⟨k, rfl⟩ := Int.eq_ofNat_of_zero_le nonneg
    rw [Int.toNat_natCast, Nat.shiftLeft_eq, zpow_neg, zpow_natCast]
    push_cast
    rw [div_mul_eq_div_div, div_eq_mul_inv _ ((2 : ℚ) ^ k)]
  · rename_i negative
    obtain ⟨k, rfl⟩ : ∃ k : Nat, e = -k := ⟨(-e).toNat, by omega⟩
    rw [neg_neg, Int.toNat_natCast, Nat.shiftLeft_eq, zpow_natCast]
    push_cast
    rw [mul_div_right_comm]

/-- Rounding a quotient up: what is added to the numerator is too little to reach the next one. -/
theorem ceil_div (n : Nat) {d : Nat} (h : 0 < d) : ⌈(n : ℚ) / d⌉ = ((n + d - 1) / d : Nat) := by
  have lower := Nat.lt_mul_div_succ (n + d - 1) h
  have upper := Nat.div_mul_le_self (n + d - 1) d
  generalize (n + d - 1) / d = q at lower upper
  have positive : (0 : ℚ) < d := Nat.cast_pos.mpr h
  rw [Int.ceil_eq_iff, lt_div_iff₀ positive, div_le_iff₀ positive]
  constructor
  · have below : q * d < n + d := by omega
    have below : (q : ℚ) * d < n + d := by exact_mod_cast below
    push_cast
    linarith
  · have above : n ≤ q * d := by
      rw [Nat.mul_succ, Nat.mul_comm] at lower
      omega
    exact_mod_cast above

namespace Binary64

/-- The number that a double denotes. -/
def value (x : Binary64) : ℚ := (if x.negative then -1 else 1) * (x.mantissa * 2 ^ x.exponent)

theorem ceil_eq (x : Binary64) : x.ceil = ⌈x.value⌉ := by
  have ratio := scaleTwo_div x.mantissa 1 (-x.exponent)
  have positive := scaleTwo_pos x.mantissa Nat.one_pos (-x.exponent)
  rw [Nat.cast_one, div_one, neg_neg] at ratio
  unfold ceil value
  rw [← ratio]
  generalize scaleTwo x.mantissa 1 (-x.exponent) = fraction at positive
  obtain ⟨n, d⟩ := fraction
  cases x.negative with
  | true => simp [Int.ceil_neg, Rat.floor_natCast_div_natCast]
  | false => simpa using (ceil_div n positive).symm

/-! ### Whole numbers -/

theorem div_le_roundDiv (num den : Nat) : num / den ≤ roundDiv num den := by
  unfold roundDiv
  dsimp only
  split_ifs <;> omega

theorem ne_zero_of_log2 {n k : Nat} (h : n.log2 = k + 1) : n ≠ 0 := by
  rintro rfl
  simp at h

/-- The highest bit of a number, as a product. -/
theorem highest_bit_le {n j k : Nat} (nonzero : n ≠ 0) (bits : n.log2 = k + j) :
    2 ^ j * 2 ^ k ≤ n := by
  rw [← pow_add, Nat.add_comm, ← bits]
  exact Nat.log2_self_le nonzero

theorem exponentOf_whole {n : Nat} (large : 53 ≤ n.log2) : exponentOf n 1 = n.log2 - 52 := by
  obtain ⟨k, bits⟩ : ∃ k, n.log2 = k + 53 := ⟨n.log2 - 53, by omega⟩
  have power : 2 ^ 53 * 2 ^ k ≤ n := highest_bit_le (ne_zero_of_log2 bits) bits
  have full : 1 <<< 53 ≤ n / 1 <<< k := by
    rw [Nat.shiftLeft_eq, Nat.shiftLeft_eq, Nat.one_mul, Nat.one_mul]
    exact (Nat.le_div_iff_mul_le (by positivity)).mpr power
  have start : ((k + 53 : Nat) : Int) - (Nat.log2 1 : Nat) - 53 = k := by
    rw [show Nat.log2 1 = 0 by decide]
    omega
  rw [exponentOf, bits, start]
  simp only [scaleTwo, Int.natCast_nonneg, ↓reduceIte, Int.toNat_natCast, full]
  omega

theorem le_value {m : Nat} {e k : Int} (fills : 2 ^ 52 ≤ m) (h : k ≤ e) :
    2 ^ (k + 52) ≤ value ⟨false, m, e⟩ := by
  have mantissa : (2 : ℚ) ^ (52 : Int) ≤ m := by exact_mod_cast fills
  have power : (2 : ℚ) ^ k ≤ 2 ^ e := zpow_le_zpow_right₀ (by norm_num) h
  calc (2 : ℚ) ^ (k + 52) = 2 ^ (52 : Int) * 2 ^ k := by
        rw [zpow_add₀ (by norm_num), mul_comm]
    _ ≤ m * 2 ^ e := mul_le_mul mantissa power (by positivity) (by positivity)
    _ = value ⟨false, m, e⟩ := by simp [value]

/-- Rounding a whole number to a double does not take it below its highest bit. -/
theorem exists_rounded {n : Nat} (large : 53 ≤ n.log2) (small : n.log2 < 1023) :
    ∃ x, ofRatio? false n 1 = some x ∧ 2 ^ n.log2 ≤ x.value := by
  obtain ⟨k, bits⟩ : ∃ k, n.log2 = k + 52 := ⟨n.log2 - 52, by omega⟩
  have nonzero : n ≠ 0 := ne_zero_of_log2 bits
  have power : 2 ^ 52 * 2 ^ k ≤ n := highest_bit_le nonzero bits
  have fills : 2 ^ 52 ≤ roundDiv n (1 <<< k) := by
    rw [Nat.shiftLeft_eq, Nat.one_mul]
    exact ((Nat.le_div_iff_mul_le (by positivity)).mpr power).trans (div_le_roundDiv _ _)
  have exponent : exponentOf n 1 = k := by
    rw [exponentOf_whole large, bits]
    omega
  have scaled : scaleTwo n 1 k = (n, 1 <<< k) := by simp [scaleTwo]
  have bound : (2 : ℚ) ^ n.log2 = 2 ^ ((k : Int) + 52) := by
    rw [bits]
    exact_mod_cast rfl
  rw [ofRatio?, if_neg nonzero, exponent, bound]
  simp only [scaled]
  -- A mantissa that is rounded up past its 53 bits is halved, and the exponent is one more.
  by_cases carried : roundDiv n (1 <<< k) = 1 <<< 53
  · rw [if_pos carried]
    dsimp only
    exact ⟨_, if_pos (by omega), le_value (by decide) (by omega)⟩
  · rw [if_neg carried]
    exact ⟨_, if_pos (by omega), le_value fills le_rfl⟩

end Binary64
end CallGuard.Decimal
