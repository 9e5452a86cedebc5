import CallGuard.Decimal.Stepwise
import CallGuard.Proofs.Decimal.Value
import Mathlib.Data.Int.Log

/-!
Short decimals are read as the nearest doubles although they are rounded in steps: neither their
digits nor the power of ten lose anything, so that only the last step rounds. What a quotient is
rounded to depends on its value only.
-/
namespace CallGuard.Decimal

/-! ### Rounding by value -/

theorem roundDiv_mul (n d : Nat) {k : Nat} (positive : 0 < k) :
    roundDiv (n * k) (d * k) = roundDiv n d := by
  unfold roundDiv
  rw [Nat.mul_div_mul_right n d positive, Nat.mul_mod_mul_right]
  simp only [← Nat.mul_assoc, Nat.mul_lt_mul_right positive]

theorem mul_eq_of_ratio {a b c d : Nat} (hb : 0 < b) (hd : 0 < d)
    (same : (a : ℚ) / b = c / d) : a * d = c * b := by
  have hb : (b : ℚ) ≠ 0 := by positivity
  have hd : (d : ℚ) ≠ 0 := by positivity
  rw [div_eq_div_iff hb hd] at same
  exact_mod_cast same

theorem roundDiv_congr {a b c d : Nat} (hb : 0 < b) (hd : 0 < d) (same : (a : ℚ) / b = c / d) :
    roundDiv a b = roundDiv c d := by
  rw [← roundDiv_mul a b hd, ← roundDiv_mul c d hb, mul_eq_of_ratio hb hd same, Nat.mul_comm b d]

/-- The powers of two around a number. -/
theorem zpow_log2_le {n : Nat} (nonzero : n ≠ 0) :
    (2 : ℚ) ^ (n.log2 : Int) ≤ n ∧ (n : ℚ) < 2 ^ ((n.log2 : Int) + 1) := by
  have low : 2 ^ n.log2 ≤ n := Nat.log2_self_le nonzero
  have high : n < 2 ^ (n.log2 + 1) := Nat.lt_log2_self
  exact ⟨by exact_mod_cast low, by exact_mod_cast high⟩

namespace Binary64

/-- The exponent makes 53 bits of the quotient whole. -/
theorem exponentOf_eq {num den : Nat} (nonzero : num ≠ 0) (positive : 0 < den) :
    exponentOf num den = max (-1074) (Int.log 2 ((num : ℚ) / den) - 52) := by
  obtain ⟨num_low, num_high⟩ := zpow_log2_le nonzero
  obtain ⟨den_low, den_high⟩ := zpow_log2_le positive.ne'
  have ratio := scaleTwo_div num den ((num.log2 : Int) - den.log2 - 53)
  have scaled_pos := scaleTwo_pos num positive ((num.log2 : Int) - den.log2 - 53)
  have num_pos : (0 : ℚ) < num := by positivity
  have den_pos : (0 : ℚ) < den := by positivity
  have quotient_pos : (0 : ℚ) < num / den := by positivity
  unfold exponentOf
  generalize (num.log2 : Int) = i at *
  generalize (den.log2 : Int) = j at *
  -- The quotient lies between the powers below and above the difference of the logarithms.
  have least : i - j - 1 ≤ Int.log 2 ((num : ℚ) / den) := by
    rw [← Int.zpow_le_iff_le_log (by decide) quotient_pos, Nat.cast_ofNat, le_div_iff₀ den_pos]
    calc (2 : ℚ) ^ (i - j - 1) * den ≤ 2 ^ (i - j - 1) * 2 ^ (j + 1) := by gcongr
      _ = 2 ^ i := by
        rw [← zpow_add₀ (by norm_num)]
        ring_nf
      _ ≤ num := num_low
  have most : Int.log 2 ((num : ℚ) / den) < i - j + 1 := by
    rw [← Int.lt_zpow_iff_log_lt (by decide) quotient_pos, Nat.cast_ofNat, div_lt_iff₀ den_pos]
    calc (num : ℚ) < 2 ^ (i + 1) := num_high
      _ = 2 ^ (i - j + 1) * 2 ^ j := by
        rw [← zpow_add₀ (by norm_num)]
        ring_nf
      _ ≤ 2 ^ (i - j + 1) * den := by gcongr
  have full : 1 <<< 53 ≤ (scaleTwo num den (i - j - 53)).1 / (scaleTwo num den (i - j - 53)).2 ↔
      i - j ≤ Int.log 2 ((num : ℚ) / den) := by
    rw [← Int.zpow_le_iff_le_log (by decide) quotient_pos, Nat.le_div_iff_mul_le scaled_pos]
    have scaled : (0 : ℚ) < (scaleTwo num den (i - j - 53)).2 := by exact_mod_cast scaled_pos
    have bits : (2 : ℚ) ^ (i - j) = 2 ^ (53 : Int) * 2 ^ (i - j - 53) := by
      rw [← zpow_add₀ (by norm_num)]
      ring_nf
    rw [zpow_neg, eq_comm, ← div_eq_mul_inv, div_eq_iff (by positivity)] at ratio
    rw [ratio, Nat.cast_ofNat, bits, mul_le_mul_iff_left₀ (by positivity), le_div_iff₀ scaled]
    exact_mod_cast Iff.rfl
  dsimp only
  rw [max_def, max_def]
  split_ifs <;> omega

/-- What a quotient is rounded to depends on its value only. -/
theorem ofRatio?_congr {negative : Bool} {a b c d : Nat} (hb : 0 < b) (hd : 0 < d)
    (same : (a : ℚ) / b = c / d) : ofRatio? negative a b = ofRatio? negative c d := by
  have product := mul_eq_of_ratio hb hd same
  by_cases zero : a = 0
  · have zero' : c = 0 := by simpa [zero, hb.ne'] using product.symm
    rw [ofRatio?, ofRatio?, if_pos zero, if_pos zero']
  · have nonzero : c ≠ 0 := by
      rintro rfl
      simp [zero, hd.ne'] at product
    have exponent : exponentOf a b = exponentOf c d := by
      rw [exponentOf_eq zero hb, exponentOf_eq nonzero hd, same]
    have scaled : roundDiv (scaleTwo a b (exponentOf c d)).1 (scaleTwo a b (exponentOf c d)).2 =
        roundDiv (scaleTwo c d (exponentOf c d)).1 (scaleTwo c d (exponentOf c d)).2 := by
      apply roundDiv_congr (scaleTwo_pos a hb _) (scaleTwo_pos c hd _)
      rw [scaleTwo_div, scaleTwo_div, same]
    rw [ofRatio?, ofRatio?, if_neg zero, if_neg nonzero, exponent]
    dsimp only
    rw [scaled]

/-! ### Numbers that are doubles -/

/-- The double is the number, which is not below zero. -/
def IsExactly (x : Binary64) (q : ℚ) : Prop :=
  x.negative = false ∧ (x.fraction.1 : ℚ) / x.fraction.2 = q

variable {x y : Binary64} {p q : ℚ}

theorem fraction_pos (x : Binary64) : 0 < x.fraction.2 := scaleTwo_pos _ Nat.one_pos _

theorem mul?_eq (hx : x.IsExactly p) (hy : y.IsExactly q) {a b : Nat} (hb : 0 < b)
    (value : (a : ℚ) / b = p * q) : x.mul? y = ofRatio? false a b := by
  have sign : (x.negative != y.negative) = false := by simp [hx.1, hy.1]
  rw [mul?, sign]
  apply ofRatio?_congr (Nat.mul_pos x.fraction_pos y.fraction_pos) hb
  rw [value, ← hx.2, ← hy.2, div_mul_div_comm]
  push_cast
  rfl

theorem div?_eq (hx : x.IsExactly p) (hy : y.IsExactly q) (positive : 0 < q) {a b : Nat}
    (hb : 0 < b) (value : (a : ℚ) / b = p / q) : x.div? y = ofRatio? false a b := by
  have sign : (x.negative != y.negative) = false := by simp [hx.1, hy.1]
  have filled : 0 < y.fraction.1 := by
    rw [← hy.2] at positive
    exact Nat.pos_of_ne_zero fun zero => by simp [zero] at positive
  rw [div?, sign]
  apply ofRatio?_congr (Nat.mul_pos x.fraction_pos filled) hb
  rw [value, ← hx.2, ← hy.2, div_div_div_eq]
  push_cast
  rfl

theorem roundDiv_one (n : Nat) : roundDiv n 1 = n := by simp [roundDiv, Nat.mod_one]

theorem scaleTwo_up (n k : Nat) : scaleTwo n 1 (-(k : Int)) = (n <<< k, 1) := by
  unfold scaleTwo
  split
  · have none : k = 0 := by omega
    simp [none]
  · simp

/-- Whole numbers of at most 53 bits are doubles. -/
theorem exists_whole {n : Nat} (short : n < 2 ^ 53) :
    ∃ x, ofRatio? false n 1 = some x ∧ x.IsExactly n := by
  by_cases zero : n = 0
  · subst zero
    exact ⟨zero false, rfl, rfl, by simp [fraction, zero, scaleTwo]⟩
  · obtain ⟨k, bits⟩ : ∃ k, n.log2 + k = 52 := by
      have := (Nat.log2_lt zero).mpr short
      exact ⟨52 - n.log2, by omega⟩
    have exponent : exponentOf n 1 = -k := by
      rw [exponentOf_eq zero Nat.one_pos, Nat.cast_one, div_one, Int.log_natCast,
        ← Nat.log2_eq_log_two]
      omega
    have fits : n <<< k < 1 <<< 53 := by
      calc n <<< k = n * 2 ^ k := Nat.shiftLeft_eq n k
        _ < 2 ^ (n.log2 + 1) * 2 ^ k := by gcongr; exact Nat.lt_log2_self
        _ = 2 ^ 53 := by rw [← pow_add, Nat.add_right_comm, bits]
    refine ⟨⟨false, n <<< k, -k⟩, ?_, rfl, ?_⟩
    · rw [ofRatio?, if_neg zero, exponent]
      dsimp only
      rw [scaleTwo_up, roundDiv_one, if_neg fits.ne]
      exact if_pos (by omega)
    · have ratio := scaleTwo_div (n <<< k) 1 k
      rw [fraction, neg_neg, ratio, Nat.shiftLeft_eq]
      push_cast
      rw [div_one, zpow_neg, zpow_natCast, mul_inv_cancel_right₀ (by positivity)]

/-- So are the powers of ten that have no more bits than that above their zeros. -/
theorem exists_power {k : Nat} (small : k ≤ 22) :
    ∃ x, powerOfTen? k = some x ∧ x.IsExactly (10 ^ k) := by
  have powers : ∀ k < 23, (powerOfTen? k).any fun x =>
      !x.negative && x.fraction.1 == Nat.pow 10 k * x.fraction.2 := by decide
  have power := powers k (by omega)
  cases found : powerOfTen? k with
  | none => simp [found] at power
  | some x =>
    simp only [found, Option.any_some, Bool.and_eq_true, Bool.not_eq_true', beq_iff_eq] at power
    obtain ⟨sign, fraction⟩ := power
    have positive : (0 : ℚ) < x.fraction.2 := by exact_mod_cast x.fraction_pos
    refine ⟨x, rfl, sign, ?_⟩
    rw [div_eq_iff positive.ne', fraction, Nat.pow_eq]
    push_cast
    rfl

theorem ofRatio?_negative (negative : Bool) (a b : Nat) :
    ofRatio? negative a b = (ofRatio? false a b).map fun x => { x with negative := negative } := by
  unfold ofRatio?
  split
  · rfl
  · dsimp only
    split_ifs <;> rfl

theorem scaleTen_pos (n : Nat) (e : Int) : 0 < (scaleTen n e).2 := by
  unfold scaleTen
  split
  · exact Nat.one_pos
  · exact Nat.pow_pos (by decide)

theorem scaleTen_div (n : Nat) (e : Int) :
    ((scaleTen n e).1 : ℚ) / (scaleTen n e).2 =
      if 0 ≤ e then (n : ℚ) * 10 ^ e.toNat else n / 10 ^ (-e).toNat := by
  unfold scaleTen
  split <;> simp

/-- No power of ten of this size is out of range. -/
theorem ofDecimal?_of_short (negative : Bool) {n : Nat} {e : Int} (short : n < 2 ^ 53)
    (low : -22 ≤ e) (high : e ≤ 22) :
    ofDecimal? negative n e = ofRatio? negative (scaleTen n e).1 (scaleTen n e).2 := by
  by_cases zero : n = 0
  · have none : (scaleTen n e).1 = 0 := by
      unfold scaleTen
      split <;> simp [zero]
    simp only [ofDecimal?, ofRatio?, if_pos zero, if_pos none]
  · have bits : n.log2 < 53 := (Nat.log2_lt zero).mpr short
    rw [ofDecimal?, if_neg zero, if_neg zero, if_neg (by omega), if_neg (by omega)]

/-- Numbers of at most 53 bits are multiplied and divided by small powers of ten without a loss. -/
theorem ofSteps?_of_short {negative : Bool} {n : Nat} {e : Int} (short : n < 2 ^ 53)
    (low : -22 ≤ e) (high : e ≤ 22) : ofSteps? negative n e = ofDecimal? negative n e := by
  obtain ⟨x, whole, exact_x⟩ := exists_whole short
  have value := scaleTen_div n e
  have positive := scaleTen_pos n e
  rw [ofDecimal?_of_short negative short low high, ofRatio?_negative]
  simp only [ofSteps?, whole, Option.bind_eq_bind, Option.bind_some]
  by_cases raised : 0 ≤ e
  · obtain ⟨y, power, exact_y⟩ := exists_power (k := e.toNat) (by omega)
    rw [if_pos raised] at value ⊢
    rw [raise?, if_pos (by rw [maxPower]; omega), power, Option.bind_eq_bind, Option.bind_some,
      mul?_eq exact_x exact_y positive value, Option.map_eq_bind]
    rfl
  · obtain ⟨y, power, exact_y⟩ := exists_power (k := (-e).toNat) (by omega)
    have one : ((-e).toNat - 1) / maxPower = 0 := Nat.div_eq_of_lt (by rw [maxPower]; omega)
    rw [if_neg raised] at value ⊢
    rw [one, Nat.zero_mul, Nat.sub_zero, lower?, lowerOnce?, power,
      Option.bind_eq_bind, Option.bind_some,
      div?_eq exact_x exact_y (by positivity) positive value, Option.map_eq_bind]
    rfl

end Binary64
end CallGuard.Decimal
