import CallGuard.Json.Printer
import CallGuard.Proofs.Bytes
import CallGuard.Proofs.Json.Value
import Mathlib.Data.Nat.Digits.Defs

/-!
Integers are read back from their digits. A digit is taken as long as the number fits 64 bits, so
that a number that fits is read to its end, whatever follows that could not belong to it.
-/
namespace CallGuard.Json

open Decimal (Binary64)

/-- The bytes do not go on with what could belong to an integer, or make a fraction of it. -/
def EndsNumber (rest : Bytes) : Prop :=
  ∀ b ∈ rest.head?, Ascii.isDigit b = false ∧ b ∉ [Ascii.dot, Ascii.upperE, Ascii.lowerE]

/-! ### Digits -/

def digitBytes (n : Nat) : Bytes := (Nat.toDigits 10 n).flatMap String.utf8EncodeChar

theorem digitBytes_of_lt {d : Nat} (h : d < 10) : digitBytes d = [UInt8.ofNat (48 + d)] := by
  rw [digitBytes, Nat.toDigits_of_lt_base h]
  revert d
  decide

theorem digitBytes_append {n d : Nat} (positive : 0 < n) (h : d < 10) :
    digitBytes (10 * n + d) = digitBytes n ++ digitBytes d := by
  rw [digitBytes, ← Nat.toDigits_append_toDigits (by decide) positive h, List.flatMap_append]
  rfl

theorem isDigit_of_lt {d : Nat} (h : d < 10) :
    Ascii.isDigit (UInt8.ofNat (48 + d)) = true ∧ Ascii.digitValue (UInt8.ofNat (48 + d)) = d ∧
      (UInt8.ofNat (48 + d) = Ascii.zero → d = 0) := by
  revert d
  decide

/-- Each number is one digit, or its last digit after those of a smaller number. -/
theorem digits_induction {P : Nat → Prop} (one : ∀ d < 10, P d)
    (more : ∀ n d, 0 < n → d < 10 → P n → P (10 * n + d)) (n : Nat) : P n := by
  induction n using Nat.strongRecOn with
  | ind n ih =>
    by_cases small : n < 10
    · exact one n small
    · have shorter : P (n / 10) := ih (n / 10) (by omega)
      have whole : 10 * (n / 10) + n % 10 = n := by omega
      rw [← whole]
      exact more (n / 10) (n % 10) (by omega) (by omega) shorter

theorem digitBytes_front (n : Nat) :
    ∃ b tail, digitBytes n = b :: tail ∧ Ascii.isDigit b = true ∧ (b = Ascii.zero → n = 0) := by
  induction n using digits_induction with
  | one d h =>
    obtain ⟨digit, -, zero⟩ := isDigit_of_lt h
    exact ⟨_, [], digitBytes_of_lt h, digit, zero⟩
  | more n d positive h ih =>
    obtain ⟨b, tail, front, digit, zero⟩ := ih
    refine ⟨b, tail ++ digitBytes d, ?_, digit, fun same => ?_⟩
    · rw [digitBytes_append positive h, front, List.cons_append]
    · have := zero same
      omega

theorem scanDigits_digitBytes {n : Nat} (fits : n < 2 ^ 64) :
    ∃ count, ∀ rest, scanDigits 0 0 (digitBytes n ++ rest) = scanDigits n count rest := by
  induction n using digits_induction with
  | one d h =>
    obtain ⟨digit, value, -⟩ := isDigit_of_lt h
    refine ⟨1, fun rest => ?_⟩
    rw [digitBytes_of_lt h, List.singleton_append, scanDigits]
    simp only [digit, value, Nat.zero_mul, Nat.zero_add, Bool.true_and]
    rw [if_pos (decide_eq_true (by simpa using fits))]
  | more n d positive h ih =>
    obtain ⟨digit, value, -⟩ := isDigit_of_lt h
    obtain ⟨count, taken⟩ := ih (by omega)
    refine ⟨count + 1, fun rest => ?_⟩
    rw [digitBytes_append positive h, List.append_assoc, taken, digitBytes_of_lt h,
      List.singleton_append, scanDigits]
    simp only [digit, value, Nat.mul_comm n 10, Bool.true_and]
    rw [if_pos (decide_eq_true (by simpa using fits))]

theorem scanDigits_of_ends {rest : Bytes} (ends : EndsNumber rest) (n count : Nat) :
    scanDigits n count rest = (n, count, rest) := by
  cases rest with
  | nil => rfl
  | cons b rest =>
    obtain ⟨digit, -⟩ := ends b rfl
    simp [scanDigits, digit]

theorem dropWhile_of_ends {rest : Bytes} (ends : EndsNumber rest) :
    rest.dropWhile Ascii.isDigit = rest := by
  cases rest with
  | nil => rfl
  | cons b rest => exact List.dropWhile_cons_of_neg (by simp [(ends b rfl).1])

/-! ### Numbers -/

theorem scanFraction_of_ends {rest : Bytes} (ends : EndsNumber rest) (n : Nat) :
    scanFraction false n 0 rest = .ok (.inl n, rest) ∧
      (0 < n → n ≤ 2 ^ 63 → scanFraction true n 0 rest = .ok (.inl (-(n : Int)), rest)) := by
  unfold scanFraction
  split
  · exact absurd (ends _ rfl).2 (by decide)
  · exact absurd (ends _ rfl).2 (by decide)
  · exact absurd (ends _ rfl).2 (by decide)
  · refine ⟨rfl, fun positive fits => ?_⟩
    rw [if_neg (by decide), if_neg (by decide), if_neg (by omega), if_pos (by simpa using fits)]

theorem scanMagnitude_digitBytes {n : Nat} (fits : n < 2 ^ 64) {rest : Bytes}
    (ends : EndsNumber rest) (negative : Bool) :
    scanMagnitude negative (digitBytes n ++ rest) = scanFraction negative n 0 rest := by
  by_cases zero : n = 0
  · subst zero
    cases rest with
    | nil => rfl
    | cons b rest =>
      obtain ⟨digit, -⟩ := ends b rfl
      simp [digitBytes_of_lt, scanMagnitude, digit]
  · obtain ⟨b, tail, front, digit, only⟩ := digitBytes_front n
    obtain ⟨count, taken⟩ := scanDigits_digitBytes fits
    have taken : scanDigits 0 0 (b :: (tail ++ rest)) = (n, count, rest) := by
      rw [← List.cons_append, ← front, taken, scanDigits_of_ends ends]
    rw [front, List.cons_append, scanMagnitude.eq_def]
    dsimp only
    rw [if_neg (zero ∘ only), if_pos digit, taken]
    simp only [dropWhile_of_ends ends, Nat.sub_self]

/-- The bytes of an integer as it is printed. -/
theorem ofString_toString (n : Int) : Bytes.ofString (toString n) =
    if 0 ≤ n then digitBytes n.toNat else Ascii.minus :: digitBytes (-n).toNat := by
  have minus : Bytes.ofString "-" = [Ascii.minus] := by decide
  have digits (k : Nat) : Bytes.ofString (toString k) = digitBytes k := by
    rw [Bytes.ofString, Nat.toString_eq_repr, Nat.toList_repr, digitBytes]
  cases n with
  | ofNat k => exact digits k
  | negSucc k =>
    change Bytes.ofString ("-" ++ toString (k + 1)) = _
    rw [Bytes.ofString_append, minus, digits]
    rfl

theorem toString_front (n : Int) : ∃ b tail, Bytes.ofString (toString n) = b :: tail ∧
    BeginsNumber b := by
  rw [ofString_toString]
  split
  · obtain ⟨b, tail, front, digit, -⟩ := digitBytes_front n.toNat
    exact ⟨b, tail, front, .inr digit⟩
  · exact ⟨_, _, rfl, .inl rfl⟩

/-- An integer of 64 bits, with a sign or without, is read back. -/
theorem scanNumber_toString {n : Int} (low : -2 ^ 63 ≤ n) (high : n < 2 ^ 64) {rest : Bytes}
    (ends : EndsNumber rest) :
    scanNumber (Bytes.ofString (toString n) ++ rest) = .ok (.inl n, rest) := by
  rw [ofString_toString]
  split
  · rename_i nonneg
    obtain ⟨k, rfl⟩ := Int.eq_ofNat_of_zero_le nonneg
    obtain ⟨b, tail, front, digit, -⟩ := digitBytes_front k
    have unsigned :
        scanNumber (digitBytes k ++ rest) = scanMagnitude false (digitBytes k ++ rest) := by
      have first : b ≠ Ascii.minus := by
        rintro rfl
        exact absurd digit (by decide)
      rw [front, List.cons_append, scanNumber]
      simpa using first
    rw [Int.toNat_natCast, unsigned, scanMagnitude_digitBytes (by omega) ends]
    exact (scanFraction_of_ends ends k).1
  · obtain ⟨k, rfl⟩ : ∃ k : Nat, n = -k := ⟨(-n).toNat, by omega⟩
    rw [neg_neg, Int.toNat_natCast]
    change scanMagnitude true (digitBytes k ++ rest) = _
    rw [scanMagnitude_digitBytes (by omega) ends]
    exact (scanFraction_of_ends ends k).2 (by omega) (by omega)

end CallGuard.Json
