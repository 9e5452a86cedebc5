import CallGuard.Proofs.Bytes
import CallGuard.Text.Utf8

/-!
The bytes of a text are read as that text again. A character is found at the front of its own bytes,
whatever follows them, so that no broken sequence is seen.
-/
namespace CallGuard.Text.Utf8

/-! ### Characters by the number of their bytes -/

theorem front_one {a : UInt8} (ha : a.toNat < 0x80) (rest : Bytes) :
    front (a :: rest) = .char (Char.ofNat a.toNat) rest := by
  have small : a < 0x80 := UInt8.lt_iff_toNat_lt.mpr ha
  simp [front, small]

theorem front_two {a b : UInt8} (ha : 0xC2 ≤ a.toNat ∧ a.toNat ≤ 0xDF)
    (hb : isContinuation b = true) (rest : Bytes) :
    front (a :: b :: rest) = .char (codePoint (a.toNat - 0xC0) [b]) rest := by
  have large : ¬ a < 0x80 :=
    UInt8.not_lt.mpr (UInt8.le_iff_toNat_le.mpr (Nat.le_trans (by decide) ha.1))
  have low : 0xC2 ≤ a := UInt8.le_iff_toNat_le.mpr ha.1
  have high : a ≤ 0xDF := UInt8.le_iff_toNat_le.mpr ha.2
  simp [front, large, low, high, hb]

theorem front_three {a b c : UInt8} (ha : 0xE0 ≤ a.toNat ∧ a.toNat ≤ 0xEF)
    (hb : secondInRange a b = true) (hc : isContinuation c = true) (rest : Bytes) :
    front (a :: b :: c :: rest) = .char (codePoint (a.toNat - 0xE0) [b, c]) rest := by
  have large : ¬ a < 0x80 :=
    UInt8.not_lt.mpr (UInt8.le_iff_toNat_le.mpr (Nat.le_trans (by decide) ha.1))
  have more : ¬ a ≤ 0xDF :=
    UInt8.not_le.mpr (UInt8.lt_iff_toNat_lt.mpr (Nat.lt_of_lt_of_le (by decide) ha.1))
  have low : 0xE0 ≤ a := UInt8.le_iff_toNat_le.mpr ha.1
  have high : a ≤ 0xEF := UInt8.le_iff_toNat_le.mpr ha.2
  simp [front, large, more, low, high, hb, hc]

theorem front_four {a b c d : UInt8} (ha : 0xF0 ≤ a.toNat ∧ a.toNat ≤ 0xF4)
    (hb : secondInRange a b = true) (hc : isContinuation c = true) (hd : isContinuation d = true)
    (rest : Bytes) :
    front (a :: b :: c :: d :: rest) = .char (codePoint (a.toNat - 0xF0) [b, c, d]) rest := by
  have large : ¬ a < 0x80 :=
    UInt8.not_lt.mpr (UInt8.le_iff_toNat_le.mpr (Nat.le_trans (by decide) ha.1))
  have more : ¬ a ≤ 0xDF :=
    UInt8.not_le.mpr (UInt8.lt_iff_toNat_lt.mpr (Nat.lt_of_lt_of_le (by decide) ha.1))
  have most : ¬ a ≤ 0xEF :=
    UInt8.not_le.mpr (UInt8.lt_iff_toNat_lt.mpr (Nat.lt_of_lt_of_le (by decide) ha.1))
  have low : 0xF0 ≤ a := UInt8.le_iff_toNat_le.mpr ha.1
  have high : a ≤ 0xF4 := UInt8.le_iff_toNat_le.mpr ha.2
  simp [front, large, more, most, low, high, hb, hc, hd]

/-! ### Code points -/

theorem isContinuation_low_bits (n : Nat) : isContinuation (UInt8.ofNat (n % 64 + 128)) = true := by
  have code := UInt8.toNat_ofNat_of_lt' (show n % 64 + 128 < 256 by omega)
  simp only [isContinuation, Bool.and_eq_true, decide_eq_true_eq, UInt8.le_iff_toNat_le, code,
    UInt8.reduceToNat]
  omega

theorem codePoint_nil (n : Nat) : codePoint n [] = Char.ofNat n := rfl

/-- A byte of low bits brings them to the number. -/
theorem codePoint_cons (lead n : Nat) (rest : Bytes) :
    codePoint lead (UInt8.ofNat (n % 64 + 128) :: rest) = codePoint (lead * 64 + n % 64) rest := by
  have code := UInt8.toNat_ofNat_of_lt' (show n % 64 + 128 < 256 by omega)
  simp only [codePoint, List.foldl_cons, code, Nat.add_sub_cancel]

/-- The second byte of a character of three bytes is in the range that its first byte asks for: no
character could do with fewer bytes, and none is a surrogate. -/
theorem secondInRange_of_three {n : Nat} (low : 0x800 ≤ n) (high : n ≤ 0xFFFF)
    (whole : n < 0xD800 ∨ 0xDFFF < n) :
    secondInRange (UInt8.ofNat (n / 4096 % 16 + 224)) (UInt8.ofNat (n / 64 % 64 + 128)) = true := by
  have first := UInt8.toNat_ofNat_of_lt' (show n / 4096 % 16 + 224 < 256 by omega)
  have second := UInt8.toNat_ofNat_of_lt' (show n / 64 % 64 + 128 < 256 by omega)
  simp only [secondInRange, ← UInt8.toNat_inj, first, isContinuation, UInt8.le_iff_toNat_le, second,
    UInt8.reduceToNat]
  split
  · simp; omega
  · split
    · simp; omega
    · split
      · omega
      · split
        · omega
        · simp; omega

theorem secondInRange_of_four {n : Nat} (low : 0xFFFF < n) (high : n < 0x110000) :
    secondInRange (UInt8.ofNat (n / 262144 % 8 + 240)) (UInt8.ofNat (n / 4096 % 64 + 128)) =
      true := by
  have first := UInt8.toNat_ofNat_of_lt' (show n / 262144 % 8 + 240 < 256 by omega)
  have second := UInt8.toNat_ofNat_of_lt' (show n / 4096 % 64 + 128 < 256 by omega)
  simp only [secondInRange, ← UInt8.toNat_inj, first, isContinuation, UInt8.le_iff_toNat_le, second,
    UInt8.reduceToNat]
  split
  · omega
  · split
    · omega
    · split
      · simp; omega
      · split
        · simp; omega
        · simp; omega

/-- A character is found at the front of its own bytes. -/
theorem front_utf8EncodeChar (c : Char) (rest : Bytes) :
    front (String.utf8EncodeChar c ++ rest) = .char c rest := by
  have valid : c.toNat < 0xD800 ∨ 0xDFFF < c.toNat ∧ c.toNat < 0x110000 := c.valid
  have whole : Char.ofNat c.toNat = c := Char.ofNat_toNat c
  unfold String.utf8EncodeChar
  rw [show c.val.toNat = c.toNat from rfl]
  generalize c.toNat = n at valid whole
  by_cases one : n ≤ 0x7f
  · have first := UInt8.toNat_ofNat_of_lt' (show n < 256 by omega)
    simp only [if_pos one, List.cons_append, List.nil_append]
    rw [front_one (by omega), first, whole]
  by_cases two : n ≤ 0x7ff
  · have first := UInt8.toNat_ofNat_of_lt' (show n / 64 % 32 + 192 < 256 by omega)
    simp only [if_neg one, if_pos two, List.cons_append, List.nil_append]
    rw [front_two (by omega) (isContinuation_low_bits n), first, codePoint_cons, codePoint_nil]
    rw [show (n / 64 % 32 + 192 - 0xC0) * 64 + n % 64 = n by omega, whole]
  by_cases three : n ≤ 0xffff
  · have first := UInt8.toNat_ofNat_of_lt' (show n / 4096 % 16 + 224 < 256 by omega)
    have second := secondInRange_of_three (n := n) (by omega) three (by omega)
    simp only [if_neg one, if_neg two, if_pos three, List.cons_append, List.nil_append]
    rw [front_three (by omega) second (isContinuation_low_bits n), first, codePoint_cons,
      codePoint_cons, codePoint_nil]
    rw [show ((n / 4096 % 16 + 224 - 0xE0) * 64 + n / 64 % 64) * 64 + n % 64 = n by omega, whole]
  · have first := UInt8.toNat_ofNat_of_lt' (show n / 262144 % 8 + 240 < 256 by omega)
    have second := secondInRange_of_four (n := n) (by omega) (by omega)
    simp only [if_neg one, if_neg two, if_neg three, List.cons_append, List.nil_append]
    rw [front_four (by omega) second (isContinuation_low_bits _) (isContinuation_low_bits n), first,
      codePoint_cons, codePoint_cons, codePoint_cons, codePoint_nil]
    rw [show (((n / 262144 % 8 + 240 - 0xF0) * 64 + n / 4096 % 64) * 64 + n / 64 % 64) * 64 +
      n % 64 = n by omega, whole]

/-! ### Texts -/

/-- A step a character is enough. -/
theorem chars_flatMap (onBroken : Option (List Char)) {cs : List Char} {fuel : Nat}
    (enough : cs.length ≤ fuel) :
    chars onBroken fuel (cs.flatMap String.utf8EncodeChar) = some cs := by
  induction cs generalizing fuel with
  | nil => cases fuel <;> rfl
  | cons c cs ih =>
    obtain ⟨fuel, rfl⟩ : ∃ k, fuel = k + 1 := ⟨fuel - 1, by simp at enough; omega⟩
    rw [List.flatMap_cons, chars, front_utf8EncodeChar]
    simp only [ih (Nat.le_of_succ_le_succ enough), Option.map_some]

theorem start_flatMap {cs : List Char} {fuel : Nat} (enough : cs.length ≤ fuel) :
    start fuel (cs.flatMap String.utf8EncodeChar) = (cs, []) := by
  induction cs generalizing fuel with
  | nil => cases fuel <;> rfl
  | cons c cs ih =>
    obtain ⟨fuel, rfl⟩ : ∃ k, fuel = k + 1 := ⟨fuel - 1, by simp at enough; omega⟩
    rw [List.flatMap_cons, start, front_utf8EncodeChar]
    simp only [ih (Nat.le_of_succ_le_succ enough)]

theorem length_le_flatMap (cs : List Char) :
    cs.length ≤ (cs.flatMap String.utf8EncodeChar).length := by
  induction cs with
  | nil => exact Nat.le_refl _
  | cons c cs ih =>
    have first : 0 < (String.utf8EncodeChar c).length :=
      List.length_pos_iff.mpr String.utf8EncodeChar_ne_nil
    rw [List.flatMap_cons, List.length_append, List.length_cons]
    omega

theorem decodeLossy_ofString (s : String) : decodeLossy (Bytes.ofString s) = s := by
  rw [decodeLossy, Bytes.ofString, chars_flatMap _ (length_le_flatMap _), Option.getD_some,
    String.ofList_toList]

end CallGuard.Text.Utf8
