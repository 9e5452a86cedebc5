import CallGuard.Json.Skip
import CallGuard.Proofs.Json.Value

/-!
Passing over words, strings and numbers. What can be read can be passed over, and both leave the
same bytes.
-/
namespace CallGuard.Json

variable {fuel depth : Nat} {bs rest : Bytes} {v : Json}

theorem append_of_scanWord {word : Bytes} (h : scanWord word bs = .ok ((), rest)) :
    bs = word ++ rest := by
  induction word generalizing bs with
  | nil =>
    cases h
    rfl
  | cons w ws ih =>
    cases bs with
    | nil => cases h
    | cons b bs =>
      rw [scanWord] at h
      split at h
      · rename_i same
        rw [ih h, same, List.cons_append]
      · cases h

/-! ### Strings -/

theorem length_of_scanHex {n : Nat} (h : scanHex bs = .ok (n, rest)) :
    rest.length + 4 = bs.length := by
  unfold scanHex at h
  split at h
  · split at h
    · cases h
      rfl
    · cases h
  · cases h

theorem cons_of_scanPairByte {b : UInt8} (h : scanPairByte b bs = .ok ((), rest)) :
    bs = b :: rest := by
  unfold scanPairByte at h
  split at h
  · cases h
  · split at h
    · rename_i same
      cases h
      rw [same]
    · cases h

/-- A character is given by four digits, or by two times four with a backslash between them. -/
theorem hex_of_scanUnits {c : Char} (h : scanUnits bs = .ok (c, rest)) :
    ∃ hi after, scanHex bs = .ok (hi, after) ∧
      (rest = after ∨ ∃ lo second, after = Ascii.backslash :: Ascii.lowerU :: second ∧
        scanHex second = .ok (lo, rest)) := by
  obtain ⟨⟨hi, after⟩, high, h⟩ := Except.bind_eq_ok_iff.mp h
  refine ⟨hi, after, high, ?_⟩
  dsimp only at h
  split at h
  · cases h
  · split at h
    · obtain ⟨⟨⟨⟩, middle⟩, backslash, h⟩ := Except.bind_eq_ok_iff.mp h
      obtain ⟨⟨⟨⟩, second⟩, letter, h⟩ := Except.bind_eq_ok_iff.mp h
      obtain ⟨⟨lo, left⟩, low, h⟩ := Except.bind_eq_ok_iff.mp h
      have pair : after = Ascii.backslash :: Ascii.lowerU :: second := by
        rw [cons_of_scanPairByte backslash]
        exact congrArg _ (cons_of_scanPairByte letter)
      split at h
      · have same : left = rest := congrArg Prod.snd (Except.ok.inj h)
        exact .inr ⟨lo, second, pair, same ▸ low⟩
      · cases h
    · cases h
      exact .inl rfl

/-- What follows a backslash is one of eight letters, or digits. -/
theorem scanEscape_cases {c : Char} (h : scanEscape bs = .ok (c, rest)) :
    (∃ b, bs = b :: rest ∧ skipEscape bs = .ok ((), rest)) ∨
      ∃ digits, bs = Ascii.lowerU :: digits ∧ scanUnits digits = .ok (c, rest) := by
  unfold scanEscape at h
  split at h
  · cases h
  · rename_i b tail
    repeat' split at h
    iterate 8
      · rename_i same
        cases h
        exact .inl ⟨b, rfl, same ▸ rfl⟩
    · rename_i same
      exact .inr ⟨tail, same ▸ rfl, h⟩
    · cases h

theorem skipEscape_digits {n : Nat} (h : scanHex bs = .ok (n, rest)) :
    skipEscape (Ascii.lowerU :: bs) = .ok ((), rest) := by
  rw [skipEscape, if_pos rfl, Except.bind_of_ok h]
  rfl

theorem skipChars_backslash {k : Nat} {tail : Bytes} (h : skipEscape bs = .ok ((), tail)) :
    skipChars (k + 1) (Ascii.backslash :: bs) = skipChars k tail := by
  rw [skipChars, if_neg (by decide), if_pos rfl, Except.bind_of_ok h]

/-- An escape that gives one character is passed over in one step, or in two if it is one of two. -/
theorem skipChars_of_scanEscape {c : Char} {after : Bytes}
    (escaped : scanEscape bs = .ok (c, after))
    (skips : ∀ k, after.length ≤ k → skipChars k after = .ok ((), rest)) :
    after.length < bs.length ∧
      ∀ k, bs.length ≤ k → skipChars (k + 1) (Ascii.backslash :: bs) = .ok ((), rest) := by
  rcases scanEscape_cases escaped with ⟨b, rfl, skipped⟩ | ⟨digits, rfl, units⟩
  · refine ⟨by simp, fun k enough => ?_⟩
    rw [skipChars_backslash skipped]
    exact skips k (Nat.le_of_succ_le enough)
  · obtain ⟨hi, middle, high, rfl | ⟨lo, second, rfl, low⟩⟩ := hex_of_scanUnits units
    · have long := length_of_scanHex high
      refine ⟨by simp; omega, fun k enough => ?_⟩
      rw [List.length_cons] at enough
      rw [skipChars_backslash (skipEscape_digits high)]
      exact skips k (by omega)
    · have long := length_of_scanHex high
      have longer := length_of_scanHex low
      simp only [List.length_cons] at long
      refine ⟨by simp; omega, fun k enough => ?_⟩
      rw [List.length_cons] at enough
      obtain ⟨k, rfl⟩ : ∃ j, k = j + 1 := ⟨k - 1, by omega⟩
      rw [skipChars_backslash (skipEscape_digits high), skipChars_backslash (skipEscape_digits low)]
      exact skips k (by omega)

theorem skipChars_of_scanQuoted {text : Bytes} (h : scanQuoted fuel bs = .ok (text, rest)) :
    rest.length < bs.length ∧ ∀ k, bs.length ≤ k → skipChars k bs = .ok ((), rest) := by
  induction fuel generalizing bs text with
  | zero => cases h
  | succ fuel ih =>
    cases bs with
    | nil => cases h
    | cons b tail =>
      have step {k : Nat} (enough : (b :: tail).length ≤ k) : ∃ j, k = j + 1 ∧ tail.length ≤ j := by
        rw [List.length_cons] at enough
        exact ⟨k - 1, by omega, by omega⟩
      rw [scanQuoted] at h
      repeat' split at h
      · rename_i quote
        cases h
        refine ⟨by simp, fun k enough => ?_⟩
        obtain ⟨k, rfl, -⟩ := step enough
        rw [skipChars, if_pos quote]
      · rename_i backslash
        obtain ⟨⟨c, after⟩, escaped, h⟩ := Except.bind_eq_ok_iff.mp h
        obtain ⟨⟨more, _⟩, quoted, same⟩ := Except.bind_eq_ok_iff.mp h
        cases same
        obtain ⟨shorter, skips⟩ := ih quoted
        obtain ⟨short, skips⟩ := skipChars_of_scanEscape escaped skips
        refine ⟨by simp; omega, fun k enough => ?_⟩
        obtain ⟨k, rfl, remain⟩ := step enough
        rw [backslash]
        exact skips k remain
      · cases h
      · rename_i quote backslash printable
        obtain ⟨⟨more, _⟩, quoted, same⟩ := Except.bind_eq_ok_iff.mp h
        cases same
        obtain ⟨shorter, skips⟩ := ih quoted
        refine ⟨by simp; omega, fun k enough => ?_⟩
        obtain ⟨k, rfl, remain⟩ := step enough
        rw [skipChars, if_neg quote, if_neg backslash, if_neg printable]
        exact skips k (by omega)

theorem skipString_of_scanString {s : String} (h : scanString bs = .ok (s, rest)) :
    rest.length < bs.length ∧ skipString bs = .ok ((), rest) := by
  obtain ⟨⟨text, _⟩, quoted, h⟩ := Except.bind_eq_ok_iff.mp h
  obtain ⟨shorter, skips⟩ := skipChars_of_scanQuoted quoted
  dsimp only at h
  split at h
  · cases h
    exact ⟨shorter, skips _ (Nat.le_succ _)⟩
  · cases h

/-! ### Numbers -/

theorem dropWhile_scanDigits (n count : Nat) (bs : Bytes) :
    (scanDigits n count bs).2.2.dropWhile Ascii.isDigit = bs.dropWhile Ascii.isDigit := by
  induction bs generalizing n count with
  | nil => rfl
  | cons b bs ih =>
    rw [scanDigits]
    split
    · rename_i taken
      rw [Bool.and_eq_true] at taken
      rw [ih, List.dropWhile_cons_of_pos taken.1]
    · rfl

theorem dropWhile_scanPower {n : Nat} {p : Option Nat} (h : scanPower n bs = (p, rest)) :
    rest.dropWhile Ascii.isDigit = bs.dropWhile Ascii.isDigit ∧
      (p ≠ none → rest.dropWhile Ascii.isDigit = rest) := by
  induction bs generalizing n with
  | nil =>
    cases h
    exact ⟨rfl, fun _ => rfl⟩
  | cons b bs ih =>
    rw [scanPower] at h
    split at h
    · rename_i digit
      rw [List.dropWhile_cons_of_pos digit]
      dsimp only at h
      split at h
      · cases h
        exact ⟨rfl, fun some => absurd rfl some⟩
      · exact ih h
    · rename_i other
      cases h
      exact ⟨rfl, fun _ => List.dropWhile_cons_of_neg other⟩

theorem length_dropDigits_le (bs : Bytes) : (bs.dropWhile Ascii.isDigit).length ≤ bs.length :=
  (List.dropWhile_sublist _).length_le

theorem eq_of_ofScaled {negative : Bool} {n : Nat} {e : Int} {x : Decimal.Binary64}
    (h : ofScaled negative n e bs = .ok (x, rest)) : rest = bs := by
  unfold ofScaled at h
  split at h
  · cases h
    rfl
  · cases h

theorem length_splitSign_le (bs : Bytes) : (splitSign bs).2.length ≤ bs.length := by
  unfold splitSign
  split <;> simp

theorem skipPower_of_scanExponent {negative : Bool} {n : Nat} {shift : Int} {x : Decimal.Binary64}
    (h : scanExponent negative n shift bs = .ok (x, rest)) :
    rest.length ≤ bs.length ∧ skipPower bs = .ok ((), rest) := by
  have shorter := length_splitSign_le bs
  unfold scanExponent at h
  unfold skipPower
  generalize splitSign bs = found at h shorter
  obtain ⟨down, tail⟩ := found
  cases tail with
  | nil => cases h
  | cons b tail =>
    dsimp only at h shorter ⊢
    split at h
    · cases h
    · rename_i digit
      have digit : Ascii.isDigit b = true := by simpa using digit
      have left : rest = tail.dropWhile Ascii.isDigit := by
        split at h
        · rename_i p after power
          obtain ⟨same, ended⟩ := dropWhile_scanPower power
          rw [List.dropWhile_cons_of_pos digit, ended nofun] at same
          rw [eq_of_ofScaled h, same]
        · rename_i after power
          obtain ⟨same, -⟩ := dropWhile_scanPower power
          rw [List.dropWhile_cons_of_pos digit] at same
          split at h
          · cases h
          · exact (congrArg Prod.snd (Except.ok.inj h)).symm.trans same
      have dropped := length_dropDigits_le tail
      rw [List.length_cons] at shorter
      rw [if_pos digit, left]
      exact ⟨by omega, rfl⟩

/-- Where no exponent begins, there is nothing to pass over. -/
theorem skipExponent_of_other (upper : ∀ tail, bs ≠ Ascii.upperE :: tail)
    (lower : ∀ tail, bs ≠ Ascii.lowerE :: tail) : skipExponent bs = .ok ((), bs) := by
  unfold skipExponent
  split
  · exact absurd rfl (upper _)
  · exact absurd rfl (lower _)
  · rfl

theorem skipPower_of_exponent {negative : Bool} {n : Nat} {shift : Int}
    {x : Int ⊕ Decimal.Binary64}
    (h : (scanExponent negative n shift bs >>= fun found => pure (.inr found.1, found.2)) =
      .ok (x, rest)) : rest.length ≤ bs.length ∧ skipPower bs = .ok ((), rest) := by
  obtain ⟨⟨y, left⟩, read, same⟩ := Except.bind_eq_ok_iff.mp h
  cases same
  exact skipPower_of_scanExponent read

theorem eq_of_scaled {negative : Bool} {n : Nat} {e : Int} {x : Int ⊕ Decimal.Binary64}
    (h : (ofScaled negative n e bs >>= fun found => pure (.inr found.1, found.2)) =
      .ok (x, rest)) : rest = bs := by
  obtain ⟨⟨y, left⟩, read, same⟩ := Except.bind_eq_ok_iff.mp h
  cases same
  exact eq_of_ofScaled read

theorem skipFraction_of_scanFraction {negative : Bool} {n dropped : Nat}
    {x : Int ⊕ Decimal.Binary64} (h : scanFraction negative n dropped bs = .ok (x, rest)) :
    rest.length ≤ bs.length ∧ skipFraction bs = .ok ((), rest) := by
  unfold scanFraction at h
  split at h
  · rename_i tail
    cases tail with
    | nil => cases h
    | cons b tail =>
      dsimp only at h
      split at h
      · cases h
      · rename_i digit
        have skipped : skipFraction (Ascii.dot :: b :: tail) =
            skipExponent ((b :: tail).dropWhile Ascii.isDigit) :=
          if_pos (by simpa using digit)
        have shorter := length_dropDigits_le (b :: tail)
        rw [dropWhile_scanDigits] at h
        suffices rest.length ≤ ((b :: tail).dropWhile Ascii.isDigit).length ∧
            skipExponent ((b :: tail).dropWhile Ascii.isDigit) = .ok ((), rest) from
          ⟨(this.1.trans shorter).trans (Nat.le_succ _), skipped.trans this.2⟩
        generalize (b :: tail).dropWhile Ascii.isDigit = more at h
        split at h
        · obtain ⟨shorter, skipped⟩ := skipPower_of_exponent h
          exact ⟨Nat.le_succ_of_le shorter, skipped⟩
        · obtain ⟨shorter, skipped⟩ := skipPower_of_exponent h
          exact ⟨Nat.le_succ_of_le shorter, skipped⟩
        · rename_i upper lower
          rw [eq_of_scaled h]
          exact ⟨Nat.le_refl _, skipExponent_of_other upper lower⟩
  · obtain ⟨shorter, skipped⟩ := skipPower_of_exponent h
    exact ⟨Nat.le_succ_of_le shorter, skipped⟩
  · obtain ⟨shorter, skipped⟩ := skipPower_of_exponent h
    exact ⟨Nat.le_succ_of_le shorter, skipped⟩
  · rename_i dot upper lower
    have left : rest = bs := by
      repeat' split at h
      · exact eq_of_scaled h
      · exact (congrArg Prod.snd (Except.ok.inj h)).symm
      · exact (congrArg Prod.snd (Except.ok.inj h)).symm
      · exact (congrArg Prod.snd (Except.ok.inj h)).symm
      · exact eq_of_scaled h
    have bare : skipFraction bs = skipExponent bs := by
      unfold skipFraction
      split
      · exact absurd rfl (dot _)
      · rfl
    rw [bare, left]
    exact ⟨Nat.le_refl _, skipExponent_of_other upper lower⟩

theorem skipMagnitude_of_scanMagnitude {negative : Bool} {x : Int ⊕ Decimal.Binary64}
    (h : scanMagnitude negative bs = .ok (x, rest)) :
    rest.length < bs.length ∧ skipMagnitude bs = .ok ((), rest) := by
  unfold scanMagnitude at h
  split at h
  · cases h
  · rename_i b tail
    rw [skipMagnitude]
    split at h
    · rename_i zero
      rw [if_pos zero]
      split at h
      · rename_i c after
        split at h
        · cases h
        · rename_i other
          obtain ⟨shorter, skipped⟩ := skipFraction_of_scanFraction h
          refine ⟨Nat.lt_succ_of_le shorter, ?_⟩
          rw [if_neg (by simpa using other), skipped]
      · obtain ⟨shorter, skipped⟩ := skipFraction_of_scanFraction h
        exact ⟨Nat.lt_succ_of_le shorter, skipped⟩
    · rename_i filled
      rw [if_neg filled]
      split at h
      · rename_i digit
        have same := dropWhile_scanDigits 0 0 (b :: tail)
        generalize scanDigits 0 0 (b :: tail) = found at h same
        obtain ⟨m, _, more⟩ := found
        dsimp only at h same
        rw [List.dropWhile_cons_of_pos digit] at same
        rw [same] at h
        obtain ⟨shorter, skipped⟩ := skipFraction_of_scanFraction h
        have shorter := shorter.trans (length_dropDigits_le tail)
        exact ⟨Nat.lt_succ_of_le shorter, by rw [if_pos digit, skipped]⟩
      · cases h

/-- A number begins with its sign or its first digit, and is passed over from there. -/
theorem skip_of_scanNumber {b : UInt8} {x : Int ⊕ Decimal.Binary64}
    (h : scanNumber (b :: bs) = .ok (x, rest)) :
    rest.length < (b :: bs).length ∧
      (if b = Ascii.minus then skipMagnitude bs else skipMagnitude (b :: bs)) = .ok ((), rest) := by
  by_cases minus : b = Ascii.minus
  · subst minus
    have signed : scanMagnitude true bs = .ok (x, rest) := h
    obtain ⟨shorter, skipped⟩ := skipMagnitude_of_scanMagnitude signed
    exact ⟨Nat.lt_succ_of_lt shorter, by rw [if_pos rfl, skipped]⟩
  · have unsigned : scanNumber (b :: bs) = scanMagnitude false (b :: bs) := by
      rw [scanNumber]
      simpa using minus
    rw [unsigned] at h
    obtain ⟨shorter, skipped⟩ := skipMagnitude_of_scanMagnitude h
    exact ⟨shorter, by rw [if_neg minus, skipped]⟩

end CallGuard.Json
