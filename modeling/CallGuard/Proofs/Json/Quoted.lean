import CallGuard.Json.Printer
import CallGuard.Json.Reader
import CallGuard.Proofs.Except
import CallGuard.Proofs.Text.Utf8

/-!
A text is read back from its compact form. Character by character: what is escaped is put in place
again, and the bytes of all else are taken as they stand.
-/
namespace CallGuard.Json

open Text

/-- Bytes that stand for themselves in a quoted text. -/
def Plain (b : UInt8) : Prop := b ≠ Ascii.quote ∧ b ≠ Ascii.backslash ∧ ¬ b < 0x20

/-- The bytes of some characters as they stand between quotes. -/
def quotedBytes (cs : List Char) : Bytes := (cs.flatMap escapeChar).flatMap String.utf8EncodeChar

theorem quotedBytes_cons (c : Char) (cs : List Char) :
    quotedBytes (c :: cs) = (escapeChar c).flatMap String.utf8EncodeChar ++ quotedBytes cs := by
  simp [quotedBytes]

theorem scanQuoted_plain {bs : Bytes} (plain : ∀ b ∈ bs, Plain b) {fuel : Nat}
    {rest more left : Bytes} (h : scanQuoted fuel rest = .ok (more, left)) :
    scanQuoted (fuel + bs.length) (bs ++ rest) = .ok (bs ++ more, left) := by
  induction bs with
  | nil => exact h
  | cons b bs ih =>
    obtain ⟨⟨quote, backslash, printable⟩, later⟩ := List.forall_mem_cons.mp plain
    rw [List.cons_append, List.length_cons, ← Nat.add_assoc, scanQuoted, if_neg quote,
      if_neg backslash, if_neg printable, Except.bind_of_ok (ih later)]
    rfl

theorem scanQuoted_escape {fuel : Nat} {c : Char} {escape rest more left : Bytes}
    (escaped : scanEscape escape = .ok (c, rest)) (h : scanQuoted fuel rest = .ok (more, left)) :
    scanQuoted (fuel + 1) (Ascii.backslash :: escape) =
      .ok (String.utf8EncodeChar c ++ more, left) := by
  rw [scanQuoted, if_neg (by decide), if_pos rfl, Except.bind_of_ok escaped]
  dsimp only
  rw [Except.bind_of_ok h]
  rfl

theorem hexDigit?_hexChar {n : Nat} (h : n < 16) :
    String.utf8EncodeChar (Bytes.hexChar n) = [UInt8.ofNat (Bytes.hexChar n).toNat] ∧
      Bytes.hexDigit? (UInt8.ofNat (Bytes.hexChar n).toNat) = some n := by
  revert n
  decide

/-- A control character is given by the last two of four digits. -/
theorem scanEscape_control {c : Char} (control : c.toNat < 0x20) (rest : Bytes) :
    scanEscape (['u', '0', '0', Bytes.hexChar (c.toNat / 16), Bytes.hexChar (c.toNat % 16)].flatMap
      String.utf8EncodeChar ++ rest) = .ok (c, rest) := by
  obtain ⟨high, hi⟩ := hexDigit?_hexChar (n := c.toNat / 16) (by omega)
  obtain ⟨low, lo⟩ := hexDigit?_hexChar (n := c.toNat % 16) (by omega)
  have number : ((0 * 16 + 0) * 16 + c.toNat / 16) * 16 + c.toNat % 16 = c.toNat := by omega
  have zero : Bytes.hexDigit? 48 = some 0 := by decide
  have lead : String.utf8EncodeChar 'u' = [Ascii.lowerU] ∧ String.utf8EncodeChar '0' = [48] := by
    decide
  have hex : scanHex (48 :: 48 :: UInt8.ofNat (Bytes.hexChar (c.toNat / 16)).toNat ::
      UInt8.ofNat (Bytes.hexChar (c.toNat % 16)).toNat :: rest) = .ok (c.toNat, rest) := by
    simp only [scanHex, zero, hi, lo, number]
  have units : scanUnits (48 :: 48 :: UInt8.ofNat (Bytes.hexChar (c.toNat / 16)).toNat ::
      UInt8.ofNat (Bytes.hexChar (c.toNat % 16)).toNat :: rest) = .ok (c, rest) := by
    rw [scanUnits, Except.bind_of_ok hex]
    dsimp only
    rw [if_neg (by omega), if_neg (by omega), Char.ofNat_toNat]
  simp only [List.flatMap_cons, List.flatMap_nil, lead.1, lead.2, high, low, List.append_nil,
    List.cons_append, List.nil_append]
  rw [scanEscape]
  iterate 8 rw [if_neg (by decide)]
  rw [if_pos rfl, units]

theorem plain_of_not_escaped {c : Char} (quote : c ≠ '"') (backslash : c ≠ '\\')
    (printable : ¬ c.toNat < 0x20) : ∀ b ∈ String.utf8EncodeChar c, Plain b := by
  intro b hb
  by_cases short : c.toNat < 128
  · rw [Bytes.utf8EncodeChar_of_lt short, List.mem_singleton] at hb
    have code : b.toNat = c.toNat := by
      rw [hb, UInt8.toNat_ofNat_of_lt' (Nat.lt_trans short (by decide))]
    refine ⟨?_, ?_, ?_⟩
    · rintro rfl
      exact quote (Char.toNat_inj.mp code.symm)
    · rintro rfl
      exact backslash (Char.toNat_inj.mp code.symm)
    · rw [UInt8.lt_iff_toNat_lt, code]
      exact printable
  · have large := Bytes.le_of_mem_utf8EncodeChar (Nat.le_of_not_lt short) hb
    rw [UInt8.le_iff_toNat_le] at large
    refine ⟨?_, ?_, ?_⟩
    · rintro rfl
      exact absurd large (by decide)
    · rintro rfl
      exact absurd large (by decide)
    · rw [UInt8.lt_iff_toNat_lt]
      exact Nat.not_lt.mpr (Nat.le_trans (by decide) large)

/-- What stands for a character: a backslash with what makes it again, or its bytes. -/
theorem escapeChar_cases (c : Char) :
    (∃ escape, escapeChar c = '\\' :: escape ∧
      ∀ rest, scanEscape (escape.flatMap String.utf8EncodeChar ++ rest) = .ok (c, rest)) ∨
    escapeChar c = [c] ∧ ∀ b ∈ String.utf8EncodeChar c, Plain b := by
  by_cases quote : c = '"'
  · subst quote
    exact .inl ⟨['"'], rfl, fun _ => rfl⟩
  by_cases backslash : c = '\\'
  · subst backslash
    exact .inl ⟨['\\'], rfl, fun _ => rfl⟩
  by_cases backspace : c = '\x08'
  · subst backspace
    exact .inl ⟨['b'], rfl, fun _ => rfl⟩
  by_cases formFeed : c = '\x0c'
  · subst formFeed
    exact .inl ⟨['f'], rfl, fun _ => rfl⟩
  by_cases lineFeed : c = '\n'
  · subst lineFeed
    exact .inl ⟨['n'], rfl, fun _ => rfl⟩
  by_cases carriageReturn : c = '\r'
  · subst carriageReturn
    exact .inl ⟨['r'], rfl, fun _ => rfl⟩
  by_cases tab : c = '\t'
  · subst tab
    exact .inl ⟨['t'], rfl, fun _ => rfl⟩
  by_cases control : c.toNat < 0x20
  · exact .inl ⟨_, by simp [escapeChar, *], scanEscape_control control⟩
  · exact .inr ⟨by simp [escapeChar, *], plain_of_not_escaped quote backslash control⟩

/-- A step a byte is enough, and one for the closing quote. -/
theorem scanQuoted_quotedBytes (cs : List Char) (rest : Bytes) {fuel : Nat}
    (enough : (quotedBytes cs).length < fuel) :
    scanQuoted fuel (quotedBytes cs ++ Ascii.quote :: rest) =
      .ok (cs.flatMap String.utf8EncodeChar, rest) := by
  induction cs generalizing fuel with
  | nil =>
    obtain ⟨fuel, rfl⟩ : ∃ k, fuel = k + 1 := ⟨fuel - 1, by omega⟩
    rw [quotedBytes, List.flatMap_nil, List.flatMap_nil, List.nil_append, scanQuoted, if_pos rfl]
  | cons c cs ih =>
    have backslash : String.utf8EncodeChar '\\' = [Ascii.backslash] := by decide
    rw [quotedBytes_cons, List.length_append] at enough
    rw [quotedBytes_cons, List.append_assoc, List.flatMap_cons]
    rcases escapeChar_cases c with ⟨escape, escaped, back⟩ | ⟨same, plain⟩
    · -- An escape of two or more bytes is one step, so that more than enough is left.
      rw [escaped, List.flatMap_cons, backslash] at enough ⊢
      obtain ⟨fuel, rfl⟩ : ∃ k, fuel = k + 1 := ⟨fuel - 1, by omega⟩
      exact scanQuoted_escape (back _) (ih (by simp at enough; omega))
    · rw [same, List.flatMap_singleton] at enough ⊢
      obtain ⟨fuel, rfl⟩ : ∃ k, fuel = k + (String.utf8EncodeChar c).length :=
        ⟨fuel - (String.utf8EncodeChar c).length, by omega⟩
      exact scanQuoted_plain plain (ih (by omega))

theorem scanString_quotedBytes (s : String) (rest : Bytes) :
    scanString (quotedBytes s.toList ++ Ascii.quote :: rest) = .ok (s, rest) := by
  have enough : (quotedBytes s.toList).length <
      (quotedBytes s.toList ++ Ascii.quote :: rest).length + 1 := by
    rw [List.length_append]
    omega
  rw [scanString, Except.bind_of_ok (scanQuoted_quotedBytes s.toList rest enough)]
  dsimp only
  rw [Utf8.start_flatMap (Utf8.length_le_flatMap _)]
  dsimp only
  rw [String.ofList_toList]
  rfl

theorem ofString_compact_str (s : String) :
    Bytes.ofString (Json.str s).compact =
      Ascii.quote :: (quotedBytes s.toList ++ [Ascii.quote]) := by
  have quote : String.utf8EncodeChar '"' = [Ascii.quote] := by decide
  simp [Bytes.ofString, compact, print, quoteChars, quotedBytes, quote]

end CallGuard.Json
