import CallGuard.Bytes
import Mathlib.Data.List.Basic

/-!
Texts and their bytes. Below `0x80` a byte is a character of its own, so that a text of such bytes
is read back from them; every other character is written with bytes from `0x80` on only.
-/
namespace CallGuard.Bytes

theorem utf8EncodeChar_of_lt {c : Char} (h : c.toNat < 128) :
    String.utf8EncodeChar c = [UInt8.ofNat c.toNat] := by
  have short : c.val.toNat ≤ 127 := Nat.le_of_lt_succ h
  simp only [String.utf8EncodeChar, if_pos short]
  rfl

theorem le_of_mem_utf8EncodeChar {c : Char} (h : 128 ≤ c.toNat) {b : UInt8}
    (hb : b ∈ String.utf8EncodeChar c) : 128 ≤ b := by
  have long : ¬ c.val.toNat ≤ 127 := Nat.not_le_of_lt h
  have bound (n : Nat) (large : 128 ≤ n) (small : n < 256) : (128 : UInt8) ≤ UInt8.ofNat n := by
    rw [UInt8.le_iff_toNat_le, UInt8.toNat_ofNat_of_lt' small]
    exact large
  simp only [String.utf8EncodeChar, if_neg long] at hb
  split at hb
  · simp only [List.mem_cons, List.not_mem_nil, or_false] at hb
    rcases hb with rfl | rfl
    all_goals exact bound _ (by omega) (by omega)
  · split at hb
    · simp only [List.mem_cons, List.not_mem_nil, or_false] at hb
      rcases hb with rfl | rfl | rfl
      all_goals exact bound _ (by omega) (by omega)
    · simp only [List.mem_cons, List.not_mem_nil, or_false] at hb
      rcases hb with rfl | rfl | rfl | rfl
      all_goals exact bound _ (by omega) (by omega)

theorem ofString_ofList (cs : List Char) :
    ofString (String.ofList cs) = cs.flatMap String.utf8EncodeChar := by
  rw [ofString, String.toList_ofList]

theorem ofString_append (s t : String) : ofString (s ++ t) = ofString s ++ ofString t := by
  simp [ofString]

theorem ofString_join (ss : List String) : ofString (String.join ss) = ss.flatMap ofString := by
  rw [ofString, String.toList_join, List.flatMap_assoc]
  rfl

/-- A byte below `0x80` stands for its character and is part of no other. -/
theorem ofNat_mem_ofString_iff {c : Char} (h : c.toNat < 128) {s : String} :
    UInt8.ofNat c.toNat ∈ ofString s ↔ c ∈ s.toList := by
  have code : (UInt8.ofNat c.toNat).toNat = c.toNat :=
    UInt8.toNat_ofNat_of_lt' (Nat.lt_trans h (by decide))
  rw [ofString, List.mem_flatMap]
  constructor
  · rintro ⟨d, hd, hb⟩
    by_cases short : d.toNat < 128
    · rw [utf8EncodeChar_of_lt short, List.mem_singleton] at hb
      have same : c.toNat = d.toNat := by
        rw [← code, hb]
        exact UInt8.toNat_ofNat_of_lt' (Nat.lt_trans short (by decide))
      rwa [Char.ext (UInt32.toNat_inj.mp same)]
    · have large := le_of_mem_utf8EncodeChar (Nat.le_of_not_lt short) hb
      rw [UInt8.le_iff_toNat_le, code] at large
      exact absurd h (Nat.not_lt.mpr large)
  · intro hc
    exact ⟨c, hc, by rw [utf8EncodeChar_of_lt h]; exact List.mem_singleton_self _⟩

theorem ofString_eq_nil_iff {s : String} : ofString s = [] ↔ s = "" := by
  simp only [ofString, List.flatMap_eq_nil_iff, String.utf8EncodeChar_ne_nil, imp_false,
    ← List.eq_nil_iff_forall_not_mem, String.toList_eq_nil_iff]

/-- Bytes below `0x80` are the characters of their text. -/
theorem ofString_toAscii {bs : Bytes} (h : ∀ b ∈ bs, b < 128) : ofString (toAscii bs) = bs := by
  induction bs with
  | nil => rfl
  | cons b bs ih =>
    obtain ⟨small, later⟩ := List.forall_mem_cons.mp h
    have small : b.toNat < 128 := UInt8.lt_iff_toNat_lt.mp small
    have code : (Char.ofNat b.toNat).toNat = b.toNat := by
      rw [Char.ofNat, dif_pos (.inl (by omega))]
      rfl
    have first : String.utf8EncodeChar (Char.ofNat b.toNat) = [b] := by
      rw [utf8EncodeChar_of_lt (by omega), code, UInt8.ofNat_toNat]
    have rest := ih later
    simp only [ofString, toAscii, String.toList_ofList] at rest
    simp [ofString, toAscii, first, rest]

theorem map_flatMap_utf8EncodeChar {cs : List Char}
    (h : ∀ b ∈ cs.flatMap String.utf8EncodeChar, b < 128) :
    (cs.flatMap String.utf8EncodeChar).map (fun b => Char.ofNat b.toNat) = cs := by
  induction cs with
  | nil => rfl
  | cons c cs ih =>
    rw [List.flatMap_cons, List.forall_mem_append] at h
    obtain ⟨first, rest⟩ := h
    have short : c.toNat < 128 := by
      by_contra long
      obtain ⟨b, hb⟩ := List.exists_mem_of_ne_nil _ (String.utf8EncodeChar_ne_nil (c := c))
      have large := le_of_mem_utf8EncodeChar (Nat.le_of_not_lt long) hb
      exact absurd (first b hb) (UInt8.not_lt.mpr large)
    have code : (UInt8.ofNat c.toNat).toNat = c.toNat :=
      UInt8.toNat_ofNat_of_lt' (Nat.lt_trans short (by decide))
    rw [List.flatMap_cons, utf8EncodeChar_of_lt short, List.map_append, ih rest]
    simp [code]

/-- A text of such bytes is what they are the characters of. -/
theorem toAscii_ofString {s : String} (h : ∀ b ∈ ofString s, b < 128) :
    toAscii (ofString s) = s := by
  rw [toAscii, ofString, map_flatMap_utf8EncodeChar h, String.ofList_toList]

end CallGuard.Bytes
