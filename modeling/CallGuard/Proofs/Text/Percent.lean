import CallGuard.Proofs.Text.Utf8
import CallGuard.Text.Percent

/-!
Percent-encoding, undone in two steps as in the paths of requests: the first keeps some of the
escapes, the second undoes those. Together they give back every text that was escaped byte by byte.
-/
namespace CallGuard.Text.Percent

/-! ### Bytes -/

/-- The hexadecimal digit of a number below sixteen. -/
def digit (n : Nat) : UInt8 := UInt8.ofNat (Bytes.hexChar n).toNat

def escape (b : UInt8) : Bytes := [Ascii.percent, digit (b.toNat / 16), digit (b.toNat % 16)]

/-- Every byte escaped. -/
def escaped (bs : Bytes) : Bytes := bs.flatMap escape

/-- Only the bytes to keep escaped. -/
def guarded (keep bs : Bytes) : Bytes :=
  bs.flatMap fun b => if keep.contains b then escape b else [b]

theorem hexDigit?_digit {n : Nat} (h : n < 16) : Bytes.hexDigit? (digit n) = some n := by
  revert n
  decide

theorem digit_ne_percent {n : Nat} (h : n < 16) : digit n ≠ Ascii.percent := by
  revert n
  decide

theorem decodeBytes_nil (keep : Bytes) : decodeBytes keep [] = [] := by rw [decodeBytes]

theorem decodeBytes_of_ne {b : UInt8} (h : b ≠ Ascii.percent) (keep rest : Bytes) :
    decodeBytes keep (b :: rest) = b :: decodeBytes keep rest := by
  rw [decodeBytes]
  exact fun _ _ _ percent _ => h percent

theorem decodeBytes_percent (keep : Bytes) {a b : UInt8} {hi lo : Nat}
    (high : Bytes.hexDigit? a = some hi) (low : Bytes.hexDigit? b = some lo) (rest : Bytes) :
    decodeBytes keep (Ascii.percent :: a :: b :: rest) =
      if keep.contains (UInt8.ofNat (hi * 16 + lo)) then
        Ascii.percent :: decodeBytes keep (a :: b :: rest)
      else UInt8.ofNat (hi * 16 + lo) :: decodeBytes keep rest := by
  refine (decodeBytes.eq_1 keep a b rest).trans ?_
  simp only [high, low]

theorem decodeBytes_escape (keep : Bytes) (b : UInt8) (rest : Bytes) :
    decodeBytes keep (escape b ++ rest) =
      (if keep.contains b then escape b else [b]) ++ decodeBytes keep rest := by
  have small : b.toNat < 256 := b.toNat_lt
  have byte : UInt8.ofNat (b.toNat / 16 * 16 + b.toNat % 16) = b := by
    rw [Nat.div_add_mod', UInt8.ofNat_toNat]
  simp only [escape, List.cons_append, List.nil_append]
  rw [decodeBytes_percent keep (hexDigit?_digit (by omega)) (hexDigit?_digit (by omega)), byte,
    decodeBytes_of_ne (digit_ne_percent (by omega)),
    decodeBytes_of_ne (digit_ne_percent (by omega))]
  split <;> rfl

theorem decodeBytes_escaped (keep bs rest : Bytes) :
    decodeBytes keep (escaped bs ++ rest) = guarded keep bs ++ decodeBytes keep rest := by
  induction bs with
  | nil => rfl
  | cons b bs ih =>
    simp only [escaped, guarded, List.flatMap_cons, List.append_assoc] at ih ⊢
    rw [decodeBytes_escape, ih]

/-- Where percent signs are kept, all that the first step leaves escaped the second undoes. -/
theorem decodeBytes_guarded {keep : Bytes} (h : Ascii.percent ∈ keep) (bs : Bytes) :
    decodeBytes [] (guarded keep bs) = bs := by
  induction bs with
  | nil => rfl
  | cons b bs ih =>
    simp only [guarded, List.flatMap_cons] at ih ⊢
    by_cases kept : keep.contains b = true
    · rw [if_pos kept, decodeBytes_escape, ih]
      rfl
    · have plain : b ≠ Ascii.percent := by
        rintro rfl
        exact kept (by simpa using h)
      rw [if_neg kept, List.singleton_append, decodeBytes_of_ne plain, ih]

/-! ### Texts -/

theorem mem_escape {b x : UInt8} (h : x ∈ escape b) :
    x = Ascii.percent ∨ ∃ n < 16, x = digit n := by
  have small : b.toNat < 256 := b.toNat_lt
  simp only [escape, List.mem_cons, List.not_mem_nil, or_false] at h
  rcases h with rfl | rfl | rfl
  · exact .inl rfl
  · exact .inr ⟨_, by omega, rfl⟩
  · exact .inr ⟨_, by omega, rfl⟩

theorem lt_of_mem_escape {b x : UInt8} (h : x ∈ escape b) : x < 128 := by
  have digits : ∀ n < 16, digit n < 128 := by decide
  rcases mem_escape h with rfl | ⟨n, small, rfl⟩
  · decide
  · exact digits n small

theorem ofString_escaped (bs : Bytes) :
    Bytes.ofString (Bytes.toAscii (escaped bs)) = escaped bs := by
  apply Bytes.ofString_toAscii
  intro x hx
  obtain ⟨b, -, part⟩ := List.mem_flatMap.mp hx
  exact lt_of_mem_escape part

/-- What is not to be kept stays as it is. -/
theorem guarded_eq_self {keep bs : Bytes} (h : ∀ b ∈ bs, b ∉ keep) : guarded keep bs = bs := by
  induction bs with
  | nil => rfl
  | cons b bs ih =>
    obtain ⟨first, later⟩ := List.forall_mem_cons.mp h
    have others := ih later
    simp only [guarded, List.flatMap_cons, List.contains_iff_mem] at others ⊢
    rw [if_neg first, others, List.singleton_append]

theorem guarded_append (keep bs cs : Bytes) :
    guarded keep (bs ++ cs) = guarded keep bs ++ guarded keep cs :=
  List.flatMap_append

/-- Where only ASCII is kept, the first step leaves a text: characters beyond it stay whole. -/
theorem exists_guarded {keep : Bytes} (ascii : ∀ b ∈ keep, b < 128) (cs : List Char) :
    ∃ t : List Char, t.flatMap String.utf8EncodeChar =
      guarded keep (cs.flatMap String.utf8EncodeChar) := by
  induction cs with
  | nil => exact ⟨[], rfl⟩
  | cons c cs ih =>
    obtain ⟨rest, others⟩ := ih
    rw [List.flatMap_cons, guarded_append, ← others]
    by_cases short : c.toNat < 128
    · have small : ∀ x ∈ guarded keep (String.utf8EncodeChar c), x < 128 := by
        intro x hx
        obtain ⟨b, hb, part⟩ := List.mem_flatMap.mp hx
        split at part
        · exact lt_of_mem_escape part
        · rw [Bytes.utf8EncodeChar_of_lt short, List.mem_singleton] at hb
          obtain rfl := List.mem_singleton.mp part
          rw [hb, UInt8.lt_iff_toNat_lt, UInt8.toNat_ofNat_of_lt' (Nat.lt_trans short (by decide))]
          exact short
      refine ⟨(Bytes.toAscii (guarded keep (String.utf8EncodeChar c))).toList ++ rest, ?_⟩
      rw [List.flatMap_append]
      exact congrArg (· ++ _) (Bytes.ofString_toAscii small)
    · have whole : guarded keep (String.utf8EncodeChar c) = String.utf8EncodeChar c := by
        apply guarded_eq_self
        intro b hb kept
        have large := Bytes.le_of_mem_utf8EncodeChar (Nat.le_of_not_lt short) hb
        exact absurd (ascii b kept) (UInt8.not_lt.mpr large)
      exact ⟨c :: rest, by rw [whole, List.flatMap_cons]⟩

/-- No escape is written with a slash. -/
theorem slash_not_mem_guarded {keep : Bytes} (h : Ascii.slash ∈ keep) (bs : Bytes) :
    Ascii.slash ∉ guarded keep bs := by
  have digits : ∀ n < 16, Ascii.slash ≠ digit n := by decide
  intro found
  obtain ⟨b, -, part⟩ := List.mem_flatMap.mp found
  split at part
  · rcases mem_escape part with percent | ⟨n, small, same⟩
    · exact absurd percent (by decide)
    · exact digits n small same
  · rename_i other
    obtain rfl := List.mem_singleton.mp part
    exact other (by simpa using h)

end CallGuard.Text.Percent
