import CallGuard.Proofs.Bytes

/-!
Texts have one order: by their characters, as numbers, and by the bytes that write them. The first
byte of a character says how many there are and has its highest bits, and the others have the next
ones in their order.
-/
namespace CallGuard.Bytes

variable {n m : Nat} {xs ys : Bytes}

theorem ofNat_cons_lt {a b : Nat} (small : a < 256) (bounded : b < 256)
    (h : a < b ∨ a = b ∧ xs < ys) : UInt8.ofNat a :: xs < UInt8.ofNat b :: ys := by
  rw [List.cons_lt_cons_iff]
  rcases h with less | ⟨rfl, rest⟩
  · refine .inl (UInt8.lt_iff_toNat_lt.mpr ?_)
    rwa [UInt8.toNat_ofNat_of_lt' small, UInt8.toNat_ofNat_of_lt' bounded]
  · exact .inr ⟨rfl, rest⟩

/-- The lowest bits of a number, six to a byte, before some other bytes. -/
def lowBits (n : Nat) (rest : Bytes) : Nat → Bytes
  | 0 => rest
  | k + 1 => UInt8.ofNat (n >>> (6 * k) % 64 + 128) :: lowBits n rest k

theorem shiftRight_six_succ (n k : Nat) : n >>> (6 * (k + 1)) = n >>> (6 * k) / 64 := by
  rw [Nat.mul_succ, Nat.shiftRight_add, Nat.shiftRight_eq_div_pow _ 6]

theorem lowBits_lt (less : n < m) {k : Nat} (high : n >>> (6 * k) = m >>> (6 * k)) :
    lowBits n xs k < lowBits m ys k := by
  induction k with
  | zero => simp at high; omega
  | succ k ih =>
    have order : n >>> (6 * k) ≤ m >>> (6 * k) := by
      rw [Nat.shiftRight_eq_div_pow, Nat.shiftRight_eq_div_pow]
      exact Nat.div_le_div_right (Nat.le_of_lt less)
    rw [shiftRight_six_succ, shiftRight_six_succ] at high
    refine ofNat_cons_lt (by omega) (by omega) ?_
    -- The numbers part in the next six bits, or these agree and the lower ones decide.
    by_cases same : n >>> (6 * k) = m >>> (6 * k)
    · exact .inr ⟨by rw [same], ih same⟩
    · exact .inl (by omega)

/-- How many bytes follow the first one of a character with the number. -/
def following (n : Nat) : Nat :=
  if n ≤ 0x7f then 0 else if n ≤ 0x7ff then 1 else if n ≤ 0xffff then 2 else 3

/-- The first byte of a character with the number. -/
def lead (n : Nat) : Nat :=
  if n ≤ 0x7f then n
  else if n ≤ 0x7ff then n / 64 % 32 + 0xc0
  else if n ≤ 0xffff then n / 4096 % 16 + 0xe0
  else n / 262144 % 8 + 0xf0

theorem utf8EncodeChar_append (c : Char) (rest : Bytes) :
    String.utf8EncodeChar c ++ rest =
      UInt8.ofNat (lead c.toNat) :: lowBits c.toNat rest (following c.toNat) := by
  unfold String.utf8EncodeChar lead following
  rw [show c.val.toNat = c.toNat from rfl]
  generalize c.toNat = n
  by_cases one : n ≤ 0x7f
  · simp [one, lowBits]
  by_cases two : n ≤ 0x7ff
  · simp [one, two, lowBits]
  by_cases three : n ≤ 0xffff
  · simp [one, two, three, lowBits, Nat.shiftRight_eq_div_pow]
  · simp [one, two, three, lowBits, Nat.shiftRight_eq_div_pow]

/-- Of two characters the lower has the lower first byte, or the same one and as many after it, and
then their numbers agree in all bits that the first byte has. -/
theorem lead_cases (less : n < m) (bounded : m < 0x110000) :
    lead n < lead m ∨
      lead n = lead m ∧ following n = following m ∧
        n >>> (6 * following n) = m >>> (6 * following n) := by
  unfold lead following
  split_ifs <;> simp <;> omega

theorem lead_lt (bounded : n < 0x110000) : lead n < 256 := by
  unfold lead
  split_ifs <;> omega

theorem toNat_lt (c : Char) : c.toNat < 0x110000 := by
  have valid : c.toNat < 0xD800 ∨ 0xDFFF < c.toNat ∧ c.toNat < 0x110000 := c.valid
  omega

/-- A lower character has lower bytes, whatever stands after the two. -/
theorem utf8EncodeChar_append_lt {c d : Char} (less : c < d) (xs ys : Bytes) :
    String.utf8EncodeChar c ++ xs < String.utf8EncodeChar d ++ ys := by
  rw [utf8EncodeChar_append, utf8EncodeChar_append]
  refine ofNat_cons_lt (lead_lt (toNat_lt c)) (lead_lt (toNat_lt d)) ?_
  have less : c.toNat < d.toNat := less
  rcases lead_cases less (toNat_lt d) with lower | ⟨same, width, high⟩
  · exact .inl lower
  · rw [← width]
    exact .inr ⟨same, lowBits_lt less high⟩

theorem flatMap_utf8EncodeChar_lt {cs ds : List Char} (h : cs < ds) :
    cs.flatMap String.utf8EncodeChar < ds.flatMap String.utf8EncodeChar := by
  induction h with
  | @nil d ds =>
    rw [List.flatMap_nil, List.flatMap_cons, utf8EncodeChar_append]
    exact List.nil_lt_cons _ _
  | @rel c cs d ds less =>
    rw [List.flatMap_cons, List.flatMap_cons]
    exact utf8EncodeChar_append_lt less _ _
  | @cons c cs ds _ ih =>
    rw [List.flatMap_cons, List.flatMap_cons]
    exact List.append_left_lt ih

theorem ofString_lt_iff {s t : String} : ofString s < ofString t ↔ s < t := by
  have mono {s t : String} (h : s < t) : ofString s < ofString t :=
    flatMap_utf8EncodeChar_lt (String.lt_iff.mp h)
  constructor
  · intro bytes
    by_contra other
    by_cases above : t < s
    · exact List.lt_asymm bytes (mono above)
    · obtain rfl := String.le_antisymm (String.not_lt.mp above) (String.not_lt.mp other)
      exact List.lt_irrefl _ bytes
  · exact mono

theorem ofString_le_iff {s t : String} : ofString s ≤ ofString t ↔ s ≤ t := by
  rw [← List.not_lt, ← String.not_lt, ofString_lt_iff]

theorem ofString_inj {s t : String} : ofString s = ofString t ↔ s = t := by
  constructor
  · intro same
    apply String.le_antisymm
    · exact ofString_le_iff.mp (same ▸ List.le_refl _)
    · exact ofString_le_iff.mp (same ▸ List.le_refl _)
  · rintro rfl
    rfl

end CallGuard.Bytes
