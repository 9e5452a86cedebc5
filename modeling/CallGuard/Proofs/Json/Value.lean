import CallGuard.Json.Reader
import CallGuard.Proofs.Except
import Mathlib.Data.List.DropRight

/-!
One step of reading: what a value is by its first byte, and where the next item of a list or the
next member of an object begins. Lists and objects are read item by item and member by member.
-/
namespace CallGuard.Json

open Decimal (Binary64)

variable {fuel depth : Nat} {bs rest : Bytes} {v : Json} {first : Bool}

/-! ### White space -/

theorem skipSpace_cons {b : UInt8} (solid : Ascii.isSpace b = false) (rest : Bytes) :
    skipSpace (b :: rest) = b :: rest :=
  List.dropWhile_cons_of_neg (by simp [solid])

theorem skipSpace_skipSpace (bs : Bytes) : skipSpace (skipSpace bs) = skipSpace bs :=
  List.dropWhile_idempotent _ _

theorem length_skipSpace_le (bs : Bytes) : (skipSpace bs).length ≤ bs.length :=
  (List.dropWhile_sublist _).length_le

/-- What is behind the first byte is shorter than the whole. -/
theorem length_lt_of_skipSpace {b : UInt8} (front : skipSpace bs = b :: rest) :
    rest.length < bs.length := by
  have long := length_skipSpace_le bs
  rwa [front] at long

/-! ### Values -/

/-- What begins a number. -/
def BeginsNumber (b : UInt8) : Prop := b = Ascii.minus ∨ Ascii.isDigit b = true

/-- A number as a value. -/
def ofNumber : Int ⊕ Binary64 → Json
  | .inl n => .int n
  | .inr x => .float x

/-- The value that a first byte and those after it begin with, and the bytes that are left. -/
inductive Step (fuel depth : Nat) : UInt8 → Bytes → Json → Bytes → Prop
  | null {bs rest : Bytes} (word : scanWord (Bytes.ofString "ull") bs = .ok ((), rest)) :
    Step fuel depth Ascii.lowerN bs .null rest
  | true {bs rest : Bytes} (word : scanWord (Bytes.ofString "rue") bs = .ok ((), rest)) :
    Step fuel depth Ascii.lowerT bs (.bool true) rest
  | false {bs rest : Bytes} (word : scanWord (Bytes.ofString "alse") bs = .ok ((), rest)) :
    Step fuel depth Ascii.lowerF bs (.bool false) rest
  | number {b : UInt8} {bs rest : Bytes} {x : Int ⊕ Binary64} {v : Json} (begins : BeginsNumber b)
    (read : scanNumber (b :: bs) = .ok (x, rest)) (value : ofNumber x = v) :
    Step fuel depth b bs v rest
  | str {bs rest : Bytes} {s : String} (read : scanString bs = .ok (s, rest)) :
    Step fuel depth Ascii.quote bs (.str s) rest
  | arr {bs rest : Bytes} {xs : List Json} (deep : 1 < depth)
    (read : scanItems fuel (depth - 1) true bs = .ok (xs, rest)) :
    Step fuel depth Ascii.openBracket bs (.arr xs) rest
  | obj {bs rest : Bytes} {ms : List (String × Json)} (deep : 1 < depth)
    (read : scanMembers fuel (depth - 1) true bs = .ok (ms, rest)) :
    Step fuel depth Ascii.openBrace bs (.obj ms) rest

/-- What begins a number begins nothing else. -/
theorem ne_of_beginsNumber {b c : UInt8} (begins : BeginsNumber b)
    (other : c ≠ Ascii.minus ∧ Ascii.isDigit c = false) : b ≠ c := by
  rintro rfl
  rcases begins with same | digit
  · exact other.1 same
  · simp [other.2] at digit

theorem isSpace_of_beginsNumber {b : UInt8} (begins : BeginsNumber b) :
    Ascii.isSpace b = false := by
  have not_space : ∀ c ∈ [Ascii.space, Ascii.tab, Ascii.lineFeed, Ascii.carriageReturn], b ≠ c := by
    intro c hc
    apply ne_of_beginsNumber begins
    simp only [List.mem_cons, List.not_mem_nil, or_false] at hc
    rcases hc with rfl | rfl | rfl | rfl <;> decide
  simpa [Ascii.isSpace, and_assoc] using not_space

section Kinds

/-! The first byte tells the kind of the value, and conversely. -/

variable {b : UInt8} {tail : Bytes}

/-- No value begins with what follows one. -/
theorem Step.front (step : Step fuel depth b tail v rest) :
    Ascii.isSpace b = Bool.false ∧ b ≠ Ascii.comma ∧ b ≠ Ascii.closeBrace := by
  cases step with
  | number begins =>
    exact ⟨isSpace_of_beginsNumber begins, ne_of_beginsNumber begins (by decide),
      ne_of_beginsNumber begins (by decide)⟩
  | _ => decide

theorem Step.of_null (step : Step fuel depth b tail .null rest) : b = Ascii.lowerN := by
  cases step with
  | null => rfl
  | @number _ _ _ x _ _ _ value => cases x <;> cases value

theorem Step.of_lowerN (step : Step fuel depth Ascii.lowerN tail v rest) :
    v = .null ∧ scanWord (Bytes.ofString "ull") tail = .ok ((), rest) := by
  cases step with
  | null word => exact ⟨rfl, word⟩
  | number begins => exact absurd rfl (ne_of_beginsNumber begins (by decide))

theorem Step.of_str {s : String} (step : Step fuel depth b tail (.str s) rest) :
    b = Ascii.quote ∧ scanString tail = .ok (s, rest) := by
  cases step with
  | str read => exact ⟨rfl, read⟩
  | @number _ _ _ x _ _ _ value => cases x <;> cases value

theorem Step.of_quote (step : Step fuel depth Ascii.quote tail v rest) :
    ∃ s, v = .str s ∧ scanString tail = .ok (s, rest) := by
  cases step with
  | str read => exact ⟨_, rfl, read⟩
  | number begins => exact absurd rfl (ne_of_beginsNumber begins (by decide))

theorem Step.of_arr {xs : List Json} (step : Step fuel depth b tail (.arr xs) rest) :
    b = Ascii.openBracket ∧ scanItems fuel (depth - 1) Bool.true tail = .ok (xs, rest) := by
  cases step with
  | arr _ read => exact ⟨rfl, read⟩
  | @number _ _ _ x _ _ _ value => cases x <;> cases value

theorem Step.of_openBracket (step : Step fuel depth Ascii.openBracket tail v rest) :
    ∃ xs, v = .arr xs ∧ scanItems fuel (depth - 1) Bool.true tail = .ok (xs, rest) := by
  cases step with
  | arr _ read => exact ⟨_, rfl, read⟩
  | number begins => exact absurd rfl (ne_of_beginsNumber begins (by decide))

theorem Step.of_obj {ms : List (String × Json)} (step : Step fuel depth b tail (.obj ms) rest) :
    b = Ascii.openBrace ∧ scanMembers fuel (depth - 1) Bool.true tail = .ok (ms, rest) := by
  cases step with
  | obj _ read => exact ⟨rfl, read⟩
  | @number _ _ _ x _ _ _ value => cases x <;> cases value

theorem Step.of_openBrace (step : Step fuel depth Ascii.openBrace tail v rest) :
    ∃ ms, v = .obj ms ∧ scanMembers fuel (depth - 1) Bool.true tail = .ok (ms, rest) := by
  cases step with
  | obj _ read => exact ⟨_, rfl, read⟩
  | number begins => exact absurd rfl (ne_of_beginsNumber begins (by decide))

end Kinds

theorem scanValue_of_step {b : UInt8} {tail : Bytes} (front : skipSpace bs = b :: tail)
    (step : Step fuel depth b tail v rest) : scanValue (fuel + 1) depth bs = .ok (v, rest) := by
  rw [scanValue, front]
  dsimp only
  cases step with
  | null word =>
    rw [if_pos rfl, Except.bind_of_ok word]
    rfl
  | true word =>
    rw [if_neg (by decide), if_pos rfl, Except.bind_of_ok word]
    rfl
  | false word =>
    iterate 2 rw [if_neg (by decide)]
    rw [if_pos rfl, Except.bind_of_ok word]
    rfl
  | @number _ _ _ x _ begins read value =>
    subst value
    iterate 3 rw [if_neg (ne_of_beginsNumber begins (by decide))]
    rw [if_pos (by simpa [BeginsNumber] using begins), Except.bind_of_ok read]
    cases x <;> rfl
  | str read =>
    iterate 4 rw [if_neg (by decide)]
    rw [if_pos rfl, Except.bind_of_ok read]
    rfl
  | arr deep read =>
    iterate 5 rw [if_neg (by decide)]
    rw [if_pos rfl, if_neg (by omega), Except.bind_of_ok read]
    rfl
  | obj deep read =>
    iterate 6 rw [if_neg (by decide)]
    rw [if_pos rfl, if_neg (by omega), Except.bind_of_ok read]
    rfl

theorem step_of_scanValue (h : scanValue (fuel + 1) depth bs = .ok (v, rest)) :
    ∃ b tail, skipSpace bs = b :: tail ∧ Step fuel depth b tail v rest := by
  rw [scanValue] at h
  split at h
  · cases h
  · rename_i b tail front
    refine ⟨b, tail, front, ?_⟩
    repeat' split at h
    · rename_i same
      obtain ⟨⟨⟨⟩, _⟩, word, same_value⟩ := Except.bind_eq_ok_iff.mp h
      cases same_value
      exact same ▸ .null word
    · rename_i same
      obtain ⟨⟨⟨⟩, _⟩, word, same_value⟩ := Except.bind_eq_ok_iff.mp h
      cases same_value
      exact same ▸ .true word
    · rename_i same
      obtain ⟨⟨⟨⟩, _⟩, word, same_value⟩ := Except.bind_eq_ok_iff.mp h
      cases same_value
      exact same ▸ .false word
    · rename_i begins
      obtain ⟨⟨x, _⟩, read, same_value⟩ := Except.bind_eq_ok_iff.mp h
      have begins : BeginsNumber b := by simpa [BeginsNumber] using begins
      cases x <;> cases same_value
      · exact .number begins read rfl
      · exact .number begins read rfl
    · rename_i same
      obtain ⟨⟨s, _⟩, read, same_value⟩ := Except.bind_eq_ok_iff.mp h
      cases same_value
      exact same ▸ .str read
    · cases h
    · rename_i same shallow
      obtain ⟨⟨xs, _⟩, read, same_value⟩ := Except.bind_eq_ok_iff.mp h
      cases same_value
      exact same ▸ .arr (by omega) read
    · cases h
    · rename_i same shallow
      obtain ⟨⟨ms, _⟩, read, same_value⟩ := Except.bind_eq_ok_iff.mp h
      cases same_value
      exact same ▸ .obj (by omega) read
    · cases h

/-! ### Items and members -/

/-- Where the next item of a list begins: at once, or behind a comma. -/
inductive ItemAt : Bool → Bytes → Next → Prop
  | close {first : Bool} {bs rest : Bytes} (front : skipSpace bs = Ascii.closeBracket :: rest) :
    ItemAt first bs (.close rest)
  | first {bs tail : Bytes} {b : UInt8} (front : skipSpace bs = b :: tail)
    (inner : b ≠ Ascii.closeBracket) : ItemAt true bs (.member (b :: tail))
  | later {bs after tail : Bytes} {b : UInt8} (comma : skipSpace bs = Ascii.comma :: after)
    (front : skipSpace after = b :: tail) (inner : b ≠ Ascii.closeBracket) :
    ItemAt false bs (.member (b :: tail))

theorem nextItem_eq_ok_iff {next : Next} : nextItem first bs = .ok next ↔ ItemAt first bs next := by
  unfold nextItem
  constructor
  · intro h
    split at h
    · cases h
    · rename_i b tail front
      repeat' split at h
      · rename_i same
        cases h
        exact .close (same ▸ front)
      · rename_i inner atOnce
        cases h
        exact atOnce ▸ .first front inner
      · cases h
      · cases h
      · rename_i notFirst same _ c rest after inner
        cases h
        obtain rfl : first = false := by simpa using notFirst
        exact .later (same ▸ front) after inner
      · cases h
  · intro h
    cases h with
    | close front =>
      rw [front]
      dsimp only
      rw [if_pos rfl]
    | first front inner =>
      rw [front]
      dsimp only
      rw [if_neg inner, if_pos rfl]
    | later comma front inner =>
      rw [comma]
      dsimp only
      rw [if_neg (by decide), if_neg (by decide), if_pos rfl, front]
      dsimp only
      rw [if_neg inner]

/-- Where the name of the next member of an object begins: behind a quote, at once or behind a
comma. -/
inductive KeyAt : Bool → Bytes → Next → Prop
  | close {first : Bool} {bs rest : Bytes} (front : skipSpace bs = Ascii.closeBrace :: rest) :
    KeyAt first bs (.close rest)
  | first {bs rest : Bytes} (front : skipSpace bs = Ascii.quote :: rest) :
    KeyAt true bs (.member rest)
  | later {bs after rest : Bytes} (comma : skipSpace bs = Ascii.comma :: after)
    (front : skipSpace after = Ascii.quote :: rest) : KeyAt false bs (.member rest)

theorem nextKey_eq_ok_iff {next : Next} : nextKey first bs = .ok next ↔ KeyAt first bs next := by
  unfold nextKey
  constructor
  · intro h
    split at h
    · cases h
    · rename_i b tail front
      repeat' split at h
      · rename_i same
        cases h
        exact .close (same ▸ front)
      · rename_i _ atOnce same
        cases h
        exact atOnce ▸ .first (same ▸ front)
      · cases h
      · cases h
      · rename_i notFirst comma _ c rest after quote
        cases h
        obtain rfl : first = false := by simpa using notFirst
        exact .later (comma ▸ front) (quote ▸ after)
      · cases h
      · cases h
      · cases h
  · intro h
    cases h with
    | close front =>
      rw [front]
      dsimp only
      rw [if_pos rfl]
    | first front =>
      rw [front]
      dsimp only
      rw [if_neg (by decide), if_pos rfl, if_pos rfl]
    | later comma front =>
      rw [comma]
      dsimp only
      rw [if_neg (by decide), if_neg (by decide), if_pos rfl, front]
      dsimp only
      rw [if_pos rfl]

theorem scanColon_eq_ok_iff : scanColon bs = .ok rest ↔ skipSpace bs = Ascii.colon :: rest := by
  unfold scanColon
  cases skipSpace bs with
  | nil => simp
  | cons b tail => by_cases colon : b = Ascii.colon <;> simp [colon]

theorem scanItems_nil_iff :
    scanItems (fuel + 1) depth first bs = .ok ([], rest) ↔ ItemAt first bs (.close rest) := by
  rw [scanItems, ← nextItem_eq_ok_iff, Except.bind_eq_ok_iff]
  constructor
  · rintro ⟨next, found, h⟩
    cases next with
    | close left =>
      cases h
      exact found
    | member next =>
      obtain ⟨_, -, h⟩ := Except.bind_eq_ok_iff.mp h
      obtain ⟨_, -, same⟩ := Except.bind_eq_ok_iff.mp h
      cases same
  · exact fun found => ⟨_, found, rfl⟩

theorem scanItems_cons_iff {x : Json} {xs : List Json} :
    scanItems (fuel + 1) depth first bs = .ok (x :: xs, rest) ↔
      ∃ next middle, ItemAt first bs (.member next) ∧
        scanValue fuel depth next = .ok (x, middle) ∧
        scanItems fuel depth false middle = .ok (xs, rest) := by
  rw [scanItems, Except.bind_eq_ok_iff]
  simp only [← nextItem_eq_ok_iff]
  constructor
  · rintro ⟨next, found, h⟩
    cases next with
    | close => cases h
    | member next =>
      obtain ⟨⟨_, middle⟩, read, h⟩ := Except.bind_eq_ok_iff.mp h
      obtain ⟨_, more, same⟩ := Except.bind_eq_ok_iff.mp h
      cases same
      exact ⟨next, middle, found, read, more⟩
  · rintro ⟨next, middle, found, read, more⟩
    refine ⟨_, found, ?_⟩
    dsimp only
    rw [Except.bind_of_ok read]
    dsimp only
    rw [Except.bind_of_ok more]
    rfl

theorem scanMembers_nil_iff :
    scanMembers (fuel + 1) depth first bs = .ok ([], rest) ↔ KeyAt first bs (.close rest) := by
  rw [scanMembers, ← nextKey_eq_ok_iff, Except.bind_eq_ok_iff]
  constructor
  · rintro ⟨next, found, h⟩
    cases next with
    | close left =>
      cases h
      exact found
    | member next =>
      obtain ⟨_, -, h⟩ := Except.bind_eq_ok_iff.mp h
      obtain ⟨_, -, h⟩ := Except.bind_eq_ok_iff.mp h
      obtain ⟨_, -, h⟩ := Except.bind_eq_ok_iff.mp h
      obtain ⟨_, -, same⟩ := Except.bind_eq_ok_iff.mp h
      cases same
  · exact fun found => ⟨_, found, rfl⟩

/-- A member is a name, a colon and a value. -/
structure MemberAt (fuel depth : Nat) (first : Bool) (bs : Bytes) (name : String) (v : Json)
    (next behind after middle : Bytes) : Prop where
  place : KeyAt first bs (.member next)
  named : scanString next = .ok (name, behind)
  colon : scanColon behind = .ok after
  read : scanValue fuel depth after = .ok (v, middle)

theorem scanMembers_cons_iff {name : String} {ms : List (String × Json)} :
    scanMembers (fuel + 1) depth first bs = .ok ((name, v) :: ms, rest) ↔
      ∃ next behind after middle, MemberAt fuel depth first bs name v next behind after middle ∧
        scanMembers fuel depth false middle = .ok (ms, rest) := by
  rw [scanMembers, Except.bind_eq_ok_iff]
  constructor
  · rintro ⟨next, found, h⟩
    cases next with
    | close => cases h
    | member next =>
      obtain ⟨⟨_, behind⟩, named, h⟩ := Except.bind_eq_ok_iff.mp h
      obtain ⟨after, colon, h⟩ := Except.bind_eq_ok_iff.mp h
      obtain ⟨⟨_, middle⟩, read, h⟩ := Except.bind_eq_ok_iff.mp h
      obtain ⟨_, more, same⟩ := Except.bind_eq_ok_iff.mp h
      cases same
      exact ⟨next, behind, after, middle, ⟨nextKey_eq_ok_iff.mp found, named, colon, read⟩, more⟩
  · rintro ⟨next, behind, after, middle, member, more⟩
    refine ⟨_, nextKey_eq_ok_iff.mpr member.place, ?_⟩
    dsimp only
    rw [Except.bind_of_ok member.named]
    dsimp only
    rw [Except.bind_of_ok member.colon, Except.bind_of_ok member.read]
    dsimp only
    rw [Except.bind_of_ok more]
    rfl

end CallGuard.Json
