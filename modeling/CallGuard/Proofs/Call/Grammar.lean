import CallGuard.Proofs.Call.Bearer
import Mathlib.Data.List.Forall2

/-!
The grammar of a header's value, byte by byte: `Presents` for the values that carry a token, `Flawed`
for all others, each with the flaw that a reader comes upon first. `read_by_grammar` joins both to
the reader, and says that a call's first value is the only one that is read.
-/
namespace CallGuard.Bearer

/-! ### The grammar -/

/-- The byte is the lower-case letter, or the upper-case one. -/
def Spells (letter b : UInt8) : Prop := b = letter ∨ b = letter - 0x20

/-- The scheme's name, each letter of it in either case. -/
def Named (word : Bytes) : Prop := List.Forall₂ Spells scheme word

/-- The bytes of values that are text. -/
def IsText (value : Bytes) : Prop := ∀ b ∈ value, b = 0x09 ∨ 0x20 ≤ b ∧ b ≤ 0x7e

/-- The value is the scheme's name, one space, and the token. -/
inductive Presents : Bytes → String → Prop
  | intro {word : Bytes} {token : String} (named : Named word) (visible : Visible token) :
      Presents (word ++ 0x20 :: Bytes.ofString token) token

/-- What a value that carries no token is refused for: that it is no text, else that it has no
space, else what stands before the first space, else what stands behind it. -/
inductive Flawed : Bytes → Malformation → Prop
  | bytes {value : Bytes} (hidden : ¬ IsText value) : Flawed value .headerNotAscii
  | whole {value : Bytes} (text : IsText value) (unspaced : 0x20 ∉ value) : Flawed value .notBearer
  | scheme {word rest : Bytes} (text : IsText (word ++ 0x20 :: rest)) (unspaced : 0x20 ∉ word)
      (other : ¬ Named word) : Flawed (word ++ 0x20 :: rest) .unknownScheme
  | token {word rest : Bytes} (text : IsText (word ++ 0x20 :: rest)) (named : Named word)
      (unfit : rest = [] ∨ 0x20 ∈ rest ∨ 0x09 ∈ rest) : Flawed (word ++ 0x20 :: rest) .notBearer

/-! ### Letters and bytes -/

theorem toLower_eq_iff {letter b : UInt8} (lower : 0x61 ≤ letter ∧ letter ≤ 0x7a) :
    Ascii.toLower b = letter ↔ Spells letter b := by
  have small := b.toNat_lt
  simp only [Ascii.toLower, Ascii.isUpper, Spells, Bool.and_eq_true, decide_eq_true_eq,
    UInt8.le_iff_toNat_le, ← UInt8.toNat_inj, UInt8.toNat_sub, UInt8.reduceToNat] at lower ⊢
  split
  · simp only [UInt8.toNat_add, UInt8.reduceToNat]
    omega
  · omega

theorem map_toLower_eq_iff {letters word : Bytes}
    (lower : ∀ letter ∈ letters, 0x61 ≤ letter ∧ letter ≤ 0x7a) :
    word.map Ascii.toLower = letters ↔ List.Forall₂ Spells letters word := by
  induction letters generalizing word with
  | nil => simp
  | cons letter letters ih =>
    obtain ⟨first, later⟩ := List.forall_mem_cons.mp lower
    cases word with
    | nil => simp
    | cons b word =>
      rw [List.map_cons, List.cons.injEq, List.forall₂_cons, toLower_eq_iff first, ih later]

theorem named_iff {word : Bytes} : Named word ↔ word.map Ascii.toLower = scheme :=
  (map_toLower_eq_iff scheme_lower).symm

theorem all_isTextByte_iff {value : Bytes} :
    value.all Metadata.isTextByte = true ↔ IsText value := by
  simp only [List.all_eq_true, Metadata.isTextByte_iff, IsText]

/-- Of the bytes of a text, two are blank. -/
theorem any_isSpace_iff {rest : Bytes} (text : IsText rest) :
    rest.any Ascii.isSpace = true ↔ 0x20 ∈ rest ∨ 0x09 ∈ rest := by
  rw [List.any_eq_true]
  constructor
  · rintro ⟨b, hb, blank⟩
    have shown := text b hb
    simp only [Ascii.isSpace, Bool.or_eq_true, beq_iff_eq] at blank
    rcases blank with ((rfl | rfl) | rfl) | rfl
    · exact .inl hb
    · exact .inr hb
    · exact absurd shown (by decide)
    · exact absurd shown (by decide)
  · rintro (space | tab)
    · exact ⟨_, space, by decide⟩
    · exact ⟨_, tab, by decide⟩

/-! ### Values -/

/-- The three shapes of a value: no text, one word, or a word before the first space. -/
theorem value_cases (value : Bytes) :
    ¬ IsText value ∨ (IsText value ∧ 0x20 ∉ value) ∨
      ∃ word rest, IsText value ∧ 0x20 ∉ word ∧ value = word ++ 0x20 :: rest := by
  by_cases text : IsText value
  · by_cases spaced : 0x20 ∈ value
    · obtain ⟨word, rest, cut, unspaced⟩ := List.eq_append_cons_of_mem spaced
      exact .inr (.inr ⟨word, rest, text, unspaced, cut⟩)
    · exact .inr (.inl ⟨text, spaced⟩)
  · exact .inl text

theorem ne_space_of_unspaced {word : Bytes} (unspaced : 0x20 ∉ word) :
    ∀ b ∈ word, (b != Ascii.space) = true := by
  intro b hb
  rw [bne_iff_ne]
  rintro rfl
  exact unspaced hb

theorem ofValue_of_hidden {value : Bytes} (hidden : ¬ IsText value) :
    ofValue value = .error .headerNotAscii := by
  have refused : value.all Metadata.isTextByte = false := by
    rwa [← all_isTextByte_iff, Bool.not_eq_true] at hidden
  simp [ofValue, refused]

theorem ofValue_of_whole {value : Bytes} (text : IsText value) (unspaced : 0x20 ∉ value) :
    ofValue value = .error .notBearer := by
  have read := all_isTextByte_iff.mpr text
  have nothing : value.dropWhile (· != Ascii.space) = [] :=
    List.dropWhile_eq_nil_iff.mpr (ne_space_of_unspaced unspaced)
  simp [ofValue, read, nothing]

/-- Of a value with a space, the word before it is looked at first. -/
theorem ofValue_of_spaced {word rest : Bytes} (text : IsText (word ++ 0x20 :: rest))
    (unspaced : 0x20 ∉ word) :
    ofValue (word ++ 0x20 :: rest) =
      if word.map Ascii.toLower ≠ scheme then .error .unknownScheme
      else if rest.isEmpty || rest.any Ascii.isSpace then .error .notBearer
      else .ok (Bytes.toAscii rest) := by
  have read := all_isTextByte_iff.mpr text
  have before := ne_space_of_unspaced unspaced
  have front : (word ++ 0x20 :: rest).takeWhile (· != Ascii.space) = word := by
    rw [List.takeWhile_append_of_pos before]
    simp
  have back : (word ++ 0x20 :: rest).dropWhile (· != Ascii.space) = 0x20 :: rest := by
    rw [List.dropWhile_append_of_pos before]
    simp
  rw [ofValue, read, front, back]
  rfl

theorem Named.unspaced {word : Bytes} (named : Named word) : 0x20 ∉ word := by
  intro space
  have other := ne_space_of_mem_word (named_iff.mp named) _ space
  exact absurd other (by decide)

theorem presents_iff {value : Bytes} {token : String} :
    Presents value token ↔ ofValue value = .ok token := by
  rw [ofValue_eq_ok_iff]
  constructor
  · rintro ⟨named, visible⟩
    exact ⟨visible, _, named_iff.mp named, rfl⟩
  · rintro ⟨visible, word, named, rfl⟩
    exact .intro (named_iff.mpr named) visible

theorem ofValue_of_flawed {value : Bytes} {why : Malformation} (flawed : Flawed value why) :
    ofValue value = .error why := by
  cases flawed with
  | bytes hidden => exact ofValue_of_hidden hidden
  | whole text unspaced => exact ofValue_of_whole text unspaced
  | scheme text unspaced other =>
    rw [named_iff] at other
    rw [ofValue_of_spaced text unspaced, if_pos other]
  | @token word rest text named unfit =>
    have later : IsText rest := fun b hb => text b (by simp [hb])
    have refused : (rest.isEmpty || rest.any Ascii.isSpace) = true := by
      rw [Bool.or_eq_true, List.isEmpty_iff, any_isSpace_iff later]
      exact unfit
    rw [ofValue_of_spaced text named.unspaced, if_neg (not_not.mpr (named_iff.mp named)),
      if_pos refused]

theorem flawed_of_ofValue {value : Bytes} {why : Malformation} (h : ofValue value = .error why) :
    Flawed value why := by
  rcases value_cases value with hidden | ⟨text, unspaced⟩ | ⟨word, rest, text, unspaced, rfl⟩
  · rw [ofValue_of_hidden hidden] at h
    cases h
    exact .bytes hidden
  · rw [ofValue_of_whole text unspaced] at h
    cases h
    exact .whole text unspaced
  · have later : IsText rest := fun b hb => text b (by simp [hb])
    rw [ofValue_of_spaced text unspaced] at h
    split at h
    · rename_i other
      cases h
      exact .scheme text unspaced (mt named_iff.mp other)
    · rename_i same
      split at h
      · rename_i refused
        cases h
        rw [Bool.or_eq_true, List.isEmpty_iff, any_isSpace_iff later] at refused
        exact .token text (named_iff.mpr (not_not.mp same)) refused
      · cases h

/-- Values are refused for their flaws, and for nothing else. -/
theorem flawed_iff {value : Bytes} {why : Malformation} :
    Flawed value why ↔ ofValue value = .error why :=
  ⟨ofValue_of_flawed, flawed_of_ofValue⟩

/-! ### Headers -/

theorem get?_of_getAll {md : Metadata} {value : Bytes} {others : List Bytes}
    (values : md.getAll header = value :: others) : md.get? header = some value := by
  rw [Metadata.get?_eq_head?, values]
  rfl

theorem token?_eq_some_iff_presents {md : Metadata} {token : String} :
    token? md = .ok (some token) ↔
      ∃ value others, md.getAll header = value :: others ∧ Presents value token := by
  constructor
  · intro read
    cases values : md.getAll header with
    | nil =>
      have bare := token?_eq_none_iff.mpr values
      rw [bare] at read
      cases read
    | cons value others =>
      have carried := (token?_eq_some_iff (get?_of_getAll values)).mp read
      exact ⟨value, others, rfl, presents_iff.mpr carried⟩
  · rintro ⟨value, others, values, presents⟩
    exact (token?_eq_some_iff (get?_of_getAll values)).mpr (presents_iff.mp presents)

theorem token?_eq_error_iff_flawed {md : Metadata} {rejection : Rejection} :
    token? md = .error rejection ↔
      ∃ value others why, md.getAll header = value :: others ∧ Flawed value why ∧
        rejection = .invalidCredential (.malformed why) := by
  constructor
  · intro refused
    cases values : md.getAll header with
    | nil =>
      have bare := token?_eq_none_iff.mpr values
      rw [bare] at refused
      cases refused
    | cons value others =>
      rw [token?_of_get? (get?_of_getAll values), Except.mapError_eq_error_iff] at refused
      obtain ⟨why, unread, rfl⟩ := refused
      exact ⟨value, others, why, rfl, flawed_iff.mpr (Except.map_eq_error_iff.mp unread), rfl⟩
  · rintro ⟨value, others, why, values, flawed, rfl⟩
    rw [token?_of_get? (get?_of_getAll values), flawed_iff.mp flawed]
    rfl

/-- A call carries no credential just if it has no value for one. It carries a token just if its
first value presents the token, and whatever else that value is, the call is rejected for a
malformed credential, with the value's first flaw. No other value, and no other header, has a
say. -/
theorem read_by_grammar (md : Metadata) :
    (token? md = .ok none ↔ md.getAll header = []) ∧
    (∀ token, token? md = .ok (some token) ↔
      ∃ value others, md.getAll header = value :: others ∧ Presents value token) ∧
    (∀ rejection, token? md = .error rejection ↔
      ∃ value others why, md.getAll header = value :: others ∧ Flawed value why ∧
        rejection = .invalidCredential (.malformed why)) ∧
    (∀ value others, md.getAll header = value :: others → (∀ token, ¬ Presents value token) →
      ∃ why, token? md = .error (.invalidCredential (.malformed why))) ∧
    ∀ other : Metadata, (md.getAll header).head? = (other.getAll header).head? →
      token? md = token? other := by
  refine ⟨token?_eq_none_iff, fun _ => token?_eq_some_iff_presents,
    fun _ => token?_eq_error_iff_flawed, ?_, ?_⟩
  · intro value others values absent
    refine token?_eq_error (get?_of_getAll values) fun token carried => ?_
    exact absent token (presents_iff.mpr carried)
  · intro other same
    rw [← Metadata.get?_eq_head?, ← Metadata.get?_eq_head?] at same
    exact token?_congr same

/-- The first of two values is read, in whatever case its scheme is written, and a second space in it
is one too many. -/
theorem sample_first_value_read :
    token? [("x", [1]), (header, Bytes.ofString "bEaRer t"), (header, [0xff])] =
        .ok (some "t") ∧
      ∃ why, token? [(header, Bytes.ofString "Bearer  t"), (header, Bytes.ofString "Bearer t")] =
        .error (.invalidCredential (.malformed why)) := by
  constructor
  · have named : Named (Bytes.ofString "bEaRer") := named_iff.mpr (by decide)
    have spelled : Bytes.ofString "t" = [0x74] := by rfl
    have visible : Visible "t" := by simp [Visible, spelled]
    have alone := ((read_by_grammar [(header, Bytes.ofString "bEaRer t")]).2.1 "t").mpr
      ⟨_, [], rfl, .intro named visible⟩
    rw [← alone]
    exact (read_by_grammar _).2.2.2.2 _ rfl
  · refine (read_by_grammar _).2.2.2.1 _ _ rfl fun token presents => ?_
    have read := presents_iff.mp presents
    cases read

end CallGuard.Bearer
