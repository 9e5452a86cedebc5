import CallGuard.Proofs.Bytes
import CallGuard.Proofs.Pipeline.Admission
import Mathlib.Data.List.TakeWhile

/-!
Credentials on their way from one call to another. A header can carry more tokens than are read from
it: `token_read_iff_visible` says where the two part, and that what is read is never another token.
-/
namespace CallGuard

namespace Metadata

theorem getAll_set (md : Metadata) (name : String) (value : Bytes) :
    (md.set name value).getAll name = [value] := by
  simp [set, getAll, List.filter_append, List.filter_filter]

theorem get?_set (md : Metadata) (name : String) (value : Bytes) :
    (md.set name value).get? name = some value := by
  rw [get?_eq_head?, getAll_set]
  rfl

/-- The bytes that a value may have. -/
theorem isValueByte_iff {b : UInt8} :
    isValueByte b = true ↔ b = 0x09 ∨ 0x20 ≤ b ∧ b ≤ 0x7e ∨ 0x80 ≤ b := by
  simp only [isValueByte, Bool.or_eq_true, Bool.and_eq_true, beq_iff_eq, bne_iff_ne, ne_eq,
    decide_eq_true_eq, UInt8.le_iff_toNat_le, ← UInt8.toNat_inj, UInt8.reduceToNat, Ascii.tab,
    Ascii.space, Ascii.delete]
  omega

theorem isTextByte_iff {b : UInt8} : isTextByte b = true ↔ b = 0x09 ∨ 0x20 ≤ b ∧ b ≤ 0x7e := by
  simp only [isTextByte, Bool.or_eq_true, Bool.and_eq_true, beq_iff_eq, decide_eq_true_eq,
    UInt8.le_iff_toNat_le, UInt8.lt_iff_toNat_lt, ← UInt8.toNat_inj, UInt8.reduceToNat, Ascii.tab,
    Ascii.space, Ascii.delete]
  omega

end Metadata

namespace Bearer

/-- Every byte of the token may stand in a header. -/
def Carriable (token : String) : Prop :=
  ∀ b ∈ Bytes.ofString token, b = 0x09 ∨ 0x20 ≤ b ∧ b ≤ 0x7e ∨ 0x80 ≤ b

/-- The token has a character, and each of its bytes shows one. -/
def Visible (token : String) : Prop :=
  token ≠ "" ∧ ∀ b ∈ Bytes.ofString token, 0x21 ≤ b ∧ b ≤ 0x7e

/-! ### Values -/

theorem isText_and_not_isSpace_iff {b : UInt8} :
    (Metadata.isTextByte b = true ∧ Ascii.isSpace b = false) ↔ 0x21 ≤ b ∧ b ≤ 0x7e := by
  simp only [Metadata.isTextByte_iff, Ascii.isSpace, Bool.or_eq_false_iff, beq_eq_false_iff_ne,
    ne_eq, UInt8.le_iff_toNat_le, ← UInt8.toNat_inj, UInt8.reduceToNat, Ascii.tab, Ascii.space,
    Ascii.lineFeed, Ascii.carriageReturn]
  omega

/-- The scheme's name is in lower case. -/
theorem scheme_lower : ∀ letter ∈ scheme, 0x61 ≤ letter ∧ letter ≤ 0x7a := by
  have spelled : scheme = [0x62, 0x65, 0x61, 0x72, 0x65, 0x72] := by rfl
  simp [spelled]

/-- The scheme's name is written with letters, in either case. -/
theorem letter_of_mem_word {word : Bytes} (h : word.map Ascii.toLower = scheme) {b : UInt8}
    (hb : b ∈ word) : 0x41 ≤ b ∧ b ≤ 0x7a := by
  have lower := scheme_lower (Ascii.toLower b) (h ▸ List.mem_map_of_mem hb)
  simp only [Ascii.toLower, Ascii.isUpper, Bool.and_eq_true, decide_eq_true_eq] at lower
  split at lower
  · rename_i upper
    exact ⟨upper.1, UInt8.le_trans upper.2 (by decide)⟩
  · exact ⟨UInt8.le_trans (by decide) lower.1, lower.2⟩

theorem ne_space_of_mem_word {word : Bytes} (h : word.map Ascii.toLower = scheme) :
    ∀ b ∈ word, (b != Ascii.space) = true := by
  intro b hb
  have letter := letter_of_mem_word h hb
  rw [bne_iff_ne]
  rintro rfl
  exact absurd letter.1 (by decide)

/-- What follows the scheme's name can be told from the whole. -/
theorem dropWhile_word {word : Bytes} (h : word.map Ascii.toLower = scheme) (rest : Bytes) :
    (word ++ Ascii.space :: rest).dropWhile (· != Ascii.space) = Ascii.space :: rest := by
  rw [List.dropWhile_append_of_pos (ne_space_of_mem_word h)]
  simp

theorem visible_toAscii {rest : Bytes} (nonempty : rest ≠ [])
    (shown : ∀ b ∈ rest, 0x21 ≤ b ∧ b ≤ 0x7e) :
    Bytes.ofString (Bytes.toAscii rest) = rest ∧ Visible (Bytes.toAscii rest) := by
  have back : Bytes.ofString (Bytes.toAscii rest) = rest :=
    Bytes.ofString_toAscii fun b hb => UInt8.lt_of_le_of_lt (shown b hb).2 (by decide)
  refine ⟨back, ?_, by rwa [back]⟩
  rw [ne_eq, ← Bytes.ofString_eq_nil_iff, back]
  exact nonempty

theorem Visible.toAscii_ofString {token : String} (h : Visible token) :
    Bytes.toAscii (Bytes.ofString token) = token :=
  Bytes.toAscii_ofString fun b hb => UInt8.lt_of_le_of_lt (h.2 b hb).2 (by decide)

theorem ofValue_of_visible {word : Bytes} {token : String}
    (named : word.map Ascii.toLower = scheme) (visible : Visible token) :
    ofValue (word ++ Ascii.space :: Bytes.ofString token) = .ok token := by
  have text : (word ++ Ascii.space :: Bytes.ofString token).all Metadata.isTextByte = true := by
    simp only [List.all_append, List.all_cons, Bool.and_eq_true, List.all_eq_true,
      Metadata.isTextByte_iff]
    refine ⟨fun b hb => ?_, by decide, fun b hb => ?_⟩
    · have letter := letter_of_mem_word named hb
      exact .inr ⟨UInt8.le_trans (by decide) letter.1, UInt8.le_trans letter.2 (by decide)⟩
    · have shown := visible.2 b hb
      exact .inr ⟨UInt8.le_trans (by decide) shown.1, shown.2⟩
  have nonempty : (Bytes.ofString token).isEmpty = false := by
    simpa [Bytes.ofString_eq_nil_iff] using visible.1
  have solid : (Bytes.ofString token).any Ascii.isSpace = false := by
    rw [List.any_eq_false]
    intro b hb
    simp [(isText_and_not_isSpace_iff.mpr (visible.2 b hb)).2]
  simp [ofValue, text, dropWhile_word named, List.takeWhile_append_of_pos
    (ne_space_of_mem_word named), named, nonempty, solid, visible.toAscii_ofString]

theorem visible_of_ofValue {value : Bytes} {token : String} (h : ofValue value = .ok token) :
    Visible token ∧ ∃ word, word.map Ascii.toLower = scheme ∧
      value = word ++ Ascii.space :: Bytes.ofString token := by
  unfold ofValue at h
  split at h
  · cases h
  rename_i text
  split at h
  · cases h
  rename_i b rest found
  split at h
  · cases h
  rename_i named
  split at h
  · cases h
  rename_i solid
  cases h
  obtain rfl : b = Ascii.space := by
    have first := List.head_dropWhile_not (· != Ascii.space) (l := value) (by simp [found])
    simpa [found] using first
  have whole : value.takeWhile (· != Ascii.space) ++ Ascii.space :: rest = value := by
    rw [← found, List.takeWhile_append_dropWhile]
  simp only [Bool.not_eq_true', Bool.not_eq_false, List.all_eq_true, Bool.or_eq_true,
    List.isEmpty_iff, List.any_eq_true, not_or, not_exists, not_and, Bool.not_eq_true] at text solid
  have shown : ∀ x ∈ rest, 0x21 ≤ x ∧ x ≤ 0x7e := by
    intro x hx
    have part : x ∈ value := whole ▸ List.mem_append_right _ (List.mem_cons_of_mem _ hx)
    exact isText_and_not_isSpace_iff.mp ⟨text x part, solid.2 x hx⟩
  obtain ⟨back, visible⟩ := visible_toAscii solid.1 shown
  refine ⟨visible, value.takeWhile (· != Ascii.space), not_not.mp named, ?_⟩
  rw [back, whole]

/-- A value is read as the scheme's name, in any case, one space, and a visible token. -/
theorem ofValue_eq_ok_iff {value : Bytes} {token : String} :
    ofValue value = .ok token ↔
      Visible token ∧ ∃ word, word.map Ascii.toLower = scheme ∧
        value = word ++ Ascii.space :: Bytes.ofString token := by
  constructor
  · exact visible_of_ofValue
  · rintro ⟨visible, word, named, rfl⟩
    exact ofValue_of_visible named visible

/-- The value that carries the token. -/
def credential (token : String) : Bytes :=
  Bytes.ofString "Bearer" ++ Ascii.space :: Bytes.ofString token

theorem named_bearer : (Bytes.ofString "Bearer").map Ascii.toLower = scheme := by decide

theorem ofString_bearer (token : String) :
    Bytes.ofString ("Bearer " ++ token) = credential token := by
  have front : Bytes.ofString "Bearer " = Bytes.ofString "Bearer" ++ [Ascii.space] := by decide
  rw [credential, Bytes.ofString_append, front, List.append_assoc]
  rfl

/-- What is read of a token's own value is that token, if it is visible, and nothing else. -/
theorem ofValue_credential_iff {token read : String} :
    ofValue (credential token) = .ok read ↔ read = token ∧ Visible token := by
  constructor
  · intro h
    obtain ⟨visible, word, named, whole⟩ := ofValue_eq_ok_iff.mp h
    have rest := congrArg (List.dropWhile (· != Ascii.space)) whole
    rw [credential, dropWhile_word named_bearer, dropWhile_word named, List.cons.injEq] at rest
    have small : ∀ b ∈ Bytes.ofString token, b < 128 := by
      rw [rest.2]
      exact fun b hb => UInt8.lt_of_le_of_lt (visible.2 b hb).2 (by decide)
    obtain rfl : read = token := by
      rw [← visible.toAscii_ofString, ← rest.2, Bytes.toAscii_ofString small]
    exact ⟨rfl, visible⟩
  · rintro ⟨rfl, visible⟩
    exact ofValue_of_visible named_bearer visible

/-! ### From client to server -/

theorem value?_eq_some_iff {token : String} {value : Bytes} :
    value? token = some value ↔ Carriable token ∧ value = credential token := by
  have word : ∀ b ∈ Bytes.ofString "Bearer", Metadata.isValueByte b = true :=
    List.all_eq_true.mp (by rfl)
  have space : Metadata.isValueByte Ascii.space = true := by decide
  have allowed : (credential token).all Metadata.isValueByte = true ↔ Carriable token := by
    rw [credential, List.all_append, List.all_cons, List.all_eq_true.mpr word, space]
    simp only [Bool.true_and, List.all_eq_true, Metadata.isValueByte_iff, Carriable]
  rw [value?, ofString_bearer, Metadata.value?]
  by_cases carriable : Carriable token
  · rw [if_pos (allowed.mpr carriable)]
    simp [carriable, eq_comm (a := value)]
  · rw [if_neg (carriable ∘ allowed.mp)]
    simp [carriable]

theorem Interceptor.ofToken_eq_ok_iff {token : String} {i : Interceptor} :
    ofToken token = .ok i ↔ Carriable token ∧ i = ⟨credential token⟩ := by
  unfold ofToken
  cases made : value? token with
  | none =>
    have uncarriable : ¬ Carriable token := by
      intro carriable
      simp [value?_eq_some_iff.mpr ⟨carriable, rfl⟩] at made
    simp [uncarriable]
  | some value =>
    obtain ⟨carriable, rfl⟩ := value?_eq_some_iff.mp made
    simp [carriable, eq_comm (a := i)]

/-- A token is attached to a single call as an interceptor would do it. -/
theorem attach_eq (token : String) (md : Metadata) :
    attach token md = (Interceptor.ofToken token >>= fun i => i.call md) := by
  unfold attach Interceptor.ofToken
  cases value? token <;> rfl

theorem attach_eq_ok_iff {token : String} {md sent : Metadata} :
    attach token md = .ok sent ↔ Carriable token ∧ sent = md.set header (credential token) := by
  rw [attach_eq, Except.bind_eq_ok_iff]
  simp [Interceptor.ofToken_eq_ok_iff, Interceptor.call, eq_comm (a := sent)]

theorem token?_of_get? {md : Metadata} {value : Bytes} (found : md.get? header = some value) :
    token? md = ((ofValue value).map some).mapError (.invalidCredential ∘ .malformed) := by
  rw [token?, found]

theorem token?_eq_some_iff {md : Metadata} {value : Bytes} (found : md.get? header = some value)
    {token : String} : token? md = .ok (some token) ↔ ofValue value = .ok token := by
  rw [token?_of_get? found, Except.mapError_eq_ok_iff, Except.map_eq_ok_iff]
  simp

/-- A value that no token is read from is malformed. -/
theorem token?_eq_error {md : Metadata} {value : Bytes} (found : md.get? header = some value)
    (unread : ∀ token, ofValue value ≠ .ok token) :
    ∃ why, token? md = .error (.invalidCredential (.malformed why)) := by
  cases read : ofValue value with
  | ok token => exact absurd read (unread token)
  | error why => exact ⟨why, by rw [token?_of_get? found, read]; rfl⟩

namespace Interceptor

theorem forward_eq_none_iff {incoming : Metadata} :
    forward incoming = none ↔ incoming.getAll header = [] := by
  rw [forward, Option.map_eq_none_iff, Bearer.forward, Metadata.get?_eq_head?,
    List.head?_eq_none_iff]

theorem token?_forwarded {incoming outgoing sent : Metadata} {i : Interceptor}
    (passed : forward incoming = some i) (called : i.call outgoing = .ok sent) :
    token? sent = token? incoming := by
  obtain ⟨value, found, rfl⟩ := Option.map_eq_some_iff.mp passed
  cases called
  rw [token?_of_get? (Metadata.get?_set _ _ _), token?_of_get? found, ofHeader]

end Interceptor

/-- A token can be sent if its bytes may stand in headers, by an interceptor or with a single call.
It is then the only one that the request carries, and it is read again if it is visible; of any
other the server says that it is malformed, and never that there is none. What an interceptor passes
on is the only credential, too, and is read as it was read first. -/
theorem token_read_iff_visible (token : String) :
    ((∃ i, Interceptor.ofToken token = .ok i) ↔ Carriable token) ∧
    (∀ md, (∃ sent, attach token md = .ok sent) ↔ Carriable token) ∧
    (∀ md sent,
      (attach token md = .ok sent ∨
        ∃ i, Interceptor.ofToken token = .ok i ∧ i.call md = .ok sent) →
      sent.getAll header = [Bytes.ofString ("Bearer " ++ token)] ∧
      (token? sent = .ok (some token) ↔ Visible token) ∧
      (¬ Visible token → ∃ why, token? sent = .error (.invalidCredential (.malformed why)))) ∧
    ∀ incoming, (Interceptor.forward incoming = none ↔ incoming.getAll header = []) ∧
      ∀ i outgoing, Interceptor.forward incoming = some i →
        ∃ sent, i.call outgoing = .ok sent ∧ sent.getAll header = [i.value] ∧
          token? sent = token? incoming := by
  refine ⟨?_, fun md => ?_, ?_, fun incoming => ⟨Interceptor.forward_eq_none_iff, ?_⟩⟩
  · simp [Interceptor.ofToken_eq_ok_iff]
  · simp [attach_eq_ok_iff]
  · intro md sent given
    have attached : attach token md = .ok sent := by
      rcases given with attached | ⟨i, made, called⟩
      · exact attached
      · rw [attach_eq, made]
        exact called
    obtain ⟨-, rfl⟩ := attach_eq_ok_iff.mp attached
    have found := Metadata.get?_set md header (credential token)
    refine ⟨by rw [Metadata.getAll_set, ofString_bearer], ?_, fun hidden => ?_⟩
    · rw [token?_eq_some_iff found, ofValue_credential_iff]
      simp
    · refine token?_eq_error found fun read same => ?_
      exact hidden (ofValue_credential_iff.mp same).2
  · intro i outgoing passed
    have called : i.call outgoing = .ok (outgoing.set header i.value) := rfl
    exact ⟨_, called, Metadata.getAll_set _ _ _, Interceptor.token?_forwarded passed called⟩

/-- Two credentials are replaced by one that is read; one with a space in its token is not; and one
that is passed on is read in place of another. -/
theorem sample_token_replaced :
    (∃ sent, attach "t" [(header, [1]), (header, [2])] = .ok sent ∧
      sent.getAll header = [Bytes.ofString "Bearer t"] ∧ token? sent = .ok (some "t")) ∧
    (∃ i sent why, Interceptor.ofToken "a b" = .ok i ∧ i.call [(header, [1])] = .ok sent ∧
      token? sent = .error (.invalidCredential (.malformed why))) ∧
    ∃ i sent, Interceptor.forward [(header, Bytes.ofString "bearer t")] = some i ∧
      i.call [(header, [1])] = .ok sent ∧ token? sent = .ok (some "t") := by
  have spelled : Bytes.ofString "t" = [0x74] := by rfl
  have spelledToo : Bytes.ofString "a b" = [0x61, 0x20, 0x62] := by rfl
  have fits : Carriable "t" := by simp [Carriable, spelled]
  have fitsToo : Carriable "a b" := by simp [Carriable, spelledToo]
  have shown : Visible "t" := by simp [Visible, spelled]
  have hidden : ¬ Visible "a b" := fun visible => absurd (visible.2 Ascii.space) (by decide)
  refine ⟨?_, ?_, ?_⟩
  · obtain ⟨sent, attached⟩ :=
      ((token_read_iff_visible "t").2.1 [(header, [1]), (header, [2])]).mpr fits
    obtain ⟨only, read, -⟩ := (token_read_iff_visible "t").2.2.1 _ _ (.inl attached)
    exact ⟨sent, attached, only, read.mpr shown⟩
  · obtain ⟨i, made⟩ := (token_read_iff_visible "a b").1.mpr fitsToo
    obtain ⟨-, -, refused⟩ :=
      (token_read_iff_visible "a b").2.2.1 [(header, [1])] _ (.inr ⟨i, made, rfl⟩)
    obtain ⟨why, malformed⟩ := refused hidden
    exact ⟨i, _, why, made, rfl, malformed⟩
  · obtain ⟨sent, called, -, read⟩ :=
      ((token_read_iff_visible "t").2.2.2 [(header, Bytes.ofString "bearer t")]).2
        ⟨Bytes.ofString "bearer t"⟩ [(header, [1])] rfl
    refine ⟨_, sent, rfl, called, ?_⟩
    rw [read]
    decide

end Bearer
end CallGuard
