import CallGuard.Proofs.Text.Pieces
import CallGuard.Proofs.Token.Fault
import CallGuard.Proofs.Token.Header
import CallGuard.Proofs.Token.Payload
import CallGuard.Token.Verifier

/-!
What decoders make of tokens. With the validation that verifiers ask for, the claims are not looked
at, whatever the time: a token is decoded if its signature is right and its payload can be read.
-/
namespace CallGuard

open Crypto Token

/-! ### Parts -/

namespace Segments

/-- The token is the three parts with dots between them. None is empty or has a dot of its own. -/
def Splits (s : Segments) (token : String) : Prop :=
  Bytes.ofString token = s.header ++ Ascii.dot :: (s.payload ++ Ascii.dot :: s.signature) ∧
    ∀ part ∈ [s.header, s.payload, s.signature], part ≠ [] ∧ Ascii.dot ∉ part

theorem ofToken?_eq_some_iff {token : String} {s : Segments} :
    ofToken? token = some s ↔ s.Splits token := by
  constructor
  · intro h
    unfold ofToken? at h
    split at h
    · rename_i header payload signature cut
      obtain ⟨-, joined, clean⟩ := Text.pieces_eq_iff.mp cut
      split at h
      · cases h
      · rename_i filled
        cases h
        refine ⟨by simpa using joined.symm, fun part hp => ⟨?_, clean part hp⟩⟩
        simp only [List.mem_cons, List.not_mem_nil, or_false] at hp
        rcases hp with rfl | rfl | rfl <;> simp_all
    · cases h
  · rintro ⟨joined, parts⟩
    have cut : Text.pieces Ascii.dot (Bytes.ofString token) =
        [s.header, s.payload, s.signature] := by
      rw [Text.pieces_eq_iff, joined]
      exact ⟨by simp, by simp, fun part hp => (parts part hp).2⟩
    unfold ofToken?
    rw [cut]
    have filled := fun part hp => (parts part hp).1
    simp only [List.forall_mem_cons, List.not_mem_nil] at filled
    simp [filled]

/-- Cut at its last dots, a token with three parts has these. -/
theorem ofEnd?_of_splits {token : String} {s : Segments} (splits : s.Splits token) :
    ofEnd? (Bytes.ofString token) = some s := by
  obtain ⟨joined, parts⟩ := splits
  have clean : ∀ part ∈ [s.header, s.payload, s.signature], Ascii.dot ∉ part :=
    fun part hp => (parts part hp).2
  have last : Text.cutLast? Ascii.dot (Bytes.ofString token) = some (s.message, s.signature) := by
    rw [Text.cutLast?_eq_some_iff, joined, message]
    exact ⟨by simp, clean _ (by simp)⟩
  have first : Text.cutLast? Ascii.dot s.message = some (s.header, s.payload) :=
    Text.cutLast?_eq_some_iff.mpr ⟨rfl, clean _ (by simp)⟩
  simp [ofEnd?, last, first]

/-- The header, decoded, announces the algorithm. -/
def Announces (s : Segments) (a : Algorithm) : Prop :=
  ∃ bs, Base64.decode Base64.urlSafe s.header = .ok bs ∧ readHeader bs = .ok a

/-- The payload, decoded, is an object of these claims, which has no registered claim twice. -/
def Carries (s : Segments) (claims : Claims) : Prop :=
  ∃ bs, Base64.decode Base64.urlSafe s.payload = .ok bs ∧ Json.read bs = .ok (.obj claims) ∧
    Json.runScan Claims.scanValid bs = .ok ()

theorem announces_iff_names {s : Segments} {bs : Bytes} {v : Json} {a : Algorithm}
    (decoded : Base64.decode Base64.urlSafe s.header = .ok bs)
    (document : Json.runScan (Json.scanValue (Json.readFuel bs) Json.depthLimit) bs = .ok v) :
    s.Announces a ↔ ∃ ms, membersOf v = some ms ∧ IsHeader ms a := by
  rw [← readHeader_eq_ok_iff document, Announces]
  constructor
  · rintro ⟨bs', decoded', announced⟩
    cases decoded.symm.trans decoded'
    exact announced
  · exact fun announced => ⟨bs, decoded, announced⟩

theorem carries_iff_written {s : Segments} {claims : Claims} :
    s.Carries claims ↔ ∃ bs written, Base64.decode Base64.urlSafe s.payload = .ok bs ∧
      Json.runScan (Json.scanValue (Json.readFuel bs) Json.depthLimit) bs = .ok (.obj written) ∧
      Claims.Valid written ∧ (Json.obj written).merged = .obj claims := by
  simp only [Carries, ← Claims.read_eq_ok_iff, Claims.read_iff_written, exists_and_left]

end Segments

namespace Token

variable {k : Key} {token kind : String} {s : Segments} {claims : Claims}

/-! ### Documents in segments -/

theorem readSegment_eq_ok_iff {α : Type} {read : Bytes → Except Json.ReadError α}
    {segment : Bytes} {a : α} :
    readSegment read segment = .ok a ↔
      ∃ bs, Base64.decode Base64.urlSafe segment = .ok bs ∧ read bs = .ok a := by
  simp only [readSegment, Except.bind_eq_ok_iff, Except.mapError_eq_ok_iff]

theorem readSegment_header_iff {a : Algorithm} :
    readSegment readHeader s.header = .ok a ↔ s.Announces a :=
  readSegment_eq_ok_iff

theorem readSegment_claims_iff :
    readSegment Claims.read s.payload = .ok claims ↔ s.Carries claims := by
  simp only [readSegment_eq_ok_iff, Claims.read_eq_ok_iff, Segments.Carries]

theorem fails_readSegment_iff {α : Type} {read : Bytes → Except Json.ReadError α}
    {segment : Bytes} :
    Fails ((readSegment read segment).mapError .ofDecodeError) kind ↔
      (¬ ∃ a, readSegment read segment = .ok a) ∧ kind = "malformed" := by
  simp only [readSegment_eq_ok_iff]
  unfold readSegment
  rw [Except.mapError_bind, fails_bind_iff, Except.mapError_mapError,
    fails_mapError_iff fun _ => rfl]
  simp only [Except.mapError_mapError, Except.mapError_eq_ok_iff,
    fails_mapError_iff (f := .ofDecodeError ∘ .json) fun _ => rfl]
  cases Base64.decode Base64.urlSafe segment <;> simp

end Token

/-! ### Errors -/

/-- Of an error that is not about the signature, the whole text is told. -/
theorem CredentialFault.message_of_ofDecodeError {e : DecodeError} {why : Malformation}
    (h : ofDecodeError e = .malformed why) : why.message = e.message := by
  cases e <;> cases h <;> rfl

/-! ### The validation of verifiers -/

namespace Verifier

variable (v : Verifier) (clock : Nat)

theorem decode_validation (token : Bytes) :
    decode v.key v.validation clock token =
      (Segments.ofEnd? token).elim (.error .invalidToken) fun s =>
        checkSignature v.key v.validation s >>= fun _ => readSegment Claims.read s.payload := by
  have asked : v.validation.algorithms = [v.key.algorithm] := rfl
  unfold decode
  rw [asked, if_neg (by simp), if_neg (by simp)]
  cases Segments.ofEnd? token with
  | none => rfl
  | some s =>
    dsimp only [Option.elim]
    cases checkSignature v.key v.validation s with
    | error e => rfl
    | ok _ => cases readSegment Claims.read s.payload <;> rfl

/-- No time makes a decoder refuse what a verifier has it decode. -/
theorem decode_of_clocks (other : Nat) (token : Bytes) :
    decode v.key v.validation clock token = decode v.key v.validation other token := by
  rw [decode_validation, decode_validation]

end Verifier
end CallGuard
