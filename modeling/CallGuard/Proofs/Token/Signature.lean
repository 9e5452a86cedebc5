import CallGuard.Proofs.Crypto.Rsa
import CallGuard.Proofs.Token.Decoder

/-!
Which tokens are signed and carry claims, and what is found wrong first with the others: with their
parts, then with the signature, and then with the payload.
-/
namespace CallGuard

open Crypto Token

/-! ### The signature -/

namespace Key

/-- The signature is a text that the key's algorithm can read. -/
def Reads : Key → Bytes → Prop
  | hs256 _ _, _ => True
  | rs256 _, signature => ∃ bs, Base64.decode Base64.urlSafe signature = .ok bs

/-- The signature is the key's for the message. That of a secret is compared as text. -/
def Signs : Key → Bytes → Bytes → Prop
  | hs256 secret _, message, signature =>
    signature = Base64.encode Base64.urlSafe (hmacSha256 secret message)
  | rs256 key, message, signature =>
    ∃ bs k, Base64.decode Base64.urlSafe signature = .ok bs ∧ Rsa.PublicKey.ofDer? key = some k ∧
      k.verify message bs = true

/-- An RSA signature is one whose power is the filled-up hash of the message. -/
theorem signs_rs256_iff {key message signature : Bytes} :
    (rs256 key).Signs message signature ↔ ∃ (bs : Bytes) (k : Rsa.PublicKey),
      Base64.decode Base64.urlSafe signature = .ok bs ∧
      Der.positivePair? key = some (k.modulus, k.exponent) ∧ k.usable = true ∧
      bs.length = k.modulus.length ∧ Bytes.toNat bs < Bytes.toNat k.modulus ∧
      Bytes.toNat bs ^ Bytes.toNat k.exponent % Bytes.toNat k.modulus =
        Bytes.toNat (Rsa.encoded k.modulus.length message) := by
  unfold Signs
  refine exists_congr fun bs => exists_congr fun k => and_congr_right fun _ => ?_
  rw [Rsa.PublicKey.ofDer?_eq_some_iff, and_assoc]
  exact and_congr_right fun _ => and_congr_right Rsa.PublicKey.verify_iff

theorem accepts_eq_ok_iff {k : Key} {message signature : Bytes} {ok : Bool} :
    k.accepts message signature = .ok ok ↔
      k.Reads signature ∧ (ok = true ↔ k.Signs message signature) := by
  cases k with
  | hs256 secret nonempty =>
    cases ok <;> simp [accepts, Reads, Signs, eq_comm (a := signature)]
  | rs256 key =>
    cases decoded : Base64.decode Base64.urlSafe signature with
    | error fault => simp [accepts, Reads, decoded, bind, Except.bind]
    | ok bs =>
      cases ok <;>
        simp [accepts, Reads, Signs, decoded, bind, Except.bind, pure, Except.pure,
          Option.any_eq_true, Option.any_eq_false]

theorem reads_iff {k : Key} {message signature : Bytes} :
    k.Reads signature ↔ ∃ ok, k.accepts message signature = .ok ok := by
  simp only [accepts_eq_ok_iff]
  constructor
  · intro reads
    by_cases signs : k.Signs message signature
    · exact ⟨true, reads, by simp [signs]⟩
    · exact ⟨false, reads, by simp [signs]⟩
  · rintro ⟨_, reads, -⟩
    exact reads

theorem reads_of_signs {k : Key} {message signature : Bytes} (h : k.Signs message signature) :
    k.Reads signature := by
  cases k with
  | hs256 secret nonempty => trivial
  | rs256 key =>
    obtain ⟨bs, _, decoded, -⟩ := h
    exact ⟨bs, decoded⟩

end Key

namespace Verifier

variable {v : Verifier} {token kind : String} {s : Segments} {claims : Claims}

/-- The check of the signature, with the fault that the verifier finds. -/
def checkSignature (v : Verifier) (s : Segments) : Except CredentialFault Unit :=
  (Token.checkSignature v.key v.validation s).mapError .ofDecodeError

theorem checkSignature_eq (v : Verifier) (s : Segments) :
    v.checkSignature s = ((readSegment readHeader s.header).mapError .ofDecodeError >>= fun a =>
      if a = v.key.algorithm then
        (v.key.accepts s.message s.signature).mapError (.malformed ∘ .base64) >>= fun ok =>
          if ok then .ok () else .error .signatureInvalid
      else .error .signatureInvalid) := by
  have asked : v.validation.algorithms = [v.key.algorithm] := rfl
  unfold checkSignature Token.checkSignature
  rw [asked, Except.mapError_bind]
  refine congrArg _ (funext fun a => ?_)
  by_cases same : a = v.key.algorithm
  · subst same
    rw [if_neg (by simp), if_pos rfl]
    cases v.key.accepts s.message s.signature with
    | error fault => rfl
    | ok ok => cases ok <;> rfl
  · rw [if_pos (by simpa using same), if_neg same]
    rfl

theorem checkSignature_eq_ok_iff :
    v.checkSignature s = .ok () ↔
      s.Announces v.key.algorithm ∧ v.key.Signs s.message s.signature := by
  rw [checkSignature_eq, Except.bind_eq_ok_iff]
  simp only [Except.mapError_eq_ok_iff, readSegment_header_iff]
  constructor
  · rintro ⟨a, announced, h⟩
    split at h
    · rename_i same
      obtain ⟨ok, accepted, h⟩ := Except.bind_eq_ok_iff.mp h
      cases ok with
      | false => cases h
      | true =>
        rw [Except.mapError_eq_ok_iff, Key.accepts_eq_ok_iff] at accepted
        exact ⟨same ▸ announced, accepted.2.mp rfl⟩
    · cases h
  · rintro ⟨announced, signs⟩
    refine ⟨v.key.algorithm, announced, ?_⟩
    rw [if_pos rfl]
    refine Except.bind_eq_ok_iff.mpr ⟨true, ?_, rfl⟩
    rw [Except.mapError_eq_ok_iff, Key.accepts_eq_ok_iff]
    exact ⟨Key.reads_of_signs signs, by simp [signs]⟩

theorem fails_accepts_iff {k : Key} {message signature : Bytes} :
    Fails ((k.accepts message signature).mapError (.malformed ∘ .base64) >>= fun ok =>
        if ok then .ok () else .error .signatureInvalid : Except CredentialFault Unit) kind ↔
      ¬ k.Reads signature ∧ kind = "malformed" ∨
        k.Reads signature ∧ ¬ k.Signs message signature ∧ kind = "signature_invalid" := by
  rw [fails_bind_iff, fails_mapError_iff fun _ => rfl, ← Key.reads_iff]
  refine or_congr_right ?_
  simp only [Except.mapError_eq_ok_iff, Key.accepts_eq_ok_iff, Bool.exists_bool]
  simp [CredentialFault.kind, and_assoc]

theorem fails_checkSignature_iff :
    Fails (v.checkSignature s) kind ↔
      (¬ ∃ a, s.Announces a) ∧ kind = "malformed" ∨
      (∃ a, s.Announces a ∧ a ≠ v.key.algorithm) ∧ kind = "signature_invalid" ∨
      s.Announces v.key.algorithm ∧ (¬ v.key.Reads s.signature ∧ kind = "malformed" ∨
        v.key.Reads s.signature ∧ ¬ v.key.Signs s.message s.signature ∧
          kind = "signature_invalid") := by
  rw [checkSignature_eq, fails_bind_iff, fails_readSegment_iff]
  simp only [Except.mapError_eq_ok_iff, readSegment_header_iff]
  refine or_congr_right ?_
  constructor
  · rintro ⟨a, announced, failed⟩
    split at failed
    · rename_i same
      exact .inr ⟨same ▸ announced, fails_accepts_iff.mp failed⟩
    · rename_i other
      exact .inl ⟨⟨a, announced, other⟩, fails_error_iff.mp failed⟩
  · rintro (⟨⟨a, announced, other⟩, rfl⟩ | ⟨announced, failed⟩)
    · refine ⟨a, announced, ?_⟩
      rw [if_neg other]
      exact fails_error_iff.mpr rfl
    · refine ⟨v.key.algorithm, announced, ?_⟩
      rw [if_pos rfl]
      exact fails_accepts_iff.mpr failed

/-! ### The payload -/

/-- The token has three parts, of which the header announces the verifier's algorithm and the last
is a signature of its key for the others. -/
def Signed (v : Verifier) (token : String) (s : Segments) : Prop :=
  s.Splits token ∧ s.Announces v.key.algorithm ∧ v.key.Signs s.message s.signature

/-- The token is signed for the verifier and has the claims. -/
def Vouches (v : Verifier) (token : String) (claims : Claims) : Prop :=
  ∃ s, v.Signed token s ∧ s.Carries claims

theorem claims_of_splits (splits : s.Splits token) :
    v.claims token = (v.checkSignature s >>= fun _ =>
      (readSegment Claims.read s.payload).mapError .ofDecodeError) := by
  rw [Verifier.claims, Segments.ofToken?_eq_some_iff.mpr splits, decode_validation,
    Segments.ofEnd?_of_splits splits]
  exact Except.mapError_bind

theorem claims_of_not_splits (h : ¬ ∃ s : Segments, s.Splits token) :
    v.claims token = .error (.malformed .segments) := by
  have none_found : Segments.ofToken? token = none := by
    rw [Option.eq_none_iff_forall_ne_some]
    exact fun s found => h ⟨s, Segments.ofToken?_eq_some_iff.mp found⟩
  rw [Verifier.claims, none_found]

theorem claims_eq_ok_iff :
    v.claims token = .ok claims ↔ v.Vouches token claims := by
  constructor
  · intro h
    by_cases splits : ∃ s : Segments, s.Splits token
    · obtain ⟨s, splits⟩ := splits
      rw [claims_of_splits splits] at h
      obtain ⟨⟨⟩, signed, read⟩ := Except.bind_eq_ok_iff.mp h
      rw [Except.mapError_eq_ok_iff] at read
      exact ⟨s, ⟨splits, checkSignature_eq_ok_iff.mp signed⟩, readSegment_claims_iff.mp read⟩
    · rw [claims_of_not_splits splits] at h
      cases h
  · rintro ⟨s, ⟨splits, signed⟩, carried⟩
    rw [claims_of_splits splits]
    refine Except.bind_eq_ok_iff.mpr ⟨(), checkSignature_eq_ok_iff.mpr signed, ?_⟩
    exact Except.mapError_eq_ok_iff.mpr (readSegment_claims_iff.mpr carried)

theorem fails_claims_iff (splits : s.Splits token) :
    Fails (v.claims token) kind ↔
      Fails (v.checkSignature s) kind ∨
        v.Signed token s ∧ (¬ ∃ claims, s.Carries claims) ∧ kind = "malformed" := by
  rw [claims_of_splits splits, fails_bind_iff, fails_readSegment_iff]
  simp only [readSegment_claims_iff, Signed, ← checkSignature_eq_ok_iff, splits, true_and]
  refine or_congr_right ⟨?_, fun ⟨signed, unread⟩ => ⟨(), signed, unread⟩⟩
  rintro ⟨⟨⟩, signed, unread⟩
  exact ⟨signed, unread⟩

end Verifier
end CallGuard
