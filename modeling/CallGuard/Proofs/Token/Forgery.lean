import CallGuard.Proofs.Token.Signature

/-!
How tokens are answered that the key did not sign. The answer is made from the header and the last
part alone: neither the payload nor anything of the verifier but its key has a say in it.
-/
namespace CallGuard

open Crypto Token

namespace Segments

/-- The header announces the key's algorithm, and the last part is a signature of the key for the
other two. -/
def SignedBy (s : Segments) (k : Key) : Prop :=
  s.Announces k.algorithm ∧ k.Signs s.message s.signature

end Segments

namespace Key

/-- What keeps a text from being a signature of anything. That of a secret is not even decoded. -/
def illegible? : Key → Bytes → Option Base64.Fault
  | hs256 _ _, _ => none
  | rs256 _, signature =>
    match Base64.decode Base64.urlSafe signature with
    | .ok _ => none
    | .error fault => some fault

/-- The fault of a token that the key did not sign. -/
def refusal (k : Key) (header signature : Bytes) : CredentialFault :=
  match readSegment readHeader header with
  | .error e => .ofDecodeError e
  | .ok a =>
    if a = k.algorithm then
      (k.illegible? signature).elim .signatureInvalid (.malformed ∘ .base64)
    else .signatureInvalid

variable {k : Key} {message signature : Bytes}

theorem accepts_of_illegible {fault : Base64.Fault} (h : k.illegible? signature = some fault) :
    k.accepts message signature = .error fault := by
  cases k with
  | hs256 secret nonempty => cases h
  | rs256 key =>
    cases decoded : Base64.decode Base64.urlSafe signature with
    | ok bs => simp [illegible?, decoded] at h
    | error found =>
      obtain rfl : found = fault := by simpa [illegible?, decoded] using h
      simp [accepts, decoded, bind, Except.bind]

theorem reads_of_legible (h : k.illegible? signature = none) : k.Reads signature := by
  cases k with
  | hs256 secret nonempty => trivial
  | rs256 key =>
    cases decoded : Base64.decode Base64.urlSafe signature with
    | ok bs => exact ⟨bs, decoded⟩
    | error fault => simp [illegible?, decoded] at h

theorem accepts_of_unsigned (legible : k.illegible? signature = none)
    (unsigned : ¬ k.Signs message signature) : k.accepts message signature = .ok false :=
  accepts_eq_ok_iff.mpr ⟨reads_of_legible legible, by simp [unsigned]⟩

end Key

namespace Verifier

variable {v : Verifier} {s : Segments} {token : String}

theorem checkSignature_of_unsigned (unsigned : ¬ s.SignedBy v.key) :
    v.checkSignature s = .error (v.key.refusal s.header s.signature) := by
  rw [checkSignature_eq, Key.refusal]
  cases announced : readSegment readHeader s.header with
  | error e => rfl
  | ok a =>
    rw [Except.bind_of_ok (Except.mapError_eq_ok_iff.mpr rfl)]
    dsimp only
    by_cases same : a = v.key.algorithm
    · subst same
      rw [if_pos rfl, if_pos rfl]
      have unsigned : ¬ v.key.Signs s.message s.signature := fun signs =>
        unsigned ⟨readSegment_header_iff.mp announced, signs⟩
      cases text : v.key.illegible? s.signature with
      | none => rw [Key.accepts_of_unsigned text unsigned]; rfl
      | some why => rw [Key.accepts_of_illegible text]; rfl
    · -- Under another algorithm than the key's, the signature is not looked at.
      rw [if_neg same, if_neg same]

theorem verifyAt_of_unsigned (splits : s.Splits token) (unsigned : ¬ s.SignedBy v.key)
    (now : Int) : v.verifyAt token now = .error (v.key.refusal s.header s.signature) := by
  have refused : v.claims token = .error (v.key.refusal s.header s.signature) := by
    rw [claims_of_splits splits, Except.bind_of_error (checkSignature_of_unsigned unsigned)]
  rw [verifyAt, Except.bind_of_error refused]

/-- Two tokens that differ in their payloads only, neither signed with the key, are refused with one
fault, and that is the fault that every verifier of the key has for them at every time. -/
theorem unsigned_payloads_never_count (k : Key) {s t : Segments} {token other : String}
    (splits : s.Splits token) (splits_other : t.Splits other) (header : t.header = s.header)
    (signature : t.signature = s.signature) (unsigned : ¬ s.SignedBy k)
    (unsigned_other : ¬ t.SignedBy k) (v : Verifier) (keyed : v.key = k) (now : Int) :
    v.verifyAt token now = .error (k.refusal s.header s.signature) ∧
      v.verifyAt other now = .error (k.refusal s.header s.signature) := by
  subst keyed
  have refused := verifyAt_of_unsigned splits_other unsigned_other now
  rw [header, signature] at refused
  exact ⟨verifyAt_of_unsigned splits unsigned now, refused⟩

namespace Sample

def secret : Key := .hs256 [7] (by decide)

def parts (payload : String) : Segments :=
  ⟨Bytes.ofString "eyJhbGciOiJIUzI1NiJ9", Bytes.ofString payload, Bytes.ofString "AAAA"⟩

/-- A token with the claims of a caller and a signature of nothing. -/
def forged : String := "eyJhbGciOiJIUzI1NiJ9.eyJpc3MiOiJpIiwic3ViIjoidSIsImV4cCI6OX0.AAAA"

/-- The same, with a payload that does not even decode. -/
def gibberish : String := "eyJhbGciOiJIUzI1NiJ9.?.AAAA"

end Sample

open Sample in
theorem sample_payload_never_counts :
    ¬ (parts "eyJpc3MiOiJpIiwic3ViIjoidSIsImV4cCI6OX0").SignedBy secret ∧
      ¬ (parts "?").SignedBy secret ∧
      ∀ now, (Verifier.mk "i" secret .default true).verifyAt forged now = .error .signatureInvalid ∧
        (Verifier.mk "i" secret .default true).verifyAt gibberish now =
          .error .signatureInvalid := by
  have splits : (parts "eyJpc3MiOiJpIiwic3ViIjoidSIsImV4cCI6OX0").Splits forged :=
    Segments.ofToken?_eq_some_iff.mp rfl
  have splits_other : (parts "?").Splits gibberish := Segments.ofToken?_eq_some_iff.mp rfl
  have unsigned : ¬ (parts "eyJpc3MiOiJpIiwic3ViIjoidSIsImV4cCI6OX0").SignedBy secret := by
    rintro ⟨-, signs⟩
    revert signs
    change ¬ _ = _
    decide +kernel
  have unsigned_other : ¬ (parts "?").SignedBy secret := by
    rintro ⟨-, signs⟩
    revert signs
    change ¬ _ = _
    decide +kernel
  have refusal : secret.refusal (parts "?").header (parts "?").signature = .signatureInvalid := by
    decide +kernel
  refine ⟨unsigned, unsigned_other, fun now => ?_⟩
  rw [← refusal]
  exact unsigned_payloads_never_count secret splits splits_other rfl rfl unsigned unsigned_other
    ⟨"i", secret, .default, true⟩ rfl now

end Verifier
end CallGuard
