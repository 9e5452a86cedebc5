import CallGuard.Token.Decoder
import CallGuard.Token.Identity

/-!
Verifying bearer tokens. Nothing of a token's payload is read before its signature has been checked,
with the one key and algorithm of the verifier, whatever the token announces.
-/
namespace CallGuard

open Token

/-- The fault that a decoder's error amounts to. What is wrong with the algorithm, the key or the
signature is never told apart. -/
def CredentialFault.ofDecodeError : DecodeError → CredentialFault
  | .invalidSignature | .invalidAlgorithm | .invalidKeyFormat | .invalidRsaKey _
  | .invalidEcdsaKey | .crypto _ => .signatureInvalid
  | .base64 fault => .malformed (.base64 fault)
  | .json error => .malformed (.json error)
  | e => .malformed (.other e.message)

structure Verifier where
  issuer : String
  key : Key
  mapping : ClaimMapping
  /-- Tokens from the future are refused. -/
  enforceIssuedAt : Bool

namespace Verifier

/-- A verifier for an issuer with a name. -/
def ofKey (issuer : String) (key : Key) : Except ConfigError Verifier :=
  if Text.isBlankText issuer then .error .emptyIssuer
  else .ok ⟨issuer, key, .default, false⟩

/-- The decoder has to check the signature only: each check of a claim is made here. -/
def validation (v : Verifier) : Validation :=
  { Validation.ofAlgorithm v.key.algorithm with
    expiry := false
    start := false
    audience := false
    required := []
    leeway := 0 }

/-- The claims of a token whose signature is valid. The decoder never asks its clock, which may as
well stand at zero. -/
def claims (v : Verifier) (token : String) : Except CredentialFault Claims :=
  match Segments.ofToken? token with
  | none => .error (.malformed .segments)
  | some _ => (decode v.key v.validation 0 (Bytes.ofString token)).mapError .ofDecodeError

/-- An issuer as it is reported. -/
def issuerText : Json → String
  | .str s => s
  | v => v.compact

def checkIssuer (v : Verifier) (claims : Claims) : Except CredentialFault Unit :=
  let actual := claims.get? "iss"
  if actual.bind Json.str? = some v.issuer then .ok ()
  else .error (.issuerMismatch v.issuer (actual.map issuerText))

/-- The token has an end, and it is still ahead. -/
def checkExpiry (claims : Claims) (now : Int) : Except CredentialFault Unit := do
  match ← (claims.time "exp").mapError .malformed with
  | none => throw (.malformed .missingExpiry)
  | some t => if t ≤ now then throw (.expired t now) else return ()

/-- The later of two times that may be missing. -/
def later : Option Int → Option Int → Option Int
  | some a, some b => some (max a b)
  | some a, none => some a
  | none, b => b

/-- Neither the time of issue nor that of first use is ahead, if the verifier asks. -/
def checkStart (v : Verifier) (claims : Claims) (now : Int) : Except CredentialFault Unit :=
  if !v.enforceIssuedAt then .ok ()
  else do
    let issued ← (claims.time "iat").mapError .malformed
    let notBefore ← (claims.time "nbf").mapError .malformed
    match later issued notBefore with
    | some t => if now < t then throw (.notYetValid t now) else return ()
    | none => return ()

/-- The caller that a token identifies at a time, in seconds. The first failing check counts. -/
def verifyAt (v : Verifier) (token : String) (now : Int) : Except CredentialFault Caller := do
  let claims ← v.claims token
  v.checkIssuer claims
  checkExpiry claims now
  v.checkStart claims now
  (v.mapping.caller claims).mapError .malformed

end Verifier
end CallGuard
