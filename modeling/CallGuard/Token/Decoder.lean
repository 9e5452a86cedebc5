import CallGuard.Text.Pieces
import CallGuard.Token.Key
import CallGuard.Token.Payload

/-!
Decoding signed tokens. A decoder checks the signature, and then such claims as its validation asks
for, by a clock of its own.
-/
namespace CallGuard

open Crypto Token

namespace Token

/-- Why a token is not decoded. -/
inductive DecodeError where
  | invalidToken
  | invalidSignature
  | invalidEcdsaKey
  | invalidRsaKey (reason : String)
  | rsaFailedSigning
  | invalidAlgorithmName
  | invalidKeyFormat
  | missingRequiredClaim (name : String)
  | expiredSignature
  | invalidIssuer
  | invalidAudience
  | invalidSubject
  | immatureSignature
  | invalidAlgorithm
  | missingAlgorithm
  | base64 (fault : Base64.Fault)
  | json (error : Json.ReadError)
  | utf8 (reason : String)
  | crypto (reason : String)
  deriving DecidableEq, Repr

def DecodeError.message : DecodeError → String
  | invalidToken => "InvalidToken"
  | invalidSignature => "InvalidSignature"
  | invalidEcdsaKey => "InvalidEcdsaKey"
  | invalidRsaKey reason => "RSA key invalid: " ++ reason
  | rsaFailedSigning => "RsaFailedSigning"
  | invalidAlgorithmName => "InvalidAlgorithmName"
  | invalidKeyFormat => "InvalidKeyFormat"
  | missingRequiredClaim name => "Missing required claim: " ++ name
  | expiredSignature => "ExpiredSignature"
  | invalidIssuer => "InvalidIssuer"
  | invalidAudience => "InvalidAudience"
  | invalidSubject => "InvalidSubject"
  | immatureSignature => "ImmatureSignature"
  | invalidAlgorithm => "InvalidAlgorithm"
  | missingAlgorithm => "MissingAlgorithm"
  | base64 fault => "Base64 error: " ++ fault.message
  | json error => "JSON error: " ++ error.message
  | utf8 reason => "UTF-8 error: " ++ reason
  | crypto reason => "Crypto error: " ++ reason

end Token

/-- The three parts of a token. -/
structure Segments where
  header : Bytes
  payload : Bytes
  signature : Bytes

namespace Segments

/-- The parts of a token that has three of them, none of them empty. -/
def ofToken? (token : String) : Option Segments :=
  match Text.pieces Ascii.dot (Bytes.ofString token) with
  | [header, payload, signature] =>
    if header.isEmpty || payload.isEmpty || signature.isEmpty then none
    else some ⟨header, payload, signature⟩
  | _ => none

/-- The parts of a token as the last two dots make them. -/
def ofEnd? (token : Bytes) : Option Segments := do
  let (message, signature) ← Text.cutLast? Ascii.dot token
  let (header, payload) ← Text.cutLast? Ascii.dot message
  return ⟨header, payload, signature⟩

/-- What is signed. -/
def message (s : Segments) : Bytes := s.header ++ Ascii.dot :: s.payload

end Segments

namespace Token

/-! ### What is asked of claims -/

namespace Claims

/-- The time of a claim as a decoder reads it: the nearest number of 64 bits without a sign. -/
def stamp? (claims : Claims) (name : String) : Option Nat :=
  match claims.get? name with
  | some (.int n) => if 0 ≤ n then some n.toNat else none
  | some (.float x) =>
    if x.isZero || !x.negative && x.ceil < 0x10000000000000000 then some x.roundAway.toNat else none
  | _ => none

def isText : Json → Bool
  | .str _ => true
  | _ => false

/-- A text or a list of texts. -/
def isAudience : Json → Bool
  | .arr items => items.all isText
  | v => isText v

/-- The claim is there, as what it has to be. A claim without a registered name may be missing. -/
def isPresent (claims : Claims) (name : String) : Bool :=
  if isTime name then (claims.stamp? name).isSome
  else if name == "sub" then (claims.get? name).any isText
  else if registered.contains name then (claims.get? name).any isAudience
  else true

end Claims

/-- What a decoder asks of a token: its algorithm, and what must be so of its claims. -/
structure Validation where
  algorithms : List Algorithm
  /-- The claims that must be there. -/
  required : List String
  /-- By how many seconds clocks may differ. -/
  leeway : Nat
  expiry : Bool
  start : Bool
  /-- Tokens that are for somebody are refused. -/
  audience : Bool

namespace Validation

/-- What a decoder asks if it is told no more than the algorithm. -/
def ofAlgorithm (a : Algorithm) : Validation := ⟨[a], ["exp"], 60, true, false, true⟩

/-- The first of the checks that the claims do not pass at a time. -/
def claimFault? (v : Validation) (claims : Claims) (clock : Nat) : Option DecodeError :=
  match v.required.find? (!claims.isPresent ·) with
  | some name => some (.missingRequiredClaim name)
  | none =>
    if v.expiry && (claims.stamp? "exp").any (· + v.leeway < clock) then some .expiredSignature
    else if v.start && (claims.stamp? "nbf").any (clock + v.leeway < ·) then
      some .immatureSignature
    else if v.audience && (claims.get? "aud").any Claims.isAudience then some .invalidAudience
    else none

end Validation

/-! ### Decoding -/

/-- The text of a segment read as a document. -/
def readSegment {α : Type} (read : Bytes → Except Json.ReadError α) (segment : Bytes) :
    Except DecodeError α := do
  let bs ← (Base64.decode Base64.urlSafe segment).mapError .base64
  (read bs).mapError .json

/-- The header announces an algorithm that is asked for, and the key accepts the signature. -/
def checkSignature (k : Key) (v : Validation) (s : Segments) : Except DecodeError Unit := do
  let algorithm ← readSegment readHeader s.header
  if !v.algorithms.contains algorithm then throw .invalidAlgorithm
  let ok ← (k.accepts s.message s.signature).mapError .base64
  if ok then return () else throw .invalidSignature

/-- The claims of a token. The key must be one for each of the algorithms that are asked for. -/
def decode (k : Key) (v : Validation) (clock : Nat) (token : Bytes) : Except DecodeError Claims :=
  if v.algorithms.isEmpty then .error .missingAlgorithm
  else if v.algorithms.any (· != k.algorithm) then .error .invalidAlgorithm
  else
    match Segments.ofEnd? token with
    | none => .error .invalidToken
    | some s => do
      checkSignature k v s
      let claims ← readSegment Claims.read s.payload
      (v.claimFault? claims clock).elim (.ok claims) .error

end Token
end CallGuard
