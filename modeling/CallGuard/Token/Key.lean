import CallGuard.ConfigError
import CallGuard.Crypto.Base64
import CallGuard.Crypto.Rsa
import CallGuard.Token.Header

/-! Keys of verifiers. A key is for one algorithm, and accepts the signatures of that one only. -/
namespace CallGuard

open Crypto Token

/-- A key and with it the algorithm it is for. -/
inductive Key where
  /-- A shared secret, never empty. -/
  | hs256 (secret : Bytes) (nonempty : secret ≠ [])
  /-- An encoded RSA key. If it is not one, no signature is valid. -/
  | rs256 (key : Bytes)
  deriving DecidableEq

namespace Key

def algorithm : Key → Algorithm
  | hs256 _ _ => .hs256
  | rs256 _ => .rs256

def ofSecret (secret : Bytes) : Except ConfigError Key :=
  if h : secret = [] then .error (.invalidKey .emptySecret) else .ok (.hs256 secret h)

/-- The key in a key text. -/
def ofPem (text : Bytes) : Except ConfigError Key :=
  match Rsa.keyBytes text with
  | .ok bs => .ok (.rs256 bs)
  | .error .notRsa => .error (.invalidKey .notRsa)
  | .error .noKeyBits => .error (.invalidKey .noKeyBits)

/-- The text of the signature is valid for the message. A secret's signature is compared as text. -/
def accepts (k : Key) (message signature : Bytes) : Except Base64.Fault Bool :=
  match k with
  | hs256 secret _ => .ok (Base64.encode Base64.urlSafe (hmacSha256 secret message) == signature)
  | rs256 key => do
    let bs ← Base64.decode Base64.urlSafe signature
    return (Rsa.PublicKey.ofDer? key).any (·.verify message bs)

end Key
end CallGuard
