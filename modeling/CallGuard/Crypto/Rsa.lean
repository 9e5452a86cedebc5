import CallGuard.Crypto.Der
import CallGuard.Crypto.Pem
import CallGuard.Crypto.Sha256

/-! RSA signatures over SHA-256, and the key texts they are checked with. -/
namespace CallGuard.Crypto.Rsa

/-- A modulus and an exponent, as bytes without zeros in front. -/
structure PublicKey where
  modulus : Bytes
  exponent : Bytes
  deriving DecidableEq, Repr

/-- The power of a number modulo another, by repeated squaring. -/
def powMod (base : Nat) (n : Nat) : Nat → Nat → Nat
  | 0, _ => 1 % n
  | fuel + 1, e =>
    if e = 0 then 1 % n
    else
      let half := powMod (base * base % n) n fuel (e / 2)
      if e % 2 = 1 then half * base % n else half

/-- The modulus is odd and has 2048 to 8192 bits, of which the first byte's count in full for the
lower bound; the exponent is odd, at least three, and of at most 33 bits. -/
def PublicKey.usable (k : PublicKey) : Bool :=
  let n := Bytes.toNat k.modulus
  let e := Bytes.toNat k.exponent
  n % 2 == 1 && 256 ≤ k.modulus.length && n < 1 <<< 8192 && e % 2 == 1 && 3 ≤ e && e < 1 <<< 33

def PublicKey.ofDer? (bs : Bytes) : Option PublicKey := do
  let (modulus, exponent) ← Der.positivePair? bs
  let key : PublicKey := ⟨modulus, exponent⟩
  guard key.usable
  return key

/-- The name of the hash as it stands before it in a signature. -/
def sha256Name : Bytes :=
  [0x30, 0x31, 0x30, 0x0d, 0x06, 0x09, 0x60, 0x86, 0x48, 0x01, 0x65, 0x03, 0x04, 0x02, 0x01, 0x05,
    0x00, 0x04, 0x20]

/-- The hash filled up to a number of bytes. -/
def encoded (size : Nat) (message : Bytes) : Bytes :=
  let digest := sha256Name ++ Sha256.hash message
  0 :: 1 :: List.replicate (size - digest.length - 3) 0xFF ++ 0 :: digest

/-- The signature is as long as the modulus, below it, and its power is the message's hash. -/
def PublicKey.verify (k : PublicKey) (message signature : Bytes) : Bool :=
  let n := Bytes.toNat k.modulus
  let s := Bytes.toNat signature
  signature.length == k.modulus.length && s < n &&
    powMod s n 34 (Bytes.toNat k.exponent) == Bytes.toNat (encoded k.modulus.length message)

/-! ### Key texts -/

inductive Kind where
  | rsa
  | other
  deriving DecidableEq, Repr

/-- What kind of key the identifier announces: RSA, or one of two kinds of elliptic curves. -/
def kindOf? : Der.Block → Option Kind
  | .objectId arcs =>
    if arcs = [1, 2, 840, 113549, 1, 1, 1] then some .rsa
    else if arcs = [1, 2, 840, 10045, 2, 1] ∨ arcs = [1, 3, 101, 112] then some .other
    else none
  | _ => none

def stringOf? : Der.Block → Option Bytes
  | .bitString bs => some bs
  | .octetString bs => some bs
  | _ => none

inductive TextFault where
  | notRsa
  | noKeyBits
  deriving DecidableEq, Repr

/-- The encoded key in a key text. A bare RSA key is taken as it stands; in a wrapping, the first
identifier of a kind must be RSA's, and the first string of bits or bytes is the key. -/
def keyBytes (text : Bytes) : Except TextFault Bytes :=
  match Pem.parse? text with
  | none => .error .notRsa
  | some pem =>
    match Der.parse? pem.content with
    | none => .error .notRsa
    | some blocks =>
      if pem.label = "RSA PUBLIC KEY" ∨ pem.label = "RSA PRIVATE KEY" then .ok pem.content
      else if pem.label = "PUBLIC KEY" ∨ pem.label = "PRIVATE KEY" ∨ pem.label = "CERTIFICATE" then
        match Der.findIn? kindOf? blocks with
        | some .rsa => (Der.findIn? stringOf? blocks).elim (.error .noKeyBits) .ok
        | _ => .error .notRsa
      else .error .notRsa

end CallGuard.Crypto.Rsa
