import CallGuard.Json.Expect
import CallGuard.Json.Skip

/-!
The claims of a token. They are read twice: as an object, and once more as claims whose registered
names may stand there only once.
-/
namespace CallGuard.Token

open Json

abbrev Claims := List (String × Json)

namespace Claims

def get? (claims : Claims) (name : String) : Option Json :=
  (claims.find? (·.1 == name)).map (·.2)

/-- An object. -/
def scan (bs : Bytes) : Except Fault (Claims × Bytes) :=
  match skipSpace bs with
  | Ascii.openBrace :: _ => do
    let (v, rest) ← scanValue (readFuel bs) depthLimit bs
    match v.merged with
    | .obj members => return (members, rest)
    | _ => return ([], rest)
  | bs => refuse "a map" bs

/-- The names that stand in a token once. -/
def registered : List String := ["exp", "nbf", "sub", "iss", "aud"]

/-- The claims that must be numbers. -/
def isTime (name : String) : Bool := name == "exp" || name == "nbf"

/-- The second bracket closes the first. -/
def isClose (b c : UInt8) : Bool :=
  c == if b = Ascii.openBracket then Ascii.closeBracket else Ascii.closeBrace

/-- A list or an object begins. -/
def isOpen (b : UInt8) : Bool := b == Ascii.openBracket || b == Ascii.openBrace

/-- Passes over the value of a claim. A list or an object where a number must be is given up after
its bracket, or after both if nothing is in it; one where a text must be, before its bracket. -/
def skipClaim (name : String) (bs : Bytes) : Except Fault (Unit × Bytes) :=
  match skipSpace bs with
  | [] => skipValue []
  | b :: rest =>
    if isTime name && isOpen b then
      match skipSpace rest with
      | [] => .ok ((), [])
      | c :: after => .ok ((), if isClose b c then after else c :: after)
    else if name == "sub" && isOpen b then .ok ((), b :: rest)
    else skipValue (b :: rest)

/-- Checks that no registered name stands there twice. What a claim was given up at is not what may
follow a claim. -/
def scanOnce (seen : List String) : Nat → Bool → Bytes → Except Fault (Unit × Bytes)
  | 0, _, _ => faultAfter .endInObject []
  | fuel + 1, first, bs => do
    match ← nextKey first bs with
    | .close rest => return ((), rest)
    | .member bs =>
      let (name, rest) ← scanString bs
      if seen.contains name then unfitWhole Ascii.closeBrace (.duplicateField name) rest
      else
        let bs ← scanColon rest
        let ((), rest) ← skipClaim name bs
        scanOnce (if registered.contains name then name :: seen else seen) fuel false rest

def scanValid (bs : Bytes) : Except Fault (Unit × Bytes) :=
  match skipSpace bs with
  | Ascii.openBrace :: rest => scanOnce [] (bs.length + 1) true rest
  | bs => refuse "struct ClaimsForValidation" bs

/-- The claims of a payload. -/
def read (bs : Bytes) : Except ReadError Claims := do
  let claims ← runScan scan bs
  runScan scanValid bs
  return claims

end Claims
end CallGuard.Token
