import CallGuard.Json.Expect
import CallGuard.Json.Skip

/-! The header of a token: it announces the algorithm of the signature. -/
namespace CallGuard.Token

open Json

/-- What a header may announce, under its registered name. -/
inductive Algorithm where
  | hs256
  | hs384
  | hs512
  | es256
  | es384
  | rs256
  | rs384
  | rs512
  | ps256
  | ps384
  | ps512
  | edDsa
  deriving DecidableEq, Repr

namespace Algorithm

def all : List Algorithm :=
  [hs256, hs384, hs512, es256, es384, rs256, rs384, rs512, ps256, ps384, ps512, edDsa]

def name : Algorithm → String
  | hs256 => "HS256"
  | hs384 => "HS384"
  | hs512 => "HS512"
  | es256 => "ES256"
  | es384 => "ES384"
  | rs256 => "RS256"
  | rs384 => "RS384"
  | rs512 => "RS512"
  | ps256 => "PS256"
  | ps384 => "PS384"
  | ps512 => "PS512"
  | edDsa => "EdDSA"

/-- The algorithm that comes next in a document. -/
def scan (bs : Bytes) : Except Fault (Algorithm × Bytes) := do
  let (s, rest) ← expectName (all.map name) bs
  match all.find? (·.name == s) with
  | some a => return (a, rest)
  | none => unfitAt (.unknownVariant s (all.map name)) rest

end Algorithm

/-! ### Embedded keys

A header may carry a key. It is never used, but one that is no key spoils the header. -/

/-- The names of what a key may be for: the algorithms of signatures and those of encryption. -/
def keyAlgorithms : List String :=
  Algorithm.all.map Algorithm.name ++ ["RSA1_5", "RSA-OAEP", "RSA-OAEP-256"]

/-- What is wrong with a value that must be a text or null. -/
def textFault? : Json → Option Mismatch
  | .null | .str _ => none
  | v => some (.type v.found "a string")

/-- What is wrong with a value that must be a list of texts or null. -/
def textsFault? : Json → Option Mismatch
  | .null => none
  | .arr items => items.findSome? fun
    | .str _ => none
    | item => some (.type item.found "a string")
  | v => some (.type v.found "a sequence")

/-- What is wrong with a value that must be one of the names or null. A name may be the only key of
an object, with nothing as its value. -/
def nameFault? (names : List String) : Json → Option Mismatch
  | .null => none
  | .str s => unknown? s
  | .obj [(s, .null)] | .obj [(s, .obj [])] => unknown? s
  | .obj [(s, v)] => unknown? s <|> some (.type v.found "unit")
  | .obj _ => some (.value "map" "map with a single key")
  | v => some (.type v.found "string or map")
where
  unknown? (s : String) : Option Mismatch :=
    if names.contains s then none else some (.unknownVariant s names)

/-- The members that every kind of key may have. -/
def sharedNames : List String :=
  ["use", "key_ops", "alg", "kid", "x5u", "x5c", "x5t", "x5t#S256"]

/-- What is wrong with the value of such a member. -/
def sharedFault? (name : String) (v : Json) : Option Mismatch :=
  if ["key_ops", "x5c"].contains name then textsFault? v
  else if name = "alg" then nameFault? keyAlgorithms v
  else textFault? v

/-- What is wrong first among the shared members, each of which may stand there once. -/
def sharedFaults (seen : List String) : List (String × Json) → Option Mismatch
  | [] => none
  | (name, v) :: ms =>
    if !sharedNames.contains name then sharedFaults seen ms
    else if seen.contains name then some (.duplicateField name)
    else sharedFault? name v <|> sharedFaults (name :: seen) ms

/-- The value of the only member of the name. -/
def only? (name : String) (members : List (String × Json)) : Option Json :=
  match members.filter (·.1 == name) with
  | [(_, v)] => some v
  | _ => none

/-- A name, alone or as the only key of an object. -/
def word? : Json → Option String
  | .str s | .obj [(s, .null)] => some s
  | _ => none

/-- The kinds of key: what each is called, the texts it has, and whether these are on a curve. -/
def keyKinds : List (String × List String × Bool) :=
  [("EC", ["x", "y"], true), ("RSA", ["n", "e"], false), ("oct", ["k"], false),
    ("OKP", ["x"], true)]

def curves : List String := ["P-256", "P-384", "P-521", "Ed25519"]

/-- The members make up a key of some kind. -/
def isKey (members : List (String × Json)) : Bool :=
  keyKinds.any fun (kind, texts, onCurve) =>
    ((only? "kty" members).bind word?).any (· == kind) &&
      texts.all (fun n => ((only? n members).bind Json.str?).isSome) &&
      (!onCurve || ((only? "crv" members).bind word?).any curves.contains)

/-- What keeps the members from being a key. -/
def keyFault? (members : List (String × Json)) : Option Mismatch :=
  match sharedFaults [] members with
  | some m => some m
  | none =>
    if isKey members then none
    else some (.other "data did not match any variant of untagged enum AlgorithmParameters")

/-- A key, inside the brackets of the header. -/
def scanKey (bs : Bytes) : Except Fault (Unit × Bytes) :=
  match skipSpace bs with
  | Ascii.openBrace :: rest => do
    let (members, rest) ← scanMembers (readFuel bs) (depthLimit - 2) true rest
    (keyFault? members).elim (.ok ((), rest)) (unfitAt · rest)
  | bs => refuse "struct Jwk" bs

/-! ### The header -/

/-- The members a header knows, in their order as a list. -/
def headerNames : List String :=
  ["typ", "alg", "cty", "jku", "jwk", "kid", "x5u", "x5c", "x5t", "x5t#S256"]

/-- Reads the value of a member; only the algorithm is kept. -/
def scanMember (name : String) (bs : Bytes) : Except Fault (Option Algorithm × Bytes) :=
  if name = "alg" then do
    let (a, rest) ← Algorithm.scan bs
    return (some a, rest)
  else if name = "jwk" then do
    let (_, rest) ← expectOption scanKey bs
    return (none, rest)
  else if name = "x5c" then do
    let (_, rest) ← expectOption expectTexts bs
    return (none, rest)
  else if headerNames.contains name then do
    let (_, rest) ← expectOption (expectText "a string") bs
    return (none, rest)
  else do
    let (_, rest) ← skipValue bs
    return (none, rest)

/-- The algorithm that the members announced. -/
def announced (alg : Option Algorithm) (rest : Bytes) : Except Fault (Algorithm × Bytes) :=
  match alg with
  | some a => .ok (a, rest)
  | none => unfitAt (.missingField "alg") rest

/-- The members of an object, of which each known one may stand there once. -/
def headerMembers (seen : List String) (alg : Option Algorithm) :
    Nat → Bool → Bytes → Except Fault (Algorithm × Bytes)
  | 0, _, _ => faultAfter .endInObject []
  | fuel + 1, first, bs => do
    match ← nextKey first bs with
    | .close rest => announced alg rest
    | .member bs =>
      let (name, rest) ← scanString bs
      if seen.contains name then unfitWhole Ascii.closeBrace (.duplicateField name) rest
      else
        let bs ← scanColon rest
        let (found, rest) ← scanMember name bs
        let seen := if headerNames.contains name then name :: seen else seen
        headerMembers seen (found <|> alg) fuel false rest

/-- The members as a list, in their order and without a gap. -/
def headerItems (alg : Option Algorithm) : List String → Bool → Bytes →
    Except Fault (Algorithm × Bytes)
  | [], _, bs =>
    match skipSpace bs with
    | [] => faultAfter .endInList []
    | b :: rest =>
      if b = Ascii.closeBracket then announced alg rest
      else
        match skipSpace rest with
        | Ascii.closeBracket :: rest => faultAfter .trailingComma rest
        | rest => faultAt .trailingCharacters rest
  | name :: names, first, bs => do
    match ← nextItem first bs with
    | .close rest =>
      unfitAt (.length (headerNames.length - (name :: names).length)
        (Mismatch.elements "struct Header" headerNames.length)) rest
    | .member bs =>
      let (found, rest) ← scanMember name bs
      headerItems (found <|> alg) names false rest

def scanHeader (bs : Bytes) : Except Fault (Algorithm × Bytes) :=
  match skipSpace bs with
  | Ascii.openBrace :: rest => headerMembers [] none (bs.length + 1) true rest
  | Ascii.openBracket :: rest => headerItems none headerNames true rest
  | bs => refuse "struct Header" bs

/-- The algorithm that a header announces. -/
def readHeader (bs : Bytes) : Except ReadError Algorithm := runScan scanHeader bs

end CallGuard.Token
