import CallGuard.Ascii
import CallGuard.Text.Utf8
import CallGuard.Decimal.Stepwise

/-!
The tokens of JSON, read from bytes. A scan gives what it read and the bytes that are left; a fault
gives its reason and the bytes that were left when it was found, so that its place can be counted.
-/
namespace CallGuard.Json

open Decimal (Binary64)
open Text (Utf8.start)

/-- Why a text is not a document. -/
inductive Reason where
  | endInList
  | endInObject
  | endInString
  | endInValue
  | expectedColon
  | expectedCommaOrBracket
  | expectedCommaOrBrace
  | expectedIdent
  | expectedValue
  | invalidEscape
  | invalidNumber
  | numberOutOfRange
  | invalidCodePoint
  | controlCharacter
  | keyNotString
  | loneSurrogate
  | trailingComma
  | trailingCharacters
  | endOfHexEscape
  | tooDeep
  /-- The document is well formed and says something else than its reader wants. -/
  | unfit (message : String)
  deriving DecidableEq, Repr

def Reason.text : Reason → String
  | endInList => "EOF while parsing a list"
  | endInObject => "EOF while parsing an object"
  | endInString => "EOF while parsing a string"
  | endInValue => "EOF while parsing a value"
  | expectedColon => "expected `:`"
  | expectedCommaOrBracket => "expected `,` or `]`"
  | expectedCommaOrBrace => "expected `,` or `\x7d`"
  | expectedIdent => "expected ident"
  | expectedValue => "expected value"
  | invalidEscape => "invalid escape"
  | invalidNumber => "invalid number"
  | numberOutOfRange => "number out of range"
  | invalidCodePoint => "invalid unicode code point"
  | controlCharacter => "control character (\\u0000-\\u001F) found while parsing a string"
  | keyNotString => "key must be a string"
  | loneSurrogate => "lone leading surrogate in hex escape"
  | trailingComma => "trailing comma"
  | trailingCharacters => "trailing characters"
  | endOfHexEscape => "unexpected end of hex escape"
  | tooDeep => "recursion limit exceeded"
  | unfit message => message

structure Fault where
  reason : Reason
  rest : Bytes
  deriving DecidableEq, Repr

/-- A fault at the last byte that was taken. -/
def faultAfter {α : Type} (reason : Reason) (rest : Bytes) : Except Fault (α × Bytes) :=
  .error ⟨reason, rest⟩

/-- A fault at the next byte, if there is one. -/
def faultAt {α : Type} (reason : Reason) (rest : Bytes) : Except Fault (α × Bytes) :=
  .error ⟨reason, rest.drop 1⟩

def skipSpace (bs : Bytes) : Bytes := bs.dropWhile Ascii.isSpace

/-- The rest of a word whose first letter has been seen. -/
def scanWord : Bytes → Bytes → Except Fault (Unit × Bytes)
  | [], rest => .ok ((), rest)
  | _ :: _, [] => faultAfter .endInValue []
  | w :: ws, b :: rest => if w = b then scanWord ws rest else faultAfter .expectedIdent rest

/-! ### Strings -/

/-- Four hexadecimal digits. -/
def scanHex : Bytes → Except Fault (Nat × Bytes)
  | a :: b :: c :: d :: rest =>
    match Bytes.hexDigit? a, Bytes.hexDigit? b, Bytes.hexDigit? c, Bytes.hexDigit? d with
    | some a, some b, some c, some d => .ok (((a * 16 + b) * 16 + c) * 16 + d, rest)
    | _, _, _, _ => faultAfter .invalidEscape rest
  | _ => faultAfter .endInString []

/-- One expected byte between the two halves of a surrogate pair. -/
def scanPairByte (b : UInt8) : Bytes → Except Fault (Unit × Bytes)
  | [] => faultAfter .endInString []
  | c :: rest => if c = b then .ok ((), rest) else faultAfter .endOfHexEscape rest

/-- A character given by its UTF-16 units. -/
def scanUnits (bs : Bytes) : Except Fault (Char × Bytes) := do
  let (hi, rest) ← scanHex bs
  if 0xDC00 ≤ hi ∧ hi ≤ 0xDFFF then faultAfter .loneSurrogate rest
  else if 0xD800 ≤ hi ∧ hi ≤ 0xDBFF then
    let ((), rest) ← scanPairByte Ascii.backslash rest
    let ((), rest) ← scanPairByte Ascii.lowerU rest
    let (lo, rest) ← scanHex rest
    if 0xDC00 ≤ lo ∧ lo ≤ 0xDFFF then
      .ok (Char.ofNat (0x10000 + (hi - 0xD800) * 0x400 + (lo - 0xDC00)), rest)
    else faultAfter .loneSurrogate rest
  else .ok (Char.ofNat hi, rest)

/-- What a backslash has made of the bytes after it. -/
def scanEscape : Bytes → Except Fault (Char × Bytes)
  | [] => faultAfter .endInString []
  | b :: rest =>
    if b = Ascii.quote then .ok ('"', rest)
    else if b = Ascii.backslash then .ok ('\\', rest)
    else if b = Ascii.slash then .ok ('/', rest)
    else if b = Ascii.lowerB then .ok ('\x08', rest)
    else if b = Ascii.lowerF then .ok ('\x0c', rest)
    else if b = Ascii.lowerN then .ok ('\n', rest)
    else if b = Ascii.lowerR then .ok ('\r', rest)
    else if b = Ascii.lowerT then .ok ('\t', rest)
    else if b = Ascii.lowerU then scanUnits rest
    else faultAfter .invalidEscape rest

/-- The bytes up to the closing quote, with the character of an escape in its place. -/
def scanQuoted : Nat → Bytes → Except Fault (Bytes × Bytes)
  | 0, _ => faultAfter .endInString []
  | _, [] => faultAfter .endInString []
  | fuel + 1, b :: rest =>
    if b = Ascii.quote then .ok ([], rest)
    else if b = Ascii.backslash then do
      let (c, rest) ← scanEscape rest
      let (more, rest) ← scanQuoted fuel rest
      return (String.utf8EncodeChar c ++ more, rest)
    else if b < 0x20 then faultAfter .controlCharacter rest
    else do
      let (more, rest) ← scanQuoted fuel rest
      return (b :: more, rest)

/-- A string whose opening quote has been taken. Whether it is a text is asked at its end; what is
none is placed as far before the end as its first broken sequence is. -/
def scanString (bs : Bytes) : Except Fault (String × Bytes) := do
  let (text, rest) ← scanQuoted (bs.length + 1) bs
  match Utf8.start text.length text with
  | (cs, []) => return (String.ofList cs, rest)
  | (_, broken) =>
    faultAfter .invalidCodePoint (bs.drop (bs.length - (rest.length + broken.length)))

/-! ### Numbers -/

/-- The digits after those already read, as long as they fit 64 bits: their number, how many there
were, and what follows them. -/
def scanDigits (n count : Nat) : Bytes → Nat × Nat × Bytes
  | [] => (n, count, [])
  | b :: rest =>
    let m := n * 10 + Ascii.digitValue b
    if Ascii.isDigit b && m < 1 <<< 64 then scanDigits m (count + 1) rest else (n, count, b :: rest)

/-- The digits of an exponent; none if they pass 31 bits, with what follows the one that does. -/
def scanPower (n : Nat) : Bytes → Option Nat × Bytes
  | [] => (some n, [])
  | b :: rest =>
    if Ascii.isDigit b then
      let n := n * 10 + Ascii.digitValue b
      if 1 <<< 31 ≤ n then (none, rest) else scanPower n rest
    else (some n, b :: rest)

/-- A number outside the integers, in whole multiples of a power of ten. -/
def ofScaled (negative : Bool) (n : Nat) (e : Int) (rest : Bytes) :
    Except Fault (Binary64 × Bytes) :=
  match Binary64.ofSteps? negative n e with
  | some x => .ok (x, rest)
  | none => faultAfter .numberOutOfRange rest

/-- Whether an exponent has a minus, and what its sign leaves. -/
def splitSign : Bytes → Bool × Bytes
  | Ascii.plus :: rest => (false, rest)
  | Ascii.minus :: rest => (true, rest)
  | bs => (false, bs)

/-- The part of a number from its `e` on. The digits before it are multiples of a power of ten. -/
def scanExponent (negative : Bool) (n : Nat) (shift : Int) (bs : Bytes) :
    Except Fault (Binary64 × Bytes) :=
  let (down, bs) := splitSign bs
  match bs with
  | [] => faultAfter .endInValue []
  | b :: rest =>
    if !Ascii.isDigit b then faultAfter .invalidNumber rest
    else
      match scanPower 0 bs with
      | (some p, rest) => ofScaled negative n (shift + if down then -(p : Int) else p) rest
      | (none, rest) =>
        if n ≠ 0 ∧ !down then faultAfter .numberOutOfRange rest
        else .ok (.zero negative, rest.dropWhile Ascii.isDigit)

/-- The part of a number after its whole digits, of which as many were dropped as did not fit.
Digits behind the point that do not fit do not count. -/
def scanFraction (negative : Bool) (n dropped : Nat) (bs : Bytes) :
    Except Fault ((Int ⊕ Binary64) × Bytes) :=
  match bs with
  | Ascii.dot :: rest =>
    match rest with
    | [] => faultAt .endInValue []
    | b :: _ =>
      if !Ascii.isDigit b then faultAt .invalidNumber rest
      else
        let (n, places, rest) := scanDigits n 0 rest
        let shift : Int := dropped - places
        match rest.dropWhile Ascii.isDigit with
        | Ascii.upperE :: rest | Ascii.lowerE :: rest => do
          let (x, rest) ← scanExponent negative n shift rest
          return (.inr x, rest)
        | rest => do
          let (x, rest) ← ofScaled negative n shift rest
          return (.inr x, rest)
  | Ascii.upperE :: rest | Ascii.lowerE :: rest => do
    let (x, rest) ← scanExponent negative n dropped rest
    return (.inr x, rest)
  | _ =>
    if dropped ≠ 0 then do
      let (x, rest) ← ofScaled negative n dropped bs
      return (.inr x, rest)
    else if !negative then .ok (.inl n, bs)
    else if n = 0 then .ok (.inr (.zero true), bs)
    else if n ≤ 1 <<< 63 then .ok (.inl (-(n : Int)), bs)
    else do
      let (x, rest) ← ofScaled true n 0 bs
      return (.inr x, rest)

/-- A number without its sign. A zero may not be followed by another digit. -/
def scanMagnitude (negative : Bool) : Bytes → Except Fault ((Int ⊕ Binary64) × Bytes)
  | [] => faultAfter .endInValue []
  | b :: rest =>
    if b = Ascii.zero then
      match rest with
      | c :: _ =>
        if Ascii.isDigit c then faultAt .invalidNumber rest else scanFraction negative 0 0 rest
      | [] => scanFraction negative 0 0 rest
    else if Ascii.isDigit b then
      let (n, _, more) := scanDigits 0 0 (b :: rest)
      let rest := more.dropWhile Ascii.isDigit
      scanFraction negative n (more.length - rest.length) rest
    else faultAfter .invalidNumber rest

def scanNumber : Bytes → Except Fault ((Int ⊕ Binary64) × Bytes)
  | Ascii.minus :: rest => scanMagnitude true rest
  | bs => scanMagnitude false bs

end CallGuard.Json
