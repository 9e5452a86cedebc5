import CallGuard.Ascii
import CallGuard.Bytes

/-!
Base64: four symbols for three bytes. A text is read in quads; all but the last must be four
symbols, and the bits of the last that make no byte must be zero, so every byte string has one text.
-/
namespace CallGuard.Crypto.Base64

/-- Which sixty-four symbols, and whether the last quad is filled up with `=` or left short. -/
structure Alphabet where
  sixtyTwo : UInt8
  sixtyThree : UInt8
  padded : Bool

/-- The symbols that are safe in a URL, unpadded. -/
def urlSafe : Alphabet := ⟨Ascii.minus, Ascii.underscore, false⟩

def standard : Alphabet := ⟨Ascii.plus, Ascii.slash, true⟩

inductive Fault where
  | symbol (byte : UInt8) (offset : Nat)
  | lastSymbol (byte : UInt8) (offset : Nat)
  | length (symbols : Nat)
  | padding
  deriving DecidableEq, Repr

def Fault.message : Fault → String
  | symbol byte offset =>
    "Invalid symbol " ++ toString byte.toNat ++ ", offset " ++ toString offset ++ "."
  | lastSymbol byte offset =>
    "Invalid last symbol " ++ toString byte.toNat ++ ", offset " ++ toString offset ++ "."
  | length symbols => "Invalid input length: " ++ toString symbols
  | padding => "Invalid padding"

def pad : UInt8 := Ascii.equals

def Alphabet.value? (a : Alphabet) (b : UInt8) : Option Nat :=
  if Ascii.isUpper b then some (b.toNat - 65)
  else if Ascii.isLower b then some (b.toNat - 71)
  else if Ascii.isDigit b then some (b.toNat + 4)
  else if b = a.sixtyTwo then some 62
  else if b = a.sixtyThree then some 63
  else none

def Alphabet.symbol (a : Alphabet) (n : Nat) : UInt8 :=
  if n < 26 then UInt8.ofNat (n + 65)
  else if n < 52 then UInt8.ofNat (n + 71)
  else if n < 62 then UInt8.ofNat (n - 4)
  else if n = 62 then a.sixtyTwo
  else a.sixtyThree

def encode (a : Alphabet) : Bytes → Bytes
  | x :: y :: z :: rest =>
    let n := (x.toNat * 256 + y.toNat) * 256 + z.toNat
    a.symbol (n / 262144) :: a.symbol (n / 4096 % 64) :: a.symbol (n / 64 % 64) ::
      a.symbol (n % 64) :: encode a rest
  | [x, y] =>
    let n := (x.toNat * 256 + y.toNat) * 4
    a.symbol (n / 4096) :: a.symbol (n / 64 % 64) :: a.symbol (n % 64) ::
      if a.padded then [pad] else []
  | [x] =>
    let n := x.toNat * 16
    a.symbol (n / 64) :: a.symbol (n % 64) :: if a.padded then [pad, pad] else []
  | [] => []

/-- The value of one symbol at an offset. -/
def Alphabet.read (a : Alphabet) (b : UInt8) (offset : Nat) : Except Fault Nat :=
  (a.value? b).elim (.error (.symbol b offset)) .ok

/-- What the last quad holds: its symbols' values, and the number of `=` after them. -/
structure Tail where
  values : List Nat
  pads : Nat

/-- Reads the last quad from its `index`-th place on. An `=` may not stand in the first two places,
nor before a symbol. -/
def readTail (a : Alphabet) (offset index : Nat) : Tail → Bytes → Except Fault Tail
  | t, [] => .ok t
  | t, b :: rest => do
    if b = pad then
      if index < 2 then throw (.symbol pad (offset + index))
      readTail a offset (index + 1) { t with pads := t.pads + 1 } rest
    else
      if 0 < t.pads then throw (.symbol pad (offset + index - t.pads))
      let v ← a.read b (offset + index)
      readTail a offset (index + 1) { t with values := t.values ++ [v] } rest

/-- The bytes of the last quad, which starts at `offset`. -/
def decodeTail (a : Alphabet) (offset : Nat) (quad : Bytes) : Except Fault Bytes := do
  let t ← readTail a offset 0 ⟨[], 0⟩ quad
  let count := t.values.length
  if !quad.isEmpty && count < 2 then throw (.length (offset + count))
  if a.padded then
    if quad ≠ [] ∧ count + t.pads ≠ 4 then throw .padding
  else
    if t.pads ≠ 0 then throw .padding
  let last (n : Nat) := Fault.lastSymbol (quad.getD n 0) (offset + n)
  match t.values with
  | [x, y] =>
    if y % 16 ≠ 0 then throw (last 1)
    return [UInt8.ofNat (x * 4 + y / 16)]
  | [x, y, z] =>
    if z % 4 ≠ 0 then throw (last 2)
    return [UInt8.ofNat (x * 4 + y / 16), UInt8.ofNat (y * 16 + z / 4)]
  | [x, y, z, w] =>
    return [UInt8.ofNat (x * 4 + y / 16), UInt8.ofNat (y * 16 + z / 4), UInt8.ofNat (z * 64 + w)]
  | _ => return []

/-- The bytes of the quads from `offset` on. -/
def decodeQuads (a : Alphabet) (offset : Nat) : Bytes → Except Fault Bytes
  | x :: y :: z :: w :: v :: rest => do
    let x ← a.read x offset
    let y ← a.read y (offset + 1)
    let z ← a.read z (offset + 2)
    let w ← a.read w (offset + 3)
    let more ← decodeQuads a (offset + 4) (v :: rest)
    return UInt8.ofNat (x * 4 + y / 16) :: UInt8.ofNat (y * 16 + z / 4) ::
      UInt8.ofNat (z * 64 + w) :: more
  | quad => decodeTail a offset quad

/-- The bytes that the text encodes. A lone last byte that is no symbol is found before all else. -/
def decode (a : Alphabet) (text : Bytes) : Except Fault Bytes :=
  let last := text.getLastD pad
  if text.length % 4 = 1 ∧ last ≠ pad ∧ (a.value? last).isNone then
    .error (.symbol last (text.length - 1))
  else decodeQuads a 0 text

end CallGuard.Crypto.Base64
