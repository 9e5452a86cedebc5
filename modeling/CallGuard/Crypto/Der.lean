import CallGuard.Ascii
import CallGuard.Text.Utf8

/-! Tagged binary data, as far as keys and certificates are made of it. -/
namespace CallGuard.Crypto.Der

inductive Block where
  | sequence (items : List Block)
  | objectId (arcs : List Nat)
  | bitString (bytes : Bytes)
  | octetString (bytes : Bytes)
  /-- Well formed, and of no interest. -/
  | other

/-- A number in base 128, whose last byte has the high bit clear. -/
def scanBase128 (n : Nat) : Bytes → Option (Nat × Bytes)
  | [] => none
  | b :: rest =>
    let n := n * 128 + b.toNat % 128
    if b < 128 then some (n, rest) else scanBase128 n rest

/-- A tag: its number, whether it encloses blocks, and whether it is one of the common ones. -/
def scanTag : Bytes → Option ((Nat × Bool × Bool) × Bytes)
  | [] => none
  | b :: rest => do
    let encloses := b &&& 0x20 != 0
    let common := b &&& 0xC0 == 0
    if b &&& 0x1F = 0x1F then
      let (n, rest) ← scanBase128 0 rest
      return ((n, encloses, common), rest)
    else return ((b.toNat % 32, encloses, common), rest)

/-- A length in one byte, or in as many as the first byte says, up to eight. -/
def scanLength : Bytes → Option (Nat × Bytes)
  | [] => none
  | b :: rest =>
    if b < 128 then some (b.toNat, rest)
    else
      let count := b.toNat - 128
      if 8 < count ∨ rest.length < count then none
      else some (Bytes.toNat (rest.take count), rest.drop count)

def arcsGo : Nat → Bytes → Option (List Nat)
  | _, [] => some []
  | 0, _ => none
  | fuel + 1, bs => do
    let (n, rest) ← scanBase128 0 bs
    return n :: (← arcsGo fuel rest)

/-- The arcs of an object identifier; the first byte holds two. -/
def arcs : Bytes → Option (List Nat)
  | [] => none
  | b :: rest => do
    let first := min (b.toNat / 40) 2
    return first :: (b.toNat - 40 * first) :: (← arcsGo rest.length rest)

/-- The bytes of a bit string, of whose last at most as many bits as there are may be unused. -/
def bits : Bytes → Option Bytes
  | [] => some []
  | unused :: rest => if 8 * rest.length < unused.toNat then none else some rest

def isPrintable (b : UInt8) : Bool :=
  Ascii.isAlphanumeric b || (Bytes.ofString " '()+,-./:=?").contains b

/-- The number of the first two digits. -/
def twoDigits (bs : Bytes) : Nat := (bs.take 2).foldl (fun n b => n * 10 + Ascii.digitValue b) 0

def daysIn (year month : Nat) : Nat :=
  if month = 2 then
    if year % 4 = 0 ∧ (year % 100 ≠ 0 ∨ year % 400 = 0) then 29 else 28
  else if month = 4 ∨ month = 6 ∨ month = 9 ∨ month = 11 then 30
  else 31

/-- Month, day, hour, minute and second as ten digits of a day in the calendar. -/
def isTimeOf (year : Nat) (bs : Bytes) : Bool :=
  let month := twoDigits bs
  let day := twoDigits (bs.drop 2)
  bs.length == 10 && bs.all Ascii.isDigit && 1 ≤ month && month ≤ 12 && 1 ≤ day &&
    day ≤ daysIn year month && twoDigits (bs.drop 4) ≤ 23 && twoDigits (bs.drop 6) ≤ 59 &&
    twoDigits (bs.drop 8) ≤ 59

/-- A time with two digits for the year. -/
def isShortTime (bs : Bytes) : Bool :=
  bs.length == 13 && (bs.take 2).all Ascii.isDigit && bs.getLast? == some Ascii.upperZ &&
    isTimeOf (twoDigits bs + if twoDigits bs < 50 then 2000 else 1900) ((bs.drop 2).take 10)

/-- A time with four digits for the year, and with fractions of a second: a point and at least one
digit, together a number of at most 64 bits. The point and digits up to the ninth may be left
out. -/
def isLongTime (bs : Bytes) : Bool :=
  let bs := if bs.contains Ascii.dot then bs else bs.take 14 ++ [Ascii.dot] ++ bs.drop 14
  let bs := bs.dropLast ++ List.replicate (25 - bs.length) Ascii.zero ++ bs.drop (bs.length - 1)
  let bs := match bs with
    | Ascii.plus :: rest | Ascii.minus :: rest => rest
    | bs => bs
  let fraction := (bs.drop 15).dropLast
  (bs.take 4).all Ascii.isDigit &&
    isTimeOf (twoDigits bs * 100 + twoDigits (bs.drop 2)) ((bs.drop 4).take 10) &&
    bs[14]? == some Ascii.dot && !fraction.isEmpty && fraction.all Ascii.isDigit &&
    fraction.foldl (fun n b => n * 10 + Ascii.digitValue b) 0 < 1 <<< 64 &&
    bs.getLast? == some Ascii.upperZ

/-- A common block that encloses no others. -/
def plain (tag : Nat) (body : Bytes) : Option Block :=
  let other (ok : Bool) : Option Block := if ok then some .other else none
  match tag with
  | 1 => other (body.length == 1)
  | 3 => (bits body).map .bitString
  | 4 => some (.octetString body)
  | 6 => (arcs body).map .objectId
  | 12 | 20 | 28 | 30 => other (Text.Utf8.decode? body).isSome
  | 19 => other (body.all isPrintable)
  | 23 => other (isShortTime body)
  | 24 => other (15 ≤ body.length && isLongTime body)
  | _ => some .other

/-- The blocks that fill the bytes. A sequence or a set has at least one. -/
def parseGo : Nat → Bytes → Option (List Block)
  | _, [] => some []
  | 0, _ => none
  | fuel + 1, bs => do
    let ((tag, _, common), rest) ← scanTag bs
    let (length, rest) ← scanLength rest
    guard (length ≤ rest.length)
    let body := rest.take length
    let block ←
      if !common then some .other
      else if tag = 16 ∨ tag = 17 then do
        let items ← parseGo fuel body
        guard !items.isEmpty
        some (if tag = 16 then .sequence items else .other)
      else plain tag body
    return block :: (← parseGo fuel (rest.drop length))

def parse? (bs : Bytes) : Option (List Block) := do
  let blocks ← parseGo (bs.length + 1) bs
  guard !blocks.isEmpty
  return blocks

mutual

/-- What `f` finds first, in order and inside sequences. -/
def Block.find? {α : Type} (f : Block → Option α) : Block → Option α
  | .sequence items => findIn? f items
  | b => f b

def findIn? {α : Type} (f : Block → Option α) : List Block → Option α
  | [] => none
  | b :: rest =>
    match Block.find? f b with
    | some a => some a
    | none => findIn? f rest

end

/-- A positive integer in the fewest bytes, and what follows it. -/
def scanPositive : Bytes → Option (Bytes × Bytes)
  | 2 :: rest => do
    let (length, rest) ← scanStrictLength rest
    guard (length ≤ rest.length)
    let after := rest.drop length
    match rest.take length with
    | [] => none
    | [b] => if b = 0 ∨ 128 ≤ b then none else some ([b], after)
    | b :: c :: body =>
      if 128 ≤ b then none
      else if b = 0 then if c < 128 then none else some (c :: body, after)
      else some (b :: c :: body, after)
  | _ => none
where
  /-- A length in the fewest bytes, below 2¹⁶. -/
  scanStrictLength : Bytes → Option (Nat × Bytes)
    | 0x81 :: n :: rest => if 128 ≤ n then some (n.toNat, rest) else none
    | 0x82 :: a :: b :: rest => if a = 0 then none else some (a.toNat * 256 + b.toNat, rest)
    | n :: rest => if n < 128 then some (n.toNat, rest) else none
    | [] => none

/-- Two positive integers in a sequence, and nothing after it. -/
def positivePair? : Bytes → Option (Bytes × Bytes)
  | 0x30 :: rest => do
    let (length, rest) ← scanPositive.scanStrictLength rest
    guard (length = rest.length)
    let (n, rest) ← scanPositive rest
    let (e, rest) ← scanPositive rest
    guard rest.isEmpty
    return (n, e)
  | _ => none

end CallGuard.Crypto.Der
