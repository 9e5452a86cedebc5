import CallGuard.Bytes

/-! UTF-8 read character by character, so that a reader can say where a text stops being one. -/
namespace CallGuard.Text.Utf8

/-- What stands at the front of some bytes: a character and the bytes after it, or a broken
sequence: the length of its longest start that some character has, at least one. -/
inductive Front where
  | char (c : Char) (rest : Bytes)
  | broken (length : Nat)
  | empty

def isContinuation (b : UInt8) : Bool := 0x80 ≤ b && b ≤ 0xBF

/-- The bounds of the second byte that exclude overlong forms, surrogates and code points past the
last. -/
def secondInRange (lead b : UInt8) : Bool :=
  if lead = 0xE0 then 0xA0 ≤ b && b ≤ 0xBF
  else if lead = 0xED then 0x80 ≤ b && b ≤ 0x9F
  else if lead = 0xF0 then 0x90 ≤ b && b ≤ 0xBF
  else if lead = 0xF4 then 0x80 ≤ b && b ≤ 0x8F
  else isContinuation b

/-- The code point of a lead byte's low bits followed by six bits of each byte after it. -/
def codePoint (lead : Nat) (rest : Bytes) : Char :=
  Char.ofNat (rest.foldl (fun n b => n * 64 + (b.toNat - 0x80)) lead)

def front : Bytes → Front
  | [] => .empty
  | a :: r =>
    if a < 0x80 then .char (Char.ofNat a.toNat) r
    else if 0xC2 ≤ a && a ≤ 0xDF then
      match r with
      | b :: r => if isContinuation b then .char (codePoint (a.toNat - 0xC0) [b]) r else .broken 1
      | [] => .broken 1
    else if 0xE0 ≤ a && a ≤ 0xEF then
      match r with
      | b :: c :: r =>
        if !secondInRange a b then .broken 1
        else if isContinuation c then .char (codePoint (a.toNat - 0xE0) [b, c]) r
        else .broken 2
      | [b] => .broken (if secondInRange a b then 2 else 1)
      | [] => .broken 1
    else if 0xF0 ≤ a && a ≤ 0xF4 then
      match r with
      | b :: c :: d :: r =>
        if !secondInRange a b then .broken 1
        else if !isContinuation c then .broken 2
        else if isContinuation d then .char (codePoint (a.toNat - 0xF0) [b, c, d]) r
        else .broken 3
      | [b, c] =>
        .broken (if !secondInRange a b then 1 else if isContinuation c then 3 else 2)
      | [b] => .broken (if secondInRange a b then 2 else 1)
      | [] => .broken 1
    else .broken 1

/-- The characters before the first broken sequence, and the bytes from there on. -/
def start : Nat → Bytes → List Char × Bytes
  | 0, bs => ([], bs)
  | fuel + 1, bs =>
    match front bs with
    | .char c rest =>
      let (cs, broken) := start fuel rest
      (c :: cs, broken)
    | _ => ([], bs)

/-- Reads with at most `fuel` steps, giving each broken sequence to `onBroken`. -/
def chars (onBroken : Option (List Char)) : Nat → Bytes → Option (List Char)
  | 0, _ => some []
  | fuel + 1, bs =>
    match front bs with
    | .empty => some []
    | .char c rest => (chars onBroken fuel rest).map (c :: ·)
    | .broken n => do return (← onBroken) ++ (← chars onBroken fuel (bs.drop n))

/-- The text the bytes encode, if they encode one. -/
def decode? (bs : Bytes) : Option String := (chars none bs.length bs).map String.ofList

/-- The text with U+FFFD for every broken sequence. -/
def decodeLossy (bs : Bytes) : String :=
  String.ofList ((chars (some ['\uFFFD']) bs.length bs).getD [])

end CallGuard.Text.Utf8
