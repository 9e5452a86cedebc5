import CallGuard.Json.Basic
import CallGuard.Json.Scan

/-! Reading a document, and the place of what is wrong with one. -/
namespace CallGuard.Json

/-- Brackets may be open at most one fewer than this at a time. -/
def depthLimit : Nat := 128

/-- What comes next in a list or an object, after `first` or after a member. -/
inductive Next where
  | close (rest : Bytes)
  | member (rest : Bytes)

/-- Steps to the next item of a list, over the comma that must precede all but the first. -/
def nextItem (first : Bool) (bs : Bytes) : Except Fault Next :=
  match skipSpace bs with
  | [] => .error ⟨.endInList, []⟩
  | b :: rest =>
    if b = Ascii.closeBracket then .ok (.close rest)
    else if first then .ok (.member (b :: rest))
    else if b = Ascii.comma then
      match skipSpace rest with
      | [] => .error ⟨.endInValue, []⟩
      | c :: rest =>
        if c = Ascii.closeBracket then .error ⟨.trailingComma, rest⟩
        else .ok (.member (c :: rest))
    else .error ⟨.expectedCommaOrBracket, rest⟩

/-- Steps into the key of the next member of an object, past its opening quote. -/
def nextKey (first : Bool) (bs : Bytes) : Except Fault Next :=
  match skipSpace bs with
  | [] => .error ⟨.endInObject, []⟩
  | b :: rest =>
    if b = Ascii.closeBrace then .ok (.close rest)
    else if first then
      if b = Ascii.quote then .ok (.member rest) else .error ⟨.keyNotString, rest⟩
    else if b = Ascii.comma then
      match skipSpace rest with
      | [] => .error ⟨.endInValue, []⟩
      | c :: rest =>
        if c = Ascii.quote then .ok (.member rest)
        else if c = Ascii.closeBrace then .error ⟨.trailingComma, rest⟩
        else .error ⟨.keyNotString, rest⟩
    else .error ⟨.expectedCommaOrBrace, rest⟩

/-- The colon between a key and its value. -/
def scanColon (bs : Bytes) : Except Fault Bytes :=
  match skipSpace bs with
  | [] => .error ⟨.endInObject, []⟩
  | b :: rest => if b = Ascii.colon then .ok rest else .error ⟨.expectedColon, rest⟩

mutual

/-- One value as it is written, of which at most `depth - 1` brackets may be open at a time. -/
def scanValue : Nat → Nat → Bytes → Except Fault (Json × Bytes)
  | 0, _, _ => faultAfter .endInValue []
  | fuel + 1, depth, bs =>
    match skipSpace bs with
    | [] => faultAfter .endInValue []
    | b :: rest =>
      if b = Ascii.lowerN then do
        let ((), rest) ← scanWord (Bytes.ofString "ull") rest
        return (.null, rest)
      else if b = Ascii.lowerT then do
        let ((), rest) ← scanWord (Bytes.ofString "rue") rest
        return (.bool true, rest)
      else if b = Ascii.lowerF then do
        let ((), rest) ← scanWord (Bytes.ofString "alse") rest
        return (.bool false, rest)
      else if b = Ascii.minus || Ascii.isDigit b then do
        match ← scanNumber (b :: rest) with
        | (.inl n, rest) => return (.int n, rest)
        | (.inr x, rest) => return (.float x, rest)
      else if b = Ascii.quote then do
        let (s, rest) ← scanString rest
        return (.str s, rest)
      else if b = Ascii.openBracket then
        if depth ≤ 1 then faultAfter .tooDeep rest
        else do
          let (xs, rest) ← scanItems fuel (depth - 1) true rest
          return (.arr xs, rest)
      else if b = Ascii.openBrace then
        if depth ≤ 1 then faultAfter .tooDeep rest
        else do
          let (ms, rest) ← scanMembers fuel (depth - 1) true rest
          return (.obj ms, rest)
      else faultAfter .expectedValue rest

def scanItems : Nat → Nat → Bool → Bytes → Except Fault (List Json × Bytes)
  | 0, _, _, _ => faultAfter .endInList []
  | fuel + 1, depth, first, bs => do
    match ← nextItem first bs with
    | .close rest => return ([], rest)
    | .member bs =>
      let (x, rest) ← scanValue fuel depth bs
      let (xs, rest) ← scanItems fuel depth false rest
      return (x :: xs, rest)

def scanMembers : Nat → Nat → Bool → Bytes → Except Fault (List (String × Json) × Bytes)
  | 0, _, _, _ => faultAfter .endInObject []
  | fuel + 1, depth, first, bs => do
    match ← nextKey first bs with
    | .close rest => return ([], rest)
    | .member bs =>
      let (name, rest) ← scanString bs
      let bs ← scanColon rest
      let (x, rest) ← scanValue fuel depth bs
      let (ms, rest) ← scanMembers fuel depth false rest
      return ((name, x) :: ms, rest)

end

/-- Nothing but space may follow the document. -/
def scanEnd (bs : Bytes) : Except Fault Unit :=
  match skipSpace bs with
  | [] => .ok ()
  | _ :: rest => .error ⟨.trailingCharacters, rest⟩

/-- A text that is no document, with the line and the byte in it where this shows. -/
structure ReadError where
  reason : Reason
  line : Nat
  column : Nat
  deriving DecidableEq, Repr

def ReadError.message (e : ReadError) : String :=
  e.reason.text ++ " at line " ++ toString e.line ++ " column " ++ toString e.column

/-- Counts the lines and bytes up to what the fault left over. -/
def Fault.locate (bs : Bytes) (f : Fault) : ReadError :=
  let taken := bs.take (bs.length - f.rest.length)
  ⟨f.reason, taken.count Ascii.lineFeed + 1, (taken.reverse.takeWhile (· != Ascii.lineFeed)).length⟩

/-- Runs a scan over all of the bytes. -/
def runScan {α : Type} (scan : Bytes → Except Fault (α × Bytes)) (bs : Bytes) :
    Except ReadError α :=
  match scan bs with
  | .error f => .error (f.locate bs)
  | .ok (a, rest) =>
    match scanEnd rest with
    | .error f => .error (f.locate bs)
    | .ok () => .ok a

/-- Every value takes a byte, and so does every step from one to the next. -/
def readFuel (bs : Bytes) : Nat := 2 * bs.length + 2

/-- A document. Of two members with one name the later counts. -/
def read (bs : Bytes) : Except ReadError Json :=
  (runScan (scanValue (readFuel bs) depthLimit) bs).map merged

end CallGuard.Json
