import CallGuard.Json.Mismatch
import CallGuard.Json.Reader

/-! Reading parts of a document whose shape is known beforehand, straight from the bytes. -/
namespace CallGuard.Json

/-- A mismatch found when `rest` is left. -/
def unfitAt {α : Type} (m : Mismatch) (rest : Bytes) : Except Fault (α × Bytes) :=
  faultAfter (.unfit m.message) rest

/-- Refuses the value that comes next. A scalar is read first, and a bracket left where it is. -/
def refuse {α : Type} (expected : String) (bs : Bytes) : Except Fault (α × Bytes) :=
  match skipSpace bs with
  | [] => faultAfter .endInValue []
  | b :: rest =>
    if b = Ascii.openBracket then unfitAt (.type "sequence" expected) (b :: rest)
    else if b = Ascii.openBrace then unfitAt (.type "map" expected) (b :: rest)
    else do
      let (v, rest) ← scanValue 1 0 (b :: rest)
      unfitAt (.type v.found expected) rest

/-- A string. -/
def expectText (expected : String) (bs : Bytes) : Except Fault (String × Bytes) :=
  match skipSpace bs with
  | Ascii.quote :: rest => scanString rest
  | bs => refuse expected bs

/-- A key. -/
def expectKey (bs : Bytes) : Except Fault (String × Bytes) :=
  match skipSpace bs with
  | Ascii.quote :: rest => scanString rest
  | [] => faultAfter .endInObject []
  | bs => faultAt .keyNotString bs

/-- Null, or what `scan` reads. -/
def expectOption {α : Type} (scan : Bytes → Except Fault (α × Bytes)) (bs : Bytes) :
    Except Fault (Option α × Bytes) :=
  match skipSpace bs with
  | Ascii.lowerN :: rest => do
    let ((), rest) ← scanWord (Bytes.ofString "ull") rest
    return (none, rest)
  | bs => do
    let (a, rest) ← scan bs
    return (some a, rest)

def expectNull (bs : Bytes) : Except Fault (Unit × Bytes) :=
  match skipSpace bs with
  | Ascii.lowerN :: rest => scanWord (Bytes.ofString "ull") rest
  | bs => refuse "unit" bs

def textsGo : Nat → Bool → Bytes → Except Fault (List String × Bytes)
  | 0, _, _ => faultAfter .endInList []
  | fuel + 1, first, bs => do
    match ← nextItem first bs with
    | .close rest => return ([], rest)
    | .member bs =>
      let (s, rest) ← expectText "a string" bs
      let (more, rest) ← textsGo fuel false rest
      return (s :: more, rest)

/-- A list of strings. -/
def expectTexts (bs : Bytes) : Except Fault (List String × Bytes) :=
  match skipSpace bs with
  | Ascii.openBracket :: rest => textsGo (bs.length + 1) true rest
  | bs => refuse "a sequence" bs

/-- One of the names: a string, or the only key of an object, with null as its value. -/
def expectName (names : List String) (bs : Bytes) : Except Fault (String × Bytes) :=
  let known (s : String) (rest : Bytes) : Except Fault (String × Bytes) :=
    if names.contains s then .ok (s, rest) else unfitAt (.unknownVariant s names) rest
  match skipSpace bs with
  | [] => faultAfter .endInValue []
  | b :: rest =>
    if b = Ascii.quote then do
      let (s, rest) ← scanString rest
      known s rest
    else if b = Ascii.openBrace then do
      let (s, rest) ← expectKey rest
      let (s, rest) ← known s rest
      let rest ← scanColon rest
      let ((), rest) ← expectNull rest
      match skipSpace rest with
      | Ascii.closeBrace :: rest => return (s, rest)
      | [] => faultAfter .endInObject []
      | rest => faultAfter .expectedValue rest
    else faultAfter .expectedValue rest

/-- A mismatch of a whole object or list shows after its closing bracket, if that is next. -/
def unfitWhole {α : Type} (close : UInt8) (m : Mismatch) (bs : Bytes) : Except Fault (α × Bytes) :=
  match skipSpace bs with
  | [] => unfitAt m []
  | b :: rest => unfitAt m (if b = close then rest else b :: rest)

end CallGuard.Json
