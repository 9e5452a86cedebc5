import CallGuard.Json.Reader

/-!
Passing over a value. What it says is not looked at: strings need only end and numbers need only be
written like numbers, and brackets nest to any depth.
-/
namespace CallGuard.Json

/-- What follows a backslash in a string. -/
def skipEscape : Bytes → Except Fault (Unit × Bytes)
  | [] => faultAfter .endInString []
  | b :: rest =>
    if b = Ascii.lowerU then do
      let (_, rest) ← scanHex rest
      return ((), rest)
    else if (Bytes.ofString "\"\\/bfnrt").contains b then .ok ((), rest)
    else faultAfter .invalidEscape rest

/-- The bytes up to the closing quote. -/
def skipChars : Nat → Bytes → Except Fault (Unit × Bytes)
  | 0, _ => faultAfter .endInString []
  | _, [] => faultAfter .endInString []
  | fuel + 1, b :: rest =>
    if b = Ascii.quote then .ok ((), rest)
    else if b = Ascii.backslash then do
      let ((), rest) ← skipEscape rest
      skipChars fuel rest
    else if b < 0x20 then faultAfter .controlCharacter (b :: rest)
    else skipChars fuel rest

def skipString (bs : Bytes) : Except Fault (Unit × Bytes) := skipChars (bs.length + 1) bs

/-- The part of a number after its `e`. -/
def skipPower (bs : Bytes) : Except Fault (Unit × Bytes) :=
  match (splitSign bs).2 with
  | [] => faultAfter .invalidNumber []
  | b :: rest =>
    if Ascii.isDigit b then .ok ((), rest.dropWhile Ascii.isDigit)
    else faultAfter .invalidNumber rest

/-- The part of a number from its `e` on, if it has one. -/
def skipExponent (bs : Bytes) : Except Fault (Unit × Bytes) :=
  match bs with
  | Ascii.upperE :: rest | Ascii.lowerE :: rest => skipPower rest
  | _ => .ok ((), bs)

/-- The part of a number after its whole digits. -/
def skipFraction (bs : Bytes) : Except Fault (Unit × Bytes) :=
  match bs with
  | Ascii.dot :: rest =>
    if rest.head?.any Ascii.isDigit then skipExponent (rest.dropWhile Ascii.isDigit)
    else faultAt .invalidNumber rest
  | _ => skipExponent bs

/-- A number without its sign. -/
def skipMagnitude : Bytes → Except Fault (Unit × Bytes)
  | [] => faultAfter .invalidNumber []
  | b :: rest =>
    if b = Ascii.zero then
      if rest.head?.any Ascii.isDigit then faultAt .invalidNumber rest else skipFraction rest
    else if Ascii.isDigit b then skipFraction (rest.dropWhile Ascii.isDigit)
    else faultAfter .invalidNumber rest

mutual

/-- One value. -/
def skipGo : Nat → Bytes → Except Fault (Unit × Bytes)
  | 0, _ => faultAfter .endInValue []
  | fuel + 1, bs =>
    match skipSpace bs with
    | [] => faultAfter .endInValue []
    | b :: rest =>
      if b = Ascii.lowerN then scanWord (Bytes.ofString "ull") rest
      else if b = Ascii.lowerT then scanWord (Bytes.ofString "rue") rest
      else if b = Ascii.lowerF then scanWord (Bytes.ofString "alse") rest
      else if b = Ascii.minus then skipMagnitude rest
      else if Ascii.isDigit b then skipMagnitude (b :: rest)
      else if b = Ascii.quote then skipString rest
      else if b = Ascii.openBracket then skipItems fuel true rest
      else if b = Ascii.openBrace then skipMembers fuel true rest
      else faultAfter .expectedValue rest

def skipItems : Nat → Bool → Bytes → Except Fault (Unit × Bytes)
  | 0, _, _ => faultAfter .endInList []
  | fuel + 1, first, bs =>
    match skipSpace bs with
    | [] => faultAfter .endInList []
    | b :: rest =>
      if b = Ascii.closeBracket then .ok ((), rest)
      else if first || b = Ascii.comma then do
        let ((), rest) ← skipGo fuel (if first then b :: rest else rest)
        skipItems fuel false rest
      else faultAfter .expectedCommaOrBracket rest

def skipMembers : Nat → Bool → Bytes → Except Fault (Unit × Bytes)
  | 0, _, _ => faultAfter .endInObject []
  | fuel + 1, first, bs =>
    match skipSpace bs with
    | [] => faultAfter .endInObject []
    | b :: rest =>
      if b = Ascii.closeBrace then .ok ((), rest)
      else if first || b = Ascii.comma then
        match skipSpace (if first then b :: rest else rest) with
        | [] => faultAfter .endInObject []
        | c :: rest =>
          if c = Ascii.quote then do
            let ((), rest) ← skipString rest
            let bs ← scanColon rest
            let ((), rest) ← skipGo fuel bs
            skipMembers fuel false rest
          else faultAfter .keyNotString rest
      else faultAfter .expectedCommaOrBrace rest

end

/-- Any value. -/
def skipValue (bs : Bytes) : Except Fault (Unit × Bytes) := skipGo (readFuel bs) bs

end CallGuard.Json
