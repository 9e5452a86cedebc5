import CallGuard.Text.Letters

/-!
Lower case. Every letter is made small on its own, but for the sigma, which has another form at the
end of a word.
-/
namespace CallGuard.Text

/-- What a letter becomes on its own: one character, but for the capital I with a dot. -/
def lowerChar (c : Char) : List Char :=
  let n := c.toNat
  if n < 0x80 then [c.toLower]
  else if n = 0x130 then ['i', '\u0307']
  else
    match capitals.find? fun r =>
      r.first ≤ n && n ≤ r.last && (n - r.first) % r.stride == 0 with
    | some r => [Char.ofNat (r.lower + (n - r.first))]
    | none => [c]

/-- The first character, but for those that case passes over, is a letter with a case. -/
def meetsCased (cs : List Char) : Bool := (cs.dropWhile isCaseIgnorable).head?.any isCased

/-- A sigma between what was passed, last character first, and the rest. -/
def lowerSigma (before rest : List Char) : Char :=
  if meetsCased before && !meetsCased rest then 'ς' else 'σ'

def lowerGo (before : List Char) : List Char → List Char
  | [] => []
  | c :: rest =>
    (if c = 'Σ' then [lowerSigma before rest] else lowerChar c) ++ lowerGo (c :: before) rest

/-- The text in lower case. -/
def lowercase (s : String) : String := String.ofList (lowerGo [] s.toList)

end CallGuard.Text
