/-! White space: the characters that end a word, whatever their script. -/
namespace CallGuard.Text

/-- The Unicode property White_Space. Joiners and byte order marks of no width are not in it. -/
def isBlank (c : Char) : Bool :=
  let n := c.toNat
  (9 ≤ n && n ≤ 13) || n == 0x20 || n == 0x85 || n == 0xA0 || n == 0x1680 ||
    (0x2000 ≤ n && n ≤ 0x200A) || n == 0x2028 || n == 0x2029 || n == 0x202F || n == 0x205F ||
    n == 0x3000

/-- Nothing is left of the text once the white space at its ends is gone. -/
def isBlankText (s : String) : Bool := s.toList.all isBlank

/-- One step of `words` from the right: a white space character ends the word before it. -/
def consWord (c : Char) : List Char × List (List Char) → List Char × List (List Char)
  | (word, rest) =>
    if isBlank c then ([], if word.isEmpty then rest else word :: rest) else (c :: word, rest)

/-- The maximal runs of characters that are not white space, in order. -/
def words (s : String) : List String :=
  let (word, rest) := s.toList.foldr consWord ([], [])
  (if word.isEmpty then rest else word :: rest).map String.ofList

end CallGuard.Text
