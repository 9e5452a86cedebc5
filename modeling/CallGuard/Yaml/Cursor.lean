/-! A place in a text in YAML, and the steps over what stands between its tokens. -/
namespace CallGuard.Yaml

/-! ### Classes of characters

A NUL stands for the end of a text. -/

def isEnd (c : Char) : Bool := c == '\x00'

def isBreak (c : Char) : Bool := c == '\n' || c == '\r'

def isBreakOrEnd (c : Char) : Bool := isBreak c || isEnd c

def isBlank (c : Char) : Bool := c == ' ' || c == '\t'

/-- What ends a word: a blank, a line break or the end. -/
def isGap (c : Char) : Bool := isBlank c || isBreakOrEnd c

/-- The signs of lists and maps in brackets. -/
def isFlow (c : Char) : Bool := [',', '[', ']', '\x7b', '\x7d'].contains c

def isWord (c : Char) : Bool := c.isAlphanum || c == '_' || c == '-'

/-! ### Places -/

structure Cursor where
  /-- What is left of the text. -/
  rest : List Char
  /-- How long the whole text is. -/
  size : Nat
  index : Nat
  line : Nat
  col : Nat
  /-- Nothing but blanks has been passed on the line. -/
  fresh : Bool

namespace Cursor

def start (text : List Char) : Cursor := ⟨text, text.length, 0, 1, 0, true⟩

/-- More steps than a walk over what is left takes. -/
def fuel (c : Cursor) : Nat := c.size + 1

/-- The next character but so many. -/
def peekAt (c : Cursor) (n : Nat) : Char := (c.rest.drop n).headD '\x00'

def peek (c : Cursor) : Char := c.peekAt 0

/-- Passes so many blanks. -/
def skip (c : Cursor) (n : Nat) : Cursor :=
  { c with rest := c.rest.drop n, index := c.index + n, col := c.col + n }

/-- Passes so many characters that say something. -/
def take (c : Cursor) (n : Nat) : Cursor := { c.skip n with fresh := false }

/-- Passes a line break, which is of one character or of two. -/
def newline (c : Cursor) : Cursor :=
  let c := c.skip (if c.rest.take 2 = ['\r', '\n'] then 2 else 1)
  { c with line := c.line + 1, col := 0, fresh := true }

/-- The characters from here on that the test admits, and the place after them. -/
def takeWhile (c : Cursor) (p : Char → Bool) : List Char × Cursor :=
  let cs := c.rest.takeWhile p
  (cs, c.take cs.length)

/-- Passes the characters that the test admits as if they were blanks. -/
def skipWhile (c : Cursor) (p : Char → Bool) : Cursor := c.skip (c.rest.takeWhile p).length

/-- Passes the rest of the line. -/
def skipLine (c : Cursor) : Cursor := c.skipWhile fun x => !isBreakOrEnd x

/-- Three equal signs stand at the start of a line, and nothing clings to them. -/
def isAtMark (c : Cursor) (sign : Char) : Bool :=
  c.col == 0 && c.rest.take 3 == [sign, sign, sign] && isGap (c.peekAt 3)

/-- A document starts or ends. -/
def isAtDocumentMark (c : Cursor) : Bool := c.isAtMark '-' || c.isAtMark '.'

/-- Which blanks were passed. -/
structure Gap where
  spaces : Bool
  tabs : Bool

/-- Passes blanks and a comment after them. A comment may not cling to a token. -/
def skipGap (c : Cursor) : Option (Gap × Cursor) :=
  let blanks := c.rest.takeWhile isBlank
  let c := c.skip blanks.length
  let gap := ⟨blanks.contains ' ', blanks.contains '\t'⟩
  if c.peek = '#' then if blanks.isEmpty then none else some (gap, c.skipLine)
  else some (gap, c)

/-- Passes blanks and a comment up to the end of the line, where nothing else may stand. -/
def skipToLineEnd (c : Cursor) : Option Cursor := do
  let (_, c) ← c.skipGap
  guard (isBreakOrEnd c.peek)
  return c

end Cursor

/-! ### Folding -/

/-- White space inside a scalar that has been passed and not yet been written. -/
structure Fold where
  /-- On the line, last character first. -/
  blanks : List Char
  /-- A line was left. -/
  broken : Bool
  /-- How many empty lines came after. -/
  empty : Nat

namespace Fold

def none : Fold := ⟨[], false, 0⟩

/-- One more line break. The first takes the place of the blanks before it. -/
def addBreak (f : Fold) (fresh : Bool) : Fold :=
  if fresh then { f with empty := f.empty + 1 } else { f with blanks := [], broken := true }

/-- Line breaks as one space or as the empty lines among them, or else the blanks. -/
def text (f : Fold) (fresh : Bool) : List Char :=
  if !fresh then f.blanks.reverse
  else if f.broken && f.empty == 0 then [' ']
  else List.replicate f.empty '\n'

end Fold
end CallGuard.Yaml
