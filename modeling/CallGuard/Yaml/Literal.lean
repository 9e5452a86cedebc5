import CallGuard.Yaml.Cursor

/-!
Scalars that are blocks of lines: literal ones keep their line breaks, folded ones join their lines.
-/
namespace CallGuard.Yaml.Literal

/-- What becomes of the line breaks at the end: none stays, the first does, or all do. -/
inductive Chomp where
  | strip
  | clip
  | keep
  deriving DecidableEq

/-- The signs after the one that says which kind of block it is. -/
structure Header where
  chomp : Chomp
  /-- By how much the lines are indented; if it is zero, the lines show it. -/
  indent : Nat

def chompOf? : Char → Option Chomp
  | '+' => some .keep
  | '-' => some .strip
  | _ => none

def digitOf? (c : Char) : Option Nat := if c.isDigit then some (c.toNat - 48) else none

/-- The signs in either order, each of which may be missing, and how many there are. -/
def signs (first second : Char) : Chomp × Option Nat × Nat :=
  match chompOf? first, digitOf? first with
  | some chomp, _ => (chomp, digitOf? second, if (digitOf? second).isSome then 2 else 1)
  | none, some n =>
    ((chompOf? second).getD .clip, some n, if (chompOf? second).isSome then 2 else 1)
  | none, none => (.clip, none, 0)

def scanHeader (c : Cursor) : Option (Header × Cursor) := do
  let (chomp, indent, count) := signs c.peek (c.peekAt 1)
  guard (indent ≠ some 0)
  return (⟨chomp, indent.getD 0⟩, c.take count)

/-- Passes empty lines and the indentation of the line after them, of at most so many columns;
counts the lines, and finds the most columns that any of these lines is indented by. -/
def skipIndent (limit : Option Nat) : Nat → Nat → Nat → Cursor → Nat × Nat × Cursor
  | 0, breaks, widest, c => (breaks, widest, c)
  | fuel + 1, breaks, widest, c =>
    let spaces := (c.rest.takeWhile (· == ' ')).length
    let c := c.skip (limit.elim spaces fun n => min spaces (n - c.col))
    let widest := max widest c.col
    if isBreak c.peek then skipIndent limit fuel (breaks + 1) widest c.newline
    else (breaks, widest, c)

/-- What has been read: the text, last character first, and the line breaks that are not yet in it:
whether one ended the last line, and how many empty lines came after. -/
structure Part where
  text : List Char
  broken : Bool
  empty : Nat
  /-- The last line began with a blank. -/
  blank : Bool

/-- The line breaks before the next line. A single one between two lines that begin with no blank
is folded into a space. -/
def Part.breaks (p : Part) (folded blank : Bool) : List Char :=
  if folded && p.broken && !p.blank && !blank then
    if p.empty = 0 then [' '] else List.replicate p.empty '\n'
  else List.replicate (p.empty + if p.broken then 1 else 0) '\n'

/-- The lines that are indented by so many columns. -/
def lines (folded : Bool) (indent : Nat) : Nat → Part → Cursor → Part × Cursor
  | 0, p, c => (p, c)
  | fuel + 1, p, c =>
    if c.col != indent || isEnd c.peek || (indent == 0 && c.isAtMark '.') then (p, c)
    else
      let blank := isBlank c.peek
      let (line, after) := c.takeWhile fun x => !isBreakOrEnd x
      let text := line.reverse ++ (p.breaks folded blank).reverse ++ p.text
      if isEnd after.peek then (⟨text, false, 0, blank⟩, after)
      else
        let (empty, _, after) := skipIndent (some indent) after.fuel 0 0 after.newline
        lines folded indent fuel ⟨text, true, empty, blank⟩ after

/-- The text with the line breaks at its end that are kept. A last line that no break ends gets
one, if it is indented as the others are. -/
def Part.finish (p : Part) (chomp : Chomp) (indent : Nat) (c : Cursor) : List Char :=
  let first := (if p.broken then 1 else 0) + if isEnd c.peek && max indent 1 ≤ c.col then 1 else 0
  let count := match chomp with
    | .strip => 0
    | .clip => first
    | .keep => first + p.empty
  p.text.reverse ++ List.replicate count '\n'

/-- The line breaks of a block that the text ends in before it says anything. -/
def blankText (chomp : Chomp) (sameLine ended : Bool) (breaks : Nat) : List Char :=
  let first := if ended then 1 else 0
  if chomp = .strip || sameLine then []
  else if chomp = .clip || breaks = 0 then List.replicate first '\n'
  else List.replicate breaks '\n'

/-- A block of lines whose first sign comes next, inside a block of the indentation. -/
def scan (indent : Int) (c : Cursor) : Option (String × Cursor) := do
  let line := c.line
  let folded := c.peek == '>'
  let (header, c) ← scanHeader (c.take 1)
  let c ← c.skipToLineEnd
  let ended := isBreak c.peek
  let c := if ended then c.newline else c
  guard (c.peek ≠ '\t')
  let fuel := c.fuel
  let given := if header.indent = 0 then 0 else header.indent + indent.toNat
  let (breaks, widest, c) := skipIndent (if given = 0 then none else some given) fuel 0 0 c
  let width :=
    if given = 0 then max (max widest (indent + 1).toNat) (if 0 < indent then 1 else 0) else given
  if isEnd c.peek then
    return (String.ofList (blankText header.chomp (c.line == line) ended breaks), c)
  guard (!(c.col < width && indent < c.col))
  let (p, c) := lines folded width fuel ⟨[], false, breaks, false⟩ c
  return (String.ofList (p.finish header.chomp width c), c)

end CallGuard.Yaml.Literal
