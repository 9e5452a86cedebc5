import CallGuard.Bytes
import CallGuard.Yaml.Cursor

/-! Scalars in quotes. Between double quotes a backslash gives a character by its name. -/
namespace CallGuard.Yaml.Quoted

/-- A character by its code point in so many hexadecimal digits. -/
def hexChar? (digits : Nat) (cs : List Char) : Option Char := do
  guard (digits ≤ cs.length)
  let ds ← (cs.take digits).mapM fun c => Bytes.hexValue? c.toNat
  let n := ds.foldl (fun n d => n * 16 + d) 0
  if n.isValidChar then some (Char.ofNat n) else none

/-- What the characters after a backslash stand for, and how many of them it takes. -/
def escape? : List Char → Option (Char × Nat)
  | [] => none
  | c :: rest =>
    match c with
    | '0' => some ('\x00', 1)
    | 'a' => some ('\x07', 1)
    | 'b' => some ('\x08', 1)
    | 't' | '\t' => some ('\t', 1)
    | 'n' => some ('\n', 1)
    | 'v' => some ('\x0b', 1)
    | 'f' => some ('\x0c', 1)
    | 'r' => some ('\r', 1)
    | 'e' => some ('\x1b', 1)
    | ' ' | '"' | '/' | '\\' => some (c, 1)
    | 'N' => some ('\u0085', 1)
    | '_' => some ('\u00a0', 1)
    | 'L' => some ('\u2028', 1)
    | 'P' => some ('\u2029', 1)
    | 'x' => (hexChar? 2 rest).map (·, 3)
    | 'u' => (hexChar? 4 rest).map (·, 5)
    | 'U' => (hexChar? 8 rest).map (·, 9)
    | _ => none

/-- The characters up to a gap or the closing quote, put after those before them, last character
first; and whether a backslash took the line break after them. -/
def word (quote : Char) : Nat → List Char → Cursor → Option (List Char × Bool × Cursor)
  | 0, _, _ => none
  | fuel + 1, before, c =>
    if isGap c.peek then some (before, false, c)
    else if c.peek = quote then
      if quote = '\'' ∧ c.peekAt 1 = '\'' then word quote fuel ('\'' :: before) (c.take 2)
      else some (before, false, c)
    else if quote = '"' ∧ c.peek = '\\' then
      if isBreak (c.peekAt 1) then some (before, true, (c.take 1).newline)
      else do
        let (x, n) ← escape? (c.rest.drop 1)
        word quote fuel (x :: before) (c.take (n + 1))
    else word quote fuel (c.peek :: before) (c.take 1)

/-- Passes the white space after a word. A tab may not indent a line. -/
def gap (indent : Int) : Nat → Fold → Bool → Cursor → Option (List Char × Cursor)
  | 0, _, _, _ => none
  | fuel + 1, f, fresh, c =>
    if isBlank c.peek then
      if !fresh then gap indent fuel { f with blanks := c.peek :: f.blanks } fresh (c.skip 1)
      else if c.peek = '\t' ∧ c.col < indent then none
      else gap indent fuel f fresh (c.skip 1)
    else if isBreak c.peek then gap indent fuel (f.addBreak fresh) true c.newline
    else some (f.text fresh, c)

/-- The words up to the closing quote, put after those before them. -/
def words (quote : Char) (indent : Int) : Nat → List Char → Cursor → Option (List Char × Cursor)
  | 0, _, _ => none
  | fuel + 1, before, c =>
    if c.isAtDocumentMark || isEnd c.peek || c.col < indent then none
    else do
      let (before, fresh, c) ← word quote c.fuel before c
      if c.peek = quote then return (before, c.take 1)
      let (white, c) ← gap indent c.fuel .none fresh c
      words quote indent fuel (white.reverse ++ before) c

/-- What may stand behind a scalar in quotes that began on the line. -/
def mayFollow (flow : Bool) (line : Nat) (c : Cursor) : Bool :=
  isBreakOrEnd c.peek || (flow && [',', '\x7d', ']', ':'].contains c.peek) ||
    (c.peek == ':' && c.line == line)

/-- A scalar in quotes of the kind that comes next. -/
def scan (flow : Bool) (indent : Int) (c : Cursor) : Option (String × Cursor) := do
  let (cs, after) ← words c.peek indent c.fuel [] (c.take 1)
  let (_, after) ← after.skipGap
  guard (mayFollow flow c.line after)
  return (String.ofList cs.reverse, after)

end CallGuard.Yaml.Quoted
