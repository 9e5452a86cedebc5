import CallGuard.Yaml.Cursor

/-! Plain scalars: text without quotes, over as many lines as are indented far enough. -/
namespace CallGuard.Yaml.Plain

/-- The characters up to a gap or to a sign that ends a scalar. -/
def word (flow : Bool) : List Char → List Char
  | [] => []
  | c :: rest =>
    let next := rest.headD '\x00'
    if isGap c || (flow && isFlow c) || (c == ':' && (isGap next || (flow && isFlow next))) then []
    else c :: word flow rest

/-- Passes the white space after a word. A tab may indent an empty line only. -/
def gap (indent : Int) : Nat → Fold → Cursor → Option (Fold × Cursor)
  | 0, _, _ => none
  | fuel + 1, f, c =>
    if isBlank c.peek then
      if !c.fresh then gap indent fuel { f with blanks := c.peek :: f.blanks } (c.skip 1)
      else if c.col < indent && c.peek == '\t' then do gap indent fuel f (← c.skipToLineEnd)
      else gap indent fuel f (c.skip 1)
    else if isBreak c.peek then gap indent fuel (f.addBreak c.fresh) c.newline
    else some (f, c)

/-- The words from here on, put after those before them, last character first. -/
def words (flow : Bool) (indent : Int) : Nat → List Char → Fold → Cursor →
    Option (List Char × Cursor)
  | 0, _, _, _ => none
  | fuel + 1, before, f, c =>
    if c.isAtDocumentMark || c.peek == '#' then some (before, c)
    else if flow && c.peek == '-' && isFlow (c.peekAt 1) then none
    else
      let w := word flow c.rest
      let before := if w.isEmpty then before else w.reverse ++ (f.text c.fresh).reverse ++ before
      let f := if w.isEmpty then f else .none
      let c := if w.isEmpty then c else c.take w.length
      if !(isBlank c.peek || isBreak c.peek) then some (before, c)
      else do
        let (f, c) ← gap indent c.fuel f c
        if !flow && c.col < indent then some (before, c) else words flow indent fuel before f c

/-- A plain scalar, which ends before a line that is indented less than it must be. -/
def scan (flow : Bool) (indent : Int) (c : Cursor) : Option (String × Cursor) := do
  guard (!(flow && c.col < indent))
  let (cs, c) ← words flow indent c.fuel [] .none c
  return (String.ofList cs.reverse, c)

end CallGuard.Yaml.Plain
