import CallGuard.Yaml.Literal
import CallGuard.Yaml.Plain
import CallGuard.Yaml.Quoted
import CallGuard.Yaml.Tag

/-!
The tokens of a text in YAML. Indentation is turned into tokens that open and close blocks. That a
token is the key of a map shows only at the colon after it, so what opens the map is put in before
it then.
-/
namespace CallGuard.Yaml

inductive Token where
  | directive (d : Directive)
  | documentStart
  | documentEnd
  | blockSequenceStart
  | blockMappingStart
  | blockEnd
  | flowSequenceStart
  | flowSequenceEnd
  | flowMappingStart
  | flowMappingEnd
  | blockEntry
  | flowEntry
  | key
  | value
  | alias (name : String)
  | anchor (name : String)
  | tag (t : TagName)
  /-- A text, and whether it stands without quotes and could be something else. -/
  | scalar (plain : Bool) (text : String)
  deriving DecidableEq, Repr

/-- A token that is the key of a map if a colon follows. -/
structure Candidate where
  possible : Bool
  /-- A block holds nothing but keys where the token stands. -/
  required : Bool
  /-- How many tokens are before it. -/
  number : Nat
  index : Nat
  line : Nat
  col : Nat

namespace Candidate

def none : Candidate := ⟨false, false, 0, 0, 0, 0⟩

/-- The colon is missing where there must be one. -/
def isBroken (k : Candidate) : Bool := k.possible && k.required

def dismissed (k : Candidate) : Candidate := { k with possible := false }

/-- The colon must come on the same line and not far behind. -/
def isStale (k : Candidate) (c : Cursor) : Bool :=
  k.possible && (k.line < c.line || k.index + 1024 < c.index)

end Candidate

/-- A step of indentation: what it was before, and whether a block was opened by it. -/
structure Indent where
  previous : Int
  isBlock : Bool

/-- A text that has been read up to a place. -/
structure Lexer where
  cursor : Cursor
  /-- What has been found, the last token first. -/
  tokens : List Token
  count : Nat
  /-- The column of the last token, if it is an anchor or a tag. -/
  property : Option Nat
  /-- A key may begin here. -/
  keyAllowed : Bool
  /-- The last token that may be a key, in the innermost brackets. -/
  candidate : Candidate
  /-- Those around the brackets, innermost first. -/
  outer : List Candidate
  /-- The column of the innermost block; `-1` outside of all. -/
  indent : Int
  indents : List Indent
  /-- Where a colon may follow a key without a blank after it. -/
  adjacent : Nat
  /-- A map in brackets has begun, so that a colon begins none of its own. -/
  mapping : Bool
  /-- A colon between brackets of a list began a map of one entry. -/
  implicit : Bool

namespace Lexer

def start (text : List Char) : Lexer :=
  ⟨.start text, [], 0, none, true, .none, [], -1, [], 0, false, false⟩

def inFlow (l : Lexer) : Bool := !l.outer.isEmpty

def push (t : Token) (l : Lexer) : Lexer :=
  { l with tokens := t :: l.tokens, count := l.count + 1, property := none }

/-- Puts a token before the one that has so many before it. -/
def insert (number : Nat) (t : Token) (l : Lexer) : Lexer :=
  { l with tokens := l.tokens.insertIdx (l.count - number) t, count := l.count + 1 }

def moveTo (c : Cursor) (l : Lexer) : Lexer := { l with cursor := c }

/-! ### Indentation -/

/-- Closes the blocks that are indented more than a column. Brackets keep them open. -/
def unroll (col : Int) (l : Lexer) : Lexer :=
  if l.inFlow then l else go l.indents l
where
  go : List Indent → Lexer → Lexer
    | [], l => l
    | i :: rest, l =>
      if l.indent ≤ col then l
      else
        let l := { l with indent := i.previous, indents := rest }
        go rest (if i.isBlock then l.push .blockEnd else l)

/-- Takes back the steps of indentation that opened no block. -/
def unrollSteps (l : Lexer) : Lexer :=
  let steps := l.indents.takeWhile fun i => !i.isBlock
  { l with
    indent := (steps.getLast?.map (·.previous)).getD l.indent
    indents := l.indents.drop steps.length }

/-- Takes back a step that opened no block, if what comes is indented as far as it or further. -/
def dropStep (col : Nat) (l : Lexer) : Lexer :=
  match l.indents with
  | i :: rest =>
    if l.indent ≤ col && !i.isBlock then { l with indent := i.previous, indents := rest } else l
  | [] => l

/-- Opens a block at a column that is indented more than the block around it, and says so before
the token of the number or at the end. -/
def roll (col : Nat) (number : Option Nat) (t : Token) (l : Lexer) : Lexer :=
  if l.inFlow then l
  else
    let l := l.dropStep col
    if l.indent < col then
      let l := { l with indent := col, indents := ⟨l.indent, true⟩ :: l.indents }
      match number with
      | some n => l.insert n t
      | none => l.push t
    else l

/-- Demands one column more of what follows in a block. -/
def rollOne (l : Lexer) : Lexer :=
  if !l.inFlow && l.indents.head?.any (·.isBlock) then
    { l with indent := l.indent + 1, indents := ⟨l.indent, false⟩ :: l.indents }
  else l

/-! ### Keys -/

/-- Notes that the token at this place may be a key. -/
def saveKey (l : Lexer) : Lexer :=
  if !l.keyAllowed then l
  else
    let c := l.cursor
    let required := !l.inFlow && l.indent == c.col && l.indents.head?.any (·.isBlock)
    { l with candidate := ⟨true, required, l.count, c.index, c.line, c.col⟩ }

def removeKey (l : Lexer) : Option Lexer := do
  guard !l.candidate.isBroken
  return { l with candidate := l.candidate.dismissed }

def allowKey (allowed : Bool) (l : Lexer) : Lexer := { l with keyAllowed := allowed }

/-- Gives up a key whose colon can no longer come. -/
def dropStale (l : Lexer) : Option Lexer :=
  if !l.inFlow && l.candidate.isStale l.cursor then l.removeKey else some l

/-- Closes the map that a colon between brackets of a list began. -/
def endImplicit (l : Lexer) : Lexer :=
  if l.implicit then { l with implicit := false, mapping := false }.push .flowMappingEnd else l

/-! ### Between tokens -/

/-- Passes blanks, line breaks and comments. After a line break a key may begin. A tab may not
indent a line of a block that says something. -/
def skipSpace : Nat → Lexer → Option Lexer
  | 0, _ => none
  | fuel + 1, l =>
    let c := l.cursor
    if c.peek = '\t' ∧ !l.indents.isEmpty ∧ c.fresh ∧ c.col < l.indent then do
      skipSpace fuel (l.moveTo (← c.skipToLineEnd))
    else if isBlank c.peek then skipSpace fuel (l.moveTo (c.skip 1))
    else if isBreak c.peek then
      skipSpace fuel ((l.moveTo c.newline).allowKey (l.keyAllowed || !l.inFlow))
    else if c.peek = '#' then skipSpace fuel (l.moveTo c.skipLine)
    else some l

def toNext (l : Lexer) : Option Lexer := skipSpace l.cursor.fuel l

/-- Passes the blanks, line breaks and comments after the sign of a key, of which there must be
some. -/
def skipAfterKey : Nat → Bool → Lexer → Option Lexer
  | 0, _, _ => none
  | fuel + 1, needed, l =>
    let c := l.cursor
    if c.peek = ' ' then skipAfterKey fuel false (l.moveTo (c.skip 1))
    else if isBreak c.peek then
      skipAfterKey fuel false ((l.moveTo c.newline).allowKey (l.keyAllowed || !l.inFlow))
    else if c.peek = '#' then skipAfterKey fuel needed (l.moveTo c.skipLine)
    else if needed || c.peek = '\t' then none
    else some l

/-- Passes a sign, and the blanks and the comment after it. -/
def passSign (l : Lexer) : Option Lexer := do
  let (_, c) ← (l.cursor.take 1).skipGap
  return l.moveTo c

/-! ### Tokens -/

def openFlow (t : Token) (l : Lexer) : Option Lexer := do
  let l := l.saveKey.rollOne
  guard (l.outer.length < 255)
  let l := { l with
    outer := l.candidate :: l.outer
    candidate := .none
    keyAllowed := true
    mapping := l.mapping || t == Token.flowMappingStart }
  return (← l.passSign).push t

def closeFlow (t : Token) (l : Lexer) : Option Lexer := do
  let l ← l.removeKey
  let l := match l.outer with
    | k :: rest => { l with candidate := k, outer := rest }
    | [] => l
  let l := l.allowKey false
  let l ← (if t = .flowSequenceEnd then l.endImplicit else l).passSign
  return { l with adjacent := if l.inFlow then l.cursor.index else l.adjacent }.push t

def flowEntry (l : Lexer) : Option Lexer := do
  let l ← l.removeKey
  return (← (l.allowKey true).endImplicit.passSign).push .flowEntry

/-- An item of a list in a block. No anchor or tag may stand before it at the start of a line. -/
def blockEntry (l : Lexer) : Option Lexer := do
  guard (!l.inFlow && l.keyAllowed)
  let c := l.cursor
  guard (!(c.col == 0 && l.property == some 0 && -1 < l.indent))
  let (gap, after) ← (c.take 1).skipGap
  guard (!(gap.tabs && after.peek == '-' && isGap (after.peekAt 1)))
  let l := (l.roll c.col none .blockSequenceStart).moveTo after
  let l ← (if isBreak after.peek || isFlow after.peek then l.rollOne else l).removeKey
  return (l.allowKey true).push .blockEntry

/-- A key that has a sign of its own. -/
def complexKey (l : Lexer) : Option Lexer := do
  guard (l.inFlow || l.keyAllowed)
  let c := l.cursor
  let l := if l.inFlow then { l with mapping := true } else l.roll c.col none .blockMappingStart
  let l ← l.removeKey
  let l := (l.allowKey !l.inFlow).moveTo (c.take 1)
  return (← skipAfterKey c.fuel true l).push .key

/-- Passes the colon. A tab alone may not stand between it and a word or an item. -/
def passColon (c : Cursor) : Option Cursor := do
  let c := c.take 1
  if c.peek = '\t' then
    let (gap, c) ← c.skipGap
    guard (gap.spaces || !(c.peek = '-' || isWord c.peek))
    return c
  return c

/-- The value of a key: of the token that may be one, of a key with a sign, or of none. -/
def value (l : Lexer) : Option Lexer := do
  let c := l.cursor
  let k := l.candidate
  let l := { l with implicit := l.inFlow && !l.mapping, cursor := ← passColon c }
  if k.possible then
    guard (!(l.implicit && k.line < c.line))
    let l := l.insert k.number .key
    let l := if l.implicit then l.insert k.number .flowMappingStart else l
    let l := (l.roll k.col (some k.number) .blockMappingStart).rollOne
    return ({ l with candidate := k.dismissed }.allowKey false).push .value
  let l := if l.implicit then l.push .flowMappingStart else l
  guard (l.inFlow || l.keyAllowed)
  let l := (l.roll c.col none .blockMappingStart).rollOne
  return (l.allowKey !l.inFlow).push .value

/-- A name of a value, or the mention of one. -/
def name (mention : Bool) (l : Lexer) : Option Lexer := do
  let c := l.cursor
  let (name, after) := (c.take 1).takeWhile fun x => !isGap x && !isFlow x && x != '\ufeff'
  guard !name.isEmpty
  let l := (l.saveKey.allowKey false).moveTo after
  if mention then return l.push (.alias (String.ofList name))
  return { l.push (.anchor (String.ofList name)) with property := some c.col }

def tag (l : Lexer) : Option Lexer := do
  let (t, after) ← TagName.scan l.inFlow l.cursor
  return { ((l.saveKey.allowKey false).moveTo after).push (.tag t) with
    property := some l.cursor.col }

def literal (l : Lexer) : Option Lexer := do
  let l := (l.saveKey.allowKey true).unrollSteps
  let (text, after) ← Literal.scan l.indent l.cursor
  return (l.moveTo after).push (.scalar false text)

def quoted (l : Lexer) : Option Lexer := do
  let l := l.saveKey.allowKey false
  let (text, after) ← Quoted.scan l.inFlow l.indent l.cursor
  let l ← (l.moveTo after).toNext
  return { l with adjacent := l.cursor.index }.push (.scalar false text)

def plain (l : Lexer) : Option Lexer := do
  let l := (l.saveKey.allowKey false).unrollSteps
  let (text, after) ← Plain.scan l.inFlow (l.indent + 1) l.cursor
  return ((l.moveTo after).allowKey after.fresh).push (.scalar true text)

/-- Closes all blocks before a directive or the mark of a document. -/
def leave (l : Lexer) : Option Lexer := do
  return (← (l.unroll (-1)).removeKey).allowKey false

def directive (l : Lexer) : Option Lexer := do
  let l ← l.leave
  let (d, after) ← Directive.scan l.cursor
  return (l.moveTo after).push (.directive d)

/-- Nothing but a comment may follow the end of a document on its line. -/
def documentMark (t : Token) (l : Lexer) : Option Lexer := do
  let l ← l.leave
  let after := l.cursor.take 3
  let after ← if t = .documentEnd then after.skipToLineEnd else some after
  return (l.moveTo after).push t

/-- The token at this place, by its first characters. -/
def next (l : Lexer) : Option Lexer :=
  let c := l.cursor
  let spaced := isGap (c.peekAt 1)
  if c.col = 0 ∧ c.peek = '%' then l.directive
  else if c.isAtMark '-' then l.documentMark .documentStart
  else if c.isAtMark '.' then l.documentMark .documentEnd
  else if c.col < l.indent then none
  else match c.peek with
    | '[' => l.openFlow .flowSequenceStart
    | '\x7b' => l.openFlow .flowMappingStart
    | ']' => l.closeFlow .flowSequenceEnd
    | '\x7d' => l.closeFlow .flowMappingEnd
    | ',' => l.flowEntry
    | '-' => if spaced then l.blockEntry else l.plain
    | '?' => if spaced then l.complexKey else l.plain
    | ':' =>
      if spaced || (l.inFlow && (isFlow (c.peekAt 1) || c.index == l.adjacent)) then l.value
      else l.plain
    | '*' => l.name true
    | '&' => l.name false
    | '!' => l.tag
    | '|' | '>' => if l.inFlow then l.plain else l.literal
    | '\'' | '"' => l.quoted
    | '%' | '@' | '\x60' => none
    | _ => l.plain

/-- The next place at which there is a token or the end of the text. -/
def arrive (l : Lexer) : Option Lexer := do
  let l ← (← l.toNext).dropStale
  return l.unroll l.cursor.col

def run : Nat → Lexer → Option (List Token)
  | 0, _ => none
  | fuel + 1, l => do
    let l ← l.arrive
    if isEnd l.cursor.peek then
      guard !l.candidate.isBroken
      return (l.unroll (-1)).tokens.reverse
    run fuel (← l.next)

end Lexer

/-- The tokens of a text, which ends at the first NUL. -/
def Token.scan? (text : String) : Option (List Token) :=
  let cs := text.toList.takeWhile (· != '\x00')
  Lexer.run (cs.length + 1) (.start cs)

end CallGuard.Yaml
