import CallGuard.Bytes
import CallGuard.Yaml.Cursor

/-! Tags, which say what kind of value follows, and the directives before a document. -/
namespace CallGuard.Yaml

/-- A tag as it is written: a handle that stands for the start of a name, and the rest of the
name. -/
structure TagName where
  handle : String
  suffix : String
  deriving DecidableEq, Repr

inductive Directive where
  | version
  /-- A handle, and the start of a name that it stands for. -/
  | handle (handle start : String)
  deriving DecidableEq, Repr

namespace TagName

def isUri (c : Char) : Bool :=
  c.isAlphanum || c == '-' || "#;/?:@&=+$,_.!~*'()[]%".toList.contains c

/-- A character of a name whose end is not marked. -/
def isTag (c : Char) : Bool := isUri c && !isFlow c && c != '!'

/-- An octet written as a percent sign and two hexadecimal digits. -/
def octet? : List Char → Option (Nat × List Char)
  | '%' :: a :: b :: rest => do
    return ((← Bytes.hexValue? a.toNat) * 16 + (← Bytes.hexValue? b.toNat), rest)
  | _ => none

/-- A character written as its octets: one, or two that are taken together as its number. -/
def escape? (cs : List Char) : Option (Char × List Char) := do
  let (a, rest) ← octet? cs
  if a < 0x80 then return (Char.ofNat a, rest)
  guard (0xC0 ≤ a && a < 0xE0)
  let (b, rest) ← octet? rest
  let n := a * 256 + b
  guard (0x80 ≤ b && b < 0xC0 && n.isValidChar)
  return (Char.ofNat n, rest)

/-- The characters that the test admits, with escapes undone, and the place after them. -/
def scanName (p : Char → Bool) : Nat → Cursor → Option (List Char × Cursor)
  | 0, _ => none
  | fuel + 1, c =>
    if !p c.peek then some ([], c)
    else if c.peek = '%' then do
      let (x, rest) ← escape? c.rest
      let (xs, c) ← scanName p fuel (c.take (c.rest.length - rest.length))
      return (x :: xs, c)
    else do
      let (xs, after) ← scanName p fuel (c.take 1)
      return (c.peek :: xs, after)

def name (p : Char → Bool) (c : Cursor) : Option (List Char × Cursor) :=
  scanName p c.fuel c

/-- An exclamation mark, a word, and another exclamation mark if there is one. -/
def scanHandle (c : Cursor) : Option (List Char × Cursor) := do
  guard (c.peek = '!')
  let (word, c) := (c.take 1).takeWhile isWord
  if c.peek = '!' then return ('!' :: word ++ ['!'], c.take 1)
  return ('!' :: word, c)

/-- A name in angle brackets, a handle and the rest of a name, or a name of the text's own. -/
def scanParts (c : Cursor) : Option (TagName × Cursor) := do
  if c.peekAt 1 = '<' then
    let (suffix, c) ← name isUri (c.take 2)
    guard (c.peek = '>')
    return (⟨"", String.ofList suffix⟩, c.take 1)
  let (handle, c) ← scanHandle c
  let (suffix, c) ← name isTag c
  if 2 ≤ handle.length && handle.getLast? == some '!' then
    guard !suffix.isEmpty
    return (⟨String.ofList handle, String.ofList suffix⟩, c)
  match handle.drop 1 ++ suffix with
  | [] => return (⟨"", "!"⟩, c)
  | suffix => return (⟨"!", String.ofList suffix⟩, c)

/-- A tag, to which nothing clings but the end of an item in brackets. -/
def scan (flow : Bool) (c : Cursor) : Option (TagName × Cursor) := do
  let (t, c) ← scanParts c
  guard (isGap c.peek || (flow && isFlow c.peek))
  return (t, c)

end TagName

namespace Directive

/-- Digits, at least one and at most nine. -/
def scanNumber (c : Cursor) : Option Cursor := do
  let (digits, c) := c.takeWhile Char.isDigit
  guard (!digits.isEmpty && digits.length ≤ 9)
  return c

def scanVersion (c : Cursor) : Option (Directive × Cursor) := do
  let c ← scanNumber c
  guard (c.peek = '.')
  let c ← scanNumber (c.take 1)
  return (version, c)

/-- The start of a name: of one of the text's own, or of any. -/
def scanStart (c : Cursor) : Option (List Char × Cursor) := do
  if c.peek = '!' then
    let (rest, c) ← TagName.name TagName.isUri (c.take 1)
    return ('!' :: rest, c)
  guard (TagName.isTag c.peek)
  TagName.name TagName.isUri c

def scanTag (c : Cursor) : Option (Directive × Cursor) := do
  let (h, c) ← TagName.scanHandle c
  guard (h.length = 1 || h.getLast? == some '!')
  let (start, c) ← scanStart (c.skipWhile isBlank)
  guard (isGap c.peek)
  return (handle (String.ofList h) (String.ofList start), c)

/-- A directive and the line break after it. One of an unknown name says nothing. -/
def scan (c : Cursor) : Option (Directive × Cursor) := do
  let (name, c) := (c.take 1).takeWhile isWord
  guard (!name.isEmpty && isGap c.peek)
  let (d, c) ←
    if name = "YAML".toList then scanVersion (c.skipWhile isBlank)
    else if name = "TAG".toList then scanTag (c.skipWhile isBlank)
    else some (handle "" "", c.skipLine)
  let c ← c.skipToLineEnd
  return (d, if isBreak c.peek then c.newline else c)

end Directive
end CallGuard.Yaml
