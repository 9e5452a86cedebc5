import CallGuard.Json.Basic
import CallGuard.Bytes
import CallGuard.Decimal.Shortest

/-! The compact form of a document: no spaces, members in their order. -/
namespace CallGuard.Json

open Decimal (Layout Binary64)

/-- Only quotes, backslashes and control characters are escaped. -/
def escapeChar (c : Char) : List Char :=
  if c = '"' then ['\\', '"']
  else if c = '\\' then ['\\', '\\']
  else if c = '\x08' then ['\\', 'b']
  else if c = '\x0c' then ['\\', 'f']
  else if c = '\n' then ['\\', 'n']
  else if c = '\r' then ['\\', 'r']
  else if c = '\t' then ['\\', 't']
  else if c.toNat < 0x20 then
    ['\\', 'u', '0', '0', Bytes.hexChar (c.toNat / 16), Bytes.hexChar (c.toNat % 16)]
  else [c]

def quoteChars (s : String) : List Char :=
  '"' :: s.toList.flatMap escapeChar ++ ['"']

/-- Powers from 10⁻⁵ to 10¹⁵ are positional, and a whole number keeps one zero to tell it from an
integer. -/
def numberLayout : Layout := ⟨fun p => -5 ≤ p && p ≤ 15, ".0"⟩

mutual

/-- The characters of the compact form. -/
def print : Json → List Char
  | null => "null".toList
  | bool true => "true".toList
  | bool false => "false".toList
  | int n => (toString n).toList
  | float x => (numberLayout.text x).toList
  | str s => quoteChars s
  | arr xs => '[' :: printItems xs ++ [']']
  | obj ms => '\x7b' :: printMembers ms ++ ['\x7d']

def printItems : List Json → List Char
  | [] => []
  | [x] => print x
  | x :: xs => print x ++ ',' :: printItems xs

def printMembers : List (String × Json) → List Char
  | [] => []
  | [(name, v)] => quoteChars name ++ ':' :: print v
  | (name, v) :: ms => quoteChars name ++ ':' :: print v ++ ',' :: printMembers ms

end

def compact (j : Json) : String := String.ofList j.print

end CallGuard.Json
