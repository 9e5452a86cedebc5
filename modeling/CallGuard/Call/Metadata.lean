import CallGuard.Ascii
import CallGuard.Bytes

/-! The headers of a call: names in lower case, each with any number of values. -/
namespace CallGuard

abbrev Metadata := List (String × Bytes)

namespace Metadata

/-- A name's first value. -/
def get? (md : Metadata) (name : String) : Option Bytes :=
  (md.find? (·.1 == name)).map (·.2)

def getAll (md : Metadata) (name : String) : List Bytes :=
  (md.filter (·.1 == name)).map (·.2)

/-- Puts one value in place of all that the name has. -/
def set (md : Metadata) (name : String) (value : Bytes) : Metadata :=
  md.filter (·.1 != name) ++ [(name, value)]

def isNameByte (b : UInt8) : Bool :=
  Ascii.isAlphanumeric b || (Bytes.ofString "!#$%&'*+-.^_\x60|~").contains b

/-- Tabs and all bytes but the other controls. -/
def isValueByte (b : UInt8) : Bool := b == Ascii.tab || (Ascii.space ≤ b && b != Ascii.delete)

/-- Bytes that a text shows: tabs, spaces and printing ASCII. -/
def isTextByte (b : UInt8) : Bool := b == Ascii.tab || (Ascii.space ≤ b && b < Ascii.delete)

/-- A name in lower case. Names that end in `-bin` are for values of another kind. -/
def name? (s : String) : Option String :=
  let lower := s.toLower
  if s.isEmpty || !(Bytes.ofString s).all isNameByte || lower.endsWith "-bin" then none
  else some lower

def value? (bs : Bytes) : Option Bytes := if bs.all isValueByte then some bs else none

/-- The headers in order, if all of them are allowed. -/
def ofHeaders? (headers : List (String × Bytes)) : Option Metadata :=
  headers.mapM fun (n, v) => do return (← name? n, ← value? v)

end Metadata
end CallGuard
