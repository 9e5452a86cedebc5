import CallGuard.Json.Printer
import CallGuard.Text.Quoted

/-! What is said of a well-formed document that is not what its reader wants. -/
namespace CallGuard

/-- Why a value is refused, in the words of the answer. -/
inductive Mismatch where
  /-- Something else was found than what was expected. -/
  | type (found expected : String)
  /-- A value of the right kind that is not allowed. -/
  | value (found expected : String)
  | length (found : Nat) (expected : String)
  | missingField (name : String)
  | duplicateField (name : String)
  | unknownVariant (found : String) (expected : List String)
  | other (reason : String)
  deriving DecidableEq, Repr

namespace Mismatch

def tick (s : String) : String := "`" ++ s ++ "`"

/-- Two alternatives, or a list of them. -/
def alternatives : List String → String
  | [a] => tick a
  | [a, b] => tick a ++ " or " ++ tick b
  | names => "one of " ++ ", ".intercalate (names.map tick)

def message : Mismatch → String
  | type found expected => "invalid type: " ++ found ++ ", expected " ++ expected
  | value found expected => "invalid value: " ++ found ++ ", expected " ++ expected
  | length found expected => "invalid length " ++ toString found ++ ", expected " ++ expected
  | missingField name => "missing field " ++ tick name
  | duplicateField name => "duplicate field " ++ tick name
  | unknownVariant found expected =>
    "unknown variant " ++ tick found ++ ", expected " ++ alternatives expected
  | other reason => reason

def elementCount (count : Nat) : String :=
  toString count ++ if count = 1 then " element" else " elements"

/-- A record with the count of the elements it has when it is written as a list. -/
def elements (record : String) (count : Nat) : String := record ++ " with " ++ elementCount count

end Mismatch

/-- A value as it is named in a mismatch. -/
def Json.found : Json → String
  | null => "null"
  | bool b => "boolean " ++ Mismatch.tick (toString b)
  | int n => "integer " ++ Mismatch.tick (toString n)
  | float x => "floating point " ++ Mismatch.tick (numberLayout.text x)
  | str s => "string " ++ Text.quoted s
  | arr _ => "sequence"
  | obj _ => "map"

end CallGuard
