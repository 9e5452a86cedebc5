import CallGuard.Method

/-! Patterns over methods: one method, or all methods of one service. -/
namespace CallGuard

inductive Pattern where
  | one (method : Method)
  /-- Written `service/*`. -/
  | allOf (service : ServiceName)
  deriving DecidableEq

namespace Pattern

def text : Pattern → String
  | one m => m.text
  | allOf service => service.text ++ "/*"

/-- The characters before a final `/*`. -/
def wildcardService? (cs : List Char) : Option (List Char) :=
  match cs.reverse with
  | '*' :: '/' :: rest => some rest.reverse
  | _ => none

/-- The pattern that the characters write. A slash in front is dropped, and before a method's name a
second one, too. -/
def ofChars (cs : List Char) : Except NameFault Pattern :=
  let cs := Method.dropSlash cs
  match wildcardService? cs with
  | some service => (ServiceName.ofChars service).map .allOf
  | none => (Method.ofChars cs).map .one

def covers : Pattern → Method → Bool
  | one m, method => m == method
  | allOf service, method => method.service == service

end Pattern

/-- The methods that need neither a credential nor permission. -/
abbrev SkipList := List Pattern

def SkipList.contains (skip : SkipList) (m : Method) : Bool := skip.any (·.covers m)

end CallGuard
