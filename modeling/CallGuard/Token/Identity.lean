import CallGuard.Caller
import CallGuard.Text.Blank
import CallGuard.Token.Fault
import CallGuard.Token.Payload

/-! What verified claims say: who the caller is, and from when until when. -/
namespace CallGuard

/-- The claims that name the caller's roles and display name. -/
structure ClaimMapping where
  roles : String
  name : String
  deriving DecidableEq

namespace ClaimMapping

def default : ClaimMapping := ⟨"roles", "name"⟩

def subject (claims : Token.Claims) : Except Malformation String :=
  match claims.get? "sub" with
  | none => .error .missingSubject
  | some (.str s) => if s.isEmpty then .error .subjectNotText else .ok s
  | some _ => .error .subjectNotText

def displayName (m : ClaimMapping) (claims : Token.Claims) : Except Malformation (Option String) :=
  match claims.get? m.name with
  | none | some .null => .ok none
  | some (.str s) => .ok (some s)
  | some _ => .error .nameNotText

/-- A role in a list of them. -/
def role : Json → Except Malformation String
  | .str s => .ok s
  | _ => .error .roleNotText

/-- Roles are listed, or written in one text with white space between them. -/
def roleList (m : ClaimMapping) (claims : Token.Claims) : Except Malformation (List String) :=
  match claims.get? m.roles with
  | none | some .null => .ok []
  | some (.str s) => .ok (Text.words s)
  | some (.arr items) => items.mapM role
  | some _ => .error .rolesNotList

/-- The caller that the claims describe. -/
def caller (m : ClaimMapping) (claims : Token.Claims) : Except Malformation Caller := do
  let subject ← subject claims
  let name ← m.displayName claims
  let roles ← m.roleList claims
  return ⟨subject, name, .ofList roles⟩

end ClaimMapping

namespace Token

/-- The nearest whole number that a clock of 64 bits can show. -/
def clampTime (n : Int) : Int := max (-0x8000000000000000) (min n 0x7fffffffffffffff)

/-- A number as a time in seconds. Fractions are rounded up: no clock of whole seconds can tell. -/
def timeOf? : Json → Option Int
  | .int n => some (clampTime n)
  | .float x => some (clampTime x.ceil)
  | _ => none

/-- The time that a claim gives, if it is there and not null. -/
def Claims.time (claims : Claims) (name : String) : Except Malformation (Option Int) :=
  match claims.get? name with
  | none | some .null => .ok none
  | some v => (timeOf? v).elim (.error .timeNotNumber) (.ok ∘ some)

end Token
end CallGuard
