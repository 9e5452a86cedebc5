import CallGuard.Policy.Rule

/-!
Access decisions. What a method's own description requires comes first, then the first rule that
covers it, then the default.
-/
namespace CallGuard

/-- What decides a call. -/
inductive Resolution where
  | metadata (access : Access)
  | rule (rule : Rule)
  | default (policy : DefaultPolicy)

namespace Resolution

def ofSource : RuleSource → Resolution
  | .rule r => .rule r
  | .default policy => .default policy

/-- The method can be called without a credential. A default that allows is not enough. -/
def isPublic : Resolution → Bool
  | metadata access => access.isPublic
  | rule r => r.isPublic
  | default _ => false

def check : Resolution → Option Caller → Except Denial Unit
  | metadata access, caller => access.check caller
  | rule r, caller => r.check caller
  | default .allow, _ => .ok ()
  | default .deny, _ => .error .defaultDeny

def text : Resolution → String
  | metadata _ => "metadata"
  | rule r => "rule:" ++ r.name
  | default .allow => "default:allow"
  | default .deny => "default:deny"

end Resolution

/-- The access of the methods that have one of their own, at most one for each, and the rules for
all others. -/
structure Authorizer where
  metadata : List (Method × Access)
  rules : RuleSet

namespace Authorizer

/-- Only rules decide. -/
def ofRules (rules : RuleSet) : Authorizer := ⟨[], rules⟩

/-- Gives the method an access of its own, in place of one it had. -/
def withMetadata (a : Authorizer) (m : Method) (access : Access) : Authorizer :=
  { a with metadata := (m, access) :: a.metadata.filter (·.1 != m) }

def access? (a : Authorizer) (m : Method) : Option Access :=
  (a.metadata.find? (·.1 == m)).map (·.2)

def resolve (a : Authorizer) (m : Method) : Resolution :=
  match a.access? m with
  | some access => .metadata access
  | none => .ofSource (a.rules.resolve m)

/-- Whether the caller may call the method. -/
def authorize (a : Authorizer) (m : Method) (caller : Option Caller) : Except Denial Unit :=
  (a.resolve m).check caller

end Authorizer
end CallGuard
