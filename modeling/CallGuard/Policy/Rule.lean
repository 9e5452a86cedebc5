import CallGuard.ConfigError
import CallGuard.Policy.Access

/-!
Ordered rules over methods. The first rule that covers a method decides, however special a later
one is; where none does, a default decides.
-/
namespace CallGuard

inductive Effect where
  | allow
  | deny
  deriving DecidableEq, Repr

inductive DefaultPolicy where
  | allow
  | deny
  deriving DecidableEq, Repr

/-- A deny rule denies everyone, whatever its access. -/
structure Rule where
  name : String
  methods : List Pattern
  effect : Effect
  access : Access
  deriving DecidableEq

namespace Rule

/-- A rule for known callers. -/
def allow (name : String) (methods : List Pattern) : Rule :=
  ⟨name, methods, .allow, .authenticated⟩

def deny (name : String) (methods : List Pattern) : Rule :=
  ⟨name, methods, .deny, .authenticated⟩

def requireRoles (r : Rule) (roles : List String) : Rule := { r with access := .ofRoles roles }

def forAnyone (r : Rule) : Rule := { r with access := .anyone }

def covers (r : Rule) (m : Method) : Bool := r.methods.any (·.covers m)

/-- Anyone may call what the rule covers. -/
def isPublic (r : Rule) : Bool := r.effect == .allow && r.access.isPublic

/-- What the rule says of a caller, if it covers the method. -/
def check (r : Rule) (caller : Option Caller) : Except Denial Unit :=
  match r.effect with
  | .deny => .error (.ruleDenied r.name)
  | .allow => r.access.check caller

/-- A rule that covers nothing is a slip of the operator's. -/
def validate (r : Rule) : Except ConfigError Unit :=
  if r.methods.isEmpty then .error (.invalidRule r.name .noPatterns) else .ok ()

end Rule

/-- A rule as the operator writes it. -/
structure RuleConfig where
  name : String
  methods : List String
  effect : Effect
  isPublic : Bool
  roles : List String
  deriving DecidableEq

namespace RuleConfig

/-- A rule is public, or for roles, or for known callers, or denies. -/
def accessFault? (c : RuleConfig) : Option RuleFault :=
  if c.isPublic && !c.roles.isEmpty then some .publicWithRoles
  else if c.effect == .deny && (c.isPublic || !c.roles.isEmpty) then some .denyWithAccess
  else if c.roles.any Text.isBlankText then some .blankRole
  else none

def access (c : RuleConfig) : Access := if c.isPublic then .anyone else .ofRoles c.roles

def toRule (c : RuleConfig) : Except ConfigError Rule := do
  match c.accessFault? with
  | some fault => throw (.invalidRule c.name fault)
  | none =>
    let rule := ⟨c.name, ← c.methods.mapM Pattern.parse, c.effect, c.access⟩
    rule.validate
    return rule

end RuleConfig

structure RuleSet where
  rules : List Rule
  default : DefaultPolicy

/-- What of a rule set decides a method. -/
inductive RuleSource where
  | rule (rule : Rule)
  | default (policy : DefaultPolicy)
  deriving DecidableEq

namespace RuleSet

def ofRules (rules : List Rule) (default : DefaultPolicy) : Except ConfigError RuleSet := do
  rules.forM Rule.validate
  return ⟨rules, default⟩

/-- The rules that the operator writes, in their order. -/
def ofConfig (configs : List RuleConfig) (default : DefaultPolicy) :
    Except ConfigError RuleSet := do
  ofRules (← configs.mapM RuleConfig.toRule) default

/-- The first rule that covers the method. -/
def rule? (rs : RuleSet) (m : Method) : Option Rule := rs.rules.find? (·.covers m)

/-- The first rule that covers the method, or the default. -/
def resolve (rs : RuleSet) (m : Method) : RuleSource :=
  ((rs.rule? m).map .rule).getD (.default rs.default)

/-- Whether the caller may call the method, by the rules alone. -/
def evaluate (rs : RuleSet) (m : Method) (caller : Option Caller) : Except Denial Unit :=
  match rs.resolve m with
  | .rule r => r.check caller
  | .default .allow => .ok ()
  | .default .deny => .error .defaultDeny

end RuleSet
end CallGuard
