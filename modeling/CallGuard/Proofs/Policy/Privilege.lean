import CallGuard.Policy.Authorizer
import CallGuard.Proofs.Policy.Requirement

/-!
What roles are good for. Whatever decides a method turns everyone away, or it asks the same of all
callers: nothing, or to be known and to hold each of some roles. So more roles never do harm, and
two callers who are let in are so for the roles that they share.
-/
namespace CallGuard

/-! ### Being let in -/

section Meets

variable {asked : Option (List String)} {b c d : Caller}

theorem Meets.of_unknown (h : Meets asked none (.ok ())) (caller : Option Caller) :
    Meets asked caller (.ok ()) := by
  cases h
  exact .anyone

theorem Meets.of_more (more : ∀ role ∈ c.roles.toList, role ∈ d.roles.toList)
    (h : Meets asked (some c) (.ok ())) : Meets asked (some d) (.ok ()) := by
  cases h with
  | anyone => exact .anyone
  | held held => exact .held fun role listed => more role (held role listed)

theorem Meets.of_shared
    (shared : ∀ role, role ∈ d.roles.toList ↔ role ∈ b.roles.toList ∧ role ∈ c.roles.toList)
    (hb : Meets asked (some b) (.ok ())) (hc : Meets asked (some c) (.ok ())) :
    Meets asked (some d) (.ok ()) := by
  cases hb with
  | anyone => exact .anyone
  | held first =>
    cases hc with
    | held second =>
      exact .held fun role listed => (shared role).mpr ⟨first role listed, second role listed⟩

end Meets

/-! ### Whatever decides -/

theorem Access.check_congr {access : Access} {c d : Caller} (same : c.roles = d.roles) :
    access.check (some c) = access.check (some d) := by
  cases access with
  | anyone | authenticated => rfl
  | holding required => rw [check, check, same]

namespace Resolution

/-- What is asked of callers, unless everyone is turned away: nothing, or to be known and to hold
every role of a list. -/
def asks? : Resolution → Option (Option (List String))
  | metadata access => some access.roles?
  | rule r =>
    match r.effect with
    | .allow => some r.access.roles?
    | .deny => none
  | default .allow => some none
  | default .deny => none

theorem check_eq_ok_iff {r : Resolution} {caller : Option Caller} :
    r.check caller = .ok () ↔ ∃ asked, r.asks? = some asked ∧ Meets asked caller (.ok ()) := by
  cases r with
  | metadata access => simp [check, asks?, Access.check_iff_meets]
  | rule r =>
    cases effect : r.effect with
    | allow => simp [check, Rule.check, asks?, effect, Access.check_iff_meets]
    | deny => simp [check, Rule.check, asks?, effect]
  | default policy =>
    cases policy with
    | allow => simp [check, asks?, Meets.anyone]
    | deny => simp [check, asks?]

theorem check_congr {r : Resolution} {c d : Caller} (same : c.roles = d.roles) :
    r.check (some c) = r.check (some d) := by
  cases r with
  | metadata access => exact Access.check_congr same
  | rule r =>
    cases effect : r.effect with
    | allow => simp only [check, Rule.check, effect, Access.check_congr same]
    | deny => simp only [check, Rule.check, effect]
  | default policy => cases policy <;> rfl

end Resolution

/-- A method that is open to unknown callers is open to all, a caller may do what another one with
fewer roles may, and what two callers may is open to one with just the roles that they share.
Nothing but roles tells known callers apart. -/
theorem Authorizer.decides_by_roles (a : Authorizer) (m : Method) :
    (a.authorize m none = .ok () → ∀ caller, a.authorize m caller = .ok ()) ∧
    (∀ c d : Caller, (∀ role ∈ c.roles.toList, role ∈ d.roles.toList) →
      a.authorize m (some c) = .ok () → a.authorize m (some d) = .ok ()) ∧
    (∀ b c d : Caller,
      (∀ role, role ∈ d.roles.toList ↔ role ∈ b.roles.toList ∧ role ∈ c.roles.toList) →
        a.authorize m (some b) = .ok () → a.authorize m (some c) = .ok () →
          a.authorize m (some d) = .ok ()) ∧
    ∀ c d : Caller, c.roles = d.roles → a.authorize m (some c) = a.authorize m (some d) := by
  simp only [authorize, Resolution.check_eq_ok_iff]
  refine ⟨?_, ?_, ?_, fun _ _ => Resolution.check_congr⟩
  · rintro ⟨asked, asks, met⟩ caller
    exact ⟨asked, asks, met.of_unknown caller⟩
  · rintro c d more ⟨asked, asks, met⟩
    exact ⟨asked, asks, met.of_more more⟩
  · rintro b c d shared ⟨asked, asks, met⟩ ⟨also, asks', met'⟩
    obtain rfl : asked = also := Option.some.inj (asks.symm.trans asks')
    exact ⟨asked, asks, met.of_shared shared met'⟩

namespace Authorizer

namespace Sample

def ping : Method := ⟨⟨"t.Ledger", rfl⟩, "Ping", rfl⟩

def read : Method := ⟨⟨"t.Ledger", rfl⟩, "Read", rfl⟩

/-- Anyone may ping, and auditors of the team may read. -/
def authorizer : Authorizer :=
  ⟨[(ping, .anyone)],
    ⟨[(Rule.allow "audit" [.allOf ⟨"t.Ledger", rfl⟩]).requireRoles ["team", "audit"]], .deny⟩⟩

def caller (subject : String) (roles : List String) : Caller := ⟨subject, none, .ofList roles⟩

end Sample

open Sample

theorem sample_auditors_may_read :
    authorizer.authorize ping (some (caller "a" ["guest"])) = .ok () ∧
      authorizer.authorize read (some (caller "a" ["audit", "ops", "team"])) = .ok () ∧
        authorizer.authorize read (some (caller "b" ["audit", "team"])) = .ok () ∧
          authorizer.authorize read (some (caller "c" ["audit", "team"])) = .ok () := by
  have open_to_all : authorizer.authorize ping none = .ok () := by rfl
  have audits : authorizer.authorize read (some (caller "a" ["audit", "team"])) = .ok () := by
    decide
  have guides : authorizer.authorize read (some (caller "d" ["audit", "guide", "team"])) =
      .ok () := by
    decide
  obtain ⟨of_unknown, -, -, -⟩ := authorizer.decides_by_roles ping
  obtain ⟨-, of_more, of_shared, congr⟩ := authorizer.decides_by_roles read
  have more := of_more _ (caller "a" ["audit", "ops", "team"]) (by decide) audits
  have shared := of_shared _ _ (caller "b" ["audit", "team"])
    (fun role => by simp only [caller, RoleSet.mem_ofList]; grind) more guides
  exact ⟨of_unknown open_to_all _, more, shared, (congr _ (caller "b" _) rfl).trans shared⟩

end Authorizer

end CallGuard
