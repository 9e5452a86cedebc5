import CallGuard.Proofs.Pipeline.Denial
import CallGuard.Proofs.Policy.Resolution

/-!
What those who are denied are told of the reason. One who is not known is told the same whatever
decides, and one who is known learns if it is for want of a role, and nothing else:
`denials_told_by_presence` puts the authorizer's reasons beside what its stage answers with.
-/
namespace CallGuard

/-- The roles that the method asks for: those of its own access, or, if it has none, those of the
first rule that covers it, if this rule allows. -/
inductive Authorizer.Requires (a : Authorizer) (m : Method) : RoleSet → Prop
  | metadata {roles : RoleSet} (own : a.access? m = some (.holding roles)) : Requires a m roles
  | rule {r : Rule} {roles : RoleSet} (unowned : a.access? m = none)
      (first : a.rules.rule? m = some r) (allows : r.effect = .allow)
      (access : r.access = .holding roles) : Requires a m roles

/-- The method asks for a role that the caller does not hold. -/
def Authorizer.LacksRole (a : Authorizer) (m : Method) (c : Caller) : Prop :=
  ∃ roles, a.Requires m roles ∧ ∃ role ∈ roles.toList, role ∉ c.roles.toList

/-- The status for a denial of the method: one for all who are not known, and for those who are, one
if they lack a role, with the roles that they lack as the reason, and another if they do not. -/
inductive Authorizer.Tells (a : Authorizer) (m : Method) : Option Caller → Denial → Status → Prop
  | unknown {denial : Denial} :
      Tells a m none denial ⟨.unauthenticated, "authentication required"⟩
  | lacking {c : Caller} {roles : RoleSet} {missing : List String} (asked : a.Requires m roles)
      (some_missing : missing ≠ []) (ascending : missing.Pairwise (· < ·))
      (mem : ∀ role, role ∈ missing ↔ role ∈ roles.toList ∧ role ∉ c.roles.toList) :
      Tells a m (some c) (.insufficientRole missing) ⟨.permissionDenied, "insufficient role"⟩
  | refused {c : Caller} {denial : Denial} (holds : ¬ a.LacksRole m c) :
      Tells a m (some c) denial ⟨.permissionDenied, "access denied"⟩

/-! ### Reasons -/

namespace Authorizer

variable {a : Authorizer} {m : Method}

/-- The denials, each with what it says of the method and the caller. -/
theorem authorize_eq_error_cases {caller : Option Caller} {denial : Denial}
    (denied : a.authorize m caller = .error denial) :
    (caller = none ∧ denial = .authenticationRequired) ∨
      (∃ c roles, caller = some c ∧ a.Requires m roles ∧ c.roles.missing roles ≠ [] ∧
        denial = .insufficientRole (c.roles.missing roles)) ∨
      ((∃ name, denial = .ruleDenied name) ∨ denial = .defaultDeny) ∧
        ∀ roles, ¬ a.Requires m roles := by
  unfold authorize at denied
  rcases resolve_cases a m with ⟨access, own, resolved⟩ | ⟨unowned, ⟨r, first, resolved⟩ |
    ⟨uncovered, resolved⟩⟩
  · rw [resolved] at denied
    rcases Access.check_eq_error_cases denied with unknown | ⟨c, roles, known, rfl, lacks⟩
    · exact .inl unknown
    · exact .inr (.inl ⟨c, roles, known, .metadata own, lacks⟩)
  · rw [resolved] at denied
    cases effect : r.effect with
    | allow =>
      simp only [Resolution.check, Rule.check, effect] at denied
      rcases Access.check_eq_error_cases denied with unknown | ⟨c, roles, known, access, lacks⟩
      · exact .inl unknown
      · exact .inr (.inl ⟨c, roles, known, .rule unowned first effect access, lacks⟩)
    | deny =>
      simp only [Resolution.check, Rule.check, effect, Except.error.injEq] at denied
      refine .inr (.inr ⟨.inl ⟨r.name, denied.symm⟩, ?_⟩)
      rintro roles (own | ⟨-, first', allows, -⟩)
      · simp [unowned] at own
      · obtain rfl : r = _ := Option.some.inj (first.symm.trans first')
        simp [effect] at allows
  · rw [resolved] at denied
    refine .inr (.inr ⟨.inr ?_, ?_⟩)
    · cases policy : a.rules.default with
      | allow => simp [Resolution.check, policy] at denied
      | deny => simpa [Resolution.check, policy, eq_comm] using denied
    · rintro roles (own | ⟨-, first, -, -⟩)
      · simp [unowned] at own
      · simp [uncovered] at first

/-- Lacking a role is being denied for it. -/
theorem LacksRole.authorize {c : Caller} (lacks : a.LacksRole m c) :
    ∃ roles, a.Requires m roles ∧ c.roles.missing roles ≠ [] ∧
      a.authorize m (some c) = .error (.insufficientRole (c.roles.missing roles)) := by
  obtain ⟨roles, asked, role, listed, lacked⟩ := lacks
  have some_missing : c.roles.missing roles ≠ [] :=
    List.ne_nil_of_mem (RoleSet.mem_missing.mpr ⟨listed, lacked⟩)
  have denied : (Access.holding roles).check (some c) =
      .error (.insufficientRole (c.roles.missing roles)) :=
    Access.check_iff_meets.mpr
      (.lacking (RoleSet.sorted_missing _ _) (fun _ => RoleSet.mem_missing) some_missing)
  refine ⟨roles, asked, some_missing, ?_⟩
  cases asked with
  | metadata own =>
    rw [Authorizer.authorize, resolve_of_own own]
    exact denied
  | rule unowned first allows access =>
    rw [Authorizer.authorize, resolve_of_unowned unowned, RuleSet.resolve_of_first first]
    simp only [Resolution.ofSource, Resolution.check, Rule.check, allows, access]
    exact denied

/-! ### Statuses -/

/-- What is told of a denial is its status. -/
theorem tells_iff {caller : Option Caller} {denial : Denial} {status : Status}
    (denied : a.authorize m caller = .error denial) :
    a.Tells m caller denial status ↔ denial.status caller.isSome = status := by
  have told : a.Tells m caller denial (denial.status caller.isSome) := by
    rcases authorize_eq_error_cases denied with ⟨rfl, rfl⟩ | ⟨c, roles, rfl, asked, lacks, rfl⟩ |
      ⟨reason, unasked⟩
    · exact .unknown
    · exact .lacking asked lacks (RoleSet.sorted_missing _ _) fun role => RoleSet.mem_missing
    · have other : ∀ known, denial.status known =
          if known then ⟨.permissionDenied, "access denied"⟩ else .authenticationRequired := by
        rcases reason with ⟨name, rfl⟩ | rfl <;> exact fun _ => rfl
      rw [other]
      cases caller with
      | none => exact .unknown
      | some c => exact .refused fun ⟨roles, asked, _⟩ => unasked roles asked
  constructor
  · intro tells
    -- Nothing else is told of the same denial: whether a role is lacking leaves no choice.
    cases tells with
    | unknown =>
      generalize denial.status _ = answer at told
      cases told
      rfl
    | lacking asked some_missing ascending mem => rfl
    | @refused c _ holds =>
      generalize denial.status _ = answer at told
      cases told with
      | @lacking _ roles missing asked some_missing _ mem =>
        obtain ⟨role, hrole⟩ := List.exists_mem_of_ne_nil missing some_missing
        exact absurd ⟨roles, asked, role, (mem role).mp hrole⟩ holds
      | refused => rfl
  · rintro rfl
    exact told

variable {σ : Type}

/-- Of a method that is not skipped, the stage turns away the calls that the authorizer denies, with
the status that is told for the denial; and a caller who is turned away and known can tell by the
message if it lacks a role, for want of which it is always turned away. -/
theorem denials_told_by_presence (a : Authorizer) (skip : SkipList) (call : Call) (s : σ)
    (unlisted : skip.contains call.method = false) :
    (∀ status, Stage.TurnsAway (a.guard skip) call s status ↔
      ∃ denial, a.authorize call.method call.caller = .error denial ∧
        a.Tells call.method call.caller denial status) ∧
    (∀ status, Stage.TurnsAway (a.guard skip) call s status → call.caller = none →
      status = ⟨.unauthenticated, "authentication required"⟩) ∧
    ∀ c, call.caller = some c →
      (∀ status, Stage.TurnsAway (a.guard skip) call s status →
        status.code = .permissionDenied ∧
        (status.message = "insufficient role" ↔ a.LacksRole call.method c) ∧
        (status.message = "access denied" ↔ ¬ a.LacksRole call.method c)) ∧
      (a.LacksRole call.method c →
        Stage.TurnsAway (a.guard skip) call s ⟨.permissionDenied, "insufficient role"⟩) := by
  have turned_iff : ∀ status, Stage.TurnsAway (a.guard skip) call s status ↔
      ∃ denial, a.authorize call.method call.caller = .error denial ∧
        a.Tells call.method call.caller denial status := by
    intro status
    rw [Stage.turnsAway_iff_of_decides (guard_decides a skip call), decision_eq_error_iff]
    constructor
    · rintro ⟨-, denial, denied, rfl⟩
      exact ⟨denial, denied, (tells_iff denied).mpr rfl⟩
    · rintro ⟨denial, denied, tells⟩
      exact ⟨unlisted, denial, denied, (tells_iff denied).mp tells⟩
  refine ⟨turned_iff, ?_, ?_⟩
  · intro status turned unknown
    obtain ⟨denial, -, tells⟩ := (turned_iff status).mp turned
    rw [unknown] at tells
    cases tells
    rfl
  · intro c known
    constructor
    · intro status turned
      obtain ⟨denial, -, tells⟩ := (turned_iff status).mp turned
      rw [known] at tells
      cases tells with
      | @lacking _ roles missing asked some_missing _ mem =>
        obtain ⟨role, hrole⟩ := List.exists_mem_of_ne_nil missing some_missing
        have lacks : a.LacksRole call.method c := ⟨roles, asked, role, (mem role).mp hrole⟩
        simp [lacks]
      | refused holds => simp [holds]
    · intro lacks
      obtain ⟨roles, asked, some_missing, denied⟩ := lacks.authorize
      refine (turned_iff _).mpr ⟨_, known ▸ denied, known ▸ ?_⟩
      exact .lacking asked some_missing (RoleSet.sorted_missing _ _) fun _ => RoleSet.mem_missing

namespace Told.Sample

open Pipeline.Sample (method caller)

def ringMethod : Method := { method with name := "Ring", name_valid := rfl }

/-- One method of `a.B` is for those who hold three roles, and the others are closed by a rule. -/
def authorizer : Authorizer :=
  (Authorizer.ofRules ⟨[.deny "closed" [.allOf method.service]], .allow⟩).withMetadata ringMethod
    (.ofRoles ["z", "r", "b"])

/-- A call that comes with no metadata. -/
def callOf (m : Method) (caller : Option Caller) : Call := ⟨m, [], caller, false, .null⟩

end Told.Sample

open Told.Sample Pipeline.Sample in
/-- One role that the caller has does not help it, and those who are not known are told the same of
both methods. -/
theorem sample_want_of_roles_told_apart :
    Stage.TurnsAway (authorizer.guard []) (callOf ringMethod (some caller)) ()
      ⟨.permissionDenied, "insufficient role"⟩ ∧
    authorizer.authorize ringMethod (some caller) = .error (.insufficientRole ["b", "z"]) ∧
    Stage.TurnsAway (authorizer.guard []) (callOf method (some caller)) ()
      ⟨.permissionDenied, "access denied"⟩ ∧
    ∀ m ∈ [ringMethod, method], Stage.TurnsAway (authorizer.guard []) (callOf m none) ()
      ⟨.unauthenticated, "authentication required"⟩ := by
  have told := fun m known => denials_told_by_presence authorizer [] (callOf m known) () rfl
  have asked : authorizer.Requires ringMethod (.ofList ["z", "r", "b"]) := .metadata (by decide)
  have unasked : ¬ authorizer.LacksRole method caller := by
    rintro ⟨roles, own | ⟨-, first, allows, -⟩, -⟩
    · cases own
    · cases first
      cases allows
  refine ⟨?_, by decide, ?_, ?_⟩
  · exact ((told ringMethod (some caller)).2.2 caller rfl).2 ⟨_, asked, "z", by decide, by decide⟩
  · exact ((told method (some caller)).1 _).mpr ⟨.ruleDenied "closed", rfl, .refused unasked⟩
  · intro m listed
    obtain rfl | rfl : m = ringMethod ∨ m = method := by simpa using listed
    · exact ((told ringMethod none).1 _).mpr ⟨.authenticationRequired, by decide, .unknown⟩
    · exact ((told method none).1 _).mpr ⟨.ruleDenied "closed", rfl, .unknown⟩

end Authorizer
end CallGuard
