import CallGuard.Proofs.Policy.Resolution
import CallGuard.Proofs.Policy.Written
import CallGuard.Proofs.Schema.Valid

/-!
Who may call what, read off the rules and the declarations as they are written, and that the
authorizer that is made of them decides so.
-/
namespace CallGuard

/-- The method has no access of its own, so that it is left to the rules. -/
def Schema.LeavesOpen (s : Schema) (m : Method) : Prop :=
  ∀ d ∈ s.methods, d.method = m → d.access = none

theorem Authorizer.access?_withRegistry {a : Authorizer} {s : Schema} {r : Registry}
    (accepted : Registry.ofSchema s = .ok r) {m : Method} {access : Access} :
    (a.withRegistry r).access? m = some access ↔
      ∃ d ∈ s.methods, d.method = m ∧ d.access = some access := by
  obtain ⟨valid, methods, -⟩ := Registry.ofSchema_eq_ok_iff.mp accepted
  have own : ∀ e : Method × Access, e ∈ (a.withRegistry r).metadata ↔
      ∃ d ∈ s.methods, d.method = e.1 ∧ d.access = some e.2 := by
    rintro ⟨n, b⟩
    simp only [withRegistry, methods, List.mem_filterMap, Option.map_eq_some_iff, Prod.mk.injEq]
    grind
  unfold access?
  constructor
  · intro h
    obtain ⟨⟨n, b⟩, found, rfl⟩ := Option.map_eq_some_iff.mp h
    obtain rfl : n = m := by simpa using List.find?_some found
    exact (own _).mp (List.mem_of_find?_eq_some found)
  · rintro ⟨d, hd, rfl, hb⟩
    rw [List.find?_eq_some_of_unique ((own (d.method, access)).mpr ⟨d, hd, rfl, hb⟩) (by simp)]
    · rfl
    · rintro ⟨n, b⟩ he same
      obtain ⟨d', hd', rfl, hb'⟩ := (own _).mp he
      have named : d'.method = d.method := by simpa using same
      obtain rfl := valid.method_unique hd' hd named
      rw [Option.some.inj (hb.symm.trans hb')]

/-- The answer to a caller of the method. What the method declares for itself comes first, then the
first rule that names it, then the default. -/
inductive Decides (configs : List RuleConfig) (policy : DefaultPolicy) (s : Schema) (m : Method)
    (caller : Option Caller) : Except Denial Unit → Prop
  | declared {d : MethodInfo} {access : Access} {outcome : Except Denial Unit} (hd : d ∈ s.methods)
      (named : d.method = m) (own : d.access = some access)
      (answer : Meets access.roles? caller outcome) : Decides configs policy s m caller outcome
  | denied {c : RuleConfig} (undeclared : s.LeavesOpen m)
      (first : RuleConfig.First m configs c) (effect : c.effect = .deny) :
      Decides configs policy s m caller (.error (.ruleDenied c.name))
  | allowed {c : RuleConfig} {outcome : Except Denial Unit} (undeclared : s.LeavesOpen m)
      (first : RuleConfig.First m configs c) (effect : c.effect = .allow)
      (answer : Meets c.roles? caller outcome) : Decides configs policy s m caller outcome
  | allowedByDefault (undeclared : s.LeavesOpen m)
      (unnamed : ∀ c ∈ configs, ¬ c.Names m) (default : policy = .allow) :
      Decides configs policy s m caller (.ok ())
  | deniedByDefault (undeclared : s.LeavesOpen m)
      (unnamed : ∀ c ∈ configs, ¬ c.Names m) (default : policy = .deny) :
      Decides configs policy s m caller (.error .defaultDeny)

theorem Authorizer.access?_eq_none_iff {a : Authorizer} {s : Schema} {r : Registry}
    (accepted : Registry.ofSchema s = .ok r) {m : Method} :
    (a.withRegistry r).access? m = none ↔ s.LeavesOpen m := by
  simp only [Schema.LeavesOpen, Option.eq_none_iff_forall_ne_some, ne_eq,
    access?_withRegistry accepted]
  grind

section Resolution

variable {configs : List RuleConfig} {policy : DefaultPolicy} {rules : RuleSet} {s : Schema}
  {r : Registry} {m : Method}

theorem Authorizer.resolve_of_declared {a : Authorizer} (accepted : Registry.ofSchema s = .ok r)
    {d : MethodInfo} (hd : d ∈ s.methods) (named : d.method = m) {access : Access}
    (own : d.access = some access) : (a.withRegistry r).resolve m = .metadata access := by
  exact resolve_of_own ((access?_withRegistry accepted).mpr ⟨d, hd, named, own⟩)

theorem Authorizer.resolve_of_first (made : RuleSet.ofConfig configs policy = .ok rules)
    (accepted : Registry.ofSchema s = .ok r) (undeclared : s.LeavesOpen m) {c : RuleConfig}
    (first : RuleConfig.First m configs c) :
    ∃ rule, c.toRule = .ok rule ∧ ((ofRules rules).withRegistry r).resolve m = .rule rule := by
  obtain ⟨compiled, -⟩ := RuleSet.ofConfig_eq_ok_iff.mp made
  obtain ⟨rule, found, hrule⟩ := RuleSet.find?_of_first first compiled
  have covered : ((ofRules rules).withRegistry r).rules.rule? m = some rule := found
  refine ⟨rule, hrule, ?_⟩
  rw [resolve_of_unowned ((access?_eq_none_iff accepted).mpr undeclared),
    RuleSet.resolve_of_first covered, Resolution.ofSource]

theorem Authorizer.resolve_of_unnamed (made : RuleSet.ofConfig configs policy = .ok rules)
    (accepted : Registry.ofSchema s = .ok r) (undeclared : s.LeavesOpen m)
    (unnamed : ∀ c ∈ configs, ¬ c.Names m) :
    ((ofRules rules).withRegistry r).resolve m = .default policy := by
  obtain ⟨compiled, default⟩ := RuleSet.ofConfig_eq_ok_iff.mp made
  have uncovered : ((ofRules rules).withRegistry r).rules.rule? m = none :=
    RuleSet.find?_of_unnamed unnamed compiled
  rw [resolve_of_unowned ((access?_eq_none_iff accepted).mpr undeclared),
    RuleSet.resolve_of_uncovered uncovered, Resolution.ofSource]
  exact congrArg _ default

theorem authorize_iff_decides (made : RuleSet.ofConfig configs policy = .ok rules)
    (accepted : Registry.ofSchema s = .ok r) {caller : Option Caller}
    {outcome : Except Denial Unit} :
    ((Authorizer.ofRules rules).withRegistry r).authorize m caller = outcome ↔
      Decides configs policy s m caller outcome := by
  unfold Authorizer.authorize
  constructor
  · rintro rfl
    by_cases undeclared : s.LeavesOpen m
    · rcases RuleConfig.first_or_unnamed m configs with ⟨c, first⟩ | unnamed
      · obtain ⟨rule, hrule, resolved⟩ := Authorizer.resolve_of_first made accepted undeclared first
        rw [resolved]
        cases effect : c.effect with
        | deny =>
          rw [Resolution.check, RuleConfig.check_of_deny hrule effect]
          exact .denied undeclared first effect
        | allow =>
          exact .allowed undeclared first effect ((RuleConfig.check_of_allow hrule effect).mp rfl)
      · rw [Authorizer.resolve_of_unnamed made accepted undeclared unnamed]
        cases policy with
        | allow => exact .allowedByDefault undeclared unnamed rfl
        | deny => exact .deniedByDefault undeclared unnamed rfl
    · unfold Schema.LeavesOpen at undeclared
      push Not at undeclared
      obtain ⟨d, hd, named, own⟩ := undeclared
      obtain ⟨access, own⟩ := Option.ne_none_iff_exists'.mp own
      rw [Authorizer.resolve_of_declared accepted hd named own]
      exact .declared hd named own (Access.check_iff_meets.mp rfl)
  · intro decided
    cases decided with
    | declared hd named own answer =>
      rw [Authorizer.resolve_of_declared accepted hd named own]
      exact Access.check_iff_meets.mpr answer
    | denied undeclared first effect =>
      obtain ⟨rule, hrule, resolved⟩ := Authorizer.resolve_of_first made accepted undeclared first
      rw [resolved]
      exact RuleConfig.check_of_deny hrule effect caller
    | allowed undeclared first effect answer =>
      obtain ⟨rule, hrule, resolved⟩ := Authorizer.resolve_of_first made accepted undeclared first
      rw [resolved]
      exact (RuleConfig.check_of_allow hrule effect).mpr answer
    | allowedByDefault undeclared unnamed allows =>
      rw [Authorizer.resolve_of_unnamed made accepted undeclared unnamed, allows]
      rfl
    | deniedByDefault undeclared unnamed denies =>
      rw [Authorizer.resolve_of_unnamed made accepted undeclared unnamed, denies]
      rfl

end Resolution

/-- Rules are accepted if each of them is well formed, and then the authorizer that is made of them
and of accepted declarations decides as they are written, for every method and every caller. -/
theorem authorizes_as_written (configs : List RuleConfig) (policy : DefaultPolicy) :
    ((∃ rules, RuleSet.ofConfig configs policy = .ok rules) ↔ ∀ c ∈ configs, c.Valid) ∧
      ∀ (rules : RuleSet) (s : Schema) (r : Registry),
        RuleSet.ofConfig configs policy = .ok rules → Registry.ofSchema s = .ok r →
          ∀ (m : Method) (caller : Option Caller) (outcome : Except Denial Unit),
            ((Authorizer.ofRules rules).withRegistry r).authorize m caller = outcome ↔
              Decides configs policy s m caller outcome :=
  ⟨RuleSet.exists_ofConfig_iff, fun _ _ _ made accepted _ _ _ =>
    authorize_iff_decides made accepted⟩

namespace Decides.Sample

/-- All of `c.D` is for callers with the roles `r` and `x`, but one method of it for none. -/
def configs : List RuleConfig :=
  [⟨"none", ["c.D/E"], .deny, false, []⟩, ⟨"some", ["/c.D/*"], .allow, false, ["x", "r", "x"]⟩]

def method : Method := ⟨⟨"c.D", rfl⟩, "F", rfl⟩

def caller : Caller := ⟨"u", none, .ofList ["r"]⟩

end Decides.Sample

theorem sample_caller_lacks_role :
    ∃ rules, RuleSet.ofConfig Decides.Sample.configs .allow = .ok rules ∧
      Registry.ofSchema .empty = .ok .empty ∧
      ((Authorizer.ofRules rules).withRegistry .empty).authorize Decides.Sample.method
        (some Decides.Sample.caller) = .error (.insufficientRole ["x"]) := by
  obtain ⟨rules, made⟩ : ∃ rules, RuleSet.ofConfig Decides.Sample.configs .allow = .ok rules :=
    ⟨_, rfl⟩
  have accepted : Registry.ofSchema .empty = .ok .empty := by rfl
  refine ⟨rules, made, accepted, ?_⟩
  refine ((authorizes_as_written _ _).2 rules .empty .empty made accepted _ _ _).mpr ?_
  have other : ¬ RuleConfig.Names ⟨"none", ["c.D/E"], .deny, false, []⟩ Decides.Sample.method := by
    unfold RuleConfig.Names
    decide
  refine .allowed (by simp [Schema.LeavesOpen, Schema.empty]) (.later other (.here ?_)) rfl ?_
  · exact ⟨"/c.D/*", by simp, .inr (by decide)⟩
  · refine .lacking (by simp) (fun role => ?_) (by simp)
    simp only [Decides.Sample.caller, RoleSet.mem_ofList, List.mem_cons, List.not_mem_nil]
    grind

end CallGuard
