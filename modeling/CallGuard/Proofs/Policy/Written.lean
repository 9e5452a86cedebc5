import CallGuard.Policy.Rule
import CallGuard.Proofs.Except
import CallGuard.Proofs.List
import CallGuard.Proofs.Method.Matching
import CallGuard.Proofs.Policy.Requirement

/-! Rules as they are written: which of them are accepted, and what is made of those. -/
namespace CallGuard

/-- A written pattern without the slashes in front. -/
def Pattern.bare (w : String) : String := String.ofList (w.toList.dropWhile (· == '/'))

theorem Rule.validate_eq_ok_iff {r : Rule} : r.validate = .ok () ↔ r.methods ≠ [] := by
  unfold validate
  cases r.methods <;> simp

namespace RuleConfig

/-- A rule has patterns, all of them readable; it is public or for roles that have names, and none
of this if it denies. -/
structure Valid (c : RuleConfig) : Prop where
  some_methods : c.methods ≠ []
  methods_written : ∀ w ∈ c.methods, ∃ p : Pattern, p.WrittenAs w
  public_or_roles : c.isPublic = true → c.roles = []
  deny_for_all : c.effect = .deny → c.isPublic = false ∧ c.roles = []
  roles_named : ∀ role ∈ c.roles, Text.isBlankText role = false

/-- One of the patterns is the method's name, or stands for all methods of its service. -/
def Names (c : RuleConfig) (m : Method) : Prop :=
  ∃ w ∈ c.methods, Pattern.bare w = m.text ∨ Pattern.bare w = m.service.text ++ "/*"

/-- The roles that are asked for, if a caller must be known at all. -/
def roles? (c : RuleConfig) : Option (List String) := if c.isPublic then none else some c.roles

/-- The first rule that names the method. -/
inductive First (m : Method) : List RuleConfig → RuleConfig → Prop
  | here {c : RuleConfig} {rest : List RuleConfig} (names : c.Names m) : First m (c :: rest) c
  | later {b c : RuleConfig} {rest : List RuleConfig} (other : ¬ b.Names m)
      (tail : First m rest c) : First m (b :: rest) c

theorem first_or_unnamed (m : Method) (configs : List RuleConfig) :
    (∃ c, First m configs c) ∨ ∀ c ∈ configs, ¬ c.Names m := by
  induction configs with
  | nil => simp
  | cons b rest ih =>
    by_cases names : b.Names m
    · exact .inl ⟨b, .here names⟩
    · rcases ih with ⟨c, first⟩ | unnamed
      · exact .inl ⟨c, .later names first⟩
      · exact .inr (List.forall_mem_cons.mpr ⟨names, unnamed⟩)

theorem accessFault?_eq_none_iff {c : RuleConfig} :
    c.accessFault? = none ↔
      (c.isPublic = true → c.roles = []) ∧ (c.effect = .deny → c.isPublic = false ∧ c.roles = []) ∧
        ∀ role ∈ c.roles, Text.isBlankText role = false := by
  unfold accessFault?
  cases c.isPublic <;> cases c.effect <;> cases c.roles <;> simp

/-- A rule that is made of a written one has its patterns, one for one, and the rest as it is. -/
theorem toRule_eq_ok_iff {c : RuleConfig} {r : Rule} :
    c.toRule = .ok r ↔
      c.accessFault? = none ∧ c.methods ≠ [] ∧
        List.Forall₂ (fun w (p : Pattern) => p.WrittenAs w) c.methods r.methods ∧
          r = ⟨c.name, r.methods, c.effect, c.access⟩ := by
  have parsed : ∀ ps, c.methods.mapM Pattern.parse = .ok ps ↔
      List.Forall₂ (fun w (p : Pattern) => p.WrittenAs w) c.methods ps := by
    simp only [Except.mapM_eq_ok_iff, Pattern.parse_eq_ok_iff, implies_true]
  unfold toRule
  cases c.accessFault? with
  | some fault => simp [throw, throwThe, MonadExceptOf.throw]
  | none =>
    simp only [Except.bind_eq_ok_iff, parsed, true_and]
    constructor
    · rintro ⟨ps, written, ⟨⟩, valid, made⟩
      cases made
      have some_read := Rule.validate_eq_ok_iff.mp valid
      exact ⟨(List.ne_nil_iff_of_forall₂ written).mpr some_read, written, rfl⟩
    · rintro ⟨some_methods, written, made⟩
      have some_read := (List.ne_nil_iff_of_forall₂ written).mp some_methods
      exact ⟨r.methods, written, (), Rule.validate_eq_ok_iff.mpr some_read,
        congrArg Except.ok made.symm⟩

theorem exists_toRule_iff {c : RuleConfig} : (∃ r, c.toRule = .ok r) ↔ c.Valid := by
  constructor
  · rintro ⟨r, made⟩
    obtain ⟨faultless, some_methods, written, -⟩ := toRule_eq_ok_iff.mp made
    obtain ⟨public_or_roles, deny_for_all, roles_named⟩ := accessFault?_eq_none_iff.mp faultless
    exact ⟨some_methods, List.exists_forall₂_iff.mp ⟨_, written⟩, public_or_roles, deny_for_all,
      roles_named⟩
  · intro valid
    obtain ⟨ps, written⟩ := List.exists_forall₂_iff.mpr valid.methods_written
    have faultless := accessFault?_eq_none_iff.mpr
      ⟨valid.public_or_roles, valid.deny_for_all, valid.roles_named⟩
    exact ⟨⟨c.name, ps, c.effect, c.access⟩,
      toRule_eq_ok_iff.mpr ⟨faultless, valid.some_methods, written, rfl⟩⟩

/-! ### What is made of them -/

section Made

variable {c : RuleConfig} {r : Rule}

theorem covers_iff_names (made : c.toRule = .ok r) (m : Method) :
    r.covers m = true ↔ c.Names m := by
  obtain ⟨-, -, written, -⟩ := toRule_eq_ok_iff.mp made
  rw [Rule.covers, List.any_eq_true, Names]
  refine (List.exists_mem_iff_of_forall₂ written fun w p hw => ?_).symm
  rw [Pattern.bare, hw.dropWhile_slash, String.ofList_toList, Pattern.covers_iff]

theorem check_of_deny (made : c.toRule = .ok r) (effect : c.effect = .deny)
    (caller : Option Caller) : r.check caller = .error (.ruleDenied c.name) := by
  obtain ⟨-, -, -, same⟩ := toRule_eq_ok_iff.mp made
  rw [same]
  simp [Rule.check, effect]

theorem check_of_allow (made : c.toRule = .ok r) (effect : c.effect = .allow)
    {caller : Option Caller} {outcome : Except Denial Unit} :
    r.check caller = outcome ↔ Meets c.roles? caller outcome := by
  obtain ⟨-, -, -, same⟩ := toRule_eq_ok_iff.mp made
  rw [same]
  simp only [Rule.check, effect, access, roles?]
  cases c.isPublic with
  | true => exact Access.check_anyone_iff
  | false => exact Access.check_ofRoles_iff

end Made
end RuleConfig

namespace RuleSet

variable {configs : List RuleConfig} {policy : DefaultPolicy} {rs : RuleSet}

theorem ofConfig_eq_ok_iff :
    ofConfig configs policy = .ok rs ↔
      List.Forall₂ (fun (c : RuleConfig) r => c.toRule = .ok r) configs rs.rules ∧
        rs.default = policy := by
  unfold ofConfig
  rw [Except.bind_eq_ok_iff]
  simp only [Except.mapM_eq_ok_iff]
  constructor
  · rintro ⟨rules, made, joined⟩
    obtain ⟨⟨⟩, -, same⟩ := Except.bind_eq_ok_iff.mp joined
    cases same
    exact ⟨made, rfl⟩
  · rintro ⟨made, rfl⟩
    refine ⟨rs.rules, made, Except.bind_eq_ok_iff.mpr ⟨(), Except.forM_eq_ok_iff.mpr ?_, rfl⟩⟩
    intro r hr
    obtain ⟨c, hc⟩ := List.exists_forall₂_iff.mp ⟨configs, made.flip⟩ r hr
    obtain ⟨-, some_methods, written, -⟩ := RuleConfig.toRule_eq_ok_iff.mp hc
    exact Rule.validate_eq_ok_iff.mpr ((List.ne_nil_iff_of_forall₂ written).mp some_methods)

theorem exists_ofConfig_iff :
    (∃ rs, ofConfig configs policy = .ok rs) ↔ ∀ c ∈ configs, c.Valid := by
  simp only [← RuleConfig.exists_toRule_iff, ← List.exists_forall₂_iff, ofConfig_eq_ok_iff]
  constructor
  · rintro ⟨rs, made, -⟩
    exact ⟨_, made⟩
  · rintro ⟨rules, made⟩
    exact ⟨⟨rules, policy⟩, made, rfl⟩

theorem find?_of_first {rules : List Rule} {m : Method} {c : RuleConfig}
    (first : RuleConfig.First m configs c)
    (made : List.Forall₂ (fun (c : RuleConfig) r => c.toRule = .ok r) configs rules) :
    ∃ r, rules.find? (·.covers m) = some r ∧ c.toRule = .ok r := by
  induction first generalizing rules with
  | here names =>
    cases made with
    | cons head tail =>
      have covers := (RuleConfig.covers_iff_names head m).mpr names
      exact ⟨_, List.find?_cons_of_pos covers, head⟩
  | later other _ ih =>
    cases made with
    | cons head tail =>
      have passed := mt (RuleConfig.covers_iff_names head m).mp other
      rw [List.find?_cons_of_neg (p := fun r : Rule => r.covers m) passed]
      exact ih tail

theorem find?_of_unnamed {rules : List Rule} {m : Method} (unnamed : ∀ c ∈ configs, ¬ c.Names m)
    (made : List.Forall₂ (fun (c : RuleConfig) r => c.toRule = .ok r) configs rules) :
    rules.find? (·.covers m) = none := by
  have same := List.exists_mem_iff_of_forall₂ made fun c r h =>
    (RuleConfig.covers_iff_names h m).symm
  rw [List.find?_eq_none]
  intro r hr covers
  obtain ⟨c, hc, names⟩ := same.mpr ⟨r, hr, covers⟩
  exact unnamed c hc names

end RuleSet

end CallGuard
