import CallGuard.Policy.Authorizer

/-!
What decides a method, case by case. The rules have an answer of their own, and an authorizer gives
the same wherever the method has no access of its own.
-/
namespace CallGuard

namespace RuleSet

variable {rs : RuleSet} {m : Method}

theorem resolve_of_first {r : Rule} (first : rs.rule? m = some r) : rs.resolve m = .rule r := by
  rw [resolve, first]
  rfl

theorem resolve_of_uncovered (uncovered : rs.rule? m = none) :
    rs.resolve m = .default rs.default := by
  rw [resolve, uncovered]
  rfl

theorem evaluate_eq (rs : RuleSet) (m : Method) (caller : Option Caller) :
    rs.evaluate m caller = (Resolution.ofSource (rs.resolve m)).check caller := by
  unfold evaluate
  cases rs.resolve m with
  | rule r => rfl
  | default policy => cases policy <;> rfl

end RuleSet

namespace Authorizer

variable {a : Authorizer} {m : Method}

theorem resolve_of_own {access : Access} (own : a.access? m = some access) :
    a.resolve m = .metadata access := by
  rw [resolve, own]

theorem resolve_of_unowned (unowned : a.access? m = none) :
    a.resolve m = .ofSource (a.rules.resolve m) := by
  rw [resolve, unowned]

/-- What decides the method: its own access, or else the first rule, or else the default. -/
theorem resolve_cases (a : Authorizer) (m : Method) :
    (∃ access, a.access? m = some access ∧ a.resolve m = .metadata access) ∨
      a.access? m = none ∧
        ((∃ r, a.rules.rule? m = some r ∧ a.resolve m = .rule r) ∨
          a.rules.rule? m = none ∧ a.resolve m = .default a.rules.default) := by
  cases own : a.access? m with
  | some access => exact .inl ⟨access, rfl, resolve_of_own own⟩
  | none =>
    refine .inr ⟨rfl, ?_⟩
    rw [resolve_of_unowned own]
    cases first : a.rules.rule? m with
    | some r => exact .inl ⟨r, rfl, by rw [RuleSet.resolve_of_first first, Resolution.ofSource]⟩
    | none =>
      exact .inr ⟨rfl, by rw [RuleSet.resolve_of_uncovered first, Resolution.ofSource]⟩

/-! ### Rules alone -/

theorem resolve_ofRules (rs : RuleSet) (m : Method) :
    (ofRules rs).resolve m = .ofSource (rs.resolve m) :=
  resolve_of_unowned rfl

theorem authorize_ofRules (rs : RuleSet) (m : Method) (caller : Option Caller) :
    (ofRules rs).authorize m caller = rs.evaluate m caller := by
  rw [authorize, resolve_ofRules, RuleSet.evaluate_eq]

end Authorizer
end CallGuard
