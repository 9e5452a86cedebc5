import CallGuard.Proofs.List
import CallGuard.Proofs.Method.Naming
import CallGuard.Proofs.Policy.Resolution
import Mathlib.Data.Finset.Preimage

/-!
Which rules of a list ever decide. A rule decides no method at all only if each of its patterns is
one of an earlier rule, or names a method of a service that an earlier rule has a pattern for: the
methods of a service are never used up by naming some of them.
-/
namespace CallGuard

/-! ### Methods of a service -/

namespace Method

/-- Methods of a service, a new one for each number. -/
def numbered (service : ServiceName) (n : Nat) : Method where
  service := service
  name := String.ofList (List.replicate (n + 1) 'm')
  name_valid := by
    have char : isNameChar 'm' = true := by decide
    rw [String.toList_ofList, segmentFault?_eq_none_iff]
    simp [char]

theorem numbered_injective (service : ServiceName) : Function.Injective (numbered service) := by
  intro a b same
  have lengths := congrArg (fun m : Method => m.name.toList.length) same
  simpa [numbered] using lengths

theorem exists_numbered_not_mem (service : ServiceName) (ms : List Method) :
    ∃ n, numbered service n ∉ ms := by
  obtain ⟨n, hn⟩ := Infinite.exists_notMem_finset
    (ms.toFinset.preimage (numbered service) (numbered_injective service).injOn)
  exact ⟨n, by simpa using hn⟩

end Method

/-! ### Patterns -/

namespace Pattern

/-- The pattern adds nothing to the other one, as they are written: they are the same, or the other
one is for all methods of the service. -/
inductive Within : Pattern → Pattern → Prop
  | same {p : Pattern} : Within p p
  | ofService {m : Method} : Within (.one m) (.allOf m.service)

theorem Within.covers {p q : Pattern} (h : p.Within q) {m : Method} (covered : p.covers m = true) :
    q.covers m = true := by
  cases h with
  | same => exact covered
  | ofService =>
    obtain rfl : _ = m := by simpa [Pattern.covers] using covered
    simp [Pattern.covers]

theorem within_of_covers_one {m : Method} {q : Pattern} (h : q.covers m = true) :
    (one m).Within q := by
  cases q with
  | one n =>
    obtain rfl : n = m := by simpa [covers] using h
    exact .same
  | allOf service =>
    obtain rfl : m.service = service := by simpa [covers] using h
    exact .ofService

/-- The methods that patterns name one by one. -/
def named (patterns : List Pattern) : List Method :=
  patterns.filterMap fun
    | one m => some m
    | allOf _ => none

theorem mem_named {patterns : List Pattern} {m : Method} :
    m ∈ named patterns ↔ one m ∈ patterns := by
  unfold named
  rw [List.mem_filterMap]
  constructor
  · rintro ⟨p, hp, same⟩
    cases p with
    | one n =>
      cases same
      exact hp
    | allOf service => cases same
  · intro listed
    exact ⟨_, listed, rfl⟩

/-- A pattern that is within none of some others covers a method that none of them covers. -/
theorem exists_covered_apart {p : Pattern} {others : List Pattern}
    (apart : ∀ q ∈ others, ¬ p.Within q) :
    ∃ m, p.covers m = true ∧ ∀ q ∈ others, ¬ q.covers m = true := by
  cases p with
  | one m =>
    exact ⟨m, by simp [covers], fun q hq covered => apart q hq (within_of_covers_one covered)⟩
  | allOf service =>
    obtain ⟨n, fresh⟩ := Method.exists_numbered_not_mem service (named others)
    refine ⟨.numbered service n, by simp [covers, Method.numbered], fun q hq covered => ?_⟩
    cases q with
    | one m =>
      obtain rfl : m = _ := by simpa [covers] using covered
      exact fresh (mem_named.mpr hq)
    | allOf other =>
      obtain rfl : service = other := by simpa [covers, Method.numbered] using covered
      exact apart _ hq .same

end Pattern

/-! ### Rules -/

namespace RuleSet

variable {rs : RuleSet} {m : Method} {i : Nat}

/-- Where the rule stands that decides the method: it is the first that covers it. -/
def place? (rs : RuleSet) (m : Method) : Option Nat := rs.rules.findIdx? (·.covers m)

/-- The patterns of the rules before a place. -/
def patternsBefore (rs : RuleSet) (i : Nat) : List Pattern :=
  (rs.rules.take i).flatMap (·.methods)

/-- The rules without the one at a place. -/
def without (rs : RuleSet) (i : Nat) : RuleSet := { rs with rules := rs.rules.eraseIdx i }

theorem covers_iff_mem {r : Rule} : r.covers m = true ↔ ∃ p ∈ r.methods, p.covers m = true := by
  simp [Rule.covers]

theorem place?_eq_some_iff (i : Fin rs.rules.length) :
    rs.place? m = some i.val ↔
      rs.rules[i].covers m = true ∧ ∀ q ∈ rs.patternsBefore i, ¬ q.covers m = true := by
  have before : (∀ q ∈ rs.patternsBefore i, ¬ q.covers m = true) ↔
      ∀ (j : Nat) (hj : j < i), ¬ rs.rules[j].covers m = true := by
    have length : min i.val rs.rules.length = i := Nat.min_eq_left i.isLt.le
    simp only [patternsBefore, List.mem_flatMap, List.mem_take_iff_getElem, covers_iff_mem, length]
    constructor
    · rintro none_covers j hj ⟨q, hq, covered⟩
      exact none_covers q ⟨_, ⟨j, hj, rfl⟩, hq⟩ covered
    · rintro none_covers q ⟨_, ⟨j, hj, rfl⟩, hq⟩ covered
      exact none_covers j hj ⟨q, hq, covered⟩
  rw [place?, List.findIdx?_eq_some_iff_getElem, before]
  constructor
  · rintro ⟨_, covered, first⟩
    exact ⟨covered, first⟩
  · rintro ⟨covered, first⟩
    exact ⟨i.isLt, covered, first⟩

/-- The rule decides some method just if one of its patterns is within none of the rules before. -/
theorem exists_place?_iff (i : Fin rs.rules.length) :
    (∃ m, rs.place? m = some i.val) ↔
      ∃ p ∈ rs.rules[i].methods, ∀ q ∈ rs.patternsBefore i, ¬ p.Within q := by
  simp only [place?_eq_some_iff]
  constructor
  · rintro ⟨m, covered, first⟩
    obtain ⟨p, hp, covered⟩ := covers_iff_mem.mp covered
    exact ⟨p, hp, fun q hq within => first q hq (within.covers covered)⟩
  · rintro ⟨p, hp, apart⟩
    obtain ⟨m, covered, first⟩ := Pattern.exists_covered_apart apart
    exact ⟨m, covers_iff_mem.mpr ⟨p, hp, covered⟩, first⟩

/-- Without a rule that does not decide it, a method is decided as before. -/
theorem resolve_without (passed : rs.place? m ≠ some i) :
    (rs.without i).resolve m = rs.resolve m := by
  have same : (rs.without i).rule? m = rs.rule? m := List.find?_eraseIdx_of_findIdx?_ne passed
  rw [resolve, resolve, same]
  rfl

theorem resolve_of_place? {i : Fin rs.rules.length} (h : rs.place? m = some i.val) :
    rs.resolve m = .rule rs.rules[i] := by
  apply resolve_of_first
  rw [rule?, List.find?_eq_bind_findIdx?_getElem?, ← place?, h]
  simp

theorem evaluate_congr {rs' : RuleSet} (same : rs.resolve m = rs'.resolve m)
    (caller : Option Caller) : rs.evaluate m caller = rs'.evaluate m caller := by
  rw [evaluate_eq, evaluate_eq, same]

/-- A rule decides some method just if one of its patterns is within none of the rules before it. If
all of them are, nobody can tell whether the rule is there. An authorizer of nothing but the rules
decides as they do. -/
theorem decides_iff_uncovered (rs : RuleSet) (i : Fin rs.rules.length) :
    ((∃ m, rs.place? m = some i.val ∧ rs.resolve m = .rule rs.rules[i]) ↔
      ∃ p ∈ rs.rules[i].methods, ∀ q ∈ rs.patternsBefore i, ¬ p.Within q) ∧
    ((∀ p ∈ rs.rules[i].methods, ∃ q ∈ rs.patternsBefore i, p.Within q) →
      ∀ m, (rs.without i).resolve m = rs.resolve m ∧
        ∀ caller, (rs.without i).evaluate m caller = rs.evaluate m caller) ∧
    ∀ (alone : RuleSet) (m : Method),
      (Authorizer.ofRules alone).resolve m = .ofSource (alone.resolve m) ∧
        ∀ caller, (Authorizer.ofRules alone).authorize m caller = alone.evaluate m caller := by
  refine ⟨?_, ?_, ?_⟩
  · rw [← exists_place?_iff]
    exact exists_congr fun m => and_iff_left_of_imp resolve_of_place?
  · intro covered m
    have never : rs.place? m ≠ some i.val := by
      intro decided
      obtain ⟨p, hp, apart⟩ := (exists_place?_iff i).mp ⟨m, decided⟩
      obtain ⟨q, hq, within⟩ := covered p hp
      exact apart q hq within
    have resolved := resolve_without never
    exact ⟨resolved, evaluate_congr resolved⟩
  · intro alone m
    exact ⟨Authorizer.resolve_ofRules alone m, Authorizer.authorize_ofRules alone m⟩

namespace Sample

def users : ServiceName := ⟨"t.Users", rfl⟩

def delete : Method := ⟨users, "Delete", rfl⟩

/-- The rule that denies one method comes too late. -/
def policy : RuleSet :=
  ⟨[.allow "all" [.allOf users], .deny "none" [.one delete],
    .allow "rest" [.one delete, .allOf ⟨"t.Admin", rfl⟩]], .deny⟩

end Sample

theorem sample_late_denial :
    (∀ p ∈ [Pattern.one Sample.delete], ∃ q ∈ Sample.policy.patternsBefore 1, p.Within q) ∧
      (Sample.policy.without 1).evaluate Sample.delete none =
        Sample.policy.evaluate Sample.delete none ∧
      (Authorizer.ofRules (Sample.policy.without 1)).authorize Sample.delete none =
        (Authorizer.ofRules Sample.policy).authorize Sample.delete none := by
  have covered : ∀ p ∈ [Pattern.one Sample.delete],
      ∃ q ∈ Sample.policy.patternsBefore 1, p.Within q := by
    intro p hp
    obtain rfl := List.mem_singleton.mp hp
    exact ⟨.allOf Sample.users, .head _, .ofService⟩
  obtain ⟨-, unnoticed, alone⟩ := decides_iff_uncovered Sample.policy ⟨1, by decide⟩
  have same := (unnoticed covered Sample.delete).2 none
  refine ⟨covered, same, ?_⟩
  rw [(alone _ _).2, (alone _ _).2, same]

end RuleSet
end CallGuard
