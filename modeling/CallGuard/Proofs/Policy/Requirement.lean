import CallGuard.Policy.Access
import CallGuard.Proofs.List
import Mathlib.Order.Basic

/-!
What is asked of a caller, as a list of roles in any order and with any repetitions, and the answer
that each caller gets.
-/
namespace CallGuard

namespace RoleSet

/-- There is one way to list roles in ascending order. -/
theorem eq_of_sorted {as bs : List String} (ha : as.Pairwise (· < ·)) (hb : bs.Pairwise (· < ·))
    (mem : ∀ role, role ∈ as ↔ role ∈ bs) : as = bs :=
  List.eq_of_ascending id ha hb mem

theorem mem_ofList {role : String} {roles : List String} :
    role ∈ (ofList roles).toList ↔ role ∈ roles := by
  unfold ofList
  induction roles with
  | nil => simp [empty]
  | cons r rest ih => rw [List.foldr_cons, insert, mem_insertInto, ih, List.mem_cons]

theorem mem_missing {held required : RoleSet} {role : String} :
    role ∈ held.missing required ↔ role ∈ required.toList ∧ role ∉ held.toList := by
  simp [missing, contains]

theorem sorted_missing (held required : RoleSet) : (held.missing required).Pairwise (· < ·) :=
  required.sorted.filter _

end RoleSet

/-- The answer to a caller of whom nothing is asked, or to be known and to hold every role of a
list. -/
inductive Meets : Option (List String) → Option Caller → Except Denial Unit → Prop
  | anyone {caller : Option Caller} : Meets none caller (.ok ())
  | unknown {roles : List String} : Meets (some roles) none (.error .authenticationRequired)
  | held {roles : List String} {c : Caller} (h : ∀ role ∈ roles, role ∈ c.roles.toList) :
      Meets (some roles) (some c) (.ok ())
  | lacking {roles missing : List String} {c : Caller} (ascending : missing.Pairwise (· < ·))
      (mem : ∀ role, role ∈ missing ↔ role ∈ roles ∧ role ∉ c.roles.toList)
      (some_missing : missing ≠ []) :
      Meets (some roles) (some c) (.error (.insufficientRole missing))

namespace Access

theorem check_anyone_iff {caller : Option Caller} {outcome : Except Denial Unit} :
    anyone.check caller = outcome ↔ Meets none caller outcome := by
  constructor
  · rintro rfl
    exact .anyone
  · intro answer
    cases answer
    rfl

/-- The set of the roles that are asked for may be given by any list of them. -/
theorem check_holding_iff {required : RoleSet} {roles : List String}
    (same : ∀ role, role ∈ required.toList ↔ role ∈ roles) {caller : Option Caller}
    {outcome : Except Denial Unit} :
    (holding required).check caller = outcome ↔ Meets (some roles) caller outcome := by
  cases caller with
  | none =>
    constructor
    · rintro rfl
      exact .unknown
    · intro answer
      cases answer
      rfl
  | some c =>
    have lacks : ∀ role, role ∈ c.roles.missing required ↔
        role ∈ roles ∧ role ∉ c.roles.toList := by
      intro role
      rw [RoleSet.mem_missing, same]
    constructor
    · rintro rfl
      simp only [check]
      split
      · rename_i none_missing
        refine .held fun role listed => ?_
        by_contra lacked
        simpa [none_missing] using (lacks role).mpr ⟨listed, lacked⟩
      · rename_i some_missing
        exact .lacking (RoleSet.sorted_missing _ _) lacks some_missing
    · intro answer
      cases answer with
      | held h =>
        have none_missing : c.roles.missing required = [] := by
          rw [List.eq_nil_iff_forall_not_mem]
          intro role lacked
          obtain ⟨listed, lacked⟩ := (lacks role).mp lacked
          exact lacked (h role listed)
        simp [check, none_missing]
      | @lacking _ missing _ ascending mem some_missing =>
        have listed := RoleSet.eq_of_sorted (RoleSet.sorted_missing c.roles required) ascending
          fun role => (lacks role).trans (mem role).symm
        cases missing with
        | nil => exact absurd rfl some_missing
        | cons role rest => simp [check, listed]

theorem check_authenticated (caller : Option Caller) :
    authenticated.check caller = (holding .empty).check caller := by
  cases caller <;> rfl

/-- The roles that are asked for, if a caller must be known at all. -/
def roles? : Access → Option (List String)
  | anyone => none
  | authenticated => some []
  | holding required => some required.toList

theorem check_iff_meets {access : Access} {caller : Option Caller} {outcome : Except Denial Unit} :
    access.check caller = outcome ↔ Meets access.roles? caller outcome := by
  cases access with
  | anyone => exact check_anyone_iff
  | authenticated =>
    rw [check_authenticated]
    exact check_holding_iff (by simp [RoleSet.empty])
  | holding required => exact check_holding_iff fun _ => .rfl

/-- For want of an identity or of roles: no access has another reason to deny. -/
theorem check_eq_error_cases {access : Access} {caller : Option Caller} {denial : Denial}
    (denied : access.check caller = .error denial) :
    (caller = none ∧ denial = .authenticationRequired) ∨
      ∃ c roles, caller = some c ∧ access = .holding roles ∧ c.roles.missing roles ≠ [] ∧
        denial = .insufficientRole (c.roles.missing roles) := by
  cases access with
  | anyone => cases denied
  | authenticated =>
    cases caller with
    | none =>
      cases denied
      exact .inl ⟨rfl, rfl⟩
    | some c => cases denied
  | holding roles =>
    cases caller with
    | none =>
      cases denied
      exact .inl ⟨rfl, rfl⟩
    | some c =>
      simp only [check] at denied
      split at denied
      · cases denied
      · rename_i some_missing
        cases denied
        exact .inr ⟨c, roles, rfl, rfl, some_missing, rfl⟩

theorem check_ofRoles_iff {roles : List String} {caller : Option Caller}
    {outcome : Except Denial Unit} :
    (ofRoles roles).check caller = outcome ↔ Meets (some roles) caller outcome := by
  simp only [ofRoles, RoleSet.isEmpty, List.isEmpty_iff]
  split
  · rename_i no_roles
    rw [check_authenticated]
    refine check_holding_iff fun role => ?_
    rw [← @RoleSet.mem_ofList role roles, no_roles]
    rfl
  · exact check_holding_iff fun _ => RoleSet.mem_ofList

end Access
end CallGuard
