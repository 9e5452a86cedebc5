import CallGuard.Status

/-! Who makes a call: a verified subject, a display name and a set of roles. -/
namespace CallGuard

/-- A set of roles, listed in ascending order. -/
structure RoleSet where
  toList : List String
  sorted : toList.Pairwise (· < ·)
  deriving DecidableEq

namespace RoleSet

def insertInto (role : String) : List String → List String
  | [] => [role]
  | r :: rest =>
    if role < r then role :: r :: rest
    else if role = r then r :: rest
    else r :: insertInto role rest

theorem mem_insertInto {x role : String} {rs : List String} :
    x ∈ insertInto role rs ↔ x = role ∨ x ∈ rs := by
  induction rs with
  | nil => simp [insertInto]
  | cons r rest ih =>
    unfold insertInto
    split
    · simp
    · split
      · simp_all
      · simp only [List.mem_cons, ih]
        grind

theorem lt_of_not_lt {a b : String} (h : ¬ a < b) (hne : a ≠ b) : b < a := by
  rcases String.le_total a b with hab | hba
  · exact absurd (String.le_antisymm hab (String.not_lt.1 h)) hne
  · exact String.not_le.1 fun hab => hne (String.le_antisymm hab hba)

theorem pairwise_insertInto (role : String) {rs : List String} (h : rs.Pairwise (· < ·)) :
    (insertInto role rs).Pairwise (· < ·) := by
  induction rs with
  | nil => simp [insertInto]
  | cons r rest ih =>
    obtain ⟨hr, hrest⟩ := List.pairwise_cons.1 h
    unfold insertInto
    split
    · rename_i hlt
      refine List.pairwise_cons.2 ⟨fun x hx => ?_, h⟩
      rcases List.mem_cons.1 hx with rfl | hx
      · exact hlt
      · exact String.lt_trans hlt (hr x hx)
    · split
      · exact h
      · rename_i hlt hne
        refine List.pairwise_cons.2 ⟨fun x hx => ?_, ih hrest⟩
        rcases mem_insertInto.1 hx with rfl | hx
        · exact lt_of_not_lt hlt hne
        · exact hr x hx

def empty : RoleSet := ⟨[], .nil⟩

def insert (role : String) (rs : RoleSet) : RoleSet :=
  ⟨insertInto role rs.toList, pairwise_insertInto role rs.sorted⟩

def ofList (roles : List String) : RoleSet := roles.foldr insert empty

def contains (rs : RoleSet) (role : String) : Bool := rs.toList.contains role

def isEmpty (rs : RoleSet) : Bool := rs.toList.isEmpty

/-- The roles of `required` that are not in the set, in ascending order. -/
def missing (rs required : RoleSet) : List String :=
  required.toList.filter fun role => !rs.contains role

end RoleSet

/-- A caller whose credential has been verified. -/
structure Caller where
  subject : String
  name : Option String
  roles : RoleSet
  deriving DecidableEq

namespace Caller

/-- The caller, if there is one. -/
def require (caller : Option Caller) : Except Status Caller :=
  caller.elim (.error .authenticationRequired) .ok

/-- The caller, if there is one and it holds the role. -/
def requireRole (caller : Option Caller) (role : String) : Except Status Caller := do
  let c ← require caller
  if c.roles.contains role then return c else throw .insufficientRole

end Caller
end CallGuard
