import CallGuard.Proofs.Except
import CallGuard.Proofs.List
import CallGuard.Proofs.Policy.Requirement
import CallGuard.Proofs.Text.Words
import CallGuard.Token.Identity

/-!
Who verified claims describe: what each of the three claims must be, and what the caller has of it.
Roles can be listed or written in one text, and `caller_by_claims` says that nothing else than the
set of them shows, whichever of the two is chosen.
-/
namespace CallGuard

open Token

theorem RoleSet.ofList_eq_iff {listed : List String} {roles : RoleSet} :
    ofList listed = roles ↔ ∀ role, role ∈ roles.toList ↔ role ∈ listed := by
  constructor
  · rintro rfl role
    exact mem_ofList
  · intro mem
    have same : (ofList listed).toList = roles.toList :=
      eq_of_sorted (ofList listed).sorted roles.sorted fun role =>
        mem_ofList.trans (mem role).symm
    cases roles
    cases same
    rfl

/-- A claim that is not there and one that is null give no name, and a text gives itself. -/
inductive GivesName : Option String → Option Json → Prop
  | absent : GivesName none none
  | null : GivesName none (some .null)
  | text {s : String} : GivesName (some s) (some (.str s))

/-- A claim that is not there and one that is null give no roles, a list of texts gives those in it,
and a text gives the words in it. -/
inductive GivesRoles (roles : RoleSet) : Option Json → Prop
  | absent (nothing : ∀ role, role ∉ roles.toList) : GivesRoles roles none
  | null (nothing : ∀ role, role ∉ roles.toList) : GivesRoles roles (some .null)
  | listed {items : List String} (mem : ∀ role, role ∈ roles.toList ↔ role ∈ items) :
      GivesRoles roles (some (.arr (items.map .str)))
  | text {s : String}
      (mem : ∀ role, role ∈ roles.toList ↔ Text.IsRun role.toList s.toList) :
      GivesRoles roles (some (.str s))

namespace ClaimMapping

variable {m : ClaimMapping} {claims other : Claims}

/-- The caller is the one that the claims describe. -/
structure Describes (m : ClaimMapping) (claims : Claims) (c : Caller) : Prop where
  subject : claims.get? "sub" = some (.str c.subject)
  subject_ne : c.subject ≠ ""
  name : GivesName c.name (claims.get? m.name)
  roles : GivesRoles c.roles (claims.get? m.roles)

/-! ### Claim by claim -/

theorem subject_eq_ok_iff {s : String} :
    subject claims = .ok s ↔ claims.get? "sub" = some (.str s) ∧ s ≠ "" := by
  constructor
  · intro read
    unfold subject at read
    split at read
    · cases read
    · rename_i given
      split at read
      · cases read
      · rename_i filled
        cases read
        exact ⟨given, by simpa using filled⟩
    · cases read
  · rintro ⟨given, nonempty⟩
    have filled : ¬ s.isEmpty = true := by simpa using nonempty
    rw [subject, given]
    exact if_neg filled

theorem displayName_eq_ok_iff {name : Option String} :
    m.displayName claims = .ok name ↔ GivesName name (claims.get? m.name) := by
  unfold displayName
  cases claims.get? m.name with
  | none =>
    constructor
    · rintro ⟨⟩
      exact .absent
    · rintro ⟨⟩
      rfl
  | some v =>
    constructor
    · intro given
      cases v <;> cases given
      · exact .null
      · exact .text
    · rintro ⟨⟩ <;> rfl

theorem role_eq_ok_iff {v : Json} {s : String} : role v = .ok s ↔ v = .str s := by
  cases v <;> simp [role]

/-- All of a list must be texts, and then the roles are these. -/
theorem mapM_role_eq_ok_iff {items : List Json} {listed : List String} :
    items.mapM role = .ok listed ↔ items = listed.map .str := by
  rw [Except.mapM_eq_ok_iff]
  simp only [role_eq_ok_iff]
  rw [← List.forall₂_map_right_iff, List.forall₂_eq_eq_eq]

theorem exists_roleList_iff {roles : RoleSet} :
    (∃ listed, m.roleList claims = .ok listed ∧ RoleSet.ofList listed = roles) ↔
      GivesRoles roles (claims.get? m.roles) := by
  simp only [RoleSet.ofList_eq_iff]
  unfold roleList
  cases claims.get? m.roles with
  | none =>
    constructor
    · rintro ⟨_, ⟨⟩, mem⟩
      exact .absent (by simpa using mem)
    · rintro ⟨nothing⟩
      exact ⟨[], rfl, by simpa using nothing⟩
  | some v =>
    constructor
    · rintro ⟨listed, given, mem⟩
      cases v with
      | null =>
        cases given
        exact .null (by simpa using mem)
      | str s =>
        cases given
        exact .text fun role => (mem role).trans Text.mem_words_iff
      | arr items =>
        obtain rfl := mapM_role_eq_ok_iff.mp given
        exact .listed mem
      | _ => cases given
    · intro gives
      cases gives with
      | null nothing => exact ⟨[], rfl, by simpa using nothing⟩
      | @listed items mem => exact ⟨items, mapM_role_eq_ok_iff.mpr rfl, mem⟩
      | @text s mem =>
        exact ⟨Text.words s, rfl, fun role => (mem role).trans Text.mem_words_iff.symm⟩

/-! ### Callers -/

theorem caller_eq_ok_iff {c : Caller} : m.caller claims = .ok c ↔ m.Describes claims c := by
  simp only [caller, Except.bind_eq_ok_iff, subject_eq_ok_iff, displayName_eq_ok_iff,
    Except.pure_eq_ok_iff]
  constructor
  · rintro ⟨subject, ⟨given, nonempty⟩, name, named, listed, roles, rfl⟩
    exact ⟨given, nonempty, named, exists_roleList_iff.mp ⟨listed, roles, rfl⟩⟩
  · rintro ⟨given, nonempty, named, roles⟩
    obtain ⟨listed, read, same⟩ := exists_roleList_iff.mpr roles
    exact ⟨_, ⟨given, nonempty⟩, _, named, listed, read, by rw [same]⟩

theorem exists_givesName_iff {claim : Option Json} :
    (∃ name, GivesName name claim) ↔
      claim = none ∨ claim = some .null ∨ ∃ s, claim = some (.str s) := by
  constructor
  · rintro ⟨name, gives⟩
    cases gives with
    | absent => exact .inl rfl
    | null => exact .inr (.inl rfl)
    | text => exact .inr (.inr ⟨_, rfl⟩)
  · rintro (rfl | rfl | ⟨s, rfl⟩)
    · exact ⟨none, .absent⟩
    · exact ⟨none, .null⟩
    · exact ⟨some s, .text⟩

theorem exists_givesRoles_iff {claim : Option Json} :
    (∃ roles, GivesRoles roles claim) ↔
      claim = none ∨ claim = some .null ∨ (∃ s, claim = some (.str s)) ∨
        ∃ items, claim = some (.arr items) ∧ ∀ item ∈ items, ∃ s, item = .str s := by
  constructor
  · rintro ⟨roles, gives⟩
    cases gives with
    | absent => exact .inl rfl
    | null => exact .inr (.inl rfl)
    | text => exact .inr (.inr (.inl ⟨_, rfl⟩))
    | listed => exact .inr (.inr (.inr ⟨_, rfl, by simp⟩))
  · rintro (rfl | rfl | ⟨s, rfl⟩ | ⟨items, rfl, texts⟩)
    · exact ⟨.empty, .absent (by simp [RoleSet.empty])⟩
    · exact ⟨.empty, .null (by simp [RoleSet.empty])⟩
    · exact ⟨.ofList (Text.words s), .text fun role =>
        RoleSet.mem_ofList.trans Text.mem_words_iff⟩
    · obtain ⟨listed, read⟩ := List.exists_forall₂_iff.mpr texts
      rw [← List.forall₂_map_right_iff, List.forall₂_eq_eq_eq] at read
      subst read
      exact ⟨.ofList listed, .listed fun role => RoleSet.mem_ofList⟩

theorem exists_caller_iff :
    (∃ c, m.caller claims = .ok c) ↔
      (∃ s, claims.get? "sub" = some (.str s) ∧ s ≠ "") ∧
      (∃ name, GivesName name (claims.get? m.name)) ∧
      ∃ roles, GivesRoles roles (claims.get? m.roles) := by
  simp only [caller_eq_ok_iff]
  constructor
  · rintro ⟨c, described⟩
    exact ⟨⟨_, described.subject, described.subject_ne⟩, ⟨_, described.name⟩, _, described.roles⟩
  · rintro ⟨⟨subject, given, nonempty⟩, ⟨name, named⟩, roles, gives⟩
    exact ⟨⟨subject, name, roles⟩, given, nonempty, named, gives⟩

/-- Claims that differ in the roles alone, and not in which roles these are, are of one caller. -/
theorem caller_congr {listed spaced : List String} (elsewhere : m.roles ≠ "sub")
    (unnamed : m.roles ≠ m.name)
    (same : ∀ name, name ≠ m.roles → claims.get? name = other.get? name)
    (given : m.roleList claims = .ok listed) (given' : m.roleList other = .ok spaced)
    (mem : ∀ role, role ∈ listed ↔ role ∈ spaced) : m.caller claims = m.caller other := by
  have subjects : subject claims = subject other := by
    rw [subject, subject, same "sub" elsewhere.symm]
  have names : m.displayName claims = m.displayName other := by
    rw [displayName, displayName, same m.name unnamed.symm]
  have sets : RoleSet.ofList listed = RoleSet.ofList spaced :=
    RoleSet.ofList_eq_iff.mpr fun role => RoleSet.mem_ofList.trans (mem role).symm
  simp only [caller, subjects, names, given, given', Except.bind_of_ok rfl, sets]

/-- Claims are of a caller just if they give it a subject that is not empty and, if anything, a text
for its name and texts, listed or in one, for its roles; and the caller is the one with this subject
and name, and with the roles that are listed or the words of their text. Where roles have a claim of
their own, it makes no difference in which of the two ways they are given, nor in which order, how
often and with what white space between them. -/
theorem caller_by_claims (m : ClaimMapping) (claims : Claims) :
    ((∃ c, m.caller claims = .ok c) ↔
      (∃ s, claims.get? "sub" = some (.str s) ∧ s ≠ "") ∧
      (claims.get? m.name = none ∨ claims.get? m.name = some .null ∨
        ∃ s, claims.get? m.name = some (.str s)) ∧
      (claims.get? m.roles = none ∨ claims.get? m.roles = some .null ∨
        (∃ s, claims.get? m.roles = some (.str s)) ∨
        ∃ items, claims.get? m.roles = some (.arr items) ∧ ∀ item ∈ items, ∃ s, item = .str s)) ∧
    (∀ c, m.caller claims = .ok c ↔ m.Describes claims c) ∧
    ∀ (other : Claims) (listed spaced : List String) (text : String),
      m.roles ≠ "sub" → m.roles ≠ m.name →
      (∀ name, name ≠ m.roles → claims.get? name = other.get? name) →
      claims.get? m.roles = some (.arr (listed.map .str)) →
      other.get? m.roles = some (.str text) → Text.Spaced spaced text.toList →
      (∀ role, role ∈ listed ↔ role ∈ spaced) → m.caller claims = m.caller other := by
  refine ⟨?_, fun _ => caller_eq_ok_iff, ?_⟩
  · rw [exists_caller_iff, exists_givesName_iff, exists_givesRoles_iff]
  · intro other listed spaced text elsewhere unnamed same given given' writes mem
    have read : m.roleList claims = .ok listed := by
      rw [roleList, given]
      exact mapM_role_eq_ok_iff.mpr rfl
    have read' : m.roleList other = .ok spaced := by
      rw [roleList, given']
      exact congrArg _ (Text.words_of_spaced writes)
    exact caller_congr elsewhere unnamed same read read' mem

namespace Sample

/-- Claims with a subject, and what they say of its roles. -/
def claimsOf (roles : Json) : Claims := [("sub", .str "u"), ("roles", roles)]

/-- Two roles, between wide, narrow and unbroken spaces. -/
def text : String := "\u3000ops\t\u00a0admin\n"

theorem text_spaced : Text.Spaced ["ops", "admin"] text.toList := by
  have ops : Text.IsWord "ops".toList := ⟨by decide, by simp [Text.isBlank]⟩
  have admin : Text.IsWord "admin".toList := ⟨by decide, by simp [Text.isBlank]⟩
  refine .blank rfl (.word ops ?_ (.blank rfl (.blank rfl (.word admin ?_ (.blank rfl .nil)))))
  · rintro c ⟨⟩
    rfl
  · rintro c ⟨⟩
    rfl

end Sample

theorem sample_roles_listed_or_spaced :
    ∃ c, ClaimMapping.default.caller
        (Sample.claimsOf (.arr [.str "admin", .str "ops", .str "admin"])) = .ok c ∧
      ClaimMapping.default.caller (Sample.claimsOf (.str Sample.text)) = .ok c ∧
      c.roles.toList = ["admin", "ops"] := by
  have same := (caller_by_claims .default
    (Sample.claimsOf (.arr [.str "admin", .str "ops", .str "admin"]))).2.2
    (Sample.claimsOf (.str Sample.text)) ["admin", "ops", "admin"] ["ops", "admin"] Sample.text
    (by decide) (by decide) ?_ rfl rfl Sample.text_spaced (by simp)
  · refine ⟨⟨"u", none, .ofList ["admin", "ops", "admin"]⟩, by rfl, ?_, by rfl⟩
    rw [← same]
    rfl
  · intro name other
    have apart : "roles" ≠ name := fun named => other named.symm
    simp [Sample.claimsOf, Claims.get?, List.find?_cons, apart]

end ClaimMapping
end CallGuard
