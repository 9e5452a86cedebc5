import CallGuard.Profile.Store
import CallGuard.Proofs.List
import Mathlib.Data.List.Nodup

/-!
What each operation on the store does to what can be looked up, and the invariant that every profile
is kept under its own subject.
-/
namespace CallGuard.Profile

theorem apply_subject (u : Update) (p : Profile) : (apply u p).subject = p.subject := rfl

/-- An update is refused for an email without an `@` or a blank name, whatever else it gives. -/
theorem Update.fault?_ne_none_iff {u : Update} :
    u.fault? ≠ none ↔
      (∃ email, u.email = some email ∧ '@' ∉ email.toList) ∨
        ∃ name, u.name = some name ∧ Text.isBlankText name = true := by
  unfold fault?
  cases given : u.email with
  | none => cases u.name <;> simp
  | some email =>
    by_cases well : '@' ∈ email.toList
    · cases u.name <;> simp [Option.filter, well]
    · simp [Option.filter, well]

namespace Store

/-! ### Looking up -/

theorem get?_nil (k : String) : get? ⟨[]⟩ k = none := rfl

theorem get?_cons (e : String × Profile) (rest : List (String × Profile)) (k : String) :
    get? ⟨e :: rest⟩ k = if e.1 = k then some e.2 else get? ⟨rest⟩ k := by
  by_cases here : e.1 = k <;> simp [get?, here]

theorem get?_put (subject : String) (p : Profile) (entries : List (String × Profile)) (k : String) :
    get? ⟨put subject p entries⟩ k = if k = subject then some p else get? ⟨entries⟩ k := by
  induction entries with
  | nil => simp [put, get?_cons, get?_nil, eq_comm (a := k)]
  | cons e rest ih =>
    by_cases here : e.1 = subject
    · rw [put, if_pos here, get?_cons, get?_cons]
      grind
    · rw [put, if_neg here, get?_cons, get?_cons, ih]
      grind

theorem get?_remove (s : Store) (subject k : String) :
    (s.remove subject).2.get? k = if k = subject then none else s.get? k := by
  obtain ⟨entries⟩ := s
  simp only [remove]
  induction entries with
  | nil => simp [get?_nil]
  | cons e rest ih =>
    by_cases here : e.1 = subject
    · rw [List.filter_cons_of_neg (by simpa using here), ih, get?_cons]
      grind
    · rw [List.filter_cons_of_pos (by simpa using here), get?_cons, get?_cons, ih]
      grind

/-- The profile that an update leaves the subject with. -/
def updated (s : Store) (subject : String) (u : Update) : Profile :=
  apply u ((s.get? subject).getD (blank subject))

theorem update_eq (s : Store) (subject : String) (u : Update) :
    s.update subject u =
      match u.fault? with
      | some fault => .error fault
      | none => .ok (s.updated subject u, ⟨put subject (s.updated subject u) s.entries⟩) := rfl

/-! ### Keys -/

/-- Each profile is kept under its own subject, and no subject has two. -/
structure Keyed (s : Store) : Prop where
  own : ∀ e ∈ s.entries, e.2.subject = e.1
  distinct : (s.entries.map (·.1)).Nodup

theorem mem_of_get? {s : Store} {k : String} {p : Profile} (h : s.get? k = some p) :
    (k, p) ∈ s.entries := by
  obtain ⟨⟨k', p'⟩, found, rfl⟩ := Option.map_eq_some_iff.mp h
  obtain rfl : k' = k := by simpa using List.find?_some found
  exact List.mem_of_find?_eq_some found

theorem mem_put {subject : String} {p : Profile} {entries : List (String × Profile)}
    {e : String × Profile} (h : e ∈ put subject p entries) :
    e = (subject, p) ∨ e ∈ entries := by
  induction entries with
  | nil => simpa [put] using h
  | cons f rest ih =>
    unfold put at h
    split at h <;> grind

theorem keys_put (subject : String) (p : Profile) (entries : List (String × Profile)) :
    (put subject p entries).map (·.1) =
      if subject ∈ entries.map (·.1) then entries.map (·.1)
      else entries.map (·.1) ++ [subject] := by
  induction entries with
  | nil => rfl
  | cons e rest ih =>
    unfold put
    by_cases here : e.1 = subject
    · simp [here]
    · simp only [here, ↓reduceIte, List.map_cons, ih, List.mem_cons, Ne.symm here, false_or]
      split <;> rfl

namespace Keyed

variable {s : Store}

theorem mem_iff (h : s.Keyed) {k : String} {p : Profile} :
    (k, p) ∈ s.entries ↔ s.get? k = some p := by
  constructor
  · intro listed
    rw [get?, List.find?_eq_some_of_unique listed (by simp)]
    · rfl
    · intro e he same
      exact List.inj_on_of_nodup_map h.distinct he listed (by simpa using same)
  · exact mem_of_get?

theorem subject_of_get? (h : s.Keyed) {k : String} {p : Profile} (found : s.get? k = some p) :
    p.subject = k :=
  h.own _ (mem_of_get? found)

theorem put (h : s.Keyed) {p : Profile} {subject : String} (own : p.subject = subject) :
    Keyed ⟨put subject p s.entries⟩ where
  own e he := by
    rcases mem_put he with rfl | he
    · exact own
    · exact h.own e he
  distinct := by
    rw [keys_put]
    split
    · exact h.distinct
    · rename_i new
      exact List.nodup_append.mpr ⟨h.distinct, by simp, by grind⟩

theorem remove (h : s.Keyed) (subject : String) : (s.remove subject).2.Keyed where
  own e he := h.own e (List.mem_filter.mp he).1
  distinct := (List.filter_sublist.map _).nodup h.distinct

theorem updated_subject (h : s.Keyed) (subject : String) (u : Update) :
    (s.updated subject u).subject = subject := by
  rw [updated, apply_subject]
  cases found : s.get? subject with
  | none => rfl
  | some p => exact h.subject_of_get? found

end Keyed

/-- The stores that the service starts with. -/
theorem keyed_ofList (profiles : List Profile) : (ofList profiles).Keyed := by
  have kept : ∀ s : Store, s.Keyed → (profiles.foldl insert s).Keyed := by
    induction profiles with
    | nil => exact fun _ keyed => keyed
    | cons p rest ih => exact fun s keyed => ih (s.insert p) (keyed.put rfl)
  exact kept empty ⟨by simp [empty], by simp [empty]⟩

/-! ### Stores that operations lead to -/

/-- What comes of an empty store by the operations on it. -/
inductive Reachable : Store → Prop
  | empty : Reachable empty
  | insert {s : Store} (reached : Reachable s) (p : Profile) : Reachable (s.insert p)
  | update {s t : Store} {subject : String} {u : Update} {p : Profile} (reached : Reachable s)
      (made : s.update subject u = .ok (p, t)) : Reachable t
  | remove {s : Store} (reached : Reachable s) (subject : String) :
      Reachable (s.remove subject).2

theorem Keyed.update {s t : Store} {subject : String} {u : Update} {p : Profile} (keyed : s.Keyed)
    (made : s.update subject u = .ok (p, t)) : t.Keyed := by
  rw [update_eq] at made
  split at made
  · cases made
  · cases made
    exact keyed.put (keyed.updated_subject subject u)

theorem Reachable.keyed {s : Store} (reached : s.Reachable) : s.Keyed := by
  induction reached with
  | empty => exact keyed_ofList []
  | insert _ p keyed => exact keyed.put rfl
  | update _ made keyed => exact keyed.update made
  | remove _ subject keyed => exact keyed.remove subject

end Store
end CallGuard.Profile
