import CallGuard.Proofs.Profile.Listing

/-!
What is left of a profile without its sensitive fields, and stores that show the same of every
subject. The operations on the store keep them so, and list the same of both.
-/
namespace CallGuard.Profile

/-- A profile without its sensitive fields. -/
structure View where
  subject : String
  name : Option String
  city : Option String

def view (p : Profile) : View := ⟨p.subject, p.name, p.address.map (·.city)⟩

theorem view_apply {p q : Profile} (u : Update) (same : p.view = q.view) :
    (apply u p).view = (apply u q).view := by
  obtain ⟨subject, name, city⟩ : p.subject = q.subject ∧ p.name = q.name ∧
      p.address.map (·.city) = q.address.map (·.city) := by
    simpa [view] using same
  cases given : u.address <;> simp [view, apply, subject, name, city, given]

namespace Store

/-- The stores have the same subjects, and show the same of each. -/
structure Alike (s t : Store) : Prop where
  left : s.Keyed
  right : t.Keyed
  same : ∀ k, (s.get? k).map view = (t.get? k).map view

namespace Alike

variable {s t : Store}

theorem isSome_get? (h : Alike s t) (k : String) : (s.get? k).isSome = (t.get? k).isSome := by
  simpa using congrArg Option.isSome (h.same k)

theorem view_getD (h : Alike s t) (k : String) :
    ((s.get? k).getD (blank k)).view = ((t.get? k).getD (blank k)).view := by
  rw [← Option.getD_map view, ← Option.getD_map view, h.same k]

theorem view_updated (h : Alike s t) (subject : String) (u : Update) :
    (s.updated subject u).view = (t.updated subject u).view :=
  view_apply u (h.view_getD subject)

theorem put_updated (h : Alike s t) (subject : String) (u : Update) :
    Alike ⟨put subject (s.updated subject u) s.entries⟩
      ⟨put subject (t.updated subject u) t.entries⟩ where
  left := h.left.put (h.left.updated_subject subject u)
  right := h.right.put (h.right.updated_subject subject u)
  same k := by
    rw [get?_put, get?_put]
    by_cases here : k = subject
    · simp [here, h.view_updated]
    · simpa [here] using h.same k

theorem remove (h : Alike s t) (subject : String) :
    Alike (s.remove subject).2 (t.remove subject).2 where
  left := h.left.remove subject
  right := h.right.remove subject
  same k := by
    rw [get?_remove, get?_remove]
    by_cases here : k = subject
    · simp [here]
    · simpa [here] using h.same k

end Alike

/-! ### Listing -/

theorem Keyed.mem_map_view_list_iff {s : Store} (h : s.Keyed) {v : View} :
    v ∈ (s.list none).map view ↔ (s.get? v.subject).map view = some v := by
  rw [List.mem_map, Option.map_eq_some_iff]
  constructor
  · rintro ⟨p, listed, rfl⟩
    exact ⟨p, h.mem_list_iff.mp listed, rfl⟩
  · rintro ⟨p, found, rfl⟩
    exact ⟨p, h.mem_list_iff.mpr found, rfl⟩

theorem Keyed.ascending_views {s : Store} (h : s.Keyed) :
    ((s.list none).map view).Pairwise fun v w => v.subject < w.subject :=
  List.pairwise_map.mpr h.ascending_list

theorem Alike.map_view_list {s t : Store} (h : Alike s t) (limit : Option Nat) :
    (s.list limit).map view = (t.list limit).map view := by
  have whole : (s.list none).map view = (t.list none).map view := by
    apply List.eq_of_ascending _ h.left.ascending_views h.right.ascending_views
    intro v
    rw [h.left.mem_map_view_list_iff, h.right.mem_map_view_list_iff, h.same]
  cases limit with
  | none => exact whole
  | some n => rw [list_some, list_some, List.map_take, List.map_take, whole]

end Store
end CallGuard.Profile
