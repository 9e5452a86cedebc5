import CallGuard.Proofs.Profile.Store
import CallGuard.Proofs.Text.Order

/-!
What is listed of a store. No two profiles have one subject, so that there is one way only to list
them all in the order of their subjects: `Lists` describes it, and says nothing of the order in
which the entries are kept.
-/
namespace CallGuard.Profile.Store

/-- The profiles that are stored, each once, in the strict order of the bytes of their subjects. -/
structure Lists (s : Store) (listed : List Profile) : Prop where
  stored : ∀ p, p ∈ listed ↔ ∃ k, s.get? k = some p
  once : listed.Nodup
  ascending : listed.Pairwise fun p q => Bytes.ofString p.subject < Bytes.ofString q.subject

theorem Lists.unique {s : Store} {listed listed' : List Profile} (h : s.Lists listed)
    (h' : s.Lists listed') : listed = listed' := by
  apply List.eq_of_ascending _ h.ascending h'.ascending
  intro p
  rw [h.stored, h'.stored]

/-! ### Sorting -/

theorem perm_list (s : Store) : (s.list none).Perm (s.entries.map (·.2)) :=
  List.mergeSort_perm _ _

theorem length_list (s : Store) : (s.list none).length = s.entries.length := by
  rw [s.perm_list.length_eq, List.length_map]

theorem list_some (s : Store) (n : Nat) : s.list (some n) = (s.list none).take n := rfl

theorem pairwise_list (s : Store) : (s.list none).Pairwise fun p q => p.subject ≤ q.subject := by
  have sorted : (s.list none).Pairwise fun p q => decide (p.subject ≤ q.subject) = true :=
    List.pairwise_mergeSort (fun p q r => by simpa using String.le_trans)
      (fun p q => by simpa using String.le_total p.subject q.subject) _
  exact sorted.imp of_decide_eq_true

namespace Keyed

variable {s : Store}

theorem nodup_subjects (h : s.Keyed) : ((s.list none).map (·.subject)).Nodup := by
  have subjects : (s.entries.map (·.2)).map (·.subject) = s.entries.map (·.1) := by
    rw [List.map_map]
    exact List.map_congr_left h.own
  rw [(s.perm_list.map _).nodup_iff, subjects]
  exact h.distinct

theorem ascending_list (h : s.Keyed) : (s.list none).Pairwise fun p q => p.subject < q.subject := by
  have apart := List.pairwise_map.mp h.nodup_subjects
  exact s.pairwise_list.imp₂ (fun _ _ => Std.lt_of_le_of_ne) apart

/-- All that is stored, put in order. -/
theorem lists_of_perm (h : s.Keyed) {listed : List Profile}
    (all : listed.Perm (s.entries.map (·.2)))
    (ascending : listed.Pairwise fun p q => Bytes.ofString p.subject < Bytes.ofString q.subject) :
    s.Lists listed where
  stored p := by
    rw [all.mem_iff, List.mem_map]
    constructor
    · rintro ⟨⟨k, p⟩, he, rfl⟩
      exact ⟨k, h.mem_iff.mp he⟩
    · rintro ⟨k, found⟩
      exact ⟨(k, p), h.mem_iff.mpr found, rfl⟩
  once := by
    apply ascending.imp
    rintro p q before rfl
    exact List.lt_irrefl _ before
  ascending := ascending

theorem lists_list (h : s.Keyed) : s.Lists (s.list none) :=
  h.lists_of_perm s.perm_list (h.ascending_list.imp Bytes.ofString_lt_iff.mpr)

theorem mem_list_iff (h : s.Keyed) {p : Profile} :
    p ∈ s.list none ↔ s.get? p.subject = some p := by
  rw [h.lists_list.stored]
  constructor
  · rintro ⟨k, found⟩
    rwa [h.subject_of_get? found]
  · exact fun found => ⟨_, found⟩

/-! ### Entries in another order -/

theorem of_perm (h : s.Keyed) {entries : List (String × Profile)} (same : entries.Perm s.entries) :
    Keyed ⟨entries⟩ where
  own e he := h.own e (same.mem_iff.mp he)
  distinct := (same.map _).nodup_iff.mpr h.distinct

theorem get?_of_perm (h : s.Keyed) {entries : List (String × Profile)}
    (same : entries.Perm s.entries) (k : String) : get? ⟨entries⟩ k = s.get? k := by
  ext p
  rw [← (h.of_perm same).mem_iff, ← h.mem_iff, same.mem_iff]

/-- What is listed shows what is stored and nothing of how. -/
theorem list_of_perm (h : s.Keyed) {entries : List (String × Profile)}
    (same : entries.Perm s.entries) (limit : Option Nat) : list ⟨entries⟩ limit = s.list limit := by
  have shuffled := (h.of_perm same).lists_list
  have whole : list ⟨entries⟩ none = s.list none :=
    Lists.unique ⟨by simpa only [h.get?_of_perm same] using shuffled.stored, shuffled.once,
      shuffled.ascending⟩ h.lists_list
  cases limit with
  | none => exact whole
  | some n => rw [list_some, list_some, whole]

end Keyed

/-- After any operations each profile is kept under its own subject, and all of them are listed,
once each and in strict order, however the entries are kept. A limit cuts the list off. -/
theorem listed_once_in_order {s : Store} (reached : s.Reachable) :
    (∀ k p, (k, p) ∈ s.entries → p.subject = k) ∧
    (∀ listed, s.Lists listed ↔ s.list none = listed) ∧
    (∀ entries, entries.Perm s.entries → ∀ limit, list ⟨entries⟩ limit = s.list limit) ∧
    ∀ n, s.list (some n) = (s.list none).take (min n s.entries.length) ∧
      (s.list (some n)).length = min n s.entries.length := by
  have keyed := reached.keyed
  refine ⟨fun k p => keyed.own (k, p), ?_, fun _ same => keyed.list_of_perm same, ?_⟩
  · intro listed
    constructor
    · exact fun lists => keyed.lists_list.unique lists
    · rintro rfl
      exact keyed.lists_list
  · intro n
    rw [list_some, List.length_take, ← s.length_list]
    exact ⟨List.take_eq_take_min, rfl⟩

namespace Listing.Sample

def filled : Store := ofList [blank "é", blank "v", blank "z"]

/-- `t` has its profile by an update, and `v` has lost its own. -/
def store : Store := (Store.remove ⟨filled.entries ++ [("t", ⟨"t", some "Tom", none, none⟩)]⟩ "v").2

theorem reachable : store.Reachable := by
  have inserted : filled.Reachable := .insert (.insert (.insert .empty _) _) _
  have updated : filled.update "t" ⟨some "Tom", none, none⟩ = .ok (_, _) := rfl
  exact .remove (.update inserted updated) "v"

end Listing.Sample

open Listing.Sample in
/-- The last in order is the one that was stored first. -/
theorem sample_sorted_and_cut :
    store.Lists [⟨"t", some "Tom", none, none⟩, blank "z", blank "é"] ∧
    (∀ limit, list ⟨store.entries.reverse⟩ limit = store.list limit) ∧
    store.list (some 1) = [⟨"t", some "Tom", none, none⟩] ∧
    (store.list (some 0)).length = 0 ∧ (store.list (some 9)).length = 3 := by
  obtain ⟨-, only, shuffled, cut⟩ := listed_once_in_order reachable
  have lists : store.Lists [⟨"t", some "Tom", none, none⟩, blank "z", blank "é"] :=
    reachable.keyed.lists_of_perm (by decide) (by decide)
  refine ⟨lists, shuffled _ (List.reverse_perm _), ?_, (cut 0).2, (cut 9).2⟩
  rw [(cut 1).1, (only _).mp lists]
  rfl

end CallGuard.Profile.Store
