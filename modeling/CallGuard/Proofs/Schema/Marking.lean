import CallGuard.Schema.Redactor
import Mathlib.Data.List.Basic

/-!
The marked messages are a fixed point: another round marks nothing more. So a message that is not
marked has no sensitive field and no field of a marked type.
-/
namespace CallGuard

theorem Message.touches_mono {m : Message} {a b : List String} (sub : ∀ t ∈ a, t ∈ b)
    (h : m.touches a = true) : m.touches b = true := by
  simp only [touches, List.any_eq_true, Bool.or_eq_true, Option.any_eq_true, List.contains_eq_mem,
    decide_eq_true_eq] at h ⊢
  obtain ⟨f, hf, sensitive | ⟨t, ht, known⟩⟩ := h
  · exact ⟨f, hf, .inl sensitive⟩
  · exact ⟨f, hf, .inr ⟨t, ht, sub t known⟩⟩

namespace Redactor

variable {messages : List Message}

theorem spread_mono {a b : List String} (sub : ∀ t ∈ a, t ∈ b) :
    (spread messages a).Sublist (spread messages b) :=
  (List.monotone_filter_right messages fun _ => Message.touches_mono sub).map _

theorem mark_sublist_succ (messages : List Message) (n : Nat) :
    (mark messages n).Sublist (mark messages (n + 1)) := by
  induction n with
  | zero => exact List.nil_sublist _
  | succ n ih => exact spread_mono fun _ known => ih.subset known

theorem mark_length_le (messages : List Message) (n : Nat) :
    (mark messages n).length ≤ messages.length := by
  cases n with
  | zero => exact Nat.zero_le _
  | succ n =>
    simp only [mark, spread, List.length_map]
    exact List.length_filter_le _ _

/-- Every round before the first that marks nothing more has marked at least one message more. -/
theorem mark_grows (messages : List Message) (n : Nat) :
    mark messages (n + 1) = mark messages n ∨ n < (mark messages (n + 1)).length := by
  induction n with
  | zero =>
    cases h : mark messages 1 with
    | nil => exact .inl rfl
    | cons first rest => exact .inr (Nat.succ_pos _)
  | succ n ih =>
    rcases ih with still | grown
    · exact .inl (congrArg (spread messages) still)
    · by_cases still : mark messages (n + 1 + 1) = mark messages (n + 1)
      · exact .inl still
      · have sub := mark_sublist_succ messages (n + 1)
        have longer : (mark messages (n + 1)).length ≠ (mark messages (n + 1 + 1)).length :=
          fun same => still (sub.eq_of_length same).symm
        have le := sub.length_le
        exact .inr (by omega)

theorem spread_marked (messages : List Message) :
    spread messages (marked messages) = marked messages := by
  rcases mark_grows messages messages.length with still | grown
  · exact still
  · exact absurd (mark_length_le messages (messages.length + 1)) (by omega)

theorem mem_marked_of_touches {m : Message} (hm : m ∈ messages)
    (h : m.touches (marked messages) = true) : m.name ∈ marked messages := by
  rw [← spread_marked]
  exact List.mem_map_of_mem (List.mem_filter.mpr ⟨hm, h⟩)

theorem field_untouched_of_unmarked {m : Message} (hm : m ∈ messages)
    (unmarked : m.name ∉ marked messages) {f : Field} (hf : f ∈ m.fields) :
    f.sensitive = false ∧ ∀ t, f.message = some t → t ∉ marked messages := by
  have untouched : ¬ m.touches (marked messages) = true :=
    fun h => unmarked (mem_marked_of_touches hm h)
  simp only [Message.touches, List.any_eq_true, not_exists, not_and] at untouched
  simpa [Option.any_eq_true] using untouched f hf

end Redactor
end CallGuard
