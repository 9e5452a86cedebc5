import CallGuard.Pipeline

/-!
Calls that are answered one after another, each from the state that those before it left. What holds
of a run is put together here from what holds of each of its steps.
-/
namespace CallGuard

/-- A call, and the time in seconds at which it is answered. -/
structure Arrival where
  now : Int
  call : Call

namespace Pipeline

variable {σ : Type}

/-- The replies to the calls, the first of them first. -/
def replies (p : Pipeline σ) : List Arrival → σ → List (Except Status Reply)
  | [], _ => []
  | x :: rest, s =>
    (p.endpoint x.now x.call s).1 :: p.replies rest (p.endpoint x.now x.call s).2

/-- The state after the calls. -/
def after (p : Pipeline σ) (arrivals : List Arrival) (s : σ) : σ :=
  arrivals.foldl (fun s x => (p.endpoint x.now x.call s).2) s

@[simp]
theorem after_nil (p : Pipeline σ) (s : σ) : p.after [] s = s := rfl

@[simp]
theorem after_cons (p : Pipeline σ) (x : Arrival) (rest : List Arrival) (s : σ) :
    p.after (x :: rest) s = p.after rest (p.endpoint x.now x.call s).2 := rfl

theorem after_append (p : Pipeline σ) (earlier later : List Arrival) (s : σ) :
    p.after (earlier ++ later) s = p.after later (p.after earlier s) :=
  List.foldl_append

/-- What is not as it was after a run was changed by a call of it. -/
theorem exists_change {α : Type} (view : σ → α) (p : Pipeline σ) {arrivals : List Arrival} {s : σ}
    (changed : view (p.after arrivals s) ≠ view s) :
    ∃ x ∈ arrivals, ∃ before, view (p.endpoint x.now x.call before).2 ≠ view before := by
  induction arrivals generalizing s with
  | nil => exact absurd rfl changed
  | cons x rest ih =>
    by_cases kept : view (p.endpoint x.now x.call s).2 = view s
    · rw [after_cons, ← kept] at changed
      obtain ⟨y, hy, before, change⟩ := ih changed
      exact ⟨y, List.mem_cons_of_mem x hy, before, change⟩
    · exact ⟨x, List.mem_cons_self, s, kept⟩

/-- Two states that no call tells apart, and that stay so with each call, are not told apart by any
number of calls. -/
theorem run_indistinct (p : Pipeline σ) {R : σ → σ → Prop} {arrivals : List Arrival}
    (step : ∀ x ∈ arrivals, ∀ s t, R s t →
      (p.endpoint x.now x.call s).1 = (p.endpoint x.now x.call t).1 ∧
        R (p.endpoint x.now x.call s).2 (p.endpoint x.now x.call t).2)
    {s t : σ} (start : R s t) :
    p.replies arrivals s = p.replies arrivals t ∧
      ∀ n, R (p.after (arrivals.take n) s) (p.after (arrivals.take n) t) := by
  induction arrivals generalizing s t with
  | nil => exact ⟨rfl, fun _ => by simpa using start⟩
  | cons x rest ih =>
    obtain ⟨reply, next⟩ := step x List.mem_cons_self s t start
    obtain ⟨others, states⟩ := ih (fun y hy => step y (List.mem_cons_of_mem x hy)) next
    refine ⟨by rw [replies, replies, reply, others], fun n => ?_⟩
    cases n with
    | zero => exact start
    | succ n => exact states n

end Pipeline
end CallGuard
