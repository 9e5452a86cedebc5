import CallGuard.Handler
import CallGuard.Proofs.Pipeline.Passage

/-!
Where calls are refused: in the chain, by a handler that cannot read a request, and by one that asks
for a caller or a role. What a call is refused with is always an error.
-/
namespace CallGuard

theorem Rejection.status_code_ne_ok (r : Rejection) : r.status.code ≠ .ok := by
  cases r <;> simp [status, Status.invalidCredential]

theorem Denial.status_code_ne_ok (d : Denial) (known : Bool) : (d.status known).code ≠ .ok := by
  cases d <;> cases known <;>
    simp [status, Status.authenticationRequired, Status.insufficientRole]

namespace Caller

theorem require_cases (caller : Option Caller) :
    (∃ status, status.code ≠ .ok ∧ require caller = .error status) ∨
      ∃ c, caller = some c ∧ require caller = .ok c := by
  cases caller with
  | none => exact .inl ⟨_, by simp [Status.authenticationRequired], rfl⟩
  | some c => exact .inr ⟨c, rfl, rfl⟩

theorem requireRole_cases (caller : Option Caller) (role : String) :
    (∃ status, status.code ≠ .ok ∧ requireRole caller role = .error status) ∨
      ∃ c, caller = some c ∧ c.roles.contains role = true ∧ requireRole caller role = .ok c := by
  unfold requireRole
  rcases require_cases caller with ⟨status, code, refused⟩ | ⟨c, known, required⟩
  · exact .inl ⟨status, code, by rw [refused]; rfl⟩
  · rw [required]
    cases held : c.roles.contains role with
    | true => exact .inr ⟨c, known, held, by simp [bind, Except.bind, held, pure, Except.pure]⟩
    | false =>
      refine .inl ⟨.insufficientRole, by simp [Status.insufficientRole], ?_⟩
      simp [bind, Except.bind, held, throw, throwThe, MonadExceptOf.throw]

end Caller

namespace Endpoint

variable {σ ρ τ : Type} {read : Json → Except Mismatch ρ} {write : τ → Option Json}
  {document : τ → Json}

/-- A handler that has a document for every reply fails only where its request cannot be read, or
by its own decision. -/
theorem unary_eq (writes : ∀ r, write r = some (document r))
    (handle : Option Caller → ρ → σ → Except Status τ × σ) (call : Call) (s : σ) :
    unary read write handle call s =
      match read call.payload with
      | .error m => (.error m.status, s)
      | .ok request =>
        ((handle call.caller request s).1.map (Reply.message ∘ document),
          (handle call.caller request s).2) := by
  unfold unary
  cases read call.payload with
  | error m => rfl
  | ok request =>
    cases answered : handle call.caller request s with
    | mk reply s' =>
      cases reply <;> simp [answered, Except.bind, Except.map, encoded, writes]

end Endpoint

namespace Pipeline

variable {σ : Type}

theorem code_ne_ok_of_handed_error {p : Pipeline σ} {now : Int} {call : Call} {status : Status}
    (h : p.handed now call = .error status) : status.code ≠ .ok := by
  rcases Except.bind_eq_error_iff.mp h with rejected | ⟨admission, -, h⟩
  · obtain ⟨rejection, -, rfl⟩ := Except.mapError_eq_error_iff.mp rejected
    exact rejection.status_code_ne_ok
  · simp only at h
    split at h
    · rcases Except.bind_eq_error_iff.mp h with denied | ⟨_, -, ⟨⟩⟩
      obtain ⟨denial, -, rfl⟩ := Except.mapError_eq_error_iff.mp denied
      exact denial.status_code_ne_ok _
    · cases h

end Pipeline

end CallGuard
