import CallGuard.Http
import CallGuard.Proofs.Except

/-!
Requests over HTTP: which of them a call is made of, and that the others are answered with an error,
as calls are that fail.
-/
namespace CallGuard

theorem Code.httpStatus_eq_200_iff {code : Code} : code.httpStatus = 200 ↔ code = .ok := by
  cases code <;> simp [httpStatus]

namespace Http

theorem code_ne_ok_of_payload_error {body : Bytes} {status : Status}
    (h : payload body = .error status) : status.code ≠ .ok := by
  unfold payload at h
  split at h
  · cases h
  · obtain ⟨_, -, rfl⟩ := Except.mapError_eq_error_iff.mp h
    simp

theorem code_ne_ok_of_call_error {service method : String} {r : Request} {status : Status}
    (h : call service method r = .error status) : status.code ≠ .ok := by
  unfold call at h
  rcases Except.bind_eq_error_iff.mp h with unnamed | ⟨_, -, h⟩
  · obtain ⟨_, -, rfl⟩ := Except.mapError_eq_error_iff.mp unnamed
    simp [Status.unknownMethod]
  rcases Except.bind_eq_error_iff.mp h with unread | ⟨_, -, h⟩
  · exact code_ne_ok_of_payload_error unread
  simp only [bind, Except.bind, pure, Except.pure] at h
  split at h
  · cases h
  · split at h
    · cases h
    · cases h
      simp [Status.invalidCredential]

/-- A request is turned away before any call is made, or answered as its call is. -/
theorem turned_away_or_called {σ : Type} (endpoint : Endpoint σ) (r : Request) (s : σ) :
    ((serve endpoint r s).1.status ≠ 200 ∧ (serve endpoint r s).2 = s) ∨
      ∃ call, serve endpoint r s = (respond (endpoint call s).1, (endpoint call s).2) := by
  unfold serve
  split
  · exact .inl ⟨by simp [notFound], rfl⟩
  · split
    · exact .inl ⟨by simp [notFound], rfl⟩
    · split
      · rename_i status refused
        refine .inl ⟨?_, rfl⟩
        rw [respond, ne_eq, Code.httpStatus_eq_200_iff]
        exact code_ne_ok_of_call_error refused
      · rename_i call _
        exact .inr ⟨call, rfl⟩

theorem status_respond_ok (reply : Reply) : (respond (.ok reply)).status = 200 := by
  obtain ⟨_, m | items⟩ := reply <;> rfl

end Http

end CallGuard
