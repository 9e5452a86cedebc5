import CallGuard.Proofs.Http
import CallGuard.Proofs.Profile.Effect

/-!
Calls that fail change nothing, wherever on their way they fail: before a call is made of a request,
in the chain, while the payload is read, or in the handler.
-/
namespace CallGuard.Profile.Service

variable {files : Files} {config : AuthConfig} {p : Pipeline Store}

theorem Serves.unchanged_of_error (serves : Serves p files config) {now : Int} {call : Call}
    {s : Store} {status : Status} (failed : (p.endpoint now call s).1 = .error status) :
    status.code ≠ .ok ∧ (p.endpoint now call s).2 = s := by
  obtain ⟨_, -, effect⟩ := serves.effect now call s
  generalize p.endpoint now call s = outcome at effect failed
  cases effect with
  | refused code =>
    cases failed
    exact ⟨code, rfl⟩
  | shown | updated | deleted => cases failed

/-- No update is made unless all of it can be. -/
theorem Serves.refused_of_fault (serves : Serves p files config) {now : Int} {call : Call}
    {s : Store} {u : Update} (updates : call.method.text = updateProfile)
    (given : Update.read call.payload = .ok u) (invalid : u.fault? ≠ none) :
    ∃ status, p.endpoint now call s = (.error status, s) := by
  obtain ⟨_, -, effect⟩ := serves.effect now call s
  generalize p.endpoint now call s = outcome at effect
  cases effect with
  | refused => exact ⟨_, rfl⟩
  | shown reads => exact absurd updates reads
  | updated _ _ given' valid =>
    rw [given] at given'
    cases given'
    exact absurd valid invalid
  | deleted deletes =>
    rw [updates] at deletes
    exact absurd deletes (by decide)

/-- A call that ends with an error leaves the store as it was, and so does a request over HTTP that
is answered with anything but success, which only the reply of a call is answered with. An update
with one field that is refused ends so, whatever else it gives. -/
theorem failed_calls_leave_no_trace (built : pipeline files config = .ok p) (now : Int)
    (s : Store) :
    (∀ call status, (p.endpoint now call s).1 = .error status → (p.endpoint now call s).2 = s) ∧
    (∀ request, let answer := Http.serve (p.endpoint now) request s
      (answer.1.status ≠ 200 → answer.2 = s) ∧
      (answer.1.status = 200 → ∃ call reply,
        p.endpoint now call s = (.ok reply, answer.2) ∧ answer.1 = Http.respond (.ok reply))) ∧
    ∀ call u, call.method.text = updateProfile → Update.read call.payload = .ok u →
      ((∃ email, u.email = some email ∧ '@' ∉ email.toList) ∨
        ∃ name, u.name = some name ∧ Text.isBlankText name = true) →
      ∃ status, p.endpoint now call s = (.error status, s) := by
  have serves := serves_of_pipeline built
  refine ⟨fun call status failed => (serves.unchanged_of_error failed).2, fun request => ?_,
    fun call u updates given invalid =>
      serves.refused_of_fault updates given (Update.fault?_ne_none_iff.mpr invalid)⟩
  rcases Http.turned_away_or_called (p.endpoint now) request s with
    ⟨failed, same⟩ | ⟨call, called⟩
  · exact ⟨fun _ => same, fun success => absurd success failed⟩
  · simp only [called]
    cases outcome : (p.endpoint now call s).1 with
    | error status =>
      obtain ⟨code, same⟩ := serves.unchanged_of_error outcome
      refine ⟨fun _ => same, fun success => ?_⟩
      exact absurd (Code.httpStatus_eq_200_iff.mp success) code
    | ok reply =>
      exact ⟨fun failed => absurd (Http.status_respond_ok reply) failed,
        fun _ => ⟨call, reply, Prod.ext outcome rfl, rfl⟩⟩

namespace Sample

/-- The caller of the token gives itself a name, and an email that is none. -/
def misaddresses : Call := call updateMethod (.obj [("name", .str "n"), ("email", .str "x")])

end Sample

theorem sample_half_valid_update_leaves_no_trace :
    ∃ p, pipeline (fun _ => none) Sample.config = .ok p ∧
      (p.endpoint 8 Sample.misaddresses .empty).1 =
        .error (StoreFault.invalidEmail "x").status ∧
      (p.endpoint 8 Sample.misaddresses .empty).2 = .empty := by
  obtain ⟨p, built⟩ := Sample.exists_service
  have named : Method.parse updateProfile = .ok Sample.updateMethod := by rfl
  obtain ⟨seen, (handled : Handled p 8 Sample.misaddresses _ _ seen), sameCaller⟩ :=
    Sample.handled built _ (.tail _ (.head _)) named .update rfl
  have invalid : (Endpoint.unary Update.read (some ∘ toJson) update seen .empty).1 =
      .error (StoreFault.invalidEmail "x").status := by
    unfold Endpoint.unary
    rw [handled.payload, sameCaller]
    rfl
  have refused : (p.endpoint 8 Sample.misaddresses .empty).1 =
      .error (StoreFault.invalidEmail "x").status := by
    rw [handled.answer, invalid]
    rfl
  exact ⟨p, built, refused, (failed_calls_leave_no_trace built 8 .empty).1 _ _ refused⟩

end CallGuard.Profile.Service
