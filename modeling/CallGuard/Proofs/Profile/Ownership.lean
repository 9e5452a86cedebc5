import CallGuard.Proofs.Pipeline.Run
import CallGuard.Proofs.Profile.Effect

/-!
Who changes what. However an operator has set up the service, a profile is changed by the caller
whose profile it is or by an admin, with a credential that the service has verified itself.
-/
namespace CallGuard.Profile.Service

/-- What callers may change by a call: their own profile, and admins, by deleting it, the profile
that they ask for. -/
inductive MayChange (c : Caller) (call : Call) : String → Prop
  | own (updates : call.method.text = updateProfile) : MayChange c call c.subject
  | admin {subject : String} (deletes : call.method.text = deleteProfile)
      (admin : "admin" ∈ c.roles.toList) (asked : readDelete call.payload = .ok subject) :
      MayChange c call subject

variable {files : Files} {config : AuthConfig} {p : Pipeline Store}

theorem Serves.mayChange_of_changed (serves : Serves p files config) {now : Int} {call : Call}
    {s : Store} {k : String} (changed : (p.endpoint now call s).2.get? k ≠ s.get? k) :
    ∃ c, Verified p.authenticator.verifier p.authenticator.skip now call c ∧
      MayChange c call k := by
  obtain ⟨caller, verified, effect⟩ := serves.effect now call s
  generalize p.endpoint now call s = outcome at effect changed
  cases effect with
  | refused | shown => exact absurd rfl changed
  | @updated _ c u updates known =>
    have own : k = c.subject := by
      by_contra other
      simp [Store.get?_put, other] at changed
    exact ⟨c, verified c known, own ▸ .own updates⟩
  | @deleted _ c subject deletes known admin asked =>
    have asked_for : k = subject := by
      by_contra other
      simp [Store.get?_remove, other] at changed
    exact ⟨c, verified c known,
      .admin deletes (List.contains_iff_mem.mp admin) (asked_for ▸ asked)⟩

/-- Whichever call comes after whichever others, it changes a subject's profile only with a
credential that the service asks for and accepts, and only if its caller is the subject and updates
it, or is an admin and deletes it. What a run as a whole has changed, a call of it was free to. -/
theorem only_owner_or_admin_changes (built : pipeline files config = .ok p) :
    ∃ v skip, config.verifier files = .ok v ∧ config.skipList = .ok skip ∧
      ∀ (start : Store) (arrivals : List Arrival) (k : String),
        (∀ next : Arrival,
          (p.after (arrivals ++ [next]) start).get? k ≠ (p.after arrivals start).get? k →
          ∃ c, Verified v skip next.now next.call c ∧ MayChange c next.call k) ∧
        ((p.after arrivals start).get? k ≠ start.get? k →
          ∃ x ∈ arrivals, ∃ c, Verified v skip x.now x.call c ∧ MayChange c x.call k) := by
  have serves := serves_of_pipeline built
  refine ⟨_, _, serves.verifier, serves.skip, fun start arrivals k => ⟨?_, ?_⟩⟩
  · intro next changed
    rw [Pipeline.after_append] at changed
    exact serves.mayChange_of_changed changed
  · intro changed
    obtain ⟨x, hx, before, change⟩ := p.exists_change (·.get? k) changed
    exact ⟨x, hx, serves.mayChange_of_changed change⟩

namespace Sample

/-- The caller of the token gives itself a name. -/
def renames : Arrival := ⟨8, call updateMethod (.obj [("name", .str "n")])⟩

end Sample

theorem sample_owner_renames :
    ∃ p, pipeline (fun _ => none) Sample.config = .ok p ∧
      (p.after [Sample.renames] .empty).get? "u" = some ⟨"u", some "n", none, none⟩ ∧
      ∃ v skip, Sample.config.verifier (fun _ => none) = .ok v ∧
        Sample.config.skipList = .ok skip ∧
        ∃ c, Verified v skip 8 Sample.renames.call c ∧ MayChange c Sample.renames.call "u" := by
  obtain ⟨p, built⟩ := Sample.exists_service
  have named : Method.parse updateProfile = .ok Sample.updateMethod := by rfl
  obtain ⟨seen, (handled : Handled p 8 Sample.renames.call _ _ seen), sameCaller⟩ :=
    Sample.handled built _ (.tail _ (.head _)) named .update rfl
  have changed : (Endpoint.unary Update.read (some ∘ toJson) update seen .empty).2.get? "u" =
      some ⟨"u", some "n", none, none⟩ := by
    unfold Endpoint.unary
    rw [handled.payload, sameCaller]
    rfl
  have after : (p.after [Sample.renames] .empty).get? "u" = some ⟨"u", some "n", none, none⟩ := by
    rw [← changed]
    exact congrArg (·.2.get? "u") (handled.answer .empty)
  have changes : (p.after ([] ++ [Sample.renames]) .empty).get? "u" ≠
      (p.after [] .empty).get? "u" := by
    rw [List.nil_append, after, Pipeline.after_nil, Store.empty, Store.get?_nil]
    exact Option.some_ne_none _
  obtain ⟨v, skip, hv, hs, entitled⟩ := only_owner_or_admin_changes built
  exact ⟨p, built, after, v, skip, hv, hs, (entitled .empty [] "u").1 Sample.renames changes⟩

end CallGuard.Profile.Service
