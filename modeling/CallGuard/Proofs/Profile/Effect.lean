import CallGuard.Proofs.Profile.Serving
import CallGuard.Proofs.Profile.Store

/-!
What a call can do to the store: nothing, or put one profile, or remove one. `Serves.effect` lists
with each of these who can bring it about and by what payload.
-/
namespace CallGuard.Profile

theorem StoreFault.status_code_ne_ok (fault : StoreFault) : fault.status.code ≠ .ok := by
  cases fault <;> simp [status]

namespace Service

/-- The outcomes of a call of the method: the reply, and the store after it. -/
inductive Effect (method : String) (caller : Option Caller) (payload : Json) (s : Store) :
    Except Status Reply × Store → Prop
  | refused {status : Status} (code : status.code ≠ .ok) :
      Effect method caller payload s (.error status, s)
  | shown {reply : Reply} (reads : method ≠ updateProfile) :
      Effect method caller payload s (.ok reply, s)
  | updated {reply : Reply} {c : Caller} {u : Update} (updates : method = updateProfile)
      (known : caller = some c) (given : Update.read payload = .ok u) (valid : u.fault? = none) :
      Effect method caller payload s
        (.ok reply, ⟨Store.put c.subject (s.updated c.subject u) s.entries⟩)
  | deleted {reply : Reply} {c : Caller} {subject : String} (deletes : method = deleteProfile)
      (known : caller = some c) (admin : c.roles.contains "admin" = true)
      (asked : readDelete payload = .ok subject) :
      Effect method caller payload s (.ok reply, (s.remove subject).2)

namespace Effect

variable {method : String} {caller : Option Caller} {payload : Json} {s : Store}

/-- What is made of a reply on its way back is no part of the effect. -/
theorem map {outcome : Except Status Reply × Store} (h : Effect method caller payload s outcome)
    (f : Reply → Reply) : Effect method caller payload s (outcome.1.map f, outcome.2) := by
  cases h with
  | refused code => exact .refused code
  | shown reads => exact .shown reads
  | updated updates known given valid => exact .updated updates known given valid
  | deleted deletes known admin asked => exact .deleted deletes known admin asked

/-- A request that cannot be read is refused, and nothing fails once a handler has its reply. -/
theorem unary {ρ τ : Type} {read : Json → Except Mismatch ρ} {write : τ → Option Json}
    {document : τ → Json} {handle : Option Caller → ρ → Store → Except Status τ × Store}
    {call : Call} (writes : ∀ r, write r = some (document r))
    (handles : ∀ request, read call.payload = .ok request →
      Effect method call.caller call.payload s
        ((handle call.caller request s).1.map (Reply.message ∘ document),
          (handle call.caller request s).2)) :
    Effect method call.caller call.payload s (Endpoint.unary read write handle call s) := by
  rw [Endpoint.unary_eq writes]
  cases asked : read call.payload with
  | error m => exact .refused (by simp [Mismatch.status])
  | ok request => exact handles request asked

end Effect

variable {f : Profile → Reply} {s : Store}

theorem get_effect (caller : Option Caller) (payload : Json) :
    Effect getProfile caller payload s ((get caller () s).1.map f, (get caller () s).2) := by
  unfold get
  rcases Caller.require_cases caller with ⟨status, code, refused⟩ | ⟨c, -, required⟩
  · rw [refused]
    exact .refused code
  · rw [required]
    exact .shown (by decide)

theorem update_effect (caller : Option Caller) {payload : Json} {u : Update}
    (given : Update.read payload = .ok u) :
    Effect updateProfile caller payload s ((update caller u s).1.map f, (update caller u s).2) := by
  unfold update
  rcases Caller.require_cases caller with ⟨status, code, refused⟩ | ⟨c, known, required⟩
  · rw [refused]
    exact .refused code
  · rw [required]
    simp only [Store.update_eq]
    cases valid : u.fault? with
    | some fault => exact .refused fault.status_code_ne_ok
    | none => exact .updated rfl known given valid

theorem delete_effect {f : Json → Reply} (caller : Option Caller) {payload : Json}
    {subject : String} (asked : readDelete payload = .ok subject) :
    Effect deleteProfile caller payload s
      ((delete caller subject s).1.map f, (delete caller subject s).2) := by
  unfold delete
  rcases Caller.requireRole_cases caller "admin" with
    ⟨status, code, refused⟩ | ⟨c, known, admin, required⟩
  · rw [refused]
    exact .refused code
  · rw [required]
    exact .deleted rfl known admin asked

theorem list_effect (call : Call) :
    Effect listProfiles call.caller call.payload s
      (Endpoint.serverStreaming readList (some ∘ toJson) list call s) := by
  unfold Endpoint.serverStreaming
  cases readList call.payload with
  | error m => exact .refused (by simp [Mismatch.status])
  | ok limit => exact .shown (by decide)

theorem pong_effect {f : Json → Reply} (caller : Option Caller) (payload : Json) :
    Effect ping caller payload s ((pong caller () s).1.map f, (pong caller () s).2) :=
  .shown (by decide)

theorem effect_of_route {name : String} {handler : Endpoint Store}
    (route : (name, handler) ∈ handlers) (call : Call) :
    Effect name call.caller call.payload s (handler call s) := by
  simp only [handlers, List.mem_cons, List.not_mem_nil, or_false, Prod.mk.injEq] at route
  rcases route with ⟨rfl, rfl⟩ | ⟨rfl, rfl⟩ | ⟨rfl, rfl⟩ | ⟨rfl, rfl⟩ | ⟨rfl, rfl⟩
  · exact .unary (fun _ => rfl) fun _ _ => get_effect call.caller call.payload
  · exact .unary (fun _ => rfl) fun _ given => update_effect call.caller given
  · exact .unary (fun _ => rfl) fun _ asked => delete_effect call.caller asked
  · exact list_effect call
  · exact .unary (fun _ => rfl) fun _ _ => pong_effect call.caller call.payload

/-- The call's credential is one of the caller's, and is asked for. -/
structure Verified (v : Verifier) (skip : SkipList) (now : Int) (call : Call) (c : Caller) :
    Prop where
  unlisted : skip.contains call.method = false
  accepted : ∃ token, Bearer.token? call.metadata = .ok (some token) ∧ v.verifyAt token now = .ok c

variable {files : Files} {config : AuthConfig} {p : Pipeline Store}

theorem Handled.verified {now : Int} {call seen : Call} {name : String} {handler : Endpoint Store}
    {c : Caller} (handled : Handled p now call name handler seen) (known : seen.caller = some c) :
    Verified p.authenticator.verifier p.authenticator.skip now call c := by
  have admitted := handled.admitted
  rw [known] at admitted
  cases admitted with
  | verified unlisted carried accepted _ => exact ⟨unlisted, _, carried, accepted⟩

/-- Where an effect depends on the caller, it is the one of the credential. -/
theorem Serves.effect (serves : Serves p files config) (now : Int) (call : Call) (s : Store) :
    ∃ caller, (∀ c, caller = some c →
        Verified p.authenticator.verifier p.authenticator.skip now call c) ∧
      Effect call.method.text caller call.payload s (p.endpoint now call s) := by
  rcases serves.refused_or_handled now call with
    ⟨status, code, refused⟩ | ⟨name, handler, seen, handled⟩
  · refine ⟨none, by simp, ?_⟩
    rw [refused]
    exact .refused code
  · refine ⟨seen.caller, fun c known => handled.verified known, ?_⟩
    rw [handled.answer, text_of_route handled.route handled.named, ← handled.payload]
    exact (effect_of_route handled.route seen).map _

end Service
end CallGuard.Profile
