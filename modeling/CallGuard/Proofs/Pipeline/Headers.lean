import CallGuard.Handler
import CallGuard.Proofs.Pipeline.Passage

/-!
Which headers count. Stage by stage, a chain over handlers that read no headers reads none itself
but for the first credential, so that calls which agree in that one are answered alike.
-/
namespace CallGuard

variable {σ : Type}

/-- Calls are answered without a look at their headers. -/
def Endpoint.IgnoresHeaders (e : Endpoint σ) : Prop :=
  ∀ (call : Call) (md : Metadata) (s : σ), e { call with metadata := md } s = e call s

theorem Endpoint.unary_ignoresHeaders {ρ τ : Type} (read : Json → Except Mismatch ρ)
    (write : τ → Option Json) (handle : Option Caller → ρ → σ → Except Status τ × σ) :
    (unary read write handle).IgnoresHeaders :=
  fun _ _ _ => rfl

theorem Endpoint.serverStreaming_ignoresHeaders {ρ τ : Type} (read : Json → Except Mismatch ρ)
    (write : τ → Option Json)
    (handle : Option Caller → ρ → σ → Except Status (List (Except Status τ)) × σ) :
    (serverStreaming read write handle).IgnoresHeaders :=
  fun _ _ _ => rfl

theorem Router.endpoint_ignoresHeaders {r : Router σ}
    (h : ∀ m handler, r.handler? m = some handler → handler.IgnoresHeaders) :
    r.endpoint.IgnoresHeaders := by
  intro call md s
  unfold endpoint
  cases found : r.handler? call.method with
  | none => rfl
  | some handler => exact h _ _ found call md s

theorem Registry.guard_ignoresHeaders {next : Endpoint σ} (h : next.IgnoresHeaders)
    (r : Registry) (skipStreaming : Bool) : (r.guard skipStreaming next).IgnoresHeaders := by
  intro call md s
  unfold guard
  cases r.redaction? call.method with
  | none => exact h call md s
  | some plan =>
    have seen : r.redactRequest skipStreaming plan { call with metadata := md } =
        { r.redactRequest skipStreaming plan call with metadata := md } := by
      unfold redactRequest
      split
      · split <;> rfl
      · rfl
    simp only [seen, h (r.redactRequest skipStreaming plan call) md s]

theorem Authorizer.guard_ignoresHeaders {next : Endpoint σ} (h : next.IgnoresHeaders)
    (a : Authorizer) (skip : SkipList) : (a.guard skip next).IgnoresHeaders := by
  intro call md s
  unfold guard
  rw [h call md s]

/-- Authentication is the one stage that looks. -/
theorem Authenticator.guard_congr {next : Endpoint σ} (h : next.IgnoresHeaders)
    (a : Authenticator) (now : Int) (call : Call) {md md' : Metadata}
    (same : md.get? Bearer.header = md'.get? Bearer.header) (s : σ) :
    a.guard now next { call with metadata := md } s =
      a.guard now next { call with metadata := md' } s := by
  have found : a.authenticate now call.method md = a.authenticate now call.method md' := by
    unfold authenticate
    rw [Bearer.token?_congr same]
  unfold guard
  simp only [found]
  cases a.authenticate now call.method md' with
  | error rejection => rfl
  | ok admission =>
    let known : Call := { call with caller := admission.caller? }
    exact (h known md s).trans (h known md' s).symm

theorem Pipeline.endpoint_congr {p : Pipeline σ} (h : p.router.endpoint.IgnoresHeaders) (now : Int)
    (call : Call) {md md' : Metadata} (same : md.get? Bearer.header = md'.get? Bearer.header)
    (s : σ) :
    p.endpoint now { call with metadata := md } s =
      p.endpoint now { call with metadata := md' } s := by
  have declared (md : Metadata) : withDeclaredStreaming p.registry { call with metadata := md } =
      { withDeclaredStreaming p.registry call with metadata := md } := by
    unfold withDeclaredStreaming
    cases p.registry.info? call.method <;> rfl
  unfold endpoint
  rw [declared md, declared md']
  refine Authenticator.guard_congr ?_ _ now _ same s
  apply Authorizer.guard_ignoresHeaders
  apply Registry.guard_ignoresHeaders
  exact h

end CallGuard
