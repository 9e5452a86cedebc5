import CallGuard.Config
import CallGuard.Pipeline.Authentication
import CallGuard.Pipeline.Authorization
import CallGuard.Pipeline.Redaction
import CallGuard.Router

/-!
The chain that every call passes: authentication, authorization, redaction, and the handler of its
method.
-/
namespace CallGuard

structure Pipeline (σ : Type) where
  authenticator : Authenticator
  registry : Registry
  skipStreaming : Bool
  router : Router σ

namespace Pipeline

variable {σ : Type}

/-- The handlers of a service, by the names of their methods. -/
abbrev Service (σ : Type) := List (String × Endpoint σ)

/-- The parts are made in this order, so that of several faults the first of them shows: verifier,
skip list, rules, handlers of the services. -/
def build (files : Files) (c : AuthConfig) (registry : Registry) (router : Router σ)
    (services : List (Service σ)) : Except ConfigError (Pipeline σ) := do
  let verifier ← c.verifier files
  let skip ← c.skipList
  let rules ← c.ruleSet
  let router ← services.foldlM Router.addAll router
  let authorizer := (Authorizer.ofRules rules).withRegistry registry
  return ⟨⟨verifier, skip, authorizer⟩, registry, c.skipStreaming, router⟩

/-- What a method declares of streaming counts, and a call's own word only without that. -/
def withDeclaredStreaming (r : Registry) (call : Call) : Call :=
  match r.info? call.method with
  | some d => { call with streaming := d.serverStreaming }
  | none => call

/-- Answers calls as of a time, in seconds. -/
def endpoint (p : Pipeline σ) (now : Int) : Endpoint σ := fun call s =>
  let a := p.authenticator
  let chain :=
    a.guard now (a.authorizer.guard a.skip (p.registry.guard p.skipStreaming p.router.endpoint))
  chain (withDeclaredStreaming p.registry call) s

end Pipeline
end CallGuard
