import CallGuard.Call
import CallGuard.Json.Mismatch

/-! Handlers over typed requests and replies. -/
namespace CallGuard

/-- What a request is refused with that its handler cannot read. -/
def Mismatch.status (m : Mismatch) : Status :=
  ⟨.invalidArgument, "invalid request payload: " ++ m.message⟩

/-- The document of a reply, which not every reply has. -/
def encoded {τ : Type} (write : τ → Option Json) (reply : τ) : Except Status Json :=
  match write reply with
  | some m => .ok m
  | none => .error ⟨.internal, "failed to encode response"⟩

namespace Endpoint

variable {σ ρ τ : Type}

/-- Answers a request with one message. -/
def unary (read : Json → Except Mismatch ρ) (write : τ → Option Json)
    (handle : Option Caller → ρ → σ → Except Status τ × σ) : Endpoint σ := fun call s =>
  match read call.payload with
  | .error m => (.error m.status, s)
  | .ok request =>
    match handle call.caller request s with
    | (reply, s) => (reply.bind fun r => (encoded write r).map Reply.message, s)

/-- Answers a request with a stream. A message without a document is an error in its place. -/
def serverStreaming (read : Json → Except Mismatch ρ) (write : τ → Option Json)
    (handle : Option Caller → ρ → σ → Except Status (List (Except Status τ)) × σ) :
    Endpoint σ := fun call s =>
  match read call.payload with
  | .error m => (.error m.status, s)
  | .ok request =>
    match handle call.caller request s with
    | (reply, s) => (reply.map fun items => .stream (items.map (·.bind (encoded write))), s)

end Endpoint
end CallGuard
