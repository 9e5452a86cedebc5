import CallGuard.Call
import CallGuard.Schema.Registry

/-! Keeping sensitive fields from handlers and callers. -/
namespace CallGuard.Registry

variable {σ : Type}

/-- The payload that the handler gets to see. With `skipStreaming`, streaming calls keep theirs. -/
def redactRequest (r : Registry) (skipStreaming : Bool) (plan : Redaction) (call : Call) : Call :=
  match plan.request with
  | some message =>
    if skipStreaming && call.streaming then call
    else { call with payload := r.redactor.redact message call.payload }
  | none => call

/-- The body that the caller gets to see. With `skipStreaming`, streams stay as they are; a single
message never does, whatever the method is declared as. -/
def redactBody (r : Registry) (skipStreaming : Bool) (plan : Redaction) (body : Body) : Body :=
  match plan.response with
  | some message =>
    if skipStreaming && body.isStream then body else body.map (r.redactor.redact message)
  | none => body

/-- Passes on calls without the sensitive fields of the request, and replies without those of the
response, where the method is declared so. -/
def guard (r : Registry) (skipStreaming : Bool) (next : Endpoint σ) : Endpoint σ :=
  fun call s =>
    match r.redaction? call.method with
    | none => next call s
    | some plan =>
      match next (r.redactRequest skipStreaming plan call) s with
      | (.ok reply, s) => (.ok { reply with body := r.redactBody skipStreaming plan reply.body }, s)
      | (.error status, s) => (.error status, s)

end CallGuard.Registry
