import CallGuard.Call.Metadata
import CallGuard.Caller
import CallGuard.Json.Basic
import CallGuard.Method

/-! Calls and their replies. -/
namespace CallGuard

structure Call where
  method : Method
  metadata : Metadata
  /-- Who calls, once that is known. -/
  caller : Option Caller
  streaming : Bool
  payload : Json

/-- One message, or a stream of messages and errors. An error does not end the stream. -/
inductive Body where
  | message (m : Json)
  | stream (items : List (Except Status Json))

namespace Body

def isStream : Body → Bool
  | message _ => false
  | stream _ => true

/-- Changes every message. -/
def map (f : Json → Json) : Body → Body
  | message m => message (f m)
  | stream items => stream (items.map (Except.map f))

/-- The only message. -/
def message? : Body → Except Status Json
  | message m => .ok m
  | stream _ => .error ⟨.internal, "expected a unary reply"⟩

/-- All messages, or the first error. -/
def collect : Body → Except Status (List Json)
  | message m => .ok [m]
  | stream items => items.mapM id

end Body

structure Reply where
  metadata : Metadata
  body : Body

namespace Reply

def message (m : Json) : Reply := ⟨[], .message m⟩

def stream (items : List (Except Status Json)) : Reply := ⟨[], .stream items⟩

end Reply

/-- What answers calls: from a call and a state, a reply or an error, and the state after it. -/
abbrev Endpoint (σ : Type) := Call → σ → Except Status Reply × σ

end CallGuard
