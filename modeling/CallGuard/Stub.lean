import CallGuard.Handler
import CallGuard.Json.Form

/-! Handlers with canned answers, for trying out a chain without a service behind it. -/
namespace CallGuard

def RoleSet.toJson (rs : RoleSet) : Json := .ofTexts rs.toList

def Caller.toJson (c : Caller) : Json :=
  .obj [("subject", .str c.subject), ("name", .ofText? c.name), ("roles", c.roles.toJson)]

/-- The caller, or null. -/
def Caller.toJson? (c : Option Caller) : Json := c.elim .null Caller.toJson

/-- Whom to greet, and how often. -/
structure Greeting where
  name : String
  times : Option Nat
  deriving DecidableEq, Repr

def Greeting.read {α : Type} [Form α] (v : α) : Except Mismatch Greeting :=
  let times (v : α) := Form.natural "u8" 255 v
  let fields : Record α Greeting := Greeting.mk
    <$> Record.required "name" Form.text
    <*> Record.defaulted "times" none (Reading.optional times)
  fields.read "struct Greet" v

/-- What a stub answers. -/
inductive Stub where
  /-- The request. -/
  | echo
  /-- Who calls. -/
  | whoami
  /-- The subject of a caller with the role, or of any caller. -/
  | require (role : Option String)
  | static (value : Json)
  /-- The value, with the request in it. -/
  | wrap (value : Json)
  | fail (status : Status)
  | stream (items : List (Except Status Json))
  | greet
  /-- As many greetings as asked for, or one. -/
  | greetings
  /-- A reply that has no document. -/
  | unencodable
  | unencodableStream
  /-- All of the call. -/
  | raw

namespace Stub

variable {σ : Type}

/-- Answers any request with one message, without looking at the state. -/
def answer (f : Option Caller → Json → Except Status (Option Json)) : Endpoint σ :=
  .unary .ok id fun caller request s => (f caller request, s)

/-- Puts the request into an object. -/
def withSeen (request : Json) : Json → Json
  | .obj members => .obj (Json.put "seen" request members)
  | v => v

def greeting (g : Greeting) : Json :=
  .obj [("message", .str ("hello " ++ g.name)), ("times", g.times.elim .null fun n => .int n)]

def numbered (g : Greeting) : List (Except Status Json) :=
  (List.range (g.times.getD 1)).map fun (i : Nat) =>
    .ok (.obj [("n", .int i), ("name", .str g.name)])

def callJson (call : Call) : Json :=
  .obj [("method", .str call.method.text), ("streaming", .bool call.streaming),
    ("payload", call.payload), ("ctx", Caller.toJson? call.caller)]

def endpoint : Stub → Endpoint σ
  | echo => answer fun _ request => .ok (some request)
  | whoami => answer fun caller _ => .ok (some (Caller.toJson? caller))
  | require role => answer fun caller _ => do
    let c ← role.elim (Caller.require caller) (Caller.requireRole caller)
    return some (.obj [("subject", .str c.subject)])
  | static value => answer fun _ _ => .ok (some value)
  | wrap value => answer fun _ request => .ok (some (withSeen request value))
  | fail status => answer fun _ _ => .error status
  | stream items => .serverStreaming .ok some fun _ _ s => (.ok items, s)
  | greet => .unary Greeting.read some fun _ g s => (.ok (greeting g), s)
  | greetings => .serverStreaming Greeting.read some fun _ g s => (.ok (numbered g), s)
  | unencodable => answer fun _ _ => .ok none
  | unencodableStream => .serverStreaming .ok id fun _ _ s => (.ok [.ok none], s)
  | raw => fun call s => (.ok (.message (callJson call)), s)

end Stub
end CallGuard
