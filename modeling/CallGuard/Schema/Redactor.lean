import CallGuard.Json.Basic
import CallGuard.Schema

/-!
Removing sensitive fields. A plan is kept only for messages that have a sensitive field somewhere
below them, so that a walk leaves everything else alone.
-/
namespace CallGuard

/-- What to do with the members of a message. -/
structure Plan where
  remove : List String
  /-- Fields whose values are messages to redact, with their types. -/
  nested : List (String × String)
  deriving DecidableEq, Repr

namespace Message

/-- A sensitive field, or one that holds a message of the marked ones. -/
def touches (marked : List String) (m : Message) : Bool :=
  m.fields.any fun f => f.sensitive || f.message.any marked.contains

def plan (marked : List String) (m : Message) : Plan where
  remove := (m.fields.filter (·.sensitive)).map (·.name)
  nested := m.fields.filterMap fun f =>
    if f.sensitive then none
    else (f.message.filter marked.contains).map fun t => (f.name, t)

end Message

/-- Plans by the name of their message. -/
structure Redactor where
  plans : List (String × Plan)
  deriving DecidableEq, Repr

namespace Redactor

/-- The messages that need a plan if the marked ones do. -/
def spread (messages : List Message) (marked : List String) : List String :=
  (messages.filter (·.touches marked)).map (·.name)

/-- Each round marks a message more, or none any more. -/
def mark (messages : List Message) : Nat → List String
  | 0 => []
  | n + 1 => spread messages (mark messages n)

/-- The messages with a sensitive field somewhere below them. -/
def marked (messages : List Message) : List String := mark messages messages.length

def compile (messages : List Message) : Redactor :=
  let names := marked messages
  ⟨(messages.filter (names.contains ·.name)).map fun m => (m.name, m.plan names)⟩

def plan? (r : Redactor) (message : String) : Option Plan :=
  (r.plans.find? (·.1 == message)).map (·.2)

/-- Values of the message can have something to remove. -/
def needs (r : Redactor) (message : String) : Bool := (r.plan? message).isSome

/-- The type of the messages in a field that is to be redacted. -/
def Plan.nested? (p : Plan) (field : String) : Option String :=
  (p.nested.find? (·.1 == field)).map (·.2)

mutual

/-- Redacts a value of the message; with `each`, a list is a list of such values. -/
def walk (r : Redactor) (each : Bool) (message : String) : Json → Json
  | .obj members =>
    match r.plan? message with
    | none => .obj members
    | some p => .obj (walkMembers r p members)
  | .arr items => .arr (if each then walkItems r message items else items)
  | v => v

def walkItems (r : Redactor) (message : String) : List Json → List Json
  | [] => []
  | v :: rest => walk r false message v :: walkItems r message rest

def walkMembers (r : Redactor) (p : Plan) : List (String × Json) → List (String × Json)
  | [] => []
  | (name, v) :: rest =>
    if p.remove.contains name then walkMembers r p rest
    else
      match Plan.nested? p name with
      | none => (name, v) :: walkMembers r p rest
      | some t => (name, walk r true t v) :: walkMembers r p rest

end

/-- The value without the sensitive fields of its message. What is no object stays as it is. -/
def redact (r : Redactor) (message : String) (v : Json) : Json := r.walk false message v

end Redactor
end CallGuard
