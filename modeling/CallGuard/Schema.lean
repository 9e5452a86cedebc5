import CallGuard.ConfigError
import CallGuard.Policy.Access

/-!
What is declared of messages and methods: which fields are sensitive, who may call a method, and
which methods carry sensitive data.
-/
namespace CallGuard

structure Field where
  name : String
  sensitive : Bool
  /-- The type of the messages in the field, one or a list of them. -/
  message : Option String
  deriving DecidableEq, Repr

structure Message where
  name : String
  fields : List Field
  deriving DecidableEq, Repr

structure MethodInfo where
  method : Method
  /-- The type of the request. -/
  input : String
  /-- The type of the reply, or of each of a stream of them. -/
  output : String
  serverStreaming : Bool
  usesSensitiveData : Bool
  /-- The handler must not see sensitive fields of the request. -/
  redactRequest : Bool
  /-- Comes before every rule. -/
  access : Option Access
  deriving DecidableEq

/-- Declarations as they are written, not yet checked. -/
structure Schema where
  messages : List Message
  methods : List MethodInfo
  deriving DecidableEq

namespace Schema

def empty : Schema := ⟨[], []⟩

def declares (s : Schema) (message : String) : Bool := s.messages.any (·.name == message)

end Schema

namespace Message

/-- The first fault in the names of the fields: a blank one, or one that an earlier field has. -/
def fieldFault? (m : Message) : List String → List Field → Option ConfigError
  | _, [] => none
  | seen, f :: rest =>
    if Text.isBlankText f.name then some (.emptyFieldName m.name)
    else if seen.contains f.name then some (.duplicateField m.name f.name)
    else m.fieldFault? (f.name :: seen) rest

/-- The first field whose type is not declared. -/
def typeFault? (s : Schema) (m : Message) : Option ConfigError :=
  m.fields.findSome? fun f =>
    match f.message with
    | some t => if s.declares t then none else some (.unknownFieldType m.name f.name t)
    | none => none

end Message

namespace Schema

/-- The first message that is declared twice or whose fields are not well named. -/
def messageFault? : List String → List Message → Option ConfigError
  | _, [] => none
  | seen, m :: rest =>
    if seen.contains m.name then some (.duplicateMessage m.name)
    else (m.fieldFault? [] m.fields).or (messageFault? (m.name :: seen) rest)

/-- What is wrong with the messages: in names first, then in the types of fields. -/
def fault? (s : Schema) : Option ConfigError :=
  (messageFault? [] s.messages).or (s.messages.findSome? (Message.typeFault? s))

end Schema
end CallGuard
