import CallGuard.Json.Form
import CallGuard.Schema

/-! How declarations of messages and methods are written. -/
namespace CallGuard

open Reading

variable {α : Type} [Form α]

def Access.read (v : α) : Except Mismatch Access := do
  let (name, said) ← Form.choice ["public", "authenticated", "roles"] v
  if name = "roles" then
    match said with
    | some v => return .holding (.ofList (← texts v))
    | none => throw (.type "unit variant" "newtype variant")
  else
    if let some v := said then Form.nothing v
    return if name = "public" then .anyone else .authenticated

def Method.read (v : α) : Except Mismatch Method := do
  (Method.parse (← Form.text v)).mapError fun e => .other (e.message?.getD "")

def Field.read (v : α) : Except Mismatch Field :=
  let fields : Record α Field := Field.mk
    <$> Record.required "name" Form.text
    <*> Record.defaulted "sensitive" false Form.flag
    <*> Record.defaulted "message" none (Reading.optional Form.text)
  fields.read "struct FieldDescriptor" v

def Message.read (v : α) : Except Mismatch Message :=
  let fields : Record α Message := Message.mk
    <$> Record.required "name" Form.text
    <*> Record.defaulted "fields" [] (list Field.read)
  fields.read "struct MessageDescriptor" v

def MethodInfo.read (v : α) : Except Mismatch MethodInfo :=
  let fields : Record α MethodInfo := MethodInfo.mk
    <$> Record.required "method" Method.read
    <*> Record.required "input" Form.text
    <*> Record.required "output" Form.text
    <*> Record.defaulted "server_streaming" false Form.flag
    <*> Record.defaulted "uses_sensitive_data" false Form.flag
    <*> Record.defaulted "redact_request" false Form.flag
    <*> Record.defaulted "access" none (Reading.optional Access.read)
  fields.read "struct MethodDescriptor" v

def Schema.read (v : α) : Except Mismatch Schema :=
  let fields : Record α Schema := Schema.mk
    <$> Record.defaulted "messages" [] (list Message.read)
    <*> Record.defaulted "methods" [] (list MethodInfo.read)
  fields.read "struct DescriptorSet" v

/-! ### Writing -/

def Method.toJson (m : Method) : Json := .str m.text

def Access.toJson : Access → Json
  | anyone => .str "public"
  | authenticated => .str "authenticated"
  | holding roles => .obj [("roles", .ofTexts roles.toList)]

/-- A method without an access of its own says nothing of it. -/
def MethodInfo.toJson (d : MethodInfo) : Json :=
  .obj <| [("method", d.method.toJson), ("input", .str d.input), ("output", .str d.output),
    ("server_streaming", .bool d.serverStreaming),
    ("uses_sensitive_data", .bool d.usesSensitiveData),
    ("redact_request", .bool d.redactRequest)] ++
    (d.access.map fun a => ("access", a.toJson)).toList

end CallGuard
