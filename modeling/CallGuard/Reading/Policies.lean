import CallGuard.Config
import CallGuard.Json.Form

/-! How configurations are written. -/
namespace CallGuard

open Reading

instance : Inhabited Effect := ⟨.allow⟩

instance : Inhabited DefaultPolicy := ⟨.deny⟩

variable {α : Type} [Form α]

def Effect.read (v : α) : Except Mismatch Effect := oneOf [("allow", .allow), ("deny", .deny)] v

def DefaultPolicy.read (v : α) : Except Mismatch DefaultPolicy :=
  oneOf [("allow", .allow), ("deny", .deny)] v

def ClaimMapping.read (v : α) : Except Mismatch ClaimMapping :=
  let fields : Record α ClaimMapping := ClaimMapping.mk
    <$> Record.defaulted "roles" ClaimMapping.default.roles Form.text
    <*> Record.defaulted "name" ClaimMapping.default.name Form.text
  fields.read "struct ClaimMapping" v

def RuleConfig.read (v : α) : Except Mismatch RuleConfig :=
  let fields : Record α RuleConfig := RuleConfig.mk
    <$> Record.required "name" Form.text
    <*> Record.required "methods" texts
    <*> Record.defaulted "effect" .allow Effect.read
    <*> Record.defaulted "public" false Form.flag
    <*> Record.defaulted "roles" [] texts
  fields.read "struct PolicyRuleConfig" v

/-- Whether streamed replies are left alone. -/
def readRedaction (v : α) : Except Mismatch Bool :=
  let fields : Record α Bool := id <$> Record.defaulted "skip_streaming" true Form.flag
  fields.read "struct RedactionConfig" v

namespace KeyConfig

/-- The fields for an algorithm, and the name of the record they make up. -/
def fieldsFor (algorithm : String) : Record Json KeyConfig × String :=
  if algorithm = "HS256" then
    (hs256 <$> Record.required "secret" Form.text, "struct variant KeyConfig::Hs256")
  else
    (rs256
      <$> Record.defaulted "public_key_pem" none (Reading.optional Form.text)
      <*> Record.defaulted "public_key_path" none (Reading.optional fun
        | .str s => .ok s
        | v => .error (.type v.found "path string")),
      "struct variant KeyConfig::Rs256")

def algorithmOf : Json → Except Mismatch String
  | .str s => Json.known ["HS256", "RS256"] s
  | v => .error (.type v.found "variant identifier")

/-- The algorithm stands among the members, or first in a list, and says what the others are. -/
def ofJson : Json → Except Mismatch KeyConfig
  | .obj members =>
    match members.find? (·.1 == "algorithm") with
    | none => .error (.missingField "algorithm")
    | some (_, algorithm) => do
      let (fields, _) := fieldsFor (← algorithmOf algorithm)
      fields.readNamed (members.filter (·.1 != "algorithm"))
  | .arr [] => .error (.missingField "algorithm")
  | .arr (algorithm :: items) => do
    let (fields, record) := fieldsFor (← algorithmOf algorithm)
    let expected := Mismatch.elementCount fields.count ++ " in sequence"
    fields.readListed record (.length · expected) items
  | v => .error (.type v.found "internally tagged enum KeyConfig")

/-- A key is never guessed at: its values must be texts in every form of data. -/
def read (v : α) : Except Mismatch KeyConfig := ofJson (Form.json v)

end KeyConfig

def AuthConfig.read (v : α) : Except Mismatch AuthConfig :=
  let fields : Record α AuthConfig := AuthConfig.mk
    <$> Record.required "issuer" Form.text
    <*> Record.required "key" KeyConfig.read
    <*> Record.defaulted "claims" .default ClaimMapping.read
    <*> Record.defaulted "enforce_issued_at" false Form.flag
    <*> Record.defaulted "skip" [] texts
    <*> Record.defaulted "rules" [] (list RuleConfig.read)
    <*> Record.defaulted "default_policy" .deny DefaultPolicy.read
    <*> Record.defaulted "redaction" true readRedaction
  fields.read "struct AuthConfig" v

/-! ### Writing -/

def Effect.toJson : Effect → Json
  | allow => .str "allow"
  | deny => .str "deny"

def DefaultPolicy.toJson : DefaultPolicy → Json
  | allow => .str "allow"
  | deny => .str "deny"

def RuleConfig.toJson (c : RuleConfig) : Json :=
  .obj [("name", .str c.name), ("methods", .ofTexts c.methods), ("effect", c.effect.toJson),
    ("public", .bool c.isPublic), ("roles", .ofTexts c.roles)]

def KeyConfig.toJson : KeyConfig → Json
  | hs256 secret => .obj [("algorithm", .str "HS256"), ("secret", .str secret)]
  | rs256 text path =>
    .obj [("algorithm", .str "RS256"), ("public_key_pem", .ofText? text),
      ("public_key_path", .ofText? path)]

def AuthConfig.toJson (c : AuthConfig) : Json :=
  .obj [("issuer", .str c.issuer), ("key", c.key.toJson),
    ("claims", .obj [("roles", .str c.claims.roles), ("name", .str c.claims.name)]),
    ("enforce_issued_at", .bool c.enforceIssuedAt), ("skip", .ofTexts c.skip),
    ("rules", .arr (c.rules.map RuleConfig.toJson)), ("default_policy", c.defaultPolicy.toJson),
    ("redaction", .obj [("skip_streaming", .bool c.skipStreaming)])]

end CallGuard
