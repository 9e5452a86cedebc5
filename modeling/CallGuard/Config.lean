import CallGuard.Policy.Rule
import CallGuard.Token.Verifier

/-! What an operator can set, and the parts of a pipeline that are made of it. -/
namespace CallGuard

/-- Where the verifier's key comes from. -/
inductive KeyConfig where
  | hs256 (secret : String)
  /-- A key text, or the path of a file that holds one: exactly one of the two. -/
  | rs256 (text path : Option String)
  deriving DecidableEq, Repr

/-- The files there are, by path. -/
abbrev Files := String → Option Bytes

namespace KeyConfig

def key (files : Files) : KeyConfig → Except ConfigError Key
  | hs256 secret => Key.ofSecret (Bytes.ofString secret)
  | rs256 (some text) none => Key.ofPem (Bytes.ofString text)
  | rs256 none (some path) =>
    match files path with
    | some text => Key.ofPem text
    | none => .error (.missingFile path)
  | rs256 _ _ => .error (.invalidKey .sourceNotUnique)

/-- The configuration as it is shown, without the key. -/
def shown : KeyConfig → String
  | hs256 _ => "Hs256 \x7b secret: \"[REDACTED]\" \x7d"
  | rs256 text path =>
    "Rs256 \x7b public_key_pem: " ++ Text.quotedOption (text.map fun _ => "<inline>") ++
      ", public_key_path: " ++ Text.quotedOption path ++ " \x7d"

end KeyConfig

structure AuthConfig where
  issuer : String
  key : KeyConfig
  claims : ClaimMapping
  enforceIssuedAt : Bool
  /-- Patterns of methods that need neither a credential nor permission. -/
  skip : List String
  rules : List RuleConfig
  defaultPolicy : DefaultPolicy
  /-- Streamed replies are not redacted. -/
  skipStreaming : Bool
  deriving DecidableEq

namespace AuthConfig

/-- A configuration with a shared secret, and all else as it is by default. -/
def ofSecret (issuer secret : String) : AuthConfig :=
  ⟨issuer, .hs256 secret, .default, false, [], [], .deny, true⟩

def verifier (c : AuthConfig) (files : Files) : Except ConfigError Verifier := do
  let key ← c.key.key files
  let v ← Verifier.ofKey c.issuer key
  return { v with mapping := c.claims, enforceIssuedAt := c.enforceIssuedAt }

def skipList (c : AuthConfig) : Except ConfigError SkipList := SkipList.parse c.skip

def ruleSet (c : AuthConfig) : Except ConfigError RuleSet :=
  RuleSet.ofConfig c.rules c.defaultPolicy

/-- All that a pipeline needs of the configuration can be made of it. -/
def validate (c : AuthConfig) (files : Files) : Except ConfigError Unit := do
  let _ ← c.verifier files
  let _ ← c.skipList
  let _ ← c.ruleSet

end AuthConfig
end CallGuard
