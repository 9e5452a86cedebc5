import CallGuard.Method.Pattern
import CallGuard.Text.Quoted

/-! What can be wrong with an operator's configuration. All of it shows before the first call. -/
namespace CallGuard

/-- Why key material makes no key. -/
inductive KeyFault where
  | emptySecret
  | sourceNotUnique
  /-- The text holds no RSA key in a form that is read. -/
  | notRsa
  /-- A key of the right kind with no bits in it. -/
  | noKeyBits
  deriving DecidableEq, Repr

def KeyFault.reason : KeyFault → String
  | emptySecret => "HS256 secret must not be empty"
  | sourceNotUnique => "RS256 needs exactly one of public_key_pem or public_key_path"
  | notRsa => "failed to parse RSA public key: InvalidKeyFormat"
  | noKeyBits => "failed to parse RSA public key: InvalidEcdsaKey"

/-- Why a written rule is refused. -/
inductive RuleFault where
  | publicWithRoles
  | denyWithAccess
  | blankRole
  | noPatterns
  deriving DecidableEq, Repr

def RuleFault.reason : RuleFault → String
  | publicWithRoles => "a rule cannot be both public and role-gated"
  | denyWithAccess => "deny rules take no public flag or roles"
  | blankRole => "role names must not be empty"
  | noPatterns => "rule has no method patterns"

inductive ConfigError where
  | invalidMethod (input : String) (fault : NameFault)
  | invalidPattern (input : String) (fault : NameFault)
  | emptyIssuer
  | invalidKey (fault : KeyFault)
  | invalidRule (rule : String) (fault : RuleFault)
  | duplicateMethod (method : Method)
  | duplicateMessage (message : String)
  | unknownMessage (method : Method) (message : String)
  | unknownFieldType (message field target : String)
  | duplicateField (message field : String)
  | emptyFieldName (message : String)
  | duplicateRoute (method : Method)
  /-- The file at the path does not exist. -/
  | missingFile (path : String)
  /-- The file or the environment does not describe a configuration. -/
  | unloadable
  deriving DecidableEq

namespace ConfigError

/-- The text for the operator; a configuration that could not be loaded has none of its own. -/
def message? : ConfigError → Option String
  | invalidMethod input fault =>
    some ("invalid method identity " ++ Text.quoted input ++ ": " ++ fault.reason)
  | invalidPattern input fault =>
    some ("invalid method pattern " ++ Text.quoted input ++ ": " ++ fault.reason)
  | emptyIssuer => some "issuer must not be empty"
  | invalidKey fault => some ("invalid verification key: " ++ fault.reason)
  | invalidRule rule fault => some ("policy rule " ++ Text.quoted rule ++ ": " ++ fault.reason)
  | duplicateMethod method => some ("duplicate descriptor for method " ++ method.text)
  | duplicateMessage message => some ("duplicate message descriptor " ++ message)
  | unknownMessage method message =>
    some ("method " ++ method.text ++ " references unknown message " ++ message)
  | unknownFieldType message field target =>
    some ("field " ++ message ++ "." ++ field ++ " references unknown message " ++ target)
  | duplicateField message field =>
    some ("message " ++ message ++ " declares field " ++ Text.quoted field ++ " more than once")
  | emptyFieldName message => some ("message " ++ message ++ " declares a field with an empty name")
  | duplicateRoute method => some ("duplicate route for method " ++ method.text)
  | missingFile path =>
    some ("failed to read " ++ path ++ ": No such file or directory (os error 2)")
  | unloadable => none

end ConfigError

/-- The method that the text names. -/
def Method.parse (s : String) : Except ConfigError Method :=
  (Method.ofChars s.toList).mapError (.invalidMethod s)

/-- The pattern that the text writes. -/
def Pattern.parse (s : String) : Except ConfigError Pattern :=
  (Pattern.ofChars s.toList).mapError (.invalidPattern s)

def SkipList.parse (patterns : List String) : Except ConfigError SkipList :=
  patterns.mapM Pattern.parse

end CallGuard
