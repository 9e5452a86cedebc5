import CallGuard.Json.Reader
import CallGuard.Profile.Settings
import CallGuard.Reading.Schemas
import CallGuard.Settings.Environment
import CallGuard.Settings.Form
import CallGuard.Settings.Yaml

/-! Loading settings from a file and the environment, of which the environment comes first. -/
namespace CallGuard.Settings

/-- A file of settings, or the lack of it. -/
inductive File where
  | missing
  | json (text : String)
  | yaml (text : String)

/-- The text without the byte order mark that may stand in front of it. -/
def unmarked (text : String) : String :=
  match text.toList with
  | '\ufeff' :: rest => String.ofList rest
  | _ => text

/-- What the file writes: a table. -/
def File.read? : File → Option (List (String × Setting))
  | missing => none
  | json text =>
    match Json.read (Bytes.ofString (unmarked text)) with
    | .ok (.obj members) => some (Setting.ofJsonMembers members)
    | _ => none
  | yaml text =>
    match (Yaml.read? (unmarked text)).bind Setting.ofYaml? with
    | some (.table entries) => some entries
    | _ => none

/-- The settings of a file, if one is given, and of an environment over them. -/
def gather (file : Option File) (env : List (String × Setting)) : Except ConfigError Setting := do
  let entries ← match file with
    | none => .ok []
    | some file => file.read?.elim (.error .unloadable) .ok
  return Setting.addAll env (Setting.addAll entries (.table []))

/-- The settings as what they should be. -/
def readAs {β : Type} (read : Setting → Except Mismatch β) (v : Setting) : Except ConfigError β :=
  (read v).mapError fun _ => .unloadable

/-- A configuration from which a pipeline can be built. `program` starts the names of its
variables. -/
def loadAuth (files : Files) (file : Option File) (program : String)
    (env : List (String × String)) : Except ConfigError AuthConfig := do
  let c ← readAs AuthConfig.read (← gather file (Setting.ofEnvironment program env))
  c.validate files
  return c

/-- The settings of the profile service. -/
def loadService (files : Files) (file : Option File) (program : String)
    (env : List (String × String)) : Except ConfigError Profile.Settings := do
  let s ← readAs Profile.Settings.read (← gather file (Setting.ofEnvironment program env))
  s.auth.validate files
  return s

/-- Declarations, from a file alone. -/
def loadSchema (file : File) : Except ConfigError Schema := do
  readAs Schema.read (← gather (some file) [])

end CallGuard.Settings
