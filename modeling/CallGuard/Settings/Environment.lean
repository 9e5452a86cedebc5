import CallGuard.Settings.Path
import CallGuard.Text.Pieces

/-! Settings in the environment: `PREFIX__A__B` is the setting `a.b`. -/
namespace CallGuard.Setting

/-- The value that a text stands for: a flag, a whole number, another number, or itself. -/
def ofText (s : String) : Setting :=
  let word := s.toLower
  if word = "true" then .flag true
  else if word = "false" then .flag false
  else
    match (Decimal.Extended.integer? s.toList).filter isWord with
    | some n => .int n
    | none =>
      match Decimal.Extended.parse? s with
      | some x => .real x
      | none => .text s

/-- The text with a dot for every two underscores. -/
def dotted : List Char → List Char
  | '_' :: '_' :: rest => '.' :: dotted rest
  | c :: rest => c :: dotted rest
  | [] => []

/-- The name of the setting that a variable is for, if its name starts with the program's. -/
def settingName? (program envName : String) : Option String :=
  let start := (Text.lowercase program).toList ++ ['_', '_']
  let name := (Text.lowercase envName).toList
  if start.isPrefixOf name then some (String.ofList (dotted (name.drop start.length))) else none

/-- The settings in an environment. -/
def ofEnvironment (program : String) (env : List (String × String)) : List (String × Setting) :=
  env.filterMap fun (n, s) => (settingName? program n).map (·, ofText s)

end CallGuard.Setting
