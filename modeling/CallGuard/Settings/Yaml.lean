import CallGuard.Settings.Value
import CallGuard.Yaml.Reader

/-! Settings written in YAML. -/
namespace CallGuard.Setting

/-- The name that a key writes. -/
def nameOfKey? : Yaml → Option String
  | .str s => some s
  | .int n => some (toString n)
  | _ => none

mutual

/-- Numbers must be written as numbers are everywhere, and keys be texts or whole numbers. -/
def ofYaml? : Yaml → Option Setting
  | .null | .bad => some .null
  | .bool b => some (.flag b)
  | .int n => some (.int n)
  | .real s => (Decimal.Extended.parse? s).map Setting.real
  | .str s => some (.text s)
  | .list items => (ofYamlItems? items).map Setting.list
  | .map entries => (ofYamlEntries? entries).map Setting.table

def ofYamlItems? : List Yaml → Option (List Setting)
  | [] => some []
  | v :: rest => do return (← ofYaml? v) :: (← ofYamlItems? rest)

def ofYamlEntries? : List (Yaml × Yaml) → Option (List (String × Setting))
  | [] => some []
  | (k, v) :: rest => do
    let name ← nameOfKey? k
    let v ← ofYaml? v
    let es ← ofYamlEntries? rest
    return if (get? name es).isSome then es else (name, v) :: es

end

end CallGuard.Setting
