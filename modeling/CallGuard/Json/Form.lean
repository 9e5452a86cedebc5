import CallGuard.Reading.Record

/-! JSON as a form of data: nothing but what a value is. -/
namespace CallGuard.Json

def text : Json → Except Mismatch String
  | .str s => .ok s
  | v => .error (.type v.found "a string")

def flag : Json → Except Mismatch Bool
  | .bool b => .ok b
  | v => .error (.type v.found "a boolean")

def natural (kind : String) (bound : Nat) : Json → Except Mismatch Nat
  | .int n =>
    if 0 ≤ n ∧ n ≤ bound then .ok n.toNat else .error (.value (Json.int n).found kind)
  | v => .error (.type v.found kind)

def asItems : Json → Except Mismatch (List Json)
  | .arr items => .ok items
  | v => .error (.type v.found "a sequence")

def parts (expected : String) : Json → Except Mismatch (Parts Json)
  | .arr items => .ok (.listed items)
  | .obj members => .ok (.named members)
  | v => .error (.type v.found expected)

/-- A name that is one of the names. -/
def known (names : List String) (name : String) : Except Mismatch String :=
  if names.contains name then .ok name else .error (.unknownVariant name names)

/-- A name alone, or with a value in an object of nothing else. -/
def choice (names : List String) : Json → Except Mismatch (String × Option Json)
  | .str s => (known names s).map (·, none)
  | .obj [(s, v)] => (known names s).map (·, some v)
  | .obj _ => .error (.value "map" "map with a single key")
  | v => .error (.type v.found "string or map")

def nothing : Json → Except Mismatch Unit
  | .null => .ok ()
  | v => .error (.type v.found "unit")

instance : Form Json where
  isNull
    | .null => true
    | _ => false
  text := text
  flag := flag
  natural := natural
  items := asItems
  parts := parts
  choice := choice
  nothing := nothing
  exact := true
  json v := v

end CallGuard.Json
