import CallGuard.Decimal.Extended
import CallGuard.Json.Basic
import CallGuard.Text.Lowercase

/-! Settings from files and the environment, before anything is known of what they should be. -/
namespace CallGuard

open Decimal (Extended Binary64)

inductive Setting where
  | null
  | flag (b : Bool)
  | int (n : Int)
  | real (x : Extended)
  | text (s : String)
  | list (items : List Setting)
  | table (entries : List (String × Setting))
  deriving Inhabited

namespace Setting

/-- Fits in 64 bits with a sign. -/
def isWord (n : Int) : Bool := -0x8000000000000000 ≤ n && n ≤ 0x7fffffffffffffff

mutual

/-- Whole numbers that do not fit in 64 bits with a sign are rounded. -/
def ofJson : Json → Setting
  | .null => .null
  | .bool b => .flag b
  | .int n =>
    if isWord n then .int n
    else .real ((Binary64.ofInt? n).elim (.infinite (decide (n < 0))) .finite)
  | .float x => .real (.finite x)
  | .str s => .text s
  | .arr items => .list (ofJsonItems items)
  | .obj members => .table (ofJsonMembers members)

def ofJsonItems : List Json → List Setting
  | [] => []
  | v :: rest => ofJson v :: ofJsonItems rest

def ofJsonMembers : List (String × Json) → List (String × Setting)
  | [] => []
  | (name, v) :: rest => (name, ofJson v) :: ofJsonMembers rest

end

mutual

/-- The document that says the same; it has no word for what is not a number. -/
def toJson : Setting → Json
  | .null => .null
  | .flag b => .bool b
  | .int n => .int n
  | .real (.finite x) => .float x
  | .real _ => .float (.zero false)
  | .text s => .str s
  | .list items => .arr (toJsonItems items)
  | .table entries => .obj (toJsonEntries entries)

def toJsonItems : List Setting → List Json
  | [] => []
  | v :: rest => toJson v :: toJsonItems rest

def toJsonEntries : List (String × Setting) → List (String × Json)
  | [] => []
  | (name, v) :: rest => (name, toJson v) :: toJsonEntries rest

end

def get? (name : String) (entries : List (String × Setting)) : Option Setting :=
  (entries.find? (·.1 == name)).map (·.2)

def put (name : String) (v : Setting) : List (String × Setting) → List (String × Setting)
  | [] => [(name, v)]
  | e :: rest => if e.1 = name then (name, v) :: rest else e :: put name v rest

/-- The entries of a table; anything else has none. -/
def entries : Setting → List (String × Setting)
  | .table es => es
  | _ => []

def items : Setting → List Setting
  | .list vs => vs
  | _ => []

mutual

/-- Sets an entry. A table is merged into the one that is there, name by name. -/
def merge (name : String) : Setting → List (String × Setting) → List (String × Setting)
  | .table incoming, es => put name (mergeAll incoming ((get? name es).getD (.table []))) es
  | v, es => put name v es

/-- Merges entries into a table, which takes the place of anything that is none. -/
def mergeAll : List (String × Setting) → Setting → Setting
  | [], target => target
  | (name, v) :: rest, target =>
    mergeAll rest (.table (merge (Text.lowercase name) v target.entries))

end

end Setting
end CallGuard
