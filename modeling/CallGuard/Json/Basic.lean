import CallGuard.Decimal.Binary64

/-! JSON documents. Objects keep the order of their members. -/
namespace CallGuard

open Decimal (Binary64)

inductive Json where
  | null
  | bool (b : Bool)
  /-- A number written without fraction or exponent, of at most 64 bits. -/
  | int (n : Int)
  | float (x : Binary64)
  | str (s : String)
  | arr (items : List Json)
  | obj (members : List (String × Json))
  deriving Inhabited

namespace Json

/-- Puts a member: at the end, or in the place of the one of that name. -/
def put (name : String) (value : Json) : List (String × Json) → List (String × Json)
  | [] => [(name, value)]
  | (n, v) :: rest => if n = name then (name, value) :: rest else (n, v) :: put name value rest

/-- An object of the members in order; of two with one name the later value takes the place of the
earlier. -/
def ofMembers (members : List (String × Json)) : Json :=
  .obj (members.foldl (fun acc (n, v) => put n v acc) [])

mutual

/-- The document with no name twice in an object of it. -/
def merged : Json → Json
  | arr xs => .arr (mergedItems xs)
  | obj ms => ofMembers (mergedMembers ms)
  | v => v

def mergedItems : List Json → List Json
  | [] => []
  | x :: xs => merged x :: mergedItems xs

def mergedMembers : List (String × Json) → List (String × Json)
  | [] => []
  | (name, v) :: ms => (name, merged v) :: mergedMembers ms

end

def member? (name : String) : Json → Option Json
  | .obj members => (members.find? (·.1 == name)).map (·.2)
  | _ => none

def items : Json → List Json
  | .arr xs => xs
  | _ => []

def str? : Json → Option String
  | .str s => some s
  | _ => none

/-- A text or null. -/
def ofText? : Option String → Json
  | none => .null
  | some s => .str s

def ofTexts (xs : List String) : Json := .arr (xs.map .str)

end Json
end CallGuard
