import CallGuard.Json.Mismatch

/-!
Reading typed values from data without types. What counts as a text, a flag or a number is up to the
form the data has.
-/
namespace CallGuard

/-- A record's members: in the record's order, or by name. -/
inductive Parts (α : Type) where
  | listed (items : List α)
  | named (members : List (String × α))

class Form (α : Type) where
  isNull : α → Bool
  text : α → Except Mismatch String
  flag : α → Except Mismatch Bool
  /-- A whole number from zero up to a bound, of the kind named. -/
  natural : (kind : String) → (bound : Nat) → α → Except Mismatch Nat
  items : α → Except Mismatch (List α)
  parts : (expected : String) → α → Except Mismatch (Parts α)
  /-- One of the names, and what is said of it. -/
  choice : (names : List String) → α → Except Mismatch (String × Option α)
  /-- Nothing is said, where a name stands for itself. -/
  nothing : α → Except Mismatch Unit
  /-- A list of too many members for a record is refused. -/
  exact : Bool
  /-- The value as it is, for readers that take no other form. -/
  json : α → Json

namespace Reading

variable {α β : Type} [Form α]

/-- Null or a value. -/
def optional (read : α → Except Mismatch β) (v : α) : Except Mismatch (Option β) :=
  if Form.isNull v then .ok none else (read v).map some

def list (read : α → Except Mismatch β) (v : α) : Except Mismatch (List β) := do
  (← Form.items v).mapM read

def texts : α → Except Mismatch (List String) := list Form.text

/-- One of some values, each under the name it goes by. -/
def oneOf [Inhabited β] (options : List (String × β)) (v : α) : Except Mismatch β := do
  let (name, said) ← Form.choice (options.map (·.1)) v
  if let some v := said then Form.nothing v
  match options.find? (·.1 == name) with
  | some (_, b) => return b
  | none => throw (.unknownVariant name (options.map (·.1)))

end Reading
end CallGuard
