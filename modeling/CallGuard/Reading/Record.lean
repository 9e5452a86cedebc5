import CallGuard.Reading.Form

/-!
Records: fields that are declared once and read from members by name or in order. Members are
checked in the order they are given; what is missing shows only after that.
-/
namespace CallGuard

/-- How the fields of a `β` are read from data of the form `α`. -/
structure Record (α β : Type) where
  /-- How many fields there are. -/
  count : Nat
  /-- The check of the field of a name. -/
  check? : String → Option (α → Except Mismatch Unit)
  named : (String → Option α) → Except Mismatch β
  /-- Reads the fields off a list, of which the first stands at an index; `short` is the mismatch
  of a list that ends before an index. Returns what is left. -/
  listed : (short : Nat → Mismatch) → Nat → List α → Except Mismatch (β × List α)

namespace Record

variable {α β γ : Type}

def pure (b : β) : Record α β where
  count := 0
  check? _ := none
  named _ := .ok b
  listed _ _ items := .ok (b, items)

/-- The fields of one record, then those of another. -/
def seq (f : Record α (β → γ)) (x : Record α β) : Record α γ where
  count := f.count + x.count
  check? name := (f.check? name).or (x.check? name)
  named get? := do
    let g ← f.named get?
    let b ← x.named get?
    return g b
  listed short i items := do
    let (g, items) ← f.listed short i items
    let (b, items) ← x.listed short (i + f.count) items
    return (g b, items)

instance : Functor (Record α) where
  map f x := seq (pure f) x

instance : Seq (Record α) where
  seq f x := seq f (x ())

/-- A field, with what it is without a member of its name, and without one in its place. -/
def field (name : String) (read : α → Except Mismatch β) (unnamed : Except Mismatch β)
    (unlisted : Option β) : Record α β where
  count := 1
  check? n := if n = name then some fun v => (read v).map fun _ => () else none
  named get? := (get? name).elim unnamed read
  listed short i items :=
    match items with
    | [] =>
      match unlisted with
      | some b => .ok (b, [])
      | none => .error (short i)
    | v :: rest => (read v).map fun b => (b, rest)

/-- A field that must be there. -/
def required (name : String) (read : α → Except Mismatch β) : Record α β :=
  field name read (.error (.missingField name)) none

/-- A field that has a value without being there. -/
def defaulted (name : String) (default : β) (read : α → Except Mismatch β) : Record α β :=
  field name read (.ok default) (some default)

variable [Form α]

/-- A field that may be null, or not there at all; in a list it has its place. -/
def optional (name : String) (read : α → Except Mismatch β) : Record α (Option β) :=
  field name (Reading.optional read) (.ok none) none

/-- Reads the fields off named members. -/
def readNamed (r : Record α β) (members : List (String × α)) : Except Mismatch β := do
  members.forM fun (name, v) => ((r.check? name).elim (.ok ()) (· v) : Except Mismatch Unit)
  r.named fun name => (members.find? (·.1 == name)).map (·.2)

/-- Reads the fields off a list; `long` is the mismatch of a list of more members than fields. -/
def readListed (r : Record α β) (record : String) (long : Nat → Mismatch) (items : List α) :
    Except Mismatch β := do
  let short (i : Nat) := Mismatch.length i (Mismatch.elements record r.count)
  let (b, rest) ← r.listed short 0 items
  if Form.exact α && !rest.isEmpty then throw (long items.length) else return b

/-- Reads the record of the name. -/
def read (r : Record α β) (record : String) (v : α) : Except Mismatch β := do
  match ← Form.parts record v with
  | .named members => r.readNamed members
  | .listed items => r.readListed record (.length · "fewer elements in array") items

end Record
end CallGuard
