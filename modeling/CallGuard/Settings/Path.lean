import CallGuard.Settings.Value

/-! Places in settings, written as names with dots and indices: `rules[0].name`. -/
namespace CallGuard.Setting

inductive Step where
  | child (name : String)
  /-- A place in a list, counted from its end if it is negative. -/
  | index (i : Int)
  deriving DecidableEq, Repr

def isNameChar (c : Char) : Bool := c.isAlphanum || c == '_' || c == '-' || c == ' '

def scanName (cs : List Char) : Option (String × List Char) :=
  match cs.takeWhile isNameChar with
  | [] => none
  | name => some (Text.lowercase (String.ofList name), cs.dropWhile isNameChar)

def isGap (c : Char) : Bool := c == ' ' || c == '\t'

/-- An index and the bracket after it. -/
def scanIndex (cs : List Char) : Option (Int × List Char) := do
  let cs := cs.dropWhile isGap
  let (negative, cs) := match cs with
    | '-' :: rest => (true, rest)
    | cs => (false, cs)
  let n ← Decimal.Extended.natural? (cs.takeWhile Char.isDigit)
  let i := if negative then -(n : Int) else n
  guard (isWord i)
  match (cs.dropWhile Char.isDigit).dropWhile isGap with
  | ']' :: rest => return (i, rest)
  | _ => none

/-- The steps after the first. -/
def scanSteps : Nat → List Char → Option (List Step)
  | _, [] => some []
  | 0, _ => none
  | fuel + 1, '.' :: rest => do
    let (name, rest) ← scanName rest
    return .child name :: (← scanSteps fuel rest)
  | fuel + 1, '[' :: rest => do
    let (i, rest) ← scanIndex rest
    return .index i :: (← scanSteps fuel rest)
  | _, _ => none

/-- The steps that a name stands for: those that it writes, or itself as it is. -/
def stepsOf (name : String) : List Step :=
  let written : Option (List Step) := do
    let (first, rest) ← scanName name.toList
    return .child first :: (← scanSteps rest.length rest)
  written.getD [.child (Text.lowercase name)]

def padTo (n : Nat) (vs : List Setting) : List Setting :=
  vs ++ List.replicate (n - vs.length) .null

/-- The place that an index names in a list of so many items. -/
def place (length : Nat) (i : Int) : Nat := if i < 0 then length - i.natAbs else i.toNat

/-- Sets the value at a place. Whatever is on the way and is no table or list makes room for one. -/
def setAt : List Step → Setting → Setting → Setting
  | [], v, _ => v
  | [.child name], v, here => .table (merge name v here.entries)
  | .child name :: rest, v, here =>
    .table (put name (setAt rest v ((get? name here.entries).getD .null)) here.entries)
  | .index i :: rest, v, here =>
    let n := place here.items.length i
    let vs := padTo (n + 1) here.items
    .list (vs.set n (setAt rest v (vs.getD n .null)))

/-- Adds named values to a table, each at the place that its name writes. -/
def addAll (values : List (String × Setting)) (table : Setting) : Setting :=
  values.foldl (fun t (name, v) => setAt (stepsOf name) v t) table

end CallGuard.Setting
