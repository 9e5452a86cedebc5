import CallGuard.Yaml.Basic
import CallGuard.Yaml.Token

/-! Reading the one document of a text. -/
namespace CallGuard.Yaml

/-- Tokens that are left to read, and the values that have been named. -/
structure Reading where
  tokens : List Token
  /-- The names, the last one first; each stands for the number of those before it. -/
  names : List String
  /-- Named values that are complete. -/
  values : List (Nat × Yaml)
  /-- What a directive says that a handle stands for. -/
  handle : Option (String × String)

namespace Reading

def drop (n : Nat) (r : Reading) : Reading := { r with tokens := r.tokens.drop n }

def next? (r : Reading) : Option Token := r.tokens.head?

/-- The start of all names that every text knows. -/
def coreStart : String := "tag:yaml.org,2002:"

/-- What a tag asks for. A handle between exclamation marks must have been declared, but for the
one of the names that every text knows. -/
def tag? (r : Reading) (t : TagName) : Option Tag :=
  match r.handle.filter (·.1 == t.handle) with
  | some (_, start) => some (kind start)
  | none =>
    if t.handle = "!!" then some (kind coreStart)
    else if t.handle.length < 2 then some (kind t.handle)
    else none
where
  kind (start : String) : Tag := if start = coreStart then .core t.suffix else .other

/-- The number of a name that is given here. -/
def register (name : String) (r : Reading) : Nat × Reading :=
  (r.names.length, { r with names := name :: r.names })

/-- The value of a name; one that is not yet complete is bad. -/
def lookup? (name : String) (r : Reading) : Option Yaml := do
  let later := (r.names.takeWhile (· != name)).length
  guard (later < r.names.length)
  let number := r.names.length - 1 - later
  return ((r.values.find? (·.1 == number)).map (·.2)).getD .bad

/-- The value is complete. -/
def complete (number : Option Nat) (v : Yaml) (r : Reading) : Reading :=
  match number with
  | some n => { r with values := (n, v) :: r.values }
  | none => r

end Reading

/-- What may stand before a value: a name for it and a tag, in either order. -/
structure Properties where
  number : Option Nat
  tag : Option Tag

def Properties.scan (r : Reading) : Option (Properties × Reading) := do
  match r.tokens with
  | .anchor name :: .tag t :: rest =>
    let (n, r) := r.register name
    return (⟨some n, some (← r.tag? t)⟩, { r with tokens := rest })
  | .tag t :: .anchor name :: rest =>
    let (n, r) := r.register name
    return (⟨some n, some (← r.tag? t)⟩, { r with tokens := rest })
  | .anchor name :: rest =>
    let (n, r) := r.register name
    return (⟨some n, none⟩, { r with tokens := rest })
  | .tag t :: rest => return (⟨none, some (← r.tag? t)⟩, { r with tokens := rest })
  | _ => return (⟨none, none⟩, r)

/-- The token is one of these. -/
def isNext (r : Reading) (ts : List Token) : Bool := r.next?.any ts.contains

mutual

/-- A value. In a block it may be a block of its own, and behind a key a list that is not indented
further. -/
def scanNode : Nat → Bool → Bool → Reading → Option (Yaml × Reading)
  | 0, _, _, _ => none
  | fuel + 1, block, unindented, r =>
    match r.next? with
    | some (.alias name) => do return (← r.lookup? name, r.drop 1)
    | _ => do
      let (p, r) ← Properties.scan r
      let (v, r) ← scanContent fuel block unindented p r
      return (v, r.complete p.number v)

def scanContent : Nat → Bool → Bool → Properties → Reading → Option (Yaml × Reading)
  | 0, _, _, _, _ => none
  | fuel + 1, block, unindented, p, r =>
    let empty : Option (Yaml × Reading) :=
      if p.number.isSome || p.tag.isSome then some (.ofScalar true p.tag "", r) else none
    match r.next? with
    | some (.scalar plain text) => some (.ofScalar plain p.tag text, r.drop 1)
    | some .flowSequenceStart => do
      let (vs, r) ← flowItems fuel true (r.drop 1)
      return (.list vs, r)
    | some .flowMappingStart => do
      let (vs, r) ← flowEntries fuel true (r.drop 1)
      return (.map (← entriesOf? vs), r)
    | some .blockEntry => do
      if !unindented then empty
      else
        let (vs, r) ← unindentedItems fuel r
        return (.list vs, r)
    | some .blockSequenceStart => do
      if !block then empty
      else
        let (vs, r) ← blockItems fuel (r.drop 1)
        return (.list vs, r)
    | some .blockMappingStart => do
      if !block then empty
      else
        let (vs, r) ← blockEntries fuel (r.drop 1)
        return (.map (← entriesOf? vs), r)
    | _ => empty

/-- A value in a block, or null if one of the tokens stands where it would begin. -/
def blockNode : Nat → Bool → List Token → Reading → Option (Yaml × Reading)
  | 0, _, _, _ => none
  | fuel + 1, unindented, stops, r =>
    if isNext r stops then some (.null, r) else scanNode fuel true unindented r

/-- A value between brackets, or null if one of the tokens stands where it would begin. -/
def flowNode : Nat → List Token → Reading → Option (Yaml × Reading)
  | 0, _, _ => none
  | fuel + 1, stops, r => if isNext r stops then some (.null, r) else scanNode fuel false false r

def blockItems : Nat → Reading → Option (List Yaml × Reading)
  | 0, _ => none
  | fuel + 1, r =>
    match r.next? with
    | some .blockEnd => some ([], r.drop 1)
    | some .blockEntry => do
      let (v, r) ← blockNode fuel false [.blockEntry, .blockEnd] (r.drop 1)
      let (vs, r) ← blockItems fuel r
      return (v :: vs, r)
    | _ => none

/-- The items of a list that is indented as the keys around it are; no token ends it. -/
def unindentedItems : Nat → Reading → Option (List Yaml × Reading)
  | 0, _ => none
  | fuel + 1, r =>
    match r.next? with
    | some .blockEntry => do
      let (v, r) ← blockNode fuel false [.blockEntry, .key, .value, .blockEnd] (r.drop 1)
      let (vs, r) ← unindentedItems fuel r
      return (v :: vs, r)
    | _ => some ([], r)

/-- The keys and values of a map in a block, in turn. -/
def blockEntries : Nat → Reading → Option (List Yaml × Reading)
  | 0, _ => none
  | fuel + 1, r =>
    let stops : List Token := [.key, .value, .blockEnd]
    match r.next? with
    | some .blockEnd => some ([], r.drop 1)
    | some .key => do
      let (k, r) ← blockNode fuel true stops (r.drop 1)
      let (v, r) ←
        if isNext r [.value] then blockNode fuel true stops (r.drop 1) else some (.null, r)
      let (vs, r) ← blockEntries fuel r
      return (k :: v :: vs, r)
    | some .value => do
      let (v, r) ← blockNode fuel true stops (r.drop 1)
      let (vs, r) ← blockEntries fuel r
      return (.null :: v :: vs, r)
    | _ => none

/-- The value of a key between brackets; null if no colon comes. -/
def flowValue : Nat → List Token → Reading → Option (Yaml × Reading)
  | 0, _, _ => none
  | fuel + 1, stops, r =>
    if isNext r [.value] then flowNode fuel stops (r.drop 1) else some (.null, r)

/-- The items of a list in brackets. A key among them makes a map of one entry. -/
def flowItems : Nat → Bool → Reading → Option (List Yaml × Reading)
  | 0, _, _ => none
  | fuel + 1, first, r => do
    if isNext r [.flowSequenceEnd] then return ([], r.drop 1)
    guard (first || isNext r [.flowEntry])
    let r := if first then r else r.drop 1
    match r.next? with
    | some .flowSequenceEnd => return ([], r.drop 1)
    | some .key =>
      let r := r.drop 1
      let stops : List Token := [.flowEntry, .flowSequenceEnd]
      let (k, r) ←
        if isNext r (.value :: stops) then some (.null, r.drop 1) else scanNode fuel false false r
      let (v, r) ← flowValue fuel stops r
      let (vs, r) ← flowItems fuel false r
      return (.map (← entriesOf? [k, v]) :: vs, r)
    | _ =>
      let (v, r) ← scanNode fuel false false r
      let (vs, r) ← flowItems fuel false r
      return (v :: vs, r)

/-- The keys and values of a map in brackets, in turn. -/
def flowEntries : Nat → Bool → Reading → Option (List Yaml × Reading)
  | 0, _, _ => none
  | fuel + 1, first, r => do
    if isNext r [.flowMappingEnd] then return ([], r.drop 1)
    guard (first || isNext r [.flowEntry])
    let r := if first then r else r.drop 1
    let stops : List Token := [.flowEntry, .flowMappingEnd]
    match r.next? with
    | some .flowMappingEnd => return ([], r.drop 1)
    | some .key =>
      let (k, r) ← flowNode fuel (.value :: stops) (r.drop 1)
      let (v, r) ← flowValue fuel stops r
      let (vs, r) ← flowEntries fuel false r
      return (k :: v :: vs, r)
    | some .value =>
      let (v, r) ← flowValue fuel stops r
      let (vs, r) ← flowEntries fuel false r
      return (.null :: v :: vs, r)
    | _ =>
      let (k, r) ← scanNode fuel false false r
      let (vs, r) ← flowEntries fuel false r
      return (k :: .null :: vs, r)

end

/-- The directives before a document. The last one alone says what a handle stands for; the version
may be given once. -/
def scanDirectives (version : Bool) : Reading → List Token → Option Reading
  | r, .directive .version :: rest =>
    if version then none else scanDirectives true { r with handle := none } rest
  | r, .directive (.handle h start) :: rest =>
    scanDirectives version { r with handle := some (h, start) } rest
  | r, tokens => some { r with tokens }

/-- A document, which has a mark at its start if directives precede it. -/
def scanDocument (tokens : List Token) : Option (Yaml × Reading) := do
  let r ← scanDirectives false ⟨[], [], [], none⟩ tokens
  let fuel := 4 * tokens.length + 4
  match r.next? with
  | some .documentStart =>
    let r := r.drop 1
    match r.next? with
    | none | some (.directive _) | some .documentStart | some .documentEnd => return (.null, r)
    | _ => scanNode fuel true false r
  | _ =>
    guard (r.tokens.length = tokens.length)
    scanNode fuel true false r

/-- The one document of a text; an empty map if it has none. -/
def read? (text : String) : Option Yaml := do
  match (← Token.scan? text).dropWhile (· == .documentEnd) with
  | [] => return .map []
  | tokens =>
    let (v, r) ← scanDocument tokens
    guard (r.tokens.all (· == .documentEnd))
    return v

end CallGuard.Yaml
