import CallGuard.Reading.Record
import CallGuard.Settings.Value

/-!
Settings as a form of data. Files and environments write values loosely: a number is as good as a
text, a word as good as a flag, and case does not matter to names.
-/
namespace CallGuard.Setting

open Decimal (Extended)

/-- What a setting of the wrong kind is refused with. -/
def unfit (expected : String) {β : Type} : Except Mismatch β := .error (.type "setting" expected)

def asText : Setting → Except Mismatch String
  | .text s => .ok s
  | .flag b => .ok (toString b)
  | .int n => .ok (toString n)
  | .real x => .ok x.text
  | _ => unfit "a string"

def asFlag : Setting → Except Mismatch Bool
  | .flag b => .ok b
  | .int n => .ok (n != 0)
  | .real x => .ok !x.isZero
  | .text s =>
    let word := Text.lowercase s
    if ["1", "true", "on", "yes"].contains word then .ok true
    else if ["0", "false", "off", "no"].contains word then .ok false
    else unfit "a boolean"
  | _ => unfit "a boolean"

/-- The whole number of a word or of digits. -/
def wordNumber? (s : String) : Option Nat :=
  let word := Text.lowercase s
  if ["true", "on", "yes"].contains word then some 1
  else if ["false", "off", "no"].contains word then some 0
  else
    match s.toList with
    | '+' :: ds => Extended.natural? ds
    | ds => Extended.natural? ds

/-- A whole number from zero up; fractions are rounded, a half away from zero. -/
def number? : Setting → Option Nat
  | .flag b => some b.toNat
  | .int n => if 0 ≤ n then some n.toNat else none
  | .real (.finite x) => some x.roundAway.toNat
  | .real .nan => some 0
  | .real (.infinite negative) => if negative then some 0 else none
  | .text s => wordNumber? s
  | _ => none

def asNatural (kind : String) (bound : Nat) (v : Setting) : Except Mismatch Nat :=
  match (number? v).filter (· ≤ bound) with
  | some n => .ok n
  | none => unfit kind

def asItems : Setting → Except Mismatch (List Setting)
  | .list vs => .ok vs
  | _ => unfit "a sequence"

def asParts (expected : String) : Setting → Except Mismatch (Parts Setting)
  | .list vs => .ok (.listed vs)
  | .table es => .ok (.named es)
  | _ => unfit expected

/-- The one of the names that a text is, whatever its case. -/
def nameOf (names : List String) (s : String) : Except Mismatch String :=
  match names.find? fun n => Text.lowercase n == Text.lowercase s with
  | some n => .ok n
  | none => .error (.unknownVariant s names)

def asChoice (names : List String) : Setting → Except Mismatch (String × Option Setting)
  | .text s => (nameOf names s).map (·, none)
  | .table [(s, v)] => (nameOf names s).map (·, some v)
  | _ => unfit "string or map"

instance : Form Setting where
  isNull
    | .null => true
    | _ => false
  text := asText
  flag := asFlag
  natural := asNatural
  items := asItems
  parts := asParts
  choice := asChoice
  nothing _ := .ok ()
  exact := false
  json := toJson

end CallGuard.Setting
