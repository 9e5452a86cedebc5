import CallGuard.Decimal.Extended
import CallGuard.Yaml.Tag

/-! Values written in YAML, and what a scalar without quotes stands for. -/
namespace CallGuard

open Decimal (Extended)

inductive Yaml where
  | null
  | bool (b : Bool)
  /-- A whole number of 64 bits with a sign. -/
  | int (n : Int)
  /-- Another number, as it is written. -/
  | real (text : String)
  | str (s : String)
  | list (items : List Yaml)
  | map (entries : List (Yaml × Yaml))
  /-- What does not fit its tag, or is mentioned inside itself. -/
  | bad
  deriving Inhabited

namespace Yaml

/-- The whole number in a base up to sixteen, with a sign or without. -/
def integer? (base : Nat) (cs : List Char) : Option Int := do
  let (negative, ds) := Extended.splitSign cs
  guard !ds.isEmpty
  let ds ← ds.mapM fun d => (Bytes.hexValue? d.toNat).filter (· < base)
  let magnitude := ds.foldl (fun n d => n * base + d) 0
  let n : Int := if negative then -(magnitude : Int) else magnitude
  guard (-0x8000000000000000 ≤ n && n ≤ 0x7fffffffffffffff)
  return n

/-- The words for what is no number and what is infinite. -/
def infinities : List String :=
  [".inf", ".Inf", ".INF", "+.inf", "+.Inf", "+.INF", "-.inf", "-.Inf", "-.INF",
    ".nan", "NaN", ".NAN"]

def isReal (s : String) : Bool := infinities.contains s || (Extended.parse? s).isSome

/-- A whole number behind a sign or the mark of its base. -/
def marked? (s : String) : Option Int :=
  match s.toList with
  | '0' :: 'x' :: ds => integer? 16 ds
  | '0' :: 'o' :: ds => integer? 8 ds
  | '+' :: ds => integer? 10 ds
  | _ => none

/-- What a text without quotes and without a tag stands for. -/
def ofPlain (s : String) : Yaml :=
  match marked? s with
  | some n => .int n
  | none =>
    if ["", "~", "null"].contains s then .null
    else if s = "true" then .bool true
    else if s = "false" then .bool false
    else
      match integer? 10 s.toList with
      | some n => .int n
      | none => if isReal s then .real s else .str s

/-- What a tag asks for: a kind of value that every text knows, or something else. -/
inductive Tag where
  | core (kind : String)
  | other
  deriving DecidableEq, Repr

/-- What a text without quotes stands for under a tag. -/
def ofTagged (tag : Tag) (s : String) : Yaml :=
  match tag with
  | .core "bool" => if s = "true" then .bool true else if s = "false" then .bool false else .bad
  | .core "int" => ((integer? 10 s.toList).map .int).getD .bad
  | .core "float" => if isReal s then .real s else .bad
  | .core "null" => if s = "~" ∨ s = "null" then .null else .bad
  | _ => .str s

def ofScalar (plain : Bool) (tag : Option Tag) (s : String) : Yaml :=
  if !plain then .str s
  else match tag with
    | some tag => ofTagged tag s
    | none => ofPlain s

/-- The two are the same scalar. -/
def sameScalar : Yaml → Yaml → Bool
  | null, null => true
  | bool a, bool b => a == b
  | int a, int b => a == b
  | real a, real b => a == b
  | str a, str b => a == b
  | _, _ => false

/-- The entries of a map whose keys and values come in turn. What is bad is no key, and what comes
after it takes its turn; no key may stand there twice. -/
def entriesOf? : List Yaml → Option (List (Yaml × Yaml))
  | .bad :: rest => entriesOf? rest
  | k :: v :: rest => do
    let es ← entriesOf? rest
    guard !(es.any fun e => sameScalar e.1 k)
    return (k, v) :: es
  | _ => some []

end Yaml
end CallGuard
