import CallGuard.Decimal.Shortest

/-! Doubles with the values that are no numbers, as texts write them. -/
namespace CallGuard.Decimal

inductive Extended where
  | finite (x : Binary64)
  | infinite (negative : Bool)
  | nan
  deriving DecidableEq, Repr

namespace Extended

/-- The text without an exponent and without a point where none is needed. -/
def text : Extended → String
  | finite x => Layout.plain.text x
  | infinite negative => if negative then "-inf" else "inf"
  | nan => "NaN"

def isZero : Extended → Bool
  | finite x => x.isZero
  | _ => false

/-- A sign in front, and what it leaves. -/
def splitSign : List Char → Bool × List Char
  | '-' :: rest => (true, rest)
  | '+' :: rest => (false, rest)
  | cs => (false, cs)

def digitsValue (ds : List Char) : Nat := ds.foldl (fun n d => n * 10 + (d.toNat - 48)) 0

/-- A whole number: digits, of which there must be some. -/
def natural? (cs : List Char) : Option Nat :=
  if !cs.isEmpty && cs.all Char.isDigit then some (digitsValue cs) else none

/-- A whole number with a sign or without. -/
def integer? (cs : List Char) : Option Int :=
  let (negative, ds) := splitSign cs
  (natural? ds).map fun n => if negative then -(n : Int) else n

/-- The exponent after the digits, if nothing else follows them. -/
def exponent? : List Char → Option Int
  | [] => some 0
  | c :: rest => if c = 'e' ∨ c = 'E' then integer? rest else none

/-- A decimal: digits around a point that may be missing, at least one of them, and an exponent. -/
def decimal? (negative : Bool) (cs : List Char) : Option Extended := do
  let whole := cs.takeWhile Char.isDigit
  let rest := cs.dropWhile Char.isDigit
  let (fraction, rest) := match rest with
    | '.' :: rest => (rest.takeWhile Char.isDigit, rest.dropWhile Char.isDigit)
    | rest => ([], rest)
  guard (!whole.isEmpty || !fraction.isEmpty)
  let e ← exponent? rest
  let x := Binary64.ofDecimal? negative (digitsValue (whole ++ fraction)) (e - fraction.length)
  return x.elim (.infinite negative) .finite

/-- The number that a text writes: a decimal, or a word in any case. -/
def parse? (s : String) : Option Extended :=
  let (negative, cs) := splitSign s.toList
  let word := String.ofList (cs.map Char.toLower)
  if word = "inf" ∨ word = "infinity" then some (.infinite negative)
  else if word = "nan" then some .nan
  else decimal? negative cs

end Extended
end CallGuard.Decimal
