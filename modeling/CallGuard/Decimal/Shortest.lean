import CallGuard.Decimal.Binary64

/-! The shortest decimal that reads back as a double. -/
namespace CallGuard.Decimal

/-- `digits * 10 ^ exponent`. -/
structure Scaled where
  digits : Nat
  exponent : Int
  deriving DecidableEq, Repr, Inhabited

/-- `num / den` is at least ten to the power `p`. -/
def atLeastTen (num den : Nat) (p : Int) : Bool :=
  let (n, d) := scaleTen 1 p
  n * den ≤ num * d

namespace Binary64

/-- The power of ten of the first digit. It is at most two above what the power of two of the first
bit tells. -/
def leadingPower (x : Binary64) : Int :=
  let (n, d) := scaleTwo x.mantissa 1 (-x.exponent)
  let p := ((x.mantissa.log2 : Int) + x.exponent) * 30103 / 100000
  if atLeastTen n d (p + 2) then p + 2 else if atLeastTen n d (p + 1) then p + 1 else p

/-- The decimal lies among the reals that round to the double: between the midpoints to its
neighbours, which belong to it if its mantissa is even. The lower neighbour of a power of two is
half as far. -/
def contains (x : Binary64) (s : Scaled) : Bool :=
  let m := 4 * x.mantissa
  let lo := if x.mantissa = 1 <<< 52 ∧ -1074 < x.exponent then m - 1 else m - 2
  let hi := m + 2
  let (n, d) := scaleTen s.digits s.exponent
  -- the bounds count quarters of a unit of the mantissa
  let (n, d) := scaleTwo n d (x.exponent - 2)
  if x.mantissa % 2 = 0 then lo * d ≤ n && n ≤ hi * d else lo * d < n && n < hi * d

/-- A multiple of `10 ^ g` that rounds to the double: the nearer of its two neighbours if that does,
of two equally near ones the even. -/
def onGrid (x : Binary64) (g : Int) : Option Scaled :=
  let (n, d) := scaleTwo x.mantissa 1 (-x.exponent)
  let (n, d) := if 0 ≤ g then (n, d * Nat.pow 10 g.toNat) else (n * Nat.pow 10 (-g).toNat, d)
  let q := n / d
  let near := roundDiv n d
  let far := if near = q then q + 1 else q
  if x.contains ⟨near, g⟩ then some ⟨near, g⟩
  else if x.contains ⟨far, g⟩ then some ⟨far, g⟩
  else none

/-- Tries grids of one digit more each time; seventeen digits always suffice. -/
def firstGrid (x : Binary64) (p : Int) : Nat → Nat → Scaled
  | 0, n => ⟨0, p - n⟩
  | fuel + 1, n =>
    match x.onGrid (p - n) with
    | some s => s
    | none => firstGrid x p fuel (n + 1)

/-- The decimal of fewest digits that rounds to the double, and of those the nearest to it. -/
def shortest (x : Binary64) : Scaled :=
  if x.isZero then ⟨0, 0⟩
  else
    let s := x.firstGrid x.leadingPower 18 0
    if s.digits % 10 = 0 then ⟨s.digits / 10, s.exponent + 1⟩ else s

end Binary64

/-- How the digits of a decimal are laid out. -/
structure Layout where
  /-- Which powers of the first digit are written without an exponent. -/
  positional : Int → Bool
  /-- What follows a whole number written without an exponent. -/
  wholeEnd : String

def zeros (n : Nat) : String := String.ofList (List.replicate n '0')

namespace Scaled

/-- Digits before and after the point, with as many zeros as it takes. -/
def positional (s : Scaled) (wholeEnd : String) : String :=
  let ds := toString s.digits
  if 0 ≤ s.exponent then ds ++ zeros s.exponent.toNat ++ wholeEnd
  else
    let places := (-s.exponent).toNat
    let ds := zeros (places + 1 - ds.length) ++ ds
    String.ofList (ds.toList.take (ds.length - places)) ++ "." ++
      String.ofList (ds.toList.drop (ds.length - places))

/-- One digit before the point, and the power of ten with its sign. -/
def scientific (s : Scaled) : String :=
  let ds := toString s.digits
  let power := s.exponent + (ds.length - 1 : Nat)
  let mark := if power < 0 then "e-" else "e+"
  let lead := String.ofList (ds.toList.take 1)
  let rest := String.ofList (ds.toList.drop 1)
  (if rest.isEmpty then lead else lead ++ "." ++ rest) ++ mark ++ toString power.natAbs

end Scaled

/-- The double's shortest decimal in the layout; minus zero keeps its sign. -/
def Layout.text (l : Layout) (x : Binary64) : String :=
  let s := x.shortest
  let power := s.exponent + ((toString s.digits).length - 1 : Nat)
  (if x.negative then "-" else "") ++
    if l.positional power then s.positional l.wholeEnd else s.scientific

/-- Every power positional and whole numbers bare. -/
def Layout.plain : Layout := ⟨fun _ => true, ""⟩

end CallGuard.Decimal
