/-! Double precision numbers as the exact fractions they denote. -/
namespace CallGuard.Decimal

/-- A finite double: the mantissa times two to the exponent, below zero if `negative` is set.
Zero has a sign. -/
structure Binary64 where
  negative : Bool
  mantissa : Nat
  exponent : Int
  deriving DecidableEq, Repr, Inhabited

/-- A quotient rounded to the nearest whole number, a half to the even one. -/
def roundDiv (num den : Nat) : Nat :=
  let q := num / den
  let r := num % den
  if 2 * r < den then q
  else if den < 2 * r then q + 1
  else if q % 2 = 0 then q else q + 1

/-- The numerator and denominator of `num / (den * 2 ^ e)`. -/
def scaleTwo (num den : Nat) (e : Int) : Nat × Nat :=
  if 0 ≤ e then (num, den <<< e.toNat) else (num <<< (-e).toNat, den)

/-- The numerator and denominator of `n * 10 ^ e`. -/
def scaleTen (n : Nat) (e : Int) : Nat × Nat :=
  if 0 ≤ e then (n * Nat.pow 10 e.toNat, 1) else (n, Nat.pow 10 (-e).toNat)

namespace Binary64

def zero (negative : Bool) : Binary64 := ⟨negative, 0, -1074⟩

/-- The exponent of the doubles around `num / den`: their mantissas fill 53 bits, but for the
fractions next to zero. -/
def exponentOf (num den : Nat) : Int :=
  let e : Int := (num.log2 : Int) - den.log2 - 53
  let (n, d) := scaleTwo num den e
  max (-1074) (if 1 <<< 53 ≤ n / d then e + 1 else e)

/-- The double nearest to `num / den`, the one with the even mantissa of two; none past the
largest. -/
def ofRatio? (negative : Bool) (num den : Nat) : Option Binary64 :=
  if num = 0 then some (zero negative)
  else
    let e := exponentOf num den
    let (n, d) := scaleTwo num den e
    let m := roundDiv n d
    let (m, e) := if m = 1 <<< 53 then (1 <<< 52, e + 1) else (m, e)
    if e ≤ 971 then some ⟨negative, m, e⟩ else none

/-- The double nearest to `n * 10 ^ e`. Powers out of range are settled without computing them. -/
def ofDecimal? (negative : Bool) (n : Nat) (e : Int) : Option Binary64 :=
  let digits : Int := if n = 0 then 0 else n.log2 * 30103 / 100000 + 1
  if n = 0 then some (zero negative)
  else if 310 < digits + e then none
  else if digits + e < -330 then some (zero negative)
  else
    let (num, den) := scaleTen n e
    ofRatio? negative num den

/-- The nearest double to a whole number. -/
def ofInt? (n : Int) : Option Binary64 := ofRatio? (n < 0) n.natAbs 1

/-- The numerator and denominator of the double without its sign. -/
def fraction (x : Binary64) : Nat × Nat := scaleTwo x.mantissa 1 (-x.exponent)

/-- The product, rounded; none past the largest double. -/
def mul? (x y : Binary64) : Option Binary64 :=
  ofRatio? (x.negative != y.negative) (x.fraction.1 * y.fraction.1) (x.fraction.2 * y.fraction.2)

/-- The quotient by a double that is not zero, rounded. -/
def div? (x y : Binary64) : Option Binary64 :=
  ofRatio? (x.negative != y.negative) (x.fraction.1 * y.fraction.2) (x.fraction.2 * y.fraction.1)

def isZero (x : Binary64) : Bool := x.mantissa == 0

/-- The least whole number not below the double. -/
def ceil (x : Binary64) : Int :=
  let (n, d) := scaleTwo x.mantissa 1 (-x.exponent)
  if x.negative then -((n / d : Nat) : Int) else ((n + d - 1) / d : Nat)

/-- The nearest whole number, a half away from zero. -/
def roundAway (x : Binary64) : Int :=
  let (n, d) := scaleTwo x.mantissa 1 (-x.exponent)
  let m : Nat := (2 * n + d) / (2 * d)
  if x.negative then -(m : Int) else m

end Binary64
end CallGuard.Decimal
