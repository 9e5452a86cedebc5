import CallGuard.Decimal.Binary64

/-!
Decimals rounded step by step: the digits are rounded to a double, which is then multiplied or
divided by powers of ten that are doubles themselves. Each step rounds anew, so that the last bits
may differ from those of the nearest double.
-/
namespace CallGuard.Decimal.Binary64

/-- The greatest power of ten that a step can take. -/
def maxPower : Nat := 308

/-- The double nearest to a power of ten. -/
def powerOfTen? (k : Nat) : Option Binary64 := ofRatio? false (Nat.pow 10 k) 1

/-- A number multiplied by a power of ten. Zero is the only one that can take any. -/
def raise? (x : Binary64) (k : Nat) : Option Binary64 :=
  if k ≤ maxPower then do x.mul? (← powerOfTen? k)
  else if x.isZero then some x
  else none

/-- A number divided by a power of ten that a step can take. -/
def lowerOnce? (x : Binary64) (k : Nat) : Option Binary64 := do x.div? (← powerOfTen? k)

/-- A number divided by the greatest power some times, and then by the last one. Once zero is
reached, nothing changes any more. -/
def lower? (x : Binary64) : Nat → Nat → Option Binary64
  | 0, last => x.lowerOnce? last
  | steps + 1, last => if x.isZero then some x else do lower? (← x.lowerOnce? maxPower) steps last

/-- `n * 10 ^ e`, in steps. Its sign comes last. -/
def ofSteps? (negative : Bool) (n : Nat) (e : Int) : Option Binary64 := do
  let x ← ofRatio? false n 1
  let y ←
    if 0 ≤ e then x.raise? e.toNat
    else
      let steps := ((-e).toNat - 1) / maxPower
      x.lower? steps ((-e).toNat - steps * maxPower)
  return { y with negative := negative }

/-- Eighteen digits are rounded before the point is put among them: nothing is left of a fraction
that the nearest double would keep. -/
example : ofSteps? false 170000000000000012 (-8) = ofSteps? false 1700000000 0 ∧
    ofDecimal? false 170000000000000012 (-8) ≠ ofDecimal? false 1700000000 0 := by decide

end CallGuard.Decimal.Binary64
