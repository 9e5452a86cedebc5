import CallGuard.Proofs.Decimal.Value
import CallGuard.Proofs.Token.Acceptance

/-!
Times beside the numbers that they are given as. A clock of whole seconds passes a number when it
passes the next whole one, and until its last second it has passed neither its end nor any number
beyond. So a verifier decides as if it compared the numbers themselves.
-/
namespace CallGuard

open Decimal (Binary64)

/-- The number that a document is, exactly. -/
def Json.number? : Json → Option ℚ
  | .int n => some n
  | .float x => some x.value
  | _ => none

namespace Token

variable {claims : Claims} {name : String} {x : ℚ} {now : Int64}

/-- The claim is the number. -/
def Claims.States (claims : Claims) (name : String) (x : ℚ) : Prop :=
  ∃ v, claims.get? name = some v ∧ v.number? = some x

/-! ### Clamping -/

theorem timeOf?_eq (v : Json) : timeOf? v = v.number?.map fun x => clampTime ⌈x⌉ := by
  cases v <;> simp [timeOf?, Json.number?, Binary64.ceil_eq]

theorem Claims.gives_iff_states {t : Int} :
    claims.Gives name t ↔ ∃ x, claims.States name x ∧ clampTime ⌈x⌉ = t := by
  simp only [Gives, States, timeOf?_eq, Option.map_eq_some_iff]
  constructor
  · rintro ⟨v, given, x, exact, rounded⟩
    exact ⟨x, ⟨v, given, exact⟩, rounded⟩
  · rintro ⟨x, ⟨v, given, exact⟩, rounded⟩
    exact ⟨v, given, x, exact, rounded⟩

theorem Claims.exists_gives_iff {P : Int → Prop} :
    (∃ t, claims.Gives name t ∧ P t) ↔ ∃ x, claims.States name x ∧ P (clampTime ⌈x⌉) := by
  simp only [gives_iff_states]
  constructor
  · rintro ⟨_, ⟨x, states, rfl⟩, holds⟩
    exact ⟨x, states, holds⟩
  · rintro ⟨x, states, holds⟩
    exact ⟨_, ⟨x, states, rfl⟩, holds⟩

theorem exists_toInt_eq_clampTime (n : Int) : ∃ t : Int64, t.toInt = clampTime n :=
  ⟨.ofInt (clampTime n),
    Int64.toInt_ofInt_of_le (by unfold clampTime; omega) (by unfold clampTime; omega)⟩

theorem clampTime_of_past {n : Int} (past : Int64.maxValue.toInt < n) :
    clampTime n = Int64.maxValue.toInt := by
  rw [Int64.toInt_maxValue] at *
  unfold clampTime
  omega

theorem clampTime_le_iff (inner : now ≠ .maxValue) (n : Int) :
    clampTime n ≤ now.toInt ↔ n ≤ now.toInt := by
  have lower := now.le_toInt
  have upper := now.toInt_lt
  have last : now.toInt ≠ Int64.maxValue.toInt := mt Int64.toInt_inj.mp inner
  rw [Int64.toInt_maxValue] at last
  unfold clampTime
  omega

theorem clampTime_ceil_le_iff (inner : now ≠ .maxValue) :
    clampTime ⌈x⌉ ≤ now.toInt ↔ x ≤ now.toInt := by
  rw [clampTime_le_iff inner, Int.ceil_le]

theorem lt_clampTime_ceil_iff (inner : now ≠ .maxValue) :
    now.toInt < clampTime ⌈x⌉ ↔ (now.toInt : ℚ) < x := by
  rw [← not_le, clampTime_ceil_le_iff inner, not_le]

/-- A whole number that no clock can show may be rounded to a double first. -/
theorem clampTime_rounded {n : Int} (past : Int64.maxValue.toInt < n) (small : n < 2 ^ 64) :
    ∃ d, Binary64.ofInt? n = some d ∧ clampTime d.ceil = clampTime n := by
  have bound := past
  rw [Int64.toInt_maxValue] at bound
  obtain ⟨k, rfl⟩ := Int.eq_ofNat_of_zero_le (show 0 ≤ n by omega)
  have bits : k.log2 = 63 := by
    rw [Nat.log2_eq_iff (by omega)]
    omega
  obtain ⟨d, rounded, high⟩ := Binary64.exists_rounded (n := k) (by omega) (by omega)
  refine ⟨d, rounded, ?_⟩
  have above : Int64.maxValue.toInt < d.ceil := by
    rw [Int64.toInt_maxValue, Binary64.ceil_eq, Int.lt_ceil]
    rw [bits] at high
    have below : ((2 ^ 63 - 1 : Int) : ℚ) < 2 ^ 63 := by norm_num
    exact below.trans_le high
  rw [clampTime_of_past above, clampTime_of_past past]

/-- A number is given as a time that the clock can show, and that no clock before its last second
tells from the number itself: it has come when the number has, and is ahead while the number is. A
whole number past the last second can be taken for the double that it is rounded to. -/
theorem rounded_up_unnoticed (states : claims.States name x) :
    ∃ t : Int64, claims.time name = .ok (some t.toInt) ∧
      (∀ now : Int64, now ≠ .maxValue →
        (t.toInt ≤ now.toInt ↔ x ≤ now.toInt) ∧ (now.toInt < t.toInt ↔ (now.toInt : ℚ) < x)) ∧
      ∀ n : Int, claims.get? name = some (.int n) → Int64.maxValue.toInt < n → n < 2 ^ 64 →
        ∃ d, Binary64.ofInt? n = some d ∧ clampTime d.ceil = t.toInt := by
  obtain ⟨t, shown⟩ := exists_toInt_eq_clampTime ⌈x⌉
  refine ⟨t, ?_, ?_, ?_⟩
  · exact Claims.gives_iff.mp (Claims.gives_iff_states.mpr ⟨x, states, shown.symm⟩)
  · intro now inner
    rw [shown]
    exact ⟨clampTime_ceil_le_iff inner, lt_clampTime_ceil_iff inner⟩
  · intro n given past small
    obtain ⟨v, given', exact⟩ := states
    obtain rfl : v = .int n := Option.some.inj (given'.symm.trans given)
    obtain rfl : (n : ℚ) = x := Option.some.inj exact
    rw [shown, Int.ceil_intCast]
    exact clampTime_rounded past small

namespace Clock.Sample

/-- The claims of a token that ends one and a half seconds before zero, and starts at a second that
no clock shows. -/
def dated : Claims :=
  [("exp", .float ⟨true, 3 <<< 51, -52⟩), ("nbf", .int 0xffffffffffffffff)]

theorem states_exp : dated.States "exp" (-3 / 2) :=
  ⟨_, rfl, by norm_num [Json.number?, Binary64.value, Nat.shiftLeft_eq]⟩

theorem states_nbf : dated.States "nbf" 0xffffffffffffffff :=
  ⟨_, rfl, by norm_num [Json.number?]⟩

end Clock.Sample

open Clock.Sample in
theorem sample_half_second_and_last :
    (∃ t : Int64, dated.time "exp" = .ok (some t.toInt) ∧ t.toInt ≤ -1 ∧ -2 < t.toInt) ∧
    ∃ t : Int64, dated.time "nbf" = .ok (some t.toInt) ∧
      (∀ now : Int64, now ≠ .maxValue → now.toInt < t.toInt) ∧
      ∃ d, Binary64.ofInt? 0xffffffffffffffff = some d ∧ clampTime d.ceil = t.toInt := by
  obtain ⟨t, ends, compared, -⟩ := rounded_up_unnoticed states_exp
  obtain ⟨u, starts, compared', rounded⟩ := rounded_up_unnoticed states_nbf
  refine ⟨⟨t, ends, ?_, ?_⟩, u, starts, ?_, rounded _ rfl (by decide) (by decide)⟩
  · have second : (-1 : Int64).toInt = -1 := by decide
    rw [← second, (compared (-1) (by decide)).1, second]
    norm_num
  · have second : (-2 : Int64).toInt = -2 := by decide
    rw [← second, (compared (-2) (by decide)).2, second]
    norm_num
  · intro now inner
    have shown : (now.toInt : ℚ) < 2 ^ 63 := by exact_mod_cast now.toInt_lt
    exact (compared' now inner).2.mpr (shown.trans (by norm_num))

/-- In its last second a clock has passed a time that it never reaches. -/
example : timeOf? (.float ⟨false, 1 <<< 52, 20⟩) = some Int64.maxValue.toInt := by decide

end Token

/-! ### Verifying -/

namespace Verifier

variable {v : Verifier} {claims : Token.Claims} {now : Int64}

theorem unexpired_iff_exactly (inner : now ≠ .maxValue) :
    (∃ t, claims.Gives "exp" t ∧ now.toInt < t) ↔
      ∃ x, claims.States "exp" x ∧ (now.toInt : ℚ) < x := by
  rw [Token.Claims.exists_gives_iff (P := fun t => now.toInt < t)]
  simp only [Token.lt_clampTime_ceil_iff inner]

theorem begun_iff_exactly (inner : now ≠ .maxValue) :
    Begun claims now.toInt ↔
      ∀ name ∈ ["iat", "nbf"], claims.Lacks name ∨ ∃ x, claims.States name x ∧ x ≤ now.toInt := by
  have come (name : String) : (∃ t, claims.Gives name t ∧ t ≤ now.toInt) ↔
      ∃ x, claims.States name x ∧ x ≤ now.toInt := by
    rw [Token.Claims.exists_gives_iff (P := fun t => t ≤ now.toInt)]
    simp only [Token.clampTime_ceil_le_iff inner]
  simp only [Begun, come]

/-- A token is accepted as if its times were never rounded. -/
theorem verifyAt_eq_ok_iff_exactly {token : String} {caller : Caller} (inner : now ≠ .maxValue) :
    v.verifyAt token now.toInt = .ok caller ↔
      ∃ claims, v.Vouches token claims ∧ claims.get? "iss" = some (.str v.issuer) ∧
        (∃ x, claims.States "exp" x ∧ (now.toInt : ℚ) < x) ∧
        (v.enforceIssuedAt = true → ∀ name ∈ ["iat", "nbf"],
          claims.Lacks name ∨ ∃ x, claims.States name x ∧ x ≤ now.toInt) ∧
        v.mapping.caller claims = .ok caller := by
  rw [verifyAt_eq_ok_iff]
  apply exists_congr
  intro claims
  rw [← unexpired_iff_exactly inner, ← begun_iff_exactly inner]
  constructor
  · rintro ⟨⟨vouched, issued, unexpired, begun⟩, identified⟩
    exact ⟨vouched, issued, unexpired, begun, identified⟩
  · rintro ⟨vouched, issued, unexpired, begun, identified⟩
    exact ⟨⟨vouched, issued, unexpired, begun⟩, identified⟩

end Verifier
end CallGuard
