import CallGuard.Proofs.Token.Acceptance

/-!
What becomes of a token as time goes by. A token that is vouched for is refused before its start, if
it has one and the verifier asks, and refused again from its expiry on; at all times between it is
answered alike. Any other token gets one answer at all times.
-/
namespace CallGuard

open Token

/-- The times of a token, and how it is answered between them. -/
structure Life where
  expiry : Int
  start : Option Int
  /-- The caller, or what keeps the claims from saying who it is. -/
  answer : Except Malformation Caller

namespace Life

/-- How the token is answered at a time. Its expiry counts before its start. -/
def verdict (l : Life) (now : Int) : Except CredentialFault Caller :=
  if l.expiry ≤ now then .error (.expired l.expiry now)
  else
    match l.start with
    | some t => if now < t then .error (.notYetValid t now) else l.answer.mapError .malformed
    | none => l.answer.mapError .malformed

variable {l : Life} {now : Int}

theorem verdict_of_past (h : l.expiry ≤ now) : l.verdict now = .error (.expired l.expiry now) :=
  if_pos h

theorem verdict_of_early {t : Int} (ahead : now < l.expiry) (start : l.start = some t)
    (early : now < t) : l.verdict now = .error (.notYetValid t now) := by
  rw [verdict, if_neg (by omega), start]
  exact if_pos early

theorem verdict_of_between (ahead : now < l.expiry) (begun : ∀ t, l.start = some t → t ≤ now) :
    l.verdict now = l.answer.mapError .malformed := by
  rw [verdict, if_neg (by omega)]
  cases start : l.start with
  | none => rfl
  | some t => exact if_neg (by have := begun t start; omega)

/-- The three times of a token. -/
theorem verdict_cases (l : Life) (now : Int) :
    l.expiry ≤ now ∨ (now < l.expiry ∧ ∃ t, l.start = some t ∧ now < t) ∨
      (now < l.expiry ∧ ∀ t, l.start = some t → t ≤ now) := by
  cases start : l.start with
  | none => simp; omega
  | some t => simp; omega

theorem verdict_eq_ok_iff {caller : Caller} :
    l.verdict now = .ok caller ↔
      now < l.expiry ∧ (∀ t, l.start = some t → t ≤ now) ∧ l.answer = .ok caller := by
  rcases l.verdict_cases now with past | ⟨ahead, t, start, early⟩ | ⟨ahead, begun⟩
  · rw [verdict_of_past past]
    simp [past]
  · rw [verdict_of_early ahead start early]
    simp [start, early]
  · rw [verdict_of_between ahead begun, Except.mapError_eq_ok_iff]
    exact ⟨fun answered => ⟨ahead, begun, answered⟩, fun h => h.2.2⟩

theorem verdict_eq_expired_iff {t seen : Int} :
    l.verdict now = .error (.expired t seen) ↔ l.expiry ≤ now ∧ t = l.expiry ∧ seen = now := by
  rcases l.verdict_cases now with past | ⟨ahead, t, start, early⟩ | ⟨ahead, begun⟩
  · rw [verdict_of_past past]
    simp [past, eq_comm]
  · rw [verdict_of_early ahead start early]
    simp [ahead]
  · rw [verdict_of_between ahead begun, Except.mapError_eq_error_iff]
    simp [ahead]

theorem verdict_eq_notYetValid_iff {t seen : Int} :
    l.verdict now = .error (.notYetValid t seen) ↔
      now < l.expiry ∧ l.start = some t ∧ now < t ∧ seen = now := by
  rcases l.verdict_cases now with past | ⟨ahead, t, start, early⟩ | ⟨ahead, begun⟩
  · rw [verdict_of_past past]
    simp [past]
  · rw [verdict_of_early ahead start early]
    simp only [Except.error.injEq, CredentialFault.notYetValid.injEq]
    grind
  · rw [verdict_of_between ahead begun, Except.mapError_eq_error_iff]
    grind

theorem error_of_ahead {e : CredentialFault} (ahead : now < l.expiry)
    (refused : l.verdict now = .error e) :
    (∃ t, e = .notYetValid t now) ∨ ∃ why, e = .malformed why := by
  rcases l.verdict_cases now with past | ⟨-, t, start, early⟩ | ⟨-, begun⟩
  · omega
  · rw [verdict_of_early ahead start early] at refused
    exact .inl ⟨t, (Except.error.inj refused).symm⟩
  · rw [verdict_of_between ahead begun, Except.mapError_eq_error_iff] at refused
    obtain ⟨why, -, rfl⟩ := refused
    exact .inr ⟨why, rfl⟩

end Life

/-- A refusal that has nothing to do with the time. -/
def CredentialFault.Lasting (e : CredentialFault) : Prop :=
  e.kind ≠ "expired" ∧ e.kind ≠ "not_yet_valid"

namespace Verifier

variable {v : Verifier} {token : String} {claims : Claims}

/-! ### The life of a token -/

/-- When the use of the token may begin, as far as the verifier asks. -/
def start? (v : Verifier) (claims : Claims) : Except Malformation (Option Int) :=
  if v.enforceIssuedAt then do
    let issued ← claims.time "iat"
    let notBefore ← claims.time "nbf"
    return later issued notBefore
  else .ok none

/-- The life of a token with the claims, of which the expiry has been read. -/
def life (v : Verifier) (claims : Claims) (expiry : Int) : Life :=
  match v.start? claims with
  | .ok start => ⟨expiry, start, v.mapping.caller claims⟩
  | .error why => ⟨expiry, none, .error why⟩

@[simp]
theorem life_expiry {expiry : Int} : (v.life claims expiry).expiry = expiry := by
  unfold life
  cases v.start? claims <;> rfl

theorem checkExpiry_of_past {expiry now : Int} (ends : claims.Gives "exp" expiry)
    (past : expiry ≤ now) : checkExpiry claims now = .error (.expired expiry now) := by
  rw [checkExpiry, Claims.gives_iff.mp ends]
  exact if_pos past

/-- The start, if there is one, is not ahead. -/
def checkBegun (start : Option Int) (now : Int) : Except CredentialFault Unit :=
  match start with
  | some t => if now < t then .error (.notYetValid t now) else .ok ()
  | none => .ok ()

theorem checkStart_eq (v : Verifier) (claims : Claims) (now : Int) :
    v.checkStart claims now =
      (v.start? claims).mapError .malformed >>= fun start => checkBegun start now := by
  unfold checkStart start?
  cases v.enforceIssuedAt with
  | false => rfl
  | true =>
    cases claims.time "iat" with
    | error why => rfl
    | ok issued =>
      cases claims.time "nbf" with
      | error why => rfl
      | ok notBefore => cases issued <;> cases notBefore <;> rfl

/-- The token is vouched for, of the verifier's issuer, and has an expiry. -/
structure Vested (v : Verifier) (token : String) (claims : Claims) (expiry : Int) : Prop where
  vouched : v.Vouches token claims
  issued : claims.get? "iss" = some (.str v.issuer)
  ends : claims.Gives "exp" expiry

theorem verifyAt_of_vested {expiry : Int} (h : v.Vested token claims expiry) (now : Int) :
    v.verifyAt token now = (v.life claims expiry).verdict now := by
  have read : v.claims token = .ok claims := claims_eq_ok_iff.mpr h.vouched
  have named : v.checkIssuer claims = .ok () := checkIssuer_eq_ok_iff.mpr h.issued
  rw [verifyAt, Except.bind_of_ok read, Except.bind_of_ok named]
  by_cases past : expiry ≤ now
  · rw [Except.bind_of_error (checkExpiry_of_past h.ends past), Life.verdict_of_past (by simpa),
      life_expiry]
  · have unexpired : checkExpiry claims now = .ok () :=
      checkExpiry_eq_ok_iff.mpr ⟨expiry, h.ends, by omega⟩
    rw [Except.bind_of_ok unexpired, checkStart_eq, Life.verdict, if_neg (by simpa using past),
      life]
    cases v.start? claims with
    | error why => rfl
    | ok start =>
      cases start with
      | none => rfl
      | some t =>
        change (checkBegun (some t) now >>= fun _ => _) = if now < t then _ else _
        by_cases early : now < t
        · have begun : checkBegun (some t) now = .error (.notYetValid t now) := if_pos early
          rw [Except.bind_of_error begun, if_pos early]
        · have begun : checkBegun (some t) now = .ok () := if_neg early
          rw [Except.bind_of_ok begun, if_neg early]

theorem fails_claims_kind {kind : String} (h : Fails (v.claims token) kind) :
    kind = "malformed" ∨ kind = "signature_invalid" := by
  by_cases split : ∃ s : Segments, s.Splits token
  · obtain ⟨s, splits⟩ := split
    rw [fails_claims_iff splits, fails_checkSignature_iff] at h
    tauto
  · rw [claims_of_not_splits split, fails_error_iff] at h
    exact .inl h

theorem checkExpiry_of_endless (endless : ∀ t, ¬ claims.Gives "exp" t) :
    ∃ why, ∀ now, checkExpiry claims now = .error (.malformed why) := by
  simp only [Claims.gives_iff] at endless
  unfold checkExpiry
  cases timed : claims.time "exp" with
  | error why => exact ⟨why, fun _ => rfl⟩
  | ok t? =>
    cases t? with
    | none => exact ⟨.missingExpiry, fun _ => rfl⟩
    | some t => exact absurd timed (endless t)

/-- Any other token is refused once and for all. -/
theorem verifyAt_of_not_vested (h : ¬ ∃ claims expiry, v.Vested token claims expiry) :
    ∃ e : CredentialFault, e.Lasting ∧ ∀ now, v.verifyAt token now = .error e := by
  cases read : v.claims token with
  | error e =>
    have kind := fails_claims_kind ⟨e, read, rfl⟩
    refine ⟨e, by rcases kind with h | h <;> simp [CredentialFault.Lasting, h], fun now => ?_⟩
    rw [verifyAt, Except.bind_of_error read]
  | ok claims =>
    cases named : v.checkIssuer claims with
    | error e =>
      obtain ⟨-, kind⟩ := fails_checkIssuer_iff.mp ⟨e, named, rfl⟩
      refine ⟨e, by simp [CredentialFault.Lasting, kind], fun now => ?_⟩
      rw [verifyAt, Except.bind_of_ok read, Except.bind_of_error named]
    | ok _ =>
      have endless : ∀ t, ¬ claims.Gives "exp" t := fun t ends =>
        h ⟨claims, t, claims_eq_ok_iff.mp read, checkIssuer_eq_ok_iff.mp named, ends⟩
      obtain ⟨why, refused⟩ := checkExpiry_of_endless endless
      have lasting : (CredentialFault.malformed why).Lasting := by
        simp [CredentialFault.Lasting, CredentialFault.kind]
      refine ⟨.malformed why, lasting, fun now => ?_⟩
      rw [verifyAt, Except.bind_of_ok read, Except.bind_of_ok named,
        Except.bind_of_error (refused now)]

/-- Either the time counts, by the life of the token, or it does not count at all. -/
theorem verifyAt_course (v : Verifier) (token : String) :
    (∃ l : Life, ∀ now, v.verifyAt token now = l.verdict now) ∨
      ∃ e : CredentialFault, e.Lasting ∧ ∀ now, v.verifyAt token now = .error e := by
  by_cases vested : ∃ claims expiry, v.Vested token claims expiry
  · obtain ⟨claims, expiry, vested⟩ := vested
    exact .inl ⟨v.life claims expiry, verifyAt_of_vested vested⟩
  · exact .inr (verifyAt_of_not_vested vested)

/-! ### Two times compared -/

theorem accepted_between {first now last : Int} {caller other : Caller}
    (opened : v.verifyAt token first = .ok caller) (closed : v.verifyAt token last = .ok other)
    (from_first : first ≤ now) (to_last : now ≤ last) :
    v.verifyAt token now = .ok caller ∧ other = caller := by
  rcases v.verifyAt_course token with ⟨l, living⟩ | ⟨e, -, refused⟩
  · rw [living, Life.verdict_eq_ok_iff] at opened closed
    obtain ⟨-, begun, answered⟩ := opened
    obtain ⟨ahead, -, again⟩ := closed
    rw [living, Life.verdict_eq_ok_iff]
    refine ⟨⟨by omega, fun t start => ?_, answered⟩, ?_⟩
    · have := begun t start
      omega
    · exact Except.ok.inj (again.symm.trans answered)
  · rw [refused] at opened
    cases opened

theorem expired_later {t seen now later : Int}
    (refused : v.verifyAt token now = .error (.expired t seen)) (after : now ≤ later) :
    v.verifyAt token later = .error (.expired t later) := by
  rcases v.verifyAt_course token with ⟨l, living⟩ | ⟨e, lasting, always⟩
  · rw [living, Life.verdict_eq_expired_iff] at refused ⊢
    obtain ⟨past, rfl, -⟩ := refused
    exact ⟨by omega, rfl, rfl⟩
  · rw [always] at refused
    cases refused
    exact absurd rfl lasting.1

theorem notYetValid_earlier {t seen earlier now : Int}
    (refused : v.verifyAt token now = .error (.notYetValid t seen)) (before : earlier ≤ now) :
    v.verifyAt token earlier = .error (.notYetValid t earlier) := by
  rcases v.verifyAt_course token with ⟨l, living⟩ | ⟨e, lasting, always⟩
  · rw [living, Life.verdict_eq_notYetValid_iff] at refused ⊢
    obtain ⟨ahead, start, early, -⟩ := refused
    exact ⟨by omega, start, by omega, rfl⟩
  · rw [always] at refused
    cases refused
    exact absurd rfl lasting.2

/-! ### Two verifiers compared -/

/-- The verifier, which now asks for the start of tokens or does not. -/
def enforcing (v : Verifier) (enforce : Bool) : Verifier := { v with enforceIssuedAt := enforce }

theorem lenient_of_strict {now : Int} {caller : Caller}
    (accepted : (v.enforcing true).verifyAt token now = .ok caller) :
    (v.enforcing false).verifyAt token now = .ok caller := by
  rw [verifyAt_eq_ok_iff] at accepted ⊢
  obtain ⟨claims, ⟨vouched, issued, unexpired, -⟩, answered⟩ := accepted
  exact ⟨claims, ⟨vouched, issued, unexpired, nofun⟩, answered⟩

/-- Only what the strict verifier asks beyond the lenient one can be missing. -/
theorem refused_only_by_strict {now : Int} {caller : Caller} {e : CredentialFault}
    (accepted : (v.enforcing false).verifyAt token now = .ok caller)
    (refused : (v.enforcing true).verifyAt token now = .error e) :
    (∃ t, e = .notYetValid t now) ∨ ∃ why, e = .malformed why := by
  obtain ⟨claims, ⟨vouched, issued, ⟨expiry, ends, ahead⟩, -⟩, -⟩ := verifyAt_eq_ok_iff.mp accepted
  have vested : (v.enforcing true).Vested token claims expiry := ⟨vouched, issued, ends⟩
  rw [verifyAt_of_vested vested] at refused
  exact Life.error_of_ahead (by rwa [life_expiry]) refused

/-- The times at which a token is accepted are one interval, for one caller throughout. Before it a
token that has a start is not yet valid, after it the token is expired. A verifier that asks for the
start only ever refuses more. -/
theorem accepts_in_one_interval (v : Verifier) (token : String) :
    (∀ first now last caller other, v.verifyAt token first = .ok caller →
      v.verifyAt token last = .ok other → first ≤ now → now ≤ last →
        v.verifyAt token now = .ok caller ∧ other = caller) ∧
    (∀ t seen now later, v.verifyAt token now = .error (.expired t seen) → now ≤ later →
      v.verifyAt token later = .error (.expired t later)) ∧
    (∀ t seen earlier now, v.verifyAt token now = .error (.notYetValid t seen) → earlier ≤ now →
      v.verifyAt token earlier = .error (.notYetValid t earlier)) ∧
    (∀ now caller, (v.enforcing true).verifyAt token now = .ok caller →
      (v.enforcing false).verifyAt token now = .ok caller) ∧
    ∀ now caller e, (v.enforcing false).verifyAt token now = .ok caller →
      (v.enforcing true).verifyAt token now = .error e →
        (∃ t, e = .notYetValid t now) ∨ ∃ why, e = .malformed why :=
  ⟨fun _ _ _ _ _ => accepted_between, fun _ _ _ _ => expired_later,
    fun _ _ _ _ => notYetValid_earlier, fun _ _ => lenient_of_strict,
    fun _ _ _ => refused_only_by_strict⟩

namespace Sample

def strict : Verifier := ⟨"i", .hs256 [99] (by decide), .default, true⟩

def caller : Caller := ⟨"u", none, .empty⟩

/-- A token that is issued at the third second, starts at the fifth and ends at the ninth. -/
def dated : String :=
  "eyJhbGciOiJIUzI1NiJ9.eyJpc3MiOiJpIiwic3ViIjoidSIsImV4cCI6OSwiaWF0IjozLCJuYmYiOjV9." ++
    "a5Z4cbXApbGrJtqllF_ErNInjhkmG3rKt1CeZaXdV7o"

end Sample

open Sample in
theorem sample_life_of_token :
    strict.verifyAt dated 7 = .ok caller ∧
      (∀ later, 9 ≤ later → strict.verifyAt dated later = .error (.expired 9 later)) ∧
      (∀ earlier, earlier ≤ 4 → strict.verifyAt dated earlier = .error (.notYetValid 5 earlier)) ∧
      (strict.enforcing false).verifyAt dated 5 = .ok caller ∧
      ∃ e, strict.verifyAt dated 4 = .error e ∧
        ((∃ t, e = .notYetValid t 4) ∨ ∃ why, e = .malformed why) := by
  obtain ⟨between, ended, unstarted, lenient, strictly⟩ := accepts_in_one_interval strict dated
  -- The answers at five times are evaluated together, so that the signature is computed once.
  obtain ⟨opened, closed, expired, early, accepted⟩ :
      strict.verifyAt dated 5 = .ok caller ∧ strict.verifyAt dated 8 = .ok caller ∧
      strict.verifyAt dated 9 = .error (.expired 9 9) ∧
      strict.verifyAt dated 4 = .error (.notYetValid 5 4) ∧
      (strict.enforcing false).verifyAt dated 4 = .ok caller := by decide +kernel
  exact ⟨(between 5 7 8 _ _ opened closed (by decide) (by decide)).1,
    fun later after => ended 9 9 9 later expired after,
    fun earlier before => unstarted 5 4 earlier 4 early before,
    lenient 5 _ opened, _, early, strictly 4 _ _ accepted early⟩

end Verifier
end CallGuard
