import CallGuard.Pipeline.Authentication
import CallGuard.Proofs.Except

/-!
Who gets past authentication and authorization, and as whom. `admits_iff` says that the two stages,
one after the other, let through exactly what `Admits` lists.
-/
namespace CallGuard

/-! ### Authorization -/

theorem Access.check_of_isPublic {access : Access} (h : access.isPublic = true)
    (caller : Option Caller) : access.check caller = .ok () := by
  cases access with
  | anyone => rfl
  | authenticated => cases h
  | holding roles => cases h

/-- What is public is open to all, so that a call admitted without a credential is not denied. -/
theorem Resolution.check_of_isPublic {r : Resolution} (h : r.isPublic = true)
    (caller : Option Caller) : r.check caller = .ok () := by
  cases r with
  | metadata access => exact Access.check_of_isPublic h caller
  | rule rule =>
    obtain ⟨allows, isPublic⟩ : rule.effect = .allow ∧ rule.access.isPublic = true := by
      simpa [isPublic, Rule.isPublic] using h
    simp only [check, Rule.check, allows]
    exact Access.check_of_isPublic isPublic caller
  | default policy => cases h

/-! ### Credentials -/

theorem Metadata.get?_eq_head? (md : Metadata) (name : String) :
    md.get? name = (md.getAll name).head? := by
  simp [get?, getAll, List.head?_map, List.head?_filter]

theorem Bearer.token?_eq_none_iff {md : Metadata} :
    Bearer.token? md = .ok none ↔ md.getAll Bearer.header = [] := by
  rw [← List.head?_eq_none_iff, ← Metadata.get?_eq_head?]
  unfold token?
  cases found : md.get? header with
  | none => simp
  | some value => cases h : ofValue value <;> simp [Except.map, Except.mapError, h]

/-- Only the first value has a say. -/
theorem Bearer.token?_congr {md md' : Metadata}
    (same : md.get? Bearer.header = md'.get? Bearer.header) :
    Bearer.token? md = Bearer.token? md' := by
  rw [token?, token?, same]

/-- All that authentication can find. -/
theorem Authenticator.authenticate_eq_ok_iff {a : Authenticator} {now : Int} {m : Method}
    {md : Metadata} {admission : Admission} :
    a.authenticate now m md = .ok admission ↔
      (a.skip.contains m = true ∧ admission = .skipped) ∨
      (a.skip.contains m = false ∧ ∃ token c, Bearer.token? md = .ok (some token) ∧
        a.verifier.verifyAt token now = .ok c ∧ admission = .authenticated c) ∨
      (a.skip.contains m = false ∧ Bearer.token? md = .ok none ∧
        (a.authorizer.resolve m).isPublic = true ∧ admission = .anonymous) := by
  unfold authenticate
  cases listed : a.skip.contains m with
  | true => simp [pure, Except.pure, eq_comm (a := admission)]
  | false =>
    cases carried : Bearer.token? md with
    | error rejection => simp [bind, Except.bind]
    | ok token? =>
      cases token? with
      | some token =>
        cases accepted : a.verifier.verifyAt token now <;>
          simp [bind, Except.bind, pure, Except.pure, Except.mapError, accepted,
            eq_comm (a := admission)]
      | none =>
        cases isPublic : (a.authorizer.resolve m).isPublic <;>
          simp [bind, Except.bind, pure, Except.pure, throw, throwThe, MonadExceptOf.throw,
            eq_comm (a := admission)]

/-- The three ways of a call past authentication and authorization, each with the caller that it
goes on as. What the call itself says of its caller is not asked. -/
inductive Admits (v : Verifier) (skip : SkipList) (a : Authorizer) (now : Int) (m : Method)
    (md : Metadata) : Option Caller → Prop
  | skipped (listed : skip.contains m = true) : Admits v skip a now m md none
  | verified {token : String} {c : Caller} (unlisted : skip.contains m = false)
      (carried : Bearer.token? md = .ok (some token)) (accepted : v.verifyAt token now = .ok c)
      (allowed : a.authorize m (some c) = .ok ()) : Admits v skip a now m md (some c)
  | anonymous (unlisted : skip.contains m = false) (bare : md.getAll Bearer.header = [])
      (isPublic : (a.resolve m).isPublic = true) : Admits v skip a now m md none

/-- Authentication first, then the rights of the caller that it found. -/
theorem admits_iff {a : Authenticator} {now : Int} {m : Method} {md : Metadata}
    {caller : Option Caller} :
    Admits a.verifier a.skip a.authorizer now m md caller ↔
      ∃ admission, a.authenticate now m md = .ok admission ∧ admission.caller? = caller ∧
        (a.skip.contains m = true ∨ a.authorizer.authorize m caller = .ok ()) := by
  simp only [Authenticator.authenticate_eq_ok_iff]
  constructor
  · intro h
    cases h with
    | skipped listed => exact ⟨.skipped, .inl ⟨listed, rfl⟩, rfl, .inl listed⟩
    | @verified token c unlisted carried accepted allowed =>
      exact ⟨.authenticated c, .inr (.inl ⟨unlisted, token, c, carried, accepted, rfl⟩), rfl,
        .inr allowed⟩
    | anonymous unlisted bare isPublic =>
      exact ⟨.anonymous, .inr (.inr ⟨unlisted, Bearer.token?_eq_none_iff.mpr bare, isPublic, rfl⟩),
        rfl, .inr (Resolution.check_of_isPublic isPublic none)⟩
  · rintro ⟨admission, found, rfl, rights⟩
    rcases found with ⟨listed, rfl⟩ | ⟨unlisted, token, c, carried, accepted, rfl⟩ |
      ⟨unlisted, bare, isPublic, rfl⟩
    · exact .skipped listed
    · have allowed := rights.resolve_left (by simp [unlisted])
      exact .verified unlisted carried accepted allowed
    · exact .anonymous unlisted (Bearer.token?_eq_none_iff.mp bare) isPublic

end CallGuard
