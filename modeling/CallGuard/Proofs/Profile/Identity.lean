import CallGuard.Proofs.Profile.Effect
import CallGuard.Proofs.Profile.Secrecy
import CallGuard.Proofs.Token.Acceptance
import CallGuard.Proofs.Token.Identity

/-!
Who a reply is about: the subject of the credential that the service has accepted, although the
subject that it shows is the one of the profile that was found. What else a caller sends makes no
difference to what it is shown of itself, nor does what is kept of others.
-/
namespace CallGuard

namespace Profile

/-- What callers are shown of themselves, by what is kept of them: a profile that has no name shows
the one in the credential. -/
def shown (subject : String) (name : Option String) (kept : Option Profile) : Profile :=
  let p := kept.getD (blank subject)
  { p with name := p.name.or name }

theorem Store.Keyed.shown_subject {s : Store} (keyed : s.Keyed) (subject : String)
    (name : Option String) : (shown subject name (s.get? subject)).subject = subject := by
  cases found : s.get? subject with
  | none => rfl
  | some p =>
    have own : p.subject = subject := keyed.subject_of_get? found
    exact own

theorem View.member?_subject (v : View) : v.toJson.member? "subject" = some (.str v.subject) := by
  simp [View.toJson, Json.member?]

namespace Service

/-! ### Handlers -/

variable {s : Store} {profile : Profile}

theorem get_eq_ok {caller : Option Caller} {u : Unit} (replied : (get caller u s).1 = .ok profile) :
    ∃ c, caller = some c ∧ profile = shown c.subject c.name (s.get? c.subject) := by
  unfold get at replied
  rcases Caller.require_cases caller with ⟨status, -, refused⟩ | ⟨c, known, required⟩
  · rw [refused] at replied
    cases replied
  · rw [required] at replied
    cases replied
    exact ⟨c, known, rfl⟩

theorem update_eq_ok {caller : Option Caller} {u : Update}
    (replied : (update caller u s).1 = .ok profile) :
    ∃ c, caller = some c ∧ profile = s.updated c.subject u := by
  unfold update at replied
  rcases Caller.require_cases caller with ⟨status, -, refused⟩ | ⟨c, known, required⟩
  · rw [refused] at replied
    cases replied
  · simp only [required, Store.update_eq] at replied
    cases valid : u.fault? with
    | some fault => simp [valid] at replied
    | none =>
      simp only [valid, Except.ok.injEq] at replied
      exact ⟨c, known, replied.symm⟩

/-- A name has one handler. -/
theorem handler_unique {name : String} {handler other : Endpoint Store}
    (route : (name, handler) ∈ handlers) (route' : (name, other) ∈ handlers) :
    handler = other := by
  have distinct : (handlers.map (·.1)).Nodup := by decide
  have same := List.inj_on_of_nodup_map distinct route route' rfl
  exact congrArg Prod.snd same

/-! ### Replies -/

theorem writes_profile (profile : Profile) : (some ∘ toJson) profile = some profile.toJson := rfl

variable {files : Files} {config : AuthConfig} {p : Pipeline Store} {now : Int} {call : Call}

/-- A reply with a profile is the one that the handler of the method gives to the call's caller. -/
theorem Serves.replied (serves : Serves p files config) {name : String} {ρ : Type}
    {read : Json → Except Mismatch ρ}
    {handle : Option Caller → ρ → Store → Except Status Profile × Store}
    (route : (name, .unary read (some ∘ toJson) handle) ∈ handlers)
    (declares : ∀ m, ∃ d, Declares m name d ∧ d.output = "Profile")
    (asks : call.method.text = name) {reply : Reply}
    (answered : (p.endpoint now call s).1 = .ok reply) :
    Method.parse name = .ok call.method ∧
      ∃ caller request profile, read call.payload = .ok request ∧
        (∀ c, caller = some c →
          Verified p.authenticator.verifier p.authenticator.skip now call c) ∧
        (handle caller request s).1 = .ok profile ∧ reply = .message profile.view.toJson := by
  rcases serves.refused_or_handled now call with
    ⟨status, -, refused⟩ | ⟨name', handler, seen, handled⟩
  · rw [refused] at answered
    cases answered
  · obtain rfl : name' = name := (text_of_route handled.route handled.named).symm.trans asks
    obtain rfl := handler_unique handled.route route
    obtain ⟨d, declared, profiles⟩ := declares call.method
    rw [handled.answer, Endpoint.unary_eq writes_profile, handled.payload] at answered
    cases decoded : read call.payload with
    | error m =>
      rw [decoded] at answered
      cases answered
    | ok request =>
      simp only [decoded] at answered
      obtain ⟨own, written, redacted⟩ := Except.map_eq_ok_iff.mp answered
      obtain ⟨profile, replied, rfl⟩ := Except.map_eq_ok_iff.mp written
      have shows := serves.answered_profile handled.named declared profiles profile
      refine ⟨handled.named, seen.caller, request, profile, rfl, ?_, replied, ?_⟩
      · intro c known
        exact handled.verified known
      · rw [← redacted]
        exact shows

/-- All that a verified caller can be shown by asking for its profile. -/
theorem Serves.get_reply (serves : Serves p files config) {c : Caller}
    (named : Method.parse getProfile = .ok call.method)
    (verified : Verified p.authenticator.verifier p.authenticator.skip now call c)
    (decodes : readEmpty "struct GetProfileRequest" call.payload = .ok ()) (s : Store) :
    p.endpoint now call s =
      (.ok (.message (shown c.subject c.name (s.get? c.subject)).view.toJson), s) := by
  obtain ⟨unlisted, token, carried, accepted⟩ := verified
  have admitted := serves.admits_verified named .get rfl rfl unlisted carried accepted
  have handled := serves.handled_of_admits admitted (.head _) named
  have known := (p.handedFor_fields (some c) call).2.2
  have shows := serves.answered_profile named .get rfl (shown c.subject c.name (s.get? c.subject))
  rw [handled.answer, Endpoint.unary_eq writes_profile, handled.payload, decodes, known]
  exact congrArg (fun reply => (Except.ok reply, s)) shows

/-- A request for a profile is answered if it can be read and comes from a verified caller. -/
theorem Serves.asked (serves : Serves p files config) (gets : call.method.text = getProfile)
    {reply : Reply} (answered : (p.endpoint now call s).1 = .ok reply) :
    Method.parse getProfile = .ok call.method ∧
      readEmpty "struct GetProfileRequest" call.payload = .ok () ∧
      ∃ c, Verified p.authenticator.verifier p.authenticator.skip now call c ∧
        reply = .message (shown c.subject c.name (s.get? c.subject)).view.toJson := by
  have declares (m : Method) : ∃ d, Declares m getProfile d ∧ d.output = "Profile" :=
    ⟨_, .get, rfl⟩
  obtain ⟨named, caller, u, profile, decodes, verified, replied, shows⟩ :=
    serves.replied (.head _) declares gets answered
  obtain ⟨c, known, rfl⟩ := get_eq_ok replied
  exact ⟨named, decodes, c, verified c known, shows⟩

/-- The replies about a caller's own profile, to those who ask for it and to those who change it. -/
theorem Serves.own_reply (serves : Serves p files config) (keyed : s.Keyed)
    (asks : call.method.text = getProfile ∨ call.method.text = updateProfile) {reply : Reply}
    (answered : (p.endpoint now call s).1 = .ok reply) :
    ∃ (c : Caller) (profile : Profile),
      Verified p.authenticator.verifier p.authenticator.skip now call c ∧
      reply = .message profile.view.toJson ∧ profile.subject = c.subject := by
  rcases asks with gets | updates
  · obtain ⟨-, -, c, verified, shows⟩ := serves.asked gets answered
    exact ⟨c, _, verified, shows, keyed.shown_subject c.subject c.name⟩
  · have declares (m : Method) : ∃ d, Declares m updateProfile d ∧ d.output = "Profile" :=
      ⟨_, .update, rfl⟩
    obtain ⟨-, caller, u, profile, -, verified, replied, shows⟩ :=
      serves.replied (.tail _ (.head _)) declares updates answered
    obtain ⟨c, known, rfl⟩ := update_eq_ok replied
    exact ⟨c, _, verified c known, shows, keyed.updated_subject c.subject u⟩

/-- A reply about a caller's own profile shows the subject of the token that was accepted. Asking
for the profile changes nothing, and anyone who asks with a token of the same subject and name gets
the same reply, at whatever time, with whatever roles and payload, and whatever is kept of others.
-/
theorem identity_is_of_token (built : pipeline files config = .ok p) :
    ∃ v skip, config.verifier files = .ok v ∧ config.skipList = .ok skip ∧
      ∀ (now : Int) (call : Call) (s : Store) (reply : Reply),
        (p.endpoint now call s).1 = .ok reply →
        (s.Reachable → call.method.text = getProfile ∨ call.method.text = updateProfile →
          ∃ token claims subject document, Bearer.token? call.metadata = .ok (some token) ∧
            v.Accepts token now claims ∧ claims.get? "sub" = some (.str subject) ∧
            reply = .message document ∧ document.member? "subject" = some (.str subject)) ∧
        (call.method.text = getProfile →
          (p.endpoint now call s).2 = s ∧
          ∃ c, Verified v skip now call c ∧
            ∀ (now' : Int) (call' : Call) (c' : Caller) (t : Store), call'.method = call.method →
              Verified v skip now' call' c' → c'.subject = c.subject → c'.name = c.name →
              t.get? c.subject = s.get? c.subject →
              readEmpty "struct GetProfileRequest" call'.payload = .ok () →
              p.endpoint now' call' t = (.ok reply, t)) := by
  have serves := serves_of_pipeline built
  refine ⟨_, _, serves.verifier, serves.skip, fun now call s reply answered => ⟨?_, ?_⟩⟩
  · intro reached asks
    obtain ⟨c, profile, verified, shows, own⟩ := serves.own_reply reached.keyed asks answered
    obtain ⟨token, carried, accepted⟩ := verified.accepted
    obtain ⟨claims, holds, identified⟩ := Verifier.verifyAt_eq_ok_iff.mp accepted
    refine ⟨token, claims, c.subject, _, carried, holds, ?_, shows, ?_⟩
    · exact (ClaimMapping.caller_eq_ok_iff.mp identified).subject
    · rw [View.member?_subject, ← own]
      rfl
  · intro gets
    obtain ⟨named, decodes, c, verified, shows⟩ := serves.asked gets answered
    have unchanged := congrArg Prod.snd (serves.get_reply named verified decodes s)
    refine ⟨unchanged, c, verified, ?_⟩
    intro now' call' c' t sameMethod verified' sameSubject sameName sameKept decodes'
    have named' : Method.parse getProfile = .ok call'.method := by rw [sameMethod, named]
    have outcome := serves.get_reply named' verified' decodes' t
    rw [sameSubject, sameName, sameKept] at outcome
    rw [outcome, shows]

namespace Sample

/-- What is kept of the token's caller, beside another profile. -/
def amongOthers : Store := (storeWith none "s").insert ⟨"v", some "w", none, none⟩

/-- The caller of the token asks for the other profile. -/
def asksForOther : Call := Sample.call asks.call.method (.obj [("subject", .str "v")])

end Sample

theorem sample_reply_shows_token_subject :
    ∃ p, pipeline (fun _ => none) Sample.config = .ok p ∧ ∃ reply token claims document,
      (p.endpoint 8 Sample.asks.call (Sample.storeWith none "s")).1 = .ok reply ∧
      Bearer.token? Sample.asks.call.metadata = .ok (some token) ∧
      Pipeline.Sample.verifier.Accepts token 8 claims ∧
      claims.get? "sub" = some (.str "u") ∧ reply = .message document ∧
      document.member? "subject" = some (.str "u") ∧
      p.endpoint 8 Sample.asksForOther Sample.amongOthers = (.ok reply, Sample.amongOthers) := by
  obtain ⟨p, built⟩ := Sample.exists_service
  have named : Method.parse getProfile = .ok Sample.asks.call.method := by rfl
  obtain ⟨seen, (handled : Handled p 8 Sample.asks.call _ _ seen), sameCaller⟩ :=
    Sample.handled built _ (.head _) named .get rfl
  have outcome := (serves_of_pipeline built).get_reply named (handled.verified sameCaller) rfl
    (Sample.storeWith none "s")
  have answered := congrArg Prod.fst outcome
  obtain ⟨v, skip, hv, hs, law⟩ := identity_is_of_token built
  cases hv
  cases hs
  obtain ⟨identity, independence⟩ := law 8 Sample.asks.call _ _ answered
  have reached : (Sample.storeWith none "s").Reachable := .insert .empty _
  obtain ⟨token, claims, subject, document, carried, accepted, claimed, shows, same⟩ :=
    identity reached (.inl rfl)
  cases shows
  obtain rfl : "u" = subject := by
    rw [View.member?_subject] at same
    exact Json.str.inj (Option.some.inj same)
  obtain ⟨-, c, ⟨unlisted, other, carried', accepted'⟩, alike⟩ := independence rfl
  obtain rfl : c = Pipeline.Sample.caller := by
    cases (Pipeline.Sample.token_carried).symm.trans carried'
    cases Pipeline.Sample.token_accepted.symm.trans accepted'
    rfl
  have elsewhere := alike 8 Sample.asksForOther _ Sample.amongOthers rfl
    ⟨unlisted, other, carried', accepted'⟩ rfl rfl rfl rfl
  exact ⟨p, built, _, token, claims, _, answered, carried, accepted, claimed, rfl, same, elsewhere⟩

end Service
end Profile
end CallGuard
