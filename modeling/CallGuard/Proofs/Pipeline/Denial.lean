import CallGuard.Proofs.Pipeline.Passage
import CallGuard.Proofs.Policy.Requirement

/-!
What authentication and authorization turn away, and with what status. The two decide apart from
each other which methods are public; `denials_are_for_known_callers` says that they never disagree,
so that only callers who are known are ever denied.
-/
namespace CallGuard

/-- What stands between a call and what answers it. -/
abbrev Stage (σ : Type) := Endpoint σ → Endpoint σ

namespace Stage

variable {σ : Type}

/-- The stage itself answers the call with the status: it does so whatever it stands in front of,
and leaves the state alone. -/
def TurnsAway (stage : Stage σ) (call : Call) (s : σ) (status : Status) : Prop :=
  ∀ next, stage next call s = (.error status, s)

/-- The stage passes the call on in the form it decides for, or turns it away. -/
def Decides (stage : Stage σ) (call : Call) (decision : Except Status Call) : Prop :=
  ∀ next s, stage next call s =
    match decision with
    | .error status => (.error status, s)
    | .ok seen => next seen s

/-- Answers every call, so that a call that is passed on to it is not turned away. -/
def acceptAll : Endpoint σ := fun _ s => (.ok (.message .null), s)

theorem turnsAway_iff_of_decides {stage : Stage σ} {call : Call} {decision : Except Status Call}
    (decides : stage.Decides call decision) {s : σ} {status : Status} :
    stage.TurnsAway call s status ↔ decision = .error status := by
  constructor
  · intro turned
    have answered := (decides acceptAll s).symm.trans (turned acceptAll)
    cases decision with
    | error known =>
      cases answered
      rfl
    | ok seen => cases answered
  · rintro rfl next
    exact decides next s

/-- What two stages turn away: the second gets to see what the first decides for. -/
theorem turnsAway_comp_iff {first second : Stage σ} {call : Call} {decision : Except Status Call}
    (decides : first.Decides call decision) {s : σ} {status : Status} :
    TurnsAway (first ∘ second) call s status ↔
      decision = .error status ∨ ∃ seen, decision = .ok seen ∧ second.TurnsAway seen s status := by
  cases decision with
  | error known =>
    have turned : TurnsAway (first ∘ second) call s known := fun next => decides (second next) s
    constructor
    · intro also
      cases (turned acceptAll).symm.trans (also acceptAll)
      exact .inl rfl
    · rintro (⟨⟨⟩⟩ | ⟨seen, ⟨⟩, -⟩)
      exact turned
  | ok seen =>
    have passed : ∀ next, (first ∘ second) next call s = second next seen s :=
      fun next => decides (second next) s
    simp [TurnsAway, passed]

end Stage

/-- The call as authentication passes it on, or what it turns it away with. -/
def Authenticator.decision (a : Authenticator) (now : Int) (call : Call) : Except Status Call :=
  ((a.authenticate now call.method call.metadata).mapError Rejection.status).map
    fun admission => { call with caller := admission.caller? }

theorem Authenticator.guard_decides {σ : Type} (a : Authenticator) (now : Int) (call : Call) :
    Stage.Decides (σ := σ) (a.guard now) call (a.decision now call) := by
  intro next s
  unfold guard decision
  cases a.authenticate now call.method call.metadata <;> rfl

/-- The call, or what authorization turns it away with. -/
def Authorizer.decision (a : Authorizer) (skip : SkipList) (call : Call) : Except Status Call :=
  if skip.contains call.method then .ok call
  else
    ((a.authorize call.method call.caller).mapError (·.status call.caller.isSome)).map fun _ => call

theorem Authorizer.guard_decides {σ : Type} (a : Authorizer) (skip : SkipList) (call : Call) :
    Stage.Decides (σ := σ) (a.guard skip) call (a.decision skip call) := by
  intro next s
  unfold guard decision
  cases skip.contains call.method with
  | true => rfl
  | false => cases a.authorize call.method call.caller <;> rfl

theorem Authorizer.decision_eq_error_iff {a : Authorizer} {skip : SkipList} {call : Call}
    {status : Status} :
    a.decision skip call = .error status ↔
      skip.contains call.method = false ∧ ∃ denial : Denial,
        a.authorize call.method call.caller = .error denial ∧
          denial.status call.caller.isSome = status := by
  unfold decision
  cases skip.contains call.method with
  | true => simp
  | false => simp [Except.map_eq_error_iff, Except.mapError_eq_error_iff]

/-! ### Denials of known callers -/

/-- A caller who is known is not asked to say who it is. -/
theorem Access.check_known_ne_required (access : Access) (c : Caller) :
    access.check (some c) ≠ .error .authenticationRequired := by
  intro denied
  rcases Access.check_eq_error_cases denied with ⟨unknown, -⟩ | ⟨_, roles, -, -, -, other⟩
  · cases unknown
  · cases other

theorem Resolution.check_known_ne_required (r : Resolution) (c : Caller) :
    r.check (some c) ≠ .error .authenticationRequired := by
  cases r with
  | metadata access => exact access.check_known_ne_required c
  | rule rule =>
    simp only [check, Rule.check]
    split
    · simp
    · exact rule.access.check_known_ne_required c
  | default policy => cases policy <;> simp [check]

theorem Denial.status_of_known {d : Denial} (h : d ≠ .authenticationRequired) :
    d.status true = ⟨.permissionDenied, "access denied"⟩ ∨
      d.status true = ⟨.permissionDenied, "insufficient role"⟩ := by
  cases d with
  | authenticationRequired => exact absurd rfl h
  | insufficientRole missing => exact .inr rfl
  | ruleDenied rule => exact .inl rfl
  | defaultDeny => exact .inl rfl

/-- Whoever is let through and then denied has been found to be a caller. -/
theorem Authenticator.known_of_denied {a : Authenticator} {now : Int} {m : Method} {md : Metadata}
    {admission : Admission} {denial : Denial} (found : a.authenticate now m md = .ok admission)
    (unlisted : a.skip.contains m = false)
    (denied : a.authorizer.authorize m admission.caller? = .error denial) :
    ∃ c, admission = .authenticated c ∧ denial ≠ .authenticationRequired := by
  rcases authenticate_eq_ok_iff.mp found with ⟨listed, rfl⟩ | ⟨-, token, c, -, -, rfl⟩ |
    ⟨-, -, isPublic, rfl⟩
  · simp [unlisted] at listed
  · refine ⟨c, rfl, ?_⟩
    rintro rfl
    exact Resolution.check_known_ne_required _ c denied
  · cases (Resolution.check_of_isPublic isPublic none).symm.trans denied

namespace Pipeline

variable {σ : Type}

/-- The first stage, at a time in seconds. -/
def authentication (p : Pipeline σ) (now : Int) : Stage σ := p.authenticator.guard now

/-- The second stage, with the skip list and the authorizer of the first. -/
def authorization (p : Pipeline σ) : Stage σ :=
  p.authenticator.authorizer.guard p.authenticator.skip

/-- What is public to the first stage is open to all in the second. -/
theorem passes_anonymous {p : Pipeline σ} {now : Int} {call : Call} {s : σ} {next : Endpoint σ}
    (found : p.authenticator.authenticate now call.method call.metadata = .ok .anonymous) :
    p.authentication now (p.authorization next) call s = next { call with caller := none } s := by
  rcases Authenticator.authenticate_eq_ok_iff.mp found with ⟨-, ⟨⟩⟩ | ⟨-, _, _, -, -, ⟨⟩⟩ |
    ⟨unlisted, -, isPublic, -⟩
  have allowed : p.authenticator.authorizer.authorize call.method none = .ok () :=
    Resolution.check_of_isPublic isPublic none
  simp [authentication, authorization, Authenticator.guard, Authorizer.guard, found,
    Admission.caller?, unlisted, allowed]

theorem authorization_turnsAway {p : Pipeline σ} {now : Int} {call : Call} {admission : Admission}
    {s : σ} {status : Status}
    (found : p.authenticator.authenticate now call.method call.metadata = .ok admission)
    (turned : p.authorization.TurnsAway { call with caller := admission.caller? } s status) :
    (∃ c, admission = .authenticated c) ∧
      (status = ⟨.permissionDenied, "access denied"⟩ ∨
        status = ⟨.permissionDenied, "insufficient role"⟩) := by
  have against := (Stage.turnsAway_iff_of_decides (Authorizer.guard_decides _ _ _)).mp turned
  obtain ⟨unlisted, denial, denied, rfl⟩ := Authorizer.decision_eq_error_iff.mp against
  obtain ⟨c, rfl, asks⟩ := Authenticator.known_of_denied found unlisted denied
  exact ⟨⟨c, rfl⟩, Denial.status_of_known asks⟩

/-- A call that goes on without a caller because its method is public is not denied. So whoever is
denied is known, and is told that it may not: that it must authenticate is said by neither stage. -/
theorem denials_are_for_known_callers (p : Pipeline σ) (now : Int) (call : Call) (s : σ) :
    (∀ next, p.authenticator.authenticate now call.method call.metadata = .ok .anonymous →
      p.authentication now (p.authorization next) call s = next { call with caller := none } s) ∧
    (∀ admission status,
      p.authenticator.authenticate now call.method call.metadata = .ok admission →
      p.authorization.TurnsAway { call with caller := admission.caller? } s status →
        (∃ c, admission = .authenticated c) ∧
          (status = ⟨.permissionDenied, "access denied"⟩ ∨
            status = ⟨.permissionDenied, "insufficient role"⟩)) ∧
    ∀ status, Stage.TurnsAway (p.authentication now ∘ p.authorization) call s status →
      status.message ≠ "authentication required" := by
  refine ⟨fun next => passes_anonymous, fun admission status => authorization_turnsAway, ?_⟩
  intro status turned
  rcases (Stage.turnsAway_comp_iff (Authenticator.guard_decides _ _ _)).mp turned with
    against | ⟨seen, passed, denied⟩
  · obtain ⟨rejection, -, rfl⟩ := Except.mapError_eq_error_iff.mp (Except.map_eq_error_iff.mp against)
    cases rejection <;> simp [Rejection.status, Status.invalidCredential]
  · obtain ⟨admission, found, rfl⟩ := Except.map_eq_ok_iff.mp passed
    have found := Except.mapError_eq_ok_iff.mp found
    obtain ⟨-, rfl | rfl⟩ := authorization_turnsAway found denied <;> simp

namespace Denied.Sample

def openMethod : Method := { Sample.method with name := "Open", name_valid := rfl }

/-- All of `a.B` is closed by a rule that denies anyone, but for one method that is open by its own
description. -/
def authorizer : Authorizer :=
  let closed := (Rule.deny "closed" [.allOf Sample.method.service]).forAnyone
  (Authorizer.ofRules ⟨[closed], .allow⟩).withMetadata openMethod .anyone

def pipeline : Pipeline Unit :=
  ⟨⟨Sample.verifier, [], authorizer⟩, .empty, true, .empty⟩

def bareCall : Call := ⟨openMethod, [], some Sample.caller, false, .null⟩

end Denied.Sample

theorem sample_only_known_caller_denied :
    (∀ next, Denied.Sample.pipeline.authentication 8 (Denied.Sample.pipeline.authorization next)
      Denied.Sample.bareCall () = next { Denied.Sample.bareCall with caller := none } ()) ∧
    ∃ status : Status, status.code = .permissionDenied ∧
      Denied.Sample.pipeline.authorization.TurnsAway
        { Sample.call with caller := some Sample.caller } () status := by
  constructor
  · intro next
    refine (denials_are_for_known_callers Denied.Sample.pipeline 8 _ ()).1 next ?_
    decide
  · have found : Denied.Sample.pipeline.authenticator.authenticate 8 Sample.call.method
        Sample.call.metadata = .ok (.authenticated Sample.caller) :=
      Authenticator.authenticate_eq_ok_iff.mpr
        (.inr (.inl ⟨rfl, _, _, Sample.token_carried, Sample.token_accepted, rfl⟩))
    obtain ⟨status, turned⟩ : ∃ status, Denied.Sample.pipeline.authorization.TurnsAway
        { Sample.call with caller := some Sample.caller } () status :=
      ⟨_, fun next => rfl⟩
    obtain ⟨-, told⟩ := (denials_are_for_known_callers Denied.Sample.pipeline 8
      Sample.call ()).2.1 _ status found turned
    refine ⟨status, ?_, turned⟩
    rcases told with rfl | rfl <;> rfl

end Pipeline
end CallGuard
