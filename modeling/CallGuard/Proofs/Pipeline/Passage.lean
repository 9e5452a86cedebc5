import CallGuard.Pipeline
import CallGuard.Proofs.Pipeline.Admission
import CallGuard.Proofs.Pipeline.Registration
import CallGuard.Proofs.Schema.Valid

/-!
The passage of a call: what the chain makes of it before its handler, and of the reply after it.
`endpoint_eq` splits every pipeline in these two parts, and `handler_runs_once_iff_admitted` says
for a configuration which calls reach a handler, which one, and on whose behalf.
-/
namespace CallGuard

namespace Registry

/-- The call as its handler gets it from redaction. -/
def handed (r : Registry) (skipStreaming : Bool) (call : Call) : Call :=
  match r.redaction? call.method with
  | none => call
  | some plan => r.redactRequest skipStreaming plan call

/-- The reply of a method as redaction gives it back. -/
def answered (r : Registry) (skipStreaming : Bool) (m : Method) (reply : Reply) : Reply :=
  match r.redaction? m with
  | none => reply
  | some plan => { reply with body := r.redactBody skipStreaming plan reply.body }

theorem handed_fields (r : Registry) (skipStreaming : Bool) (call : Call) :
    (r.handed skipStreaming call).method = call.method ∧
    (r.handed skipStreaming call).metadata = call.metadata ∧
    (r.handed skipStreaming call).caller = call.caller := by
  unfold handed redactRequest
  split
  · exact ⟨rfl, rfl, rfl⟩
  · split
    · split <;> exact ⟨rfl, rfl, rfl⟩
    · exact ⟨rfl, rfl, rfl⟩

/-- A registry that redacts no requests changes none. -/
theorem handed_of_unredacted {r : Registry} (h : ∀ d ∈ r.methods, d.redactRequest = false)
    (skipStreaming : Bool) (call : Call) : r.handed skipStreaming call = call := by
  have no_request : ∀ plan, r.redaction? call.method = some plan → plan.request = none := by
    intro plan planned
    rw [redaction?_eq] at planned
    obtain ⟨d, found, planned⟩ := Option.bind_eq_some_iff.mp planned
    have unredacted := h d (info?_eq_some_iff.mp found).1
    simp only [Redactor.redactionOf, unredacted] at planned
    split at planned
    · cases planned
    · simp only [Bool.false_eq_true, ↓reduceIte, Option.isNone_none, Bool.true_and] at planned
      split at planned <;> cases planned
      rfl
  unfold handed redactRequest
  cases planned : r.redaction? call.method with
  | none => rfl
  | some plan => simp [no_request plan planned]

theorem guard_eq {σ : Type} (r : Registry) (skipStreaming : Bool) (next : Endpoint σ) (call : Call)
    (s : σ) :
    r.guard skipStreaming next call s =
      ((next (r.handed skipStreaming call) s).1.map (r.answered skipStreaming call.method),
        (next (r.handed skipStreaming call) s).2) := by
  unfold guard handed answered
  cases r.redaction? call.method with
  | none => cases h : next call s with | mk reply s' => cases reply <;> rfl
  | some plan =>
    simp only
    cases h : next (r.redactRequest skipStreaming plan call) s with
    | mk reply s' => cases reply <;> rfl

end Registry

namespace Pipeline

variable {σ : Type}

/-- The call as its handler gets it once its caller is known. -/
def handedFor (p : Pipeline σ) (caller : Option Caller) (call : Call) : Call :=
  p.registry.handed p.skipStreaming { withDeclaredStreaming p.registry call with caller }

/-- The call as the chain hands it to its handler, or what it is turned away with. -/
def handed (p : Pipeline σ) (now : Int) (call : Call) : Except Status Call := do
  let a := p.authenticator
  let admission ← (a.authenticate now call.method call.metadata).mapError Rejection.status
  let caller := admission.caller?
  if !a.skip.contains call.method then
    (a.authorizer.authorize call.method caller).mapError (·.status caller.isSome)
  return p.handedFor caller call

theorem withDeclaredStreaming_fields (r : Registry) (call : Call) :
    (withDeclaredStreaming r call).method = call.method ∧
    (withDeclaredStreaming r call).metadata = call.metadata := by
  unfold withDeclaredStreaming
  split <;> exact ⟨rfl, rfl⟩

/-- What a handler gets is its call, as the caller says that was found. -/
theorem handedFor_fields (p : Pipeline σ) (caller : Option Caller) (call : Call) :
    (p.handedFor caller call).method = call.method ∧
    (p.handedFor caller call).metadata = call.metadata ∧
    (p.handedFor caller call).caller = caller := by
  obtain ⟨sameMethod, sameMetadata, sameCaller⟩ := Registry.handed_fields p.registry
    p.skipStreaming { withDeclaredStreaming p.registry call with caller }
  obtain ⟨declaredMethod, declaredMetadata⟩ := withDeclaredStreaming_fields p.registry call
  exact ⟨sameMethod.trans declaredMethod, sameMetadata.trans declaredMetadata, sameCaller⟩

/-- The chain decides before the handler, and changes nothing but the reply after it. -/
theorem endpoint_eq (p : Pipeline σ) (now : Int) (call : Call) (s : σ) :
    p.endpoint now call s =
      match p.handed now call with
      | .error status => (.error status, s)
      | .ok seen =>
        ((p.router.endpoint seen s).1.map (p.registry.answered p.skipStreaming call.method),
          (p.router.endpoint seen s).2) := by
  obtain ⟨sameMethod, sameMetadata⟩ := withDeclaredStreaming_fields p.registry call
  unfold endpoint handed handedFor Authenticator.guard Authorizer.guard
  simp only [Registry.guard_eq, sameMethod, sameMetadata]
  cases p.authenticator.authenticate now call.method call.metadata with
  | error rejection => rfl
  | ok admission =>
    cases listed : p.authenticator.skip.contains call.method with
    | true => simp [Except.mapError, bind, Except.bind, pure, Except.pure]
    | false =>
      cases rights : p.authenticator.authorizer.authorize call.method admission.caller? with
      | error denial => simp [rights, Except.mapError, bind, Except.bind]
      | ok _ => simp [rights, Except.mapError, bind, Except.bind, pure, Except.pure]

theorem handed_eq_ok_iff {p : Pipeline σ} {now : Int} {call seen : Call} :
    p.handed now call = .ok seen ↔
      ∃ caller, Admits p.authenticator.verifier p.authenticator.skip p.authenticator.authorizer now
          call.method call.metadata caller ∧
        seen = p.handedFor caller call := by
  simp only [admits_iff]
  unfold handed
  cases found : p.authenticator.authenticate now call.method call.metadata with
  | error rejection => simp [found, Except.mapError, bind, Except.bind]
  | ok admission =>
    cases listed : p.authenticator.skip.contains call.method with
    | true =>
      simp [found, listed, Except.mapError, bind, Except.bind, pure, Except.pure,
        eq_comm (a := seen)]
    | false =>
      cases rights : p.authenticator.authorizer.authorize call.method admission.caller? with
      | error denial => simp [found, listed, rights, Except.mapError, bind, Except.bind]
      | ok _ =>
        simp [found, listed, rights, Except.mapError, bind, Except.bind, pure, Except.pure,
          eq_comm (a := seen), and_assoc]

/-- All that a pipeline is built from. -/
theorem build_eq_ok_iff {files : Files} {c : AuthConfig} {registry : Registry} {router : Router σ}
    {services : List (Service σ)} {p : Pipeline σ} :
    build files c registry router services = .ok p ↔
      ∃ v skip rules served, c.verifier files = .ok v ∧ c.skipList = .ok skip ∧
        c.ruleSet = .ok rules ∧ services.foldlM Router.addAll router = .ok served ∧
        p = ⟨⟨v, skip, (Authorizer.ofRules rules).withRegistry registry⟩, registry,
          c.skipStreaming, served⟩ := by
  unfold build
  simp only [Except.bind_eq_ok_iff, pure, Except.pure, Except.ok.injEq, eq_comm (a := p)]
  simp only [exists_and_left]

/-- The pipeline over a router that writes down the runs of its handlers. -/
def recording (p : Pipeline σ) : Pipeline (σ × Router.Runs) :=
  ⟨p.authenticator, p.registry, p.skipStreaming, p.router.recording⟩

/-- The runs of handlers that a call brings about. -/
def runs (p : Pipeline σ) (now : Int) (call : Call) (s : σ) : Router.Runs :=
  (p.recording.endpoint now call (s, [])).2.2

theorem endpoint_recording (p : Pipeline σ) (now : Int) (call : Call) (s : σ)
    (before : Router.Runs) :
    p.recording.endpoint now call (s, before) =
      ((p.endpoint now call s).1, (p.endpoint now call s).2, before ++ p.runs now call s) := by
  have sameHanded : p.recording.handed now call = p.handed now call := rfl
  unfold runs
  simp only [endpoint_eq, sameHanded]
  cases p.handed now call with
  | error status => simp
  | ok seen => simp [recording, Router.endpoint_recording]

/-- What is turned away on its way runs no handler. -/
theorem runs_of_handed_error {p : Pipeline σ} {now : Int} {call : Call} {status : Status}
    (h : p.handed now call = .error status) (s : σ) : p.runs now call s = [] := by
  have same : p.recording.handed now call = .error status := h
  simp [runs, endpoint_eq, same]

theorem runs_of_handed_ok {p : Pipeline σ} {now : Int} {call seen : Call}
    (h : p.handed now call = .ok seen) (s : σ) :
    p.runs now call s = if p.router.contains seen.method then [(seen.method, seen)] else [] := by
  have same : p.recording.handed now call = .ok seen := h
  simp only [runs, endpoint_eq, same]
  simp [recording, Router.endpoint_recording]

theorem runs_once_of_admits {p : Pipeline σ} {now : Int} {call : Call} {caller : Option Caller}
    {handler : Endpoint σ} (found : p.router.handler? call.method = some handler)
    (admitted : Admits p.authenticator.verifier p.authenticator.skip p.authenticator.authorizer now
      call.method call.metadata caller) (s : σ) :
    ∃ seen : Call, seen.method = call.method ∧ seen.metadata = call.metadata ∧
      seen.caller = caller ∧ p.runs now call s = [(call.method, seen)] ∧
      p.endpoint now call s =
        ((handler seen s).1.map (p.registry.answered p.skipStreaming call.method),
          (handler seen s).2) := by
  have handed := handed_eq_ok_iff.mpr ⟨caller, admitted, rfl⟩
  obtain ⟨sameMethod, sameMetadata, sameCaller⟩ := p.handedFor_fields caller call
  refine ⟨_, sameMethod, sameMetadata, sameCaller, ?_, ?_⟩
  · rw [runs_of_handed_ok handed, sameMethod]
    simp [Router.contains, found]
  · rw [endpoint_eq, handed]
    simp only [Router.endpoint, sameMethod, found]

theorem no_runs_of_not_admits {p : Pipeline σ} {now : Int} {call : Call}
    (unserved : ∀ handler caller, p.router.handler? call.method = some handler →
      ¬ Admits p.authenticator.verifier p.authenticator.skip p.authenticator.authorizer now
        call.method call.metadata caller) (s : σ) :
    p.runs now call s = [] ∧ ∃ status, p.endpoint now call s = (.error status, s) := by
  cases handed : p.handed now call with
  | error status =>
    refine ⟨runs_of_handed_error handed s, status, ?_⟩
    rw [endpoint_eq, handed]
  | ok seen =>
    obtain ⟨caller, admitted, rfl⟩ := handed_eq_ok_iff.mp handed
    have sameMethod := (p.handedFor_fields caller call).1
    have absent : p.router.handler? call.method = none := by
      rw [Option.eq_none_iff_forall_ne_some]
      intro handler found
      exact unserved handler caller found admitted
    constructor
    · rw [runs_of_handed_ok handed, sameMethod]
      simp [Router.contains, absent]
    · rw [endpoint_eq, handed]
      simp only [Router.endpoint, sameMethod, absent]
      exact ⟨_, rfl⟩

/-- A call runs the handler of its method once, if there is one and the call is admitted, and as the
caller that it is admitted as; otherwise it runs none, changes nothing and gets an error. -/
theorem handler_runs_once_iff_admitted {files : Files} {c : AuthConfig} {registry : Registry}
    {router : Router σ} {services : List (Service σ)} {p : Pipeline σ}
    (built : build files c registry router services = .ok p) :
    ∃ v skip rules, c.verifier files = .ok v ∧ c.skipList = .ok skip ∧ c.ruleSet = .ok rules ∧
      ∀ (now : Int) (call : Call) (s : σ),
        let admits :=
          Admits v skip ((Authorizer.ofRules rules).withRegistry registry) now call.method
            call.metadata
        let registers := Router.Registers router services call.method
        (∀ handler caller, registers handler → admits caller →
          ∃ seen : Call, seen.method = call.method ∧ seen.metadata = call.metadata ∧
            seen.caller = caller ∧ p.runs now call s = [(call.method, seen)] ∧
            p.endpoint now call s =
              ((handler seen s).1.map (registry.answered c.skipStreaming call.method),
                (handler seen s).2)) ∧
        ((∀ handler caller, registers handler → ¬ admits caller) →
          p.runs now call s = [] ∧ ∃ status, p.endpoint now call s = (.error status, s)) ∧
        ∀ before, p.recording.endpoint now call (s, before) =
          ((p.endpoint now call s).1, (p.endpoint now call s).2, before ++ p.runs now call s) := by
  obtain ⟨v, skip, rules, served, hv, hs, hr, hserved, rfl⟩ := build_eq_ok_iff.mp built
  refine ⟨v, skip, rules, hv, hs, hr, fun now call s => ⟨?_, ?_, endpoint_recording _ now call s⟩⟩
  · intro handler caller registered admitted
    have found := (Router.handler?_eq_some_iff_registers hserved _ _).mpr registered
    exact runs_once_of_admits found admitted s
  · intro unserved
    apply no_runs_of_not_admits
    intro handler caller found
    exact unserved handler caller ((Router.handler?_eq_some_iff_registers hserved _ _).mp found)

namespace Sample

/-- Only callers with the role `r` may call the service `a.B`. -/
def config : AuthConfig :=
  { AuthConfig.ofSecret "i" "k" with rules := [⟨"ops", ["a.B/*"], .allow, false, ["r"]⟩] }

def method : Method := ⟨⟨"a.B", rfl⟩, "C", rfl⟩

def router : Router Unit := ⟨[(method, fun _ s => (.ok (.message .null), s))]⟩

def caller : Caller := ⟨"u", none, .ofList ["r"]⟩

/-- A token of the caller's, which ends at the ninth second. -/
def token : String :=
  "eyJhbGciOiJIUzI1NiJ9.eyJpc3MiOiJpIiwic3ViIjoidSIsImV4cCI6OSwicm9sZXMiOlsiciJdfQ." ++
    "sUaaKH4BdqAPyAqI2kligc50Jk8QrIaNBEb5OBt-MEA"

/-- The verifier of the configuration. -/
def verifier : Verifier := ⟨"i", .hs256 [107] (by decide), .default, false⟩

theorem token_accepted : verifier.verifyAt token 8 = .ok caller := by decide +kernel

/-- A call with the token that says it comes from someone else. -/
def call : Call :=
  ⟨method, [(Bearer.header, Bytes.ofString ("Bearer " ++ token))], some ⟨"v", none, .empty⟩, false,
    .null⟩

theorem token_carried : Bearer.token? call.metadata = .ok (some token) := by decide +kernel

end Sample

theorem sample_handler_sees_token_caller :
    ∃ p : Pipeline Unit,
      build (fun _ => none) Sample.config .empty Sample.router [] = .ok p ∧
      ∃ seen : Call, seen.caller = some Sample.caller ∧
        p.runs 8 Sample.call () = [(Sample.method, seen)] := by
  obtain ⟨p, built⟩ :
    ∃ p, build (fun _ => none) Sample.config .empty Sample.router [] = .ok p := ⟨_, rfl⟩
  obtain ⟨v, skip, rules, hv, hs, hr, outcome⟩ := handler_runs_once_iff_admitted built
  cases hv
  cases hs
  cases hr
  obtain ⟨seen, -, -, sameCaller, once, -⟩ := (outcome 8 Sample.call ()).1 _ (some Sample.caller)
    (.inl rfl) (.verified rfl Sample.token_carried Sample.token_accepted (by decide))
  exact ⟨p, built, seen, sameCaller, once⟩

end Pipeline
end CallGuard
