import CallGuard.Profile.Service
import CallGuard.Proofs.Method.Naming
import CallGuard.Proofs.Pipeline.Refusal
import CallGuard.Proofs.Policy.Decision

/-!
What a pipeline of the profile service does with a call, whatever its operator has set: it refuses it
with the status of an error, or hands it to the handler of its method, with its payload as it is and
the caller that was found. `refused_or_handled` says so once for all that is proved of the service.
-/
namespace CallGuard.Profile.Service

/-! ### Declarations -/

/-- The names of the methods are written without a slash in front. -/
theorem text_of_route {name : String} {handler : Endpoint Store} {m : Method}
    (route : (name, handler) ∈ handlers) (named : Method.parse name = .ok m) : m.text = name := by
  have plain : ∀ name ∈ handlers.map (·.1), Method.dropSlash name.toList = name.toList := by
    decide
  have chars := Method.parse_eq_ok_iff.mp named
  rw [plain name (List.mem_map_of_mem route)] at chars
  exact String.toList_injective chars.symm

/-- How the method of the name is declared. -/
inductive Declares (m : Method) : String → MethodInfo → Prop
  | get : Declares m getProfile
      ⟨m, "Empty", "Profile", false, true, false, some .authenticated⟩
  | update : Declares m updateProfile
      ⟨m, "UpdateProfileRequest", "Profile", false, true, false, some .authenticated⟩
  | delete : Declares m deleteProfile
      ⟨m, "DeleteProfileRequest", "DeleteProfileResponse", false, false, false,
        some (.ofRoles ["admin"])⟩
  | list : Declares m listProfiles
      ⟨m, "ListProfilesRequest", "Profile", true, true, false, none⟩
  | ping : Declares m ping ⟨m, "Empty", "PingResponse", false, false, false, none⟩

theorem mem_methods_iff {ms : List MethodInfo} (listed : methods = .ok ms) {d : MethodInfo} :
    d ∈ ms ↔ ∃ name, Method.parse name = .ok d.method ∧ Declares d.method name d := by
  simp only [methods, Except.bind_eq_ok_iff, Except.pure_eq_ok_iff] at listed
  obtain ⟨get, hget, upd, hupd, del, hdel, lst, hlst, png, hpng, rfl⟩ := listed
  simp only [List.mem_cons, List.not_mem_nil, or_false]
  constructor
  · rintro (rfl | rfl | rfl | rfl | rfl)
    · exact ⟨_, hget, .get⟩
    · exact ⟨_, hupd, .update⟩
    · exact ⟨_, hdel, .delete⟩
    · exact ⟨_, hlst, .list⟩
    · exact ⟨_, hpng, .ping⟩
  · rintro ⟨name, named, declares⟩
    generalize d.method = m at named declares
    cases declares with
    | get => simp [Except.ok.inj (hget.symm.trans named)]
    | update => simp [Except.ok.inj (hupd.symm.trans named)]
    | delete => simp [Except.ok.inj (hdel.symm.trans named)]
    | list => simp [Except.ok.inj (hlst.symm.trans named)]
    | ping => simp [Except.ok.inj (hpng.symm.trans named)]

theorem registry_eq_ok_iff {r : Registry} :
    registry = .ok r ↔ ∃ ms, methods = .ok ms ∧ Registry.ofSchema ⟨messages, ms⟩ = .ok r :=
  Except.bind_eq_ok_iff

/-- What is known of a pipeline that has been built for the service. -/
structure Serves (p : Pipeline Store) (files : Files) (c : AuthConfig) : Prop where
  declared : registry = .ok p.registry
  verifier : c.verifier files = .ok p.authenticator.verifier
  skip : c.skipList = .ok p.authenticator.skip
  authorizer : ∃ rules, p.authenticator.authorizer =
    (Authorizer.ofRules rules).withRegistry p.registry
  skipStreaming : p.skipStreaming = c.skipStreaming
  routes : ∀ m handler, p.router.handler? m = some handler ↔
    ∃ name, (name, handler) ∈ handlers ∧ Method.parse name = .ok m

theorem serves_of_pipeline {files : Files} {c : AuthConfig} {p : Pipeline Store}
    (built : pipeline files c = .ok p) : Serves p files c := by
  obtain ⟨r, declared, built⟩ := Except.bind_eq_ok_iff.mp built
  obtain ⟨v, skip, rules, served, hv, hs, -, routed, rfl⟩ := Pipeline.build_eq_ok_iff.mp built
  refine ⟨declared, hv, hs, ⟨rules, rfl⟩, rfl, fun m handler => ?_⟩
  rw [Router.handler?_eq_some_iff_registers routed]
  simp [Router.Registers, Router.empty, Router.handler?]

namespace Serves

variable {p : Pipeline Store} {files : Files} {c : AuthConfig}

theorem redactor_eq (serves : Serves p files c) : p.registry.redactor = .compile messages := by
  obtain ⟨ms, -, accepted⟩ := registry_eq_ok_iff.mp serves.declared
  exact (Registry.ofSchema_eq_ok_iff.mp accepted).2.2

theorem info?_eq (serves : Serves p files c) {name : String} {m : Method} {d : MethodInfo}
    (named : Method.parse name = .ok m) (declares : Declares m name d) :
    p.registry.info? m = some d := by
  obtain ⟨ms, listed, accepted⟩ := registry_eq_ok_iff.mp serves.declared
  obtain ⟨-, entered, -⟩ := Registry.ofSchema_eq_ok_iff.mp accepted
  obtain rfl : d.method = m := by cases declares <;> rfl
  apply Registry.info?_of_mem
  rw [entered]
  exact (mem_methods_iff listed).mpr ⟨name, named, declares⟩

/-- Only replies are redacted. -/
theorem handed_payload (serves : Serves p files c) (caller : Option Caller) (call : Call) :
    (p.handedFor caller call).payload = call.payload := by
  obtain ⟨ms, listed, accepted⟩ := registry_eq_ok_iff.mp serves.declared
  obtain ⟨-, entered, -⟩ := Registry.ofSchema_eq_ok_iff.mp accepted
  have unredacted : ∀ d ∈ p.registry.methods, d.redactRequest = false := by
    rw [entered]
    intro d hd
    obtain ⟨name, -, declares⟩ := (mem_methods_iff listed).mp hd
    generalize d.method = m at declares
    cases declares <;> rfl
  rw [Pipeline.handedFor, Registry.handed_of_unredacted unredacted]
  unfold Pipeline.withDeclaredStreaming
  split <;> rfl

/-- Operators have no say in who may call a method that declares it. -/
theorem resolve_eq (serves : Serves p files c) {m : Method} {name : String} {d : MethodInfo}
    {access : Access} (named : Method.parse name = .ok m) (declares : Declares m name d)
    (own : d.access = some access) :
    p.authenticator.authorizer.resolve m = .metadata access := by
  obtain ⟨ms, listed, schema⟩ := registry_eq_ok_iff.mp serves.declared
  obtain ⟨rules, eq⟩ := serves.authorizer
  obtain rfl : d.method = m := by cases declares <;> rfl
  rw [eq]
  exact Authorizer.resolve_of_declared schema ((mem_methods_iff listed).mpr ⟨name, named, declares⟩)
    rfl own

theorem admits_verified (serves : Serves p files c) {now : Int} {m : Method} {md : Metadata}
    {name token : String} {d : MethodInfo} {caller : Caller} {access : Access}
    (named : Method.parse name = .ok m) (declares : Declares m name d)
    (own : d.access = some access) (allowed : access.check (some caller) = .ok ())
    (unlisted : p.authenticator.skip.contains m = false)
    (carried : Bearer.token? md = .ok (some token))
    (accepted : p.authenticator.verifier.verifyAt token now = .ok caller) :
    Admits p.authenticator.verifier p.authenticator.skip p.authenticator.authorizer now m md
      (some caller) := by
  refine .verified unlisted carried accepted ?_
  rw [Authorizer.authorize, serves.resolve_eq named declares own]
  exact allowed

end Serves

/-! ### Handling -/

/-- The call gets to its method's handler, with the payload it came with. -/
structure Handled (p : Pipeline Store) (now : Int) (call : Call) (name : String)
    (handler : Endpoint Store) (seen : Call) : Prop where
  route : (name, handler) ∈ handlers
  named : Method.parse name = .ok call.method
  payload : seen.payload = call.payload
  admitted : Admits p.authenticator.verifier p.authenticator.skip p.authenticator.authorizer now
    call.method call.metadata seen.caller
  answer : ∀ s, p.endpoint now call s =
    ((handler seen s).1.map (p.registry.answered p.skipStreaming call.method), (handler seen s).2)

theorem Serves.handled_of_admits {p : Pipeline Store} {files : Files} {c : AuthConfig}
    (serves : Serves p files c) {now : Int} {call : Call} {caller : Option Caller}
    (admitted : Admits p.authenticator.verifier p.authenticator.skip p.authenticator.authorizer now
      call.method call.metadata caller) {name : String} {handler : Endpoint Store}
    (route : (name, handler) ∈ handlers) (named : Method.parse name = .ok call.method) :
    Handled p now call name handler (p.handedFor caller call) := by
  obtain ⟨sameMethod, -, sameCaller⟩ := p.handedFor_fields caller call
  have found := (serves.routes call.method handler).mpr ⟨name, route, named⟩
  refine ⟨route, named, serves.handed_payload caller call, by rwa [sameCaller], fun s => ?_⟩
  rw [Pipeline.endpoint_eq, Pipeline.handed_eq_ok_iff.mpr ⟨caller, admitted, rfl⟩]
  simp only [Router.endpoint, sameMethod, found]

/-- Whether a call gets to a handler, and what it is refused with if it does not, is settled without
a look at the store. -/
theorem Serves.refused_or_handled {p : Pipeline Store} {files : Files} {c : AuthConfig}
    (serves : Serves p files c) (now : Int) (call : Call) :
    (∃ status, status.code ≠ .ok ∧ ∀ s, p.endpoint now call s = (.error status, s)) ∨
      ∃ name handler seen, Handled p now call name handler seen := by
  cases handed : p.handed now call with
  | error status =>
    refine .inl ⟨status, Pipeline.code_ne_ok_of_handed_error handed, fun s => ?_⟩
    rw [Pipeline.endpoint_eq, handed]
  | ok seen =>
    obtain ⟨caller, admitted, rfl⟩ := Pipeline.handed_eq_ok_iff.mp handed
    cases found : p.router.handler? call.method with
    | none =>
      refine .inl ⟨⟨.unimplemented, "method " ++ call.method.text ++ " is not implemented"⟩,
        by simp, fun s => ?_⟩
      rw [Pipeline.endpoint_eq, handed]
      simp only [Router.endpoint, (p.handedFor_fields caller call).1, found, Except.map]
    | some handler =>
      obtain ⟨name, route, named⟩ := (serves.routes call.method handler).mp found
      exact .inr ⟨name, handler, _, serves.handled_of_admits admitted route named⟩

/-- The service's names are all well formed, and all different. -/
theorem exists_routes : ∃ served, [handlers].foldlM Router.addAll .empty = .ok served := by
  have registered : ([handlers].foldlM Router.addAll .empty).isOk = true := by decide +kernel
  exact Except.isOk_iff.mp registered

/-- Only what the operator sets can keep the service from being built. -/
theorem exists_pipeline {files : Files} {c : AuthConfig} {v : Verifier} {skip : SkipList}
    {rules : RuleSet} (hv : c.verifier files = .ok v) (hs : c.skipList = .ok skip)
    (hr : c.ruleSet = .ok rules) : ∃ p, pipeline files c = .ok p := by
  have accepted : registry.isOk = true := by decide +kernel
  obtain ⟨r, declared⟩ := Except.isOk_iff.mp accepted
  obtain ⟨served, routed⟩ := exists_routes
  exact ⟨_, Except.bind_eq_ok_iff.mpr ⟨r, declared,
    Pipeline.build_eq_ok_iff.mpr ⟨v, skip, rules, served, hv, hs, hr, routed, rfl⟩⟩⟩

namespace Sample

/-- What no rule forbids is allowed, and streams are redacted. -/
def config : AuthConfig :=
  { AuthConfig.ofSecret "i" "k" with defaultPolicy := .allow, skipStreaming := false }

theorem exists_service : ∃ p, pipeline (fun _ => none) config = .ok p :=
  exists_pipeline rfl rfl rfl

def service : ServiceName := ⟨"example.v1.ProfileService", rfl⟩

def updateMethod : Method := ⟨service, "UpdateProfile", rfl⟩

/-- A call with the token. -/
def call (method : Method) (payload : Json) : Call :=
  ⟨method, Pipeline.Sample.call.metadata, none, false, payload⟩

/-- The token's caller gets to all that known callers may call. -/
theorem handled {p : Pipeline Store} (built : pipeline (fun _ => none) config = .ok p)
    {m : Method} (payload : Json) {name : String} {handler : Endpoint Store} {d : MethodInfo}
    (route : (name, handler) ∈ handlers) (named : Method.parse name = .ok m)
    (declares : Declares m name d) (own : d.access = some .authenticated) :
    ∃ seen, Handled p 8 (call m payload) name handler seen ∧
      seen.caller = some Pipeline.Sample.caller := by
  have serves := serves_of_pipeline built
  have verifier : p.authenticator.verifier = Pipeline.Sample.verifier :=
    (Except.ok.inj serves.verifier).symm
  have skip : p.authenticator.skip = [] := (Except.ok.inj serves.skip).symm
  have unlisted : p.authenticator.skip.contains m = false := by rw [skip]; rfl
  have accepted : p.authenticator.verifier.verifyAt Pipeline.Sample.token 8 =
      .ok Pipeline.Sample.caller := by
    rw [verifier, Pipeline.Sample.token_accepted]
  have admitted := serves.admits_verified named declares own rfl unlisted
    Pipeline.Sample.token_carried accepted
  exact ⟨_, serves.handled_of_admits admitted route named, (p.handedFor_fields _ _).2.2⟩

end Sample
end CallGuard.Profile.Service
