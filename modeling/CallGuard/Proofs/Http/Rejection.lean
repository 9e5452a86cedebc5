import CallGuard.Proofs.Call.Bearer
import CallGuard.Proofs.Http.Request
import CallGuard.Proofs.Profile.Serving

/-!
What a request is told that has no credential, or one that is not accepted. Whatever pipeline it is
sent to, and whatever method it calls, the answer is the same: `outsiders_told_alike` compares two
such requests, of which each may be sent to a pipeline of its own.
-/
namespace CallGuard

/-- The value of a header is a credential, and the verifier accepts its token. -/
def Verifier.AcceptsValue (v : Verifier) (now : Int) (value : Bytes) : Prop :=
  ∃ token c, Bearer.ofValue value = .ok token ∧ v.verifyAt token now = .ok c

/-! ### Authentication -/

namespace Authenticator

variable {a : Authenticator} {now : Int} {m : Method} {md : Metadata}

/-- A credential that is not accepted is looked at before it is asked what the method is open to. -/
theorem authenticate_of_not_accepts {value : Bytes} (unlisted : a.skip.contains m = false)
    (found : md.get? Bearer.header = some value)
    (unaccepted : ¬ a.verifier.AcceptsValue now value) :
    ∃ fault, a.authenticate now m md = .error (.invalidCredential fault) := by
  have carried := Bearer.token?_of_get? found
  unfold authenticate
  simp only [unlisted, carried, Bool.false_eq_true, ↓reduceIte]
  cases read : Bearer.ofValue value with
  | error why => exact ⟨.malformed why, rfl⟩
  | ok token =>
    cases verified : a.verifier.verifyAt token now with
    | ok c => exact absurd ⟨token, c, read, verified⟩ unaccepted
    | error fault =>
      refine ⟨fault, ?_⟩
      simp [Except.map, Except.mapError, bind, Except.bind, verified]

theorem authenticate_of_bare (unlisted : a.skip.contains m = false)
    (bare : md.get? Bearer.header = none) (closed : (a.authorizer.resolve m).isPublic = false) :
    a.authenticate now m md = .error .missingCredential := by
  have nothing : Bearer.token? md = .ok none := by rw [Bearer.token?, bare]
  unfold authenticate
  simp [unlisted, nothing, closed, bind, Except.bind, throw, throwThe, MonadExceptOf.throw]

end Authenticator

/-- A call that is rejected gets no further. -/
theorem Pipeline.endpoint_of_rejected {σ : Type} {p : Pipeline σ} {now : Int} {call : Call}
    {rejection : Rejection}
    (rejected : p.authenticator.authenticate now call.method call.metadata = .error rejection)
    (s : σ) : p.endpoint now call s = (.error rejection.status, s) := by
  have turned : p.handed now call = .error rejection.status := by
    simp [handed, rejected, Except.mapError, bind, Except.bind]
  rw [endpoint_eq, turned]

namespace Http

variable {σ τ : Type}

/-- The request calls the method, and the pipeline looks at its credentials. -/
structure Asks (p : Pipeline σ) (r : Request) (m : Method) : Prop where
  posted : ∃ service name, Posted r service name ∧ Method.parse (service ++ "/" ++ name) = .ok m
  holds : ∃ v, Holds r.body v
  unlisted : p.authenticator.skip.contains m = false

/-- Of the credentials in the request the first is one that is not accepted. -/
def Unaccepted (p : Pipeline σ) (now : Int) (r : Request) : Prop :=
  ∃ m value, Asks p r m ∧ r.headers.get? Bearer.header = some value ∧
    ¬ p.authenticator.verifier.AcceptsValue now value

/-- The request has no credential, and calls a method that needs one. -/
def Bare (p : Pipeline σ) (r : Request) : Prop :=
  ∃ m, Asks p r m ∧ r.headers.get? Bearer.header = none ∧
    (p.authenticator.authorizer.resolve m).isPublic = false

/-- What no call can carry is answered as what no verifier accepts. -/
theorem serve_of_unaccepted {p : Pipeline σ} {now : Int} {r : Request} (h : Unaccepted p now r)
    (s : σ) : serve (p.endpoint now) r s = (respond (.error .invalidCredential), s) := by
  obtain ⟨m, value, ⟨⟨service, name, posted, named⟩, ⟨v, holds⟩, unlisted⟩, found, unaccepted⟩ := h
  rw [serve_of_calls posted named holds]
  cases allowed : value.all Metadata.isValueByte with
  | false => rw [passedOn_of_not_allowed found allowed]
  | true =>
    have first : Metadata.get? [(Bearer.header, value)] Bearer.header = some value := by
      simp [Metadata.get?]
    obtain ⟨fault, rejected⟩ :=
      Authenticator.authenticate_of_not_accepts unlisted first unaccepted
    have answered : p.endpoint now ⟨m, [(Bearer.header, value)], none, false, v⟩ s =
        (.error (Rejection.invalidCredential fault).status, s) :=
      Pipeline.endpoint_of_rejected rejected s
    rw [passedOn_of_some found allowed]
    simp only [answered, Rejection.status]

theorem serve_of_bare {p : Pipeline σ} {r : Request} (h : Bare p r) (now : Int) (s : σ) :
    serve (p.endpoint now) r s = (respond (.error Rejection.missingCredential.status), s) := by
  obtain ⟨m, ⟨⟨service, name, posted, named⟩, ⟨v, holds⟩, unlisted⟩, bare, closed⟩ := h
  have rejected : p.authenticator.authenticate now m [] = .error .missingCredential :=
    Authenticator.authenticate_of_bare unlisted rfl closed
  have answered : p.endpoint now ⟨m, [], none, false, v⟩ s =
      (.error Rejection.missingCredential.status, s) := Pipeline.endpoint_of_rejected rejected s
  rw [serve_of_calls posted named holds, passedOn_of_none bare]
  simp only [answered]

/-- Two requests whose first credentials are not accepted get one answer, and so do two requests
without any to methods that are not public. Neither what is wrong with a credential shows in it, nor
which method was called, with what and at what time, nor how and with what in its store the pipeline
was set up. -/
theorem outsiders_told_alike (p : Pipeline σ) (q : Pipeline τ) (now later : Int) (s : σ) (t : τ) :
    (∀ r r', Unaccepted p now r → Unaccepted q later r' →
      (serve (p.endpoint now) r s).1 = (serve (q.endpoint later) r' t).1) ∧
    ∀ r r', Bare p r → Bare q r' →
      (serve (p.endpoint now) r s).1 = (serve (q.endpoint later) r' t).1 := by
  constructor
  · intro r r' first second
    rw [serve_of_unaccepted first, serve_of_unaccepted second]
  · intro r r' first second
    rw [serve_of_bare first, serve_of_bare second]

namespace Outsider

open Profile.Service (Declares Serves)
open Profile.Service.Sample (updateMethod)

/-- Another issuer, another key, and no methods open by default. -/
def config : AuthConfig := .ofSecret "j" "l"

def deleteMethod : Method := { updateMethod with name := "DeleteProfile", name_valid := rfl }

/-- The token announces a signature that is made with another kind of key. -/
def token : String := "eyJhbGciOiJSUzI1NiJ9.e30.YQ"

def foreign : Request :=
  ⟨"POST", "/example.v1.ProfileService/UpdateProfile",
    [(Bearer.header, Bytes.ofString ("Bearer " ++ token))], []⟩

/-- Bytes that are no text, for a method that nobody serves. -/
def garbled : Request := ⟨"POST", "/a.B/C", [(Bearer.header, [0xff])], Bytes.ofString "[0]"⟩

def bareUpdate : Request := ⟨"POST", "/example.v1.ProfileService/UpdateProfile", [], []⟩

def bareDelete : Request := ⟨"POST", "/example.v1.ProfileService/DeleteProfile", [], [0x0c]⟩

theorem asks_of_posted {p : Pipeline Profile.Store} {files : Files} {c : AuthConfig}
    (serves : Serves p files c) (unskipped : c.skip = []) {r : Request} {m : Method} {v : Json}
    (posted : Posted r m.service.text m.name) (holds : Holds r.body v) : Asks p r m := by
  have skip : p.authenticator.skip = [] := by
    have listed := serves.skip
    rw [AuthConfig.skipList, unskipped] at listed
    exact (Except.ok.inj listed).symm
  exact ⟨⟨_, _, posted, m.parse_parts⟩, ⟨v, holds⟩, by rw [skip]; rfl⟩

theorem foreign_unaccepted {p : Pipeline Profile.Store}
    (serves : Serves p (fun _ => none) Profile.Service.Sample.config) (now : Int) :
    Unaccepted p now foreign := by
  have posted : Posted foreign updateMethod.service.text updateMethod.name :=
    ⟨rfl, by decide⟩
  have carried : Bearer.ofValue (Bytes.ofString ("Bearer " ++ token)) = .ok token := by
    decide
  have unsigned : Pipeline.Sample.verifier.claims token = .error .signatureInvalid := by rfl
  have verifier : p.authenticator.verifier = Pipeline.Sample.verifier :=
    (Except.ok.inj serves.verifier).symm
  refine ⟨_, _, asks_of_posted serves rfl posted (.blank (by simp [Blank, foreign])), rfl, ?_⟩
  rintro ⟨read, c, first, accepted⟩
  obtain rfl : token = read := Except.ok.inj (carried.symm.trans first)
  rw [verifier, Verifier.verifyAt, unsigned] at accepted
  cases accepted

theorem garbled_unaccepted {p : Pipeline Profile.Store} (serves : Serves p (fun _ => none) config)
    (now : Int) : Unaccepted p now garbled := by
  have posted : Posted garbled Pipeline.Sample.method.service.text Pipeline.Sample.method.name :=
    ⟨rfl, by decide⟩
  have holds : Holds garbled.body (.arr [.int 0]) := .document rfl
  refine ⟨_, [0xff], asks_of_posted serves rfl posted holds, rfl, ?_⟩
  rintro ⟨token, c, read, -⟩
  cases read

theorem bare_of_declared {p : Pipeline Profile.Store} {files : Files} {c : AuthConfig}
    (serves : Serves p files c) {r : Request} {m : Method} {name : String} {d : MethodInfo}
    (asks : Asks p r m) (none_given : r.headers.get? Bearer.header = none)
    (named : Method.parse name = .ok m) (declares : Declares m name d) {access : Access}
    (own : d.access = some access) (closed : access.isPublic = false) : Bare p r := by
  refine ⟨m, asks, none_given, ?_⟩
  rw [serves.resolve_eq named declares own]
  exact closed

end Outsider

/-- A token with another kind of signature is answered as bytes that are no text, by services with
different issuers and keys; and an update without a credential as a deletion without one. -/
theorem sample_outsiders_told_alike :
    ∃ p q, Profile.Service.pipeline (fun _ => none) Profile.Service.Sample.config = .ok p ∧
      Profile.Service.pipeline (fun _ => none) Outsider.config = .ok q ∧
      (Unaccepted p 8 Outsider.foreign ∧ Unaccepted q 0 Outsider.garbled ∧
        (serve (p.endpoint 8) Outsider.foreign .empty).1 =
          (serve (q.endpoint 0) Outsider.garbled (.ofList [Profile.blank "u"])).1) ∧
      Bare p Outsider.bareUpdate ∧ Bare q Outsider.bareDelete ∧
        (serve (p.endpoint 8) Outsider.bareUpdate .empty).1 =
          (serve (q.endpoint 0) Outsider.bareDelete (.ofList [Profile.blank "u"])).1 := by
  obtain ⟨p, built⟩ := Profile.Service.Sample.exists_service
  obtain ⟨q, builtToo⟩ : ∃ q, Profile.Service.pipeline (fun _ => none) Outsider.config = .ok q :=
    Profile.Service.exists_pipeline rfl rfl rfl
  have serves := Profile.Service.serves_of_pipeline built
  have servesToo := Profile.Service.serves_of_pipeline builtToo
  have foreign := Outsider.foreign_unaccepted serves 8
  have garbled := Outsider.garbled_unaccepted servesToo 0
  have bareUpdate : Bare p Outsider.bareUpdate := by
    have posted : Posted Outsider.bareUpdate
        Profile.Service.Sample.updateMethod.service.text
        Profile.Service.Sample.updateMethod.name :=
      ⟨rfl, by decide⟩
    have holds : Holds Outsider.bareUpdate.body (.obj []) :=
      .blank (by simp [Blank, Outsider.bareUpdate])
    have asks := Outsider.asks_of_posted serves rfl posted holds
    have named : Method.parse Profile.Service.updateProfile =
        .ok Profile.Service.Sample.updateMethod := by rfl
    exact Outsider.bare_of_declared serves asks rfl named .update rfl rfl
  have bareDelete : Bare q Outsider.bareDelete := by
    have posted : Posted Outsider.bareDelete Outsider.deleteMethod.service.text
        Outsider.deleteMethod.name := ⟨rfl, by decide⟩
    have holds : Holds Outsider.bareDelete.body (.obj []) :=
      .blank (by simp [Blank, Outsider.bareDelete])
    have asks := Outsider.asks_of_posted servesToo rfl posted holds
    have named : Method.parse Profile.Service.deleteProfile = .ok Outsider.deleteMethod := by rfl
    exact Outsider.bare_of_declared servesToo asks rfl named .delete rfl rfl
  obtain ⟨unaccepted, bare⟩ :=
    outsiders_told_alike p q 8 0 .empty (.ofList [Profile.blank "u"])
  exact ⟨p, q, built, builtToo, ⟨foreign, garbled, unaccepted _ _ foreign garbled⟩, bareUpdate,
    bareDelete, bare _ _ bareUpdate bareDelete⟩

end Http
end CallGuard
