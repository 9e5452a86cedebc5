import CallGuard.Proofs.Call.Bearer
import CallGuard.Proofs.Http.Path
import CallGuard.Proofs.Http.Request
import CallGuard.Proofs.Http.Response
import CallGuard.Proofs.Pipeline.Headers
import CallGuard.Proofs.Profile.Serving

/-!
The service behind HTTP. A request is parted into a path, headers and a body, and of several
credentials only the first is passed on; still it is answered as the call is that it stands for,
with all of its credentials. `answered_as_called` says so of every request that is such a call, and
what becomes of the others, which reach no service.
-/
namespace CallGuard

theorem Profile.Service.Serves.ignoresHeaders {p : Pipeline Profile.Store} {files : Files}
    {c : AuthConfig} (serves : Serves p files c) : p.router.endpoint.IgnoresHeaders := by
  apply Router.endpoint_ignoresHeaders
  intro m handler found
  obtain ⟨name, route, -⟩ := (serves.routes m handler).mp found
  simp only [handlers, List.mem_cons, List.not_mem_nil, or_false, Prod.mk.injEq] at route
  rcases route with ⟨-, rfl⟩ | ⟨-, rfl⟩ | ⟨-, rfl⟩ | ⟨-, rfl⟩ | ⟨-, rfl⟩
  · exact Endpoint.unary_ignoresHeaders _ _ _
  · exact Endpoint.unary_ignoresHeaders _ _ _
  · exact Endpoint.unary_ignoresHeaders _ _ _
  · exact Endpoint.serverStreaming_ignoresHeaders _ _ _
  · exact Endpoint.unary_ignoresHeaders _ _ _

namespace Http

/-! ### Requests -/

/-- Every method has a path. -/
theorem exists_target (m : Method) :
    ∃ target, segments? target = some (m.service.text, m.name) := by
  have service : m.service.text ≠ "" := by
    intro empty
    exact m.service.chars_ne_nil (by rw [empty, String.toList_empty])
  have name : m.name ≠ "" := by
    intro empty
    have chars := (Method.segmentFault?_eq_none_iff.mp m.name_valid).1
    exact chars (by rw [empty, String.toList_empty])
  exact ⟨_, segments?_pathTo service name⟩

/-- The first credential is the same whether the others are passed on or not. -/
theorem passedOn_of_allowed {headers : Metadata}
    (allowed : ∀ value ∈ headers.getAll Bearer.header, value.all Metadata.isValueByte = true) :
    ∃ md, passedOn headers = .ok md ∧ md.get? Bearer.header =
      Metadata.get? ((headers.getAll Bearer.header).map (Bearer.header, ·)) Bearer.header := by
  have first := Metadata.get?_eq_head? headers Bearer.header
  cases values : headers.getAll Bearer.header with
  | nil =>
    rw [values] at first
    exact ⟨[], passedOn_of_none first, rfl⟩
  | cons value rest =>
    rw [values] at first allowed
    refine ⟨_, passedOn_of_some first (allowed value List.mem_cons_self), ?_⟩
    simp [Metadata.get?]

/-- The call that brings the credentials of a request along, all of them in their order. -/
def carrying (m : Method) (v : Json) (headers : Metadata) : Call :=
  ⟨m, (headers.getAll Bearer.header).map (Bearer.header, ·), none, false, v⟩

section

variable {σ : Type} {r : Request} {service name : String} {m : Method}

theorem serve_eq_of_ignoresHeaders {p : Pipeline σ} (h : p.router.endpoint.IgnoresHeaders)
    {v : Json} (posted : Posted r service name)
    (named : Method.parse (service ++ "/" ++ name) = .ok m) (holds : Holds r.body v)
    (allowed : ∀ value ∈ r.headers.getAll Bearer.header, value.all Metadata.isValueByte = true)
    (now : Int) (s : σ) :
    serve (p.endpoint now) r s =
      (respond (p.endpoint now (carrying m v r.headers) s).1,
        (p.endpoint now (carrying m v r.headers) s).2) := by
  obtain ⟨md, passed, same⟩ := passedOn_of_allowed allowed
  have alike : p.endpoint now ⟨m, md, none, false, v⟩ s =
      p.endpoint now (carrying m v r.headers) s :=
    Pipeline.endpoint_congr h now ⟨m, [], none, false, v⟩ same s
  rw [serve_of_calls posted named holds, passed]
  simp only [alike]

theorem serve_of_unnamed (posted : Posted r service name)
    (unnamed : ∀ m, Method.parse (service ++ "/" ++ name) ≠ .ok m) (endpoint : Endpoint σ) (s : σ) :
    serve endpoint r s =
      (⟨404, some "application/json", (faultOf "unimplemented" "unknown method").compact⟩, s) :=
  serve_of_call_error posted (call_of_unnamed r unnamed) endpoint s

end

/-- Every method has a path. A request whose path names a method and whose body holds a document is
answered as a call of the method is, with that document and all of the credentials, and does to the
store what that does. Where the path names no method, whatever else the request says, and where it
names one but the body holds no document, whatever credentials there are, the answer is an error
that is the same before any service, and nothing is called. -/
theorem answered_as_called {files : Files} {c : AuthConfig} {p : Pipeline Profile.Store}
    (built : Profile.Service.pipeline files c = .ok p) :
    (∀ m : Method, (∃ target, segments? target = some (m.service.text, m.name)) ∧
      Method.parse (m.service.text ++ "/" ++ m.name) = .ok m) ∧
    ∀ r service name, Posted r service name →
      (∀ m v, Method.parse (service ++ "/" ++ name) = .ok m → Holds r.body v →
        (∀ value ∈ r.headers.getAll Bearer.header, value.all Metadata.isValueByte = true) →
        ∀ now s,
          Shows (p.endpoint now (carrying m v r.headers) s).1 (serve (p.endpoint now) r s).1 ∧
          (serve (p.endpoint now) r s).2 = (p.endpoint now (carrying m v r.headers) s).2) ∧
      ((∀ m, Method.parse (service ++ "/" ++ name) ≠ .ok m) →
        ∀ (σ : Type) (endpoint : Endpoint σ) s, serve endpoint r s =
          (⟨404, some "application/json", (faultOf "unimplemented" "unknown method").compact⟩, s)) ∧
      ∀ m, Method.parse (service ++ "/" ++ name) = .ok m → (∀ v, ¬ Holds r.body v) →
        ∃ message, ∀ (σ : Type) (endpoint : Endpoint σ) s, serve endpoint r s =
          (⟨400, some "application/json", (faultOf "invalid_argument" message).compact⟩, s) := by
  refine ⟨fun m => ⟨exists_target m, m.parse_parts⟩, fun r service name posted => ⟨?_, ?_, ?_⟩⟩
  · intro m v named holds allowed now s
    have ignores := (Profile.Service.serves_of_pipeline built).ignoresHeaders
    rw [serve_eq_of_ignoresHeaders ignores posted named holds allowed]
    exact ⟨respond_shows _, rfl⟩
  · intro unnamed σ endpoint s
    exact serve_of_unnamed posted unnamed endpoint s
  · intro m named nothing
    obtain ⟨message, refused⟩ := call_of_not_holds named nothing
    exact ⟨message, fun σ endpoint s => serve_of_call_error posted refused endpoint s⟩

namespace Front

open Profile.Service.Sample (updateMethod)

/-- An update of nothing with two credentials, of which only the first is one. -/
def twice : Request :=
  ⟨"POST", "/example.v1.ProfileService/UpdateProfile",
    Pipeline.Sample.call.metadata ++ [(Bearer.header, [0xff])], []⟩

/-- The call that it stands for. -/
def update : Call := carrying updateMethod (.obj []) twice.headers

/-- A service without a package. -/
def unnamed : Request := ⟨"POST", "/B/C", [], []⟩

def unread : Request := ⟨"POST", "/example.v1.ProfileService/UpdateProfile", [], Bytes.ofString "["⟩

end Front

/-- Of two credentials both go with the call, and only the first with the request; a service without
a package is not found; and a body that breaks off is not read. -/
theorem sample_answered_as_called :
    ∃ p, Profile.Service.pipeline (fun _ => none) Profile.Service.Sample.config = .ok p ∧
      Front.update.metadata.length = 2 ∧
      Shows (p.endpoint 8 Front.update .empty).1 (serve (p.endpoint 8) Front.twice .empty).1 ∧
      (serve (p.endpoint 8) Front.twice .empty).2 = (p.endpoint 8 Front.update .empty).2 ∧
      (serve (p.endpoint 8) Front.unnamed .empty).1.status = 404 ∧
      (serve (p.endpoint 8) Front.unread .empty).1.status = 400 := by
  obtain ⟨p, built⟩ := Profile.Service.Sample.exists_service
  obtain ⟨paths, answers⟩ := answered_as_called built
  have named := (paths Profile.Service.Sample.updateMethod).2
  have posted : Posted Front.twice Profile.Service.Sample.updateMethod.service.text
      "UpdateProfile" := ⟨rfl, by decide⟩
  have holds : Holds Front.twice.body (.obj []) := .blank (by simp [Blank, Front.twice])
  have allowed : ∀ value ∈ Front.twice.headers.getAll Bearer.header,
      value.all Metadata.isValueByte = true := by decide +kernel
  obtain ⟨shows, same⟩ := (answers _ _ _ posted).1 _ _ named holds allowed 8 .empty
  refine ⟨p, built, rfl, shows, same, ?_, ?_⟩
  · have posted : Posted Front.unnamed "B" "C" := ⟨rfl, by decide⟩
    have unnamed : ∀ m, Method.parse ("B" ++ "/" ++ "C") ≠ .ok m := by
      intro m named
      cases named
    rw [(answers _ _ _ posted).2.1 unnamed]
  · have posted : Posted Front.unread Profile.Service.Sample.updateMethod.service.text
        "UpdateProfile" := ⟨rfl, by decide⟩
    have nothing : ∀ v, ¬ Holds Front.unread.body v := by
      intro v holds
      cases holds with
      | blank white => exact absurd (all_white_iff.mpr white) (by decide)
      | document read => cases read
    obtain ⟨message, answered⟩ := (answers _ _ _ posted).2.2 _ named nothing
    rw [answered]

end Http
end CallGuard
