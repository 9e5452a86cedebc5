import CallGuard.Proofs.Pipeline.Run
import CallGuard.Proofs.Profile.Alike
import CallGuard.Proofs.Profile.Serving

/-!
Sensitive fields never show in replies. Two stores that differ in emails and streets only cannot be
told apart by any calls, as long as nobody lists profiles of a service that does not redact streams.
-/
namespace CallGuard.Profile

/-- What is written of a profile that is passed on without its sensitive fields. -/
def View.toJson (v : View) : Json :=
  let text (name : String) (value : Option String) := (value.map fun s => (name, Json.str s)).toList
  .obj (("subject", .str v.subject) :: text "name" v.name ++
    (v.city.map fun city => ("address", .obj [("city", .str city)])).toList)

namespace Service

theorem redact_toJson (p : Profile) :
    Redactor.redact (.compile messages) "Profile" p.toJson = p.view.toJson := by
  have profile : Redactor.plan? (.compile messages) "Profile" =
      some ⟨["email"], [("address", "Address")]⟩ := by rfl
  have address : Redactor.plan? (.compile messages) "Address" = some ⟨["street"], []⟩ := by rfl
  obtain ⟨subject, name, email, place⟩ := p
  cases name <;> cases email <;> cases place <;>
    simp [Profile.toJson, view, View.toJson, Address.toJson, Redactor.redact, Redactor.walk,
      Redactor.walkMembers, Redactor.Plan.nested?, profile, address]

variable {files : Files} {c : AuthConfig} {p : Pipeline Store}

namespace Serves

theorem redaction?_eq (serves : Serves p files c) {name : String} {m : Method} {d : MethodInfo}
    (named : Method.parse name = .ok m) (declares : Declares m name d)
    (profiles : d.output = "Profile") :
    p.registry.redaction? m = some ⟨none, some "Profile"⟩ := by
  have planned : p.registry.redactor.planned "Profile" = some "Profile" := by
    rw [Redactor.planned, serves.redactor_eq]
    rfl
  rw [Registry.redaction?_eq, serves.info?_eq named declares, Option.bind_some, Redactor.redactionOf,
    profiles, planned]
  cases declares with
  | get | update | list => rfl
  | delete | ping => simp at profiles

theorem answered_profile (serves : Serves p files c) {name : String} {m : Method} {d : MethodInfo}
    (named : Method.parse name = .ok m) (declares : Declares m name d)
    (profiles : d.output = "Profile") (profile : Profile) :
    p.registry.answered p.skipStreaming m (.message profile.toJson) =
      .message profile.view.toJson := by
  rw [Registry.answered, serves.redaction?_eq named declares profiles]
  simp [Registry.redactBody, Reply.message, Body.isStream, Body.map, serves.redactor_eq,
    redact_toJson]

theorem answered_profiles (serves : Serves p files c) {name : String} {m : Method} {d : MethodInfo}
    (named : Method.parse name = .ok m) (declares : Declares m name d)
    (profiles : d.output = "Profile") (redactsStreams : p.skipStreaming = false)
    (listed : List Profile) :
    p.registry.answered p.skipStreaming m
        (.stream (listed.map fun profile => .ok profile.toJson)) =
      .stream ((listed.map view).map fun v => .ok v.toJson) := by
  rw [Registry.answered, serves.redaction?_eq named declares profiles]
  simp [Registry.redactBody, Reply.stream, redactsStreams, Body.map, serves.redactor_eq,
    redact_toJson, Except.map]

end Serves

/-- Stores that are alike are answered for alike, in replies seen through `shown`, and left alike. -/
def Conceals (shown : Reply → Reply) (handler : Endpoint Store) : Prop :=
  ∀ call s t, Store.Alike s t →
    (handler call s).1.map shown = (handler call t).1.map shown ∧
      Store.Alike (handler call s).2 (handler call t).2

section Unary

variable {ρ τ : Type} {read : Json → Except Mismatch ρ} {write : τ → Option Json}
  {document : τ → Json} {handle : Option Caller → ρ → Store → Except Status τ × Store}
  {shown : Reply → Reply}

/-- It is enough that a handler's replies are alike in the part of them that shows. -/
theorem conceals_unary {α : Type} (part : τ → α) (rest : α → Reply)
    (writes : ∀ r, write r = some (document r))
    (shows : ∀ r, shown (.message (document r)) = rest (part r))
    (handles : ∀ caller request s t, Store.Alike s t →
      (handle caller request s).1.map part = (handle caller request t).1.map part ∧
        Store.Alike (handle caller request s).2 (handle caller request t).2) :
    Conceals shown (.unary read write handle) := by
  intro call s t alike
  simp only [Endpoint.unary_eq writes]
  cases read call.payload with
  | error m => exact ⟨rfl, alike⟩
  | ok request =>
    obtain ⟨same, stay⟩ := handles call.caller request s t alike
    have through (reply : Except Status τ) :
        (reply.map (Reply.message ∘ document)).map shown = (reply.map part).map rest := by
      cases reply <;> simp [Except.map, shows]
    exact ⟨by rw [through, through, same], stay⟩

/-- Nothing sensitive is in what is the same for stores that are alike. -/
theorem conceals_unary_of_eq (writes : ∀ r, write r = some (document r))
    (handles : ∀ caller request s t, Store.Alike s t →
      (handle caller request s).1 = (handle caller request t).1 ∧
        Store.Alike (handle caller request s).2 (handle caller request t).2) :
    Conceals shown (.unary read write handle) := by
  refine conceals_unary id (fun r => shown (.message (document r))) writes (fun _ => rfl) ?_
  intro caller request s t alike
  obtain ⟨same, stay⟩ := handles caller request s t alike
  exact ⟨congrArg (Except.map id) same, stay⟩

end Unary

/-! ### Handlers -/

variable {s t : Store}

theorem get_alike (caller : Option Caller) (u : Unit) (alike : Store.Alike s t) :
    (get caller u s).1.map view = (get caller u t).1.map view ∧
      Store.Alike (get caller u s).2 (get caller u t).2 := by
  unfold get
  cases Caller.require caller with
  | error status => exact ⟨rfl, alike⟩
  | ok c =>
    have same := alike.view_getD c.subject
    refine ⟨?_, alike⟩
    simp only [view, View.mk.injEq] at same
    simp [Except.map, view, same]

theorem update_alike (caller : Option Caller) (u : Update) (alike : Store.Alike s t) :
    (update caller u s).1.map view = (update caller u t).1.map view ∧
      Store.Alike (update caller u s).2 (update caller u t).2 := by
  unfold update
  cases Caller.require caller with
  | error status => exact ⟨rfl, alike⟩
  | ok c =>
    simp only [Store.update_eq]
    cases u.fault? with
    | some fault => exact ⟨rfl, alike⟩
    | none =>
      exact ⟨congrArg Except.ok (alike.view_updated c.subject u), alike.put_updated c.subject u⟩

theorem delete_alike (caller : Option Caller) (subject : String) (alike : Store.Alike s t) :
    (delete caller subject s).1 = (delete caller subject t).1 ∧
      Store.Alike (delete caller subject s).2 (delete caller subject t).2 := by
  unfold delete
  cases Caller.requireRole caller "admin" with
  | error status => exact ⟨rfl, alike⟩
  | ok c => exact ⟨by simp [Store.remove, alike.isSome_get?], alike.remove subject⟩

theorem conceals_list {shown : Reply → Reply}
    (shows : ∀ profiles : List Profile,
      shown (.stream (profiles.map fun profile => .ok profile.toJson)) =
        .stream ((profiles.map view).map fun v => .ok v.toJson)) :
    Conceals shown (.serverStreaming readList (some ∘ Profile.toJson) list) := by
  intro call s t alike
  unfold Endpoint.serverStreaming
  cases readList call.payload with
  | error m => exact ⟨rfl, alike⟩
  | ok limit =>
    have written (s : Store) : ((s.list limit).map Except.ok).map
        (fun item : Except Status Profile => item.bind (encoded (some ∘ Profile.toJson))) =
          (s.list limit).map fun profile => .ok profile.toJson := by
      rw [List.map_map]
      rfl
    refine ⟨?_, alike⟩
    simp only [list, Except.map, written, shows, alike.map_view_list]

theorem Serves.conceals (serves : Serves p files c) {name : String} {handler : Endpoint Store}
    {m : Method} (route : (name, handler) ∈ handlers) (named : Method.parse name = .ok m)
    (unlisted : name = listProfiles → p.skipStreaming = false) :
    Conceals (p.registry.answered p.skipStreaming m) handler := by
  simp only [handlers, List.mem_cons, List.not_mem_nil, or_false, Prod.mk.injEq] at route
  rcases route with ⟨rfl, rfl⟩ | ⟨rfl, rfl⟩ | ⟨rfl, rfl⟩ | ⟨rfl, rfl⟩ | ⟨rfl, rfl⟩
  · exact conceals_unary view (.message ·.toJson) (fun _ => rfl)
      (serves.answered_profile named .get rfl) fun caller u _ _ => get_alike caller u
  · exact conceals_unary view (.message ·.toJson) (fun _ => rfl)
      (serves.answered_profile named .update rfl) fun caller u _ _ => update_alike caller u
  · exact conceals_unary_of_eq (fun _ => rfl) fun caller subject _ _ => delete_alike caller subject
  -- Only here it matters whether streams are redacted.
  · exact conceals_list (serves.answered_profiles named .list rfl (unlisted rfl))
  · exact conceals_unary_of_eq (fun _ => rfl) fun _ _ _ _ alike => ⟨rfl, alike⟩

theorem Serves.endpoint_alike (serves : Serves p files c) (now : Int) (call : Call)
    (unlisted : call.method.text = listProfiles → c.skipStreaming = false)
    (alike : Store.Alike s t) :
    (p.endpoint now call s).1 = (p.endpoint now call t).1 ∧
      Store.Alike (p.endpoint now call s).2 (p.endpoint now call t).2 := by
  rcases serves.refused_or_handled now call with
    ⟨status, -, refused⟩ | ⟨name, handler, seen, handled⟩
  · rw [refused, refused]
    exact ⟨rfl, alike⟩
  · rw [handled.answer, handled.answer]
    refine serves.conceals handled.route handled.named (fun listing => ?_) seen s t alike
    rw [serves.skipStreaming]
    exact unlisted ((text_of_route handled.route handled.named).trans listing)

/-- However many calls are made of two stores that differ in emails and streets only, the replies
are the same, errors included, and so are the stores but for emails and streets. Only listing is
left out, and only where streams are not redacted. -/
theorem sensitive_fields_never_show (built : pipeline files c = .ok p) (alike : Store.Alike s t)
    {arrivals : List Arrival}
    (unlisted : ∀ x ∈ arrivals, x.call.method.text = listProfiles → c.skipStreaming = false) :
    p.replies arrivals s = p.replies arrivals t ∧
      ∀ n, Store.Alike (p.after (arrivals.take n) s) (p.after (arrivals.take n) t) := by
  have serves := serves_of_pipeline built
  exact p.run_indistinct (fun x hx _ _ alike =>
    serves.endpoint_alike x.now x.call (unlisted x hx) alike) alike

namespace Sample

/-- A store with one profile, of which nothing sensitive is said. -/
def storeWith (email : Option String) (street : String) : Store :=
  .ofList [⟨"u", some "n", email, some ⟨"c", street⟩⟩]

theorem storeWith_alike (email email' : Option String) (street street' : String) :
    Store.Alike (storeWith email street) (storeWith email' street') where
  left := Store.keyed_ofList _
  right := Store.keyed_ofList _
  same k := by
    simp only [storeWith, Store.ofList, Store.insert, Store.empty, Store.put, List.foldl_cons,
      List.foldl_nil, Store.get?_cons, Store.get?_nil]
    split <;> rfl

/-- The caller of the token asks for its profile. -/
def asks : Arrival := ⟨8, call ⟨service, "GetProfile", rfl⟩ (.obj [])⟩

/-- The caller lists all profiles. -/
def lists : Arrival := ⟨8, call ⟨service, "ListProfiles", rfl⟩ (.obj [])⟩

end Sample

theorem sample_email_never_shows :
    ∃ p, pipeline (fun _ => none) Sample.config = .ok p ∧
      p.replies [Sample.asks] (Sample.storeWith none "s") =
        [.ok (.message (View.toJson ⟨"u", some "n", some "c"⟩))] ∧
      p.replies [Sample.asks, Sample.lists] (Sample.storeWith none "s") =
        p.replies [Sample.asks, Sample.lists] (Sample.storeWith (some "e@h") "t") := by
  obtain ⟨p, built⟩ := Sample.exists_service
  have alike := Sample.storeWith_alike none (some "e@h") "s" "t"
  refine ⟨p, built, ?_, (sensitive_fields_never_show built alike (by simp [Sample.config])).1⟩
  have named : Method.parse getProfile = .ok Sample.asks.call.method := by rfl
  obtain ⟨seen, (handled : Handled p 8 Sample.asks.call _ _ seen), sameCaller⟩ :=
    Sample.handled built _ (.head _) named .get rfl
  have reply : (Endpoint.unary (readEmpty "struct GetProfileRequest") (some ∘ toJson) get seen
      (Sample.storeWith none "s")).1 =
        .ok (.message (toJson ⟨"u", some "n", none, some ⟨"c", "s"⟩⟩)) := by
    unfold Endpoint.unary
    rw [handled.payload, sameCaller]
    rfl
  have answer : (p.endpoint 8 Sample.asks.call (Sample.storeWith none "s")).1 =
      .ok (.message (View.toJson ⟨"u", some "n", some "c"⟩)) := by
    rw [handled.answer, reply, Except.map,
      (serves_of_pipeline built).answered_profile named .get rfl]
    rfl
  exact congrArg (fun reply => [reply]) answer

end Service
end CallGuard.Profile
