import CallGuard.Proofs.Pipeline.Passage
import CallGuard.Proofs.Schema.Redaction

/-!
What the declaration of a method keeps from its handler and from its callers. Plans are made only
where there is something to remove; `handed_payload` and `Returns` say without them what is
redacted.
-/
namespace CallGuard

namespace Registry

variable {r : Registry} {d : MethodInfo}

/-! ### Plans -/

/-- The redaction of the method's messages, also where it has nothing to remove. -/
def fullRedaction (r : Registry) (d : MethodInfo) : Redaction where
  request := if d.usesSensitiveData && d.redactRequest then r.redactor.planned d.input else none
  response := if d.usesSensitiveData then r.redactor.planned d.output else none

theorem redactionOf_eq (r : Registry) (d : MethodInfo) :
    r.redactor.redactionOf d =
      if r.fullRedaction d = ⟨none, none⟩ then none else some (r.fullRedaction d) := by
  unfold Redactor.redactionOf fullRedaction
  cases d.usesSensitiveData with
  | false => rfl
  | true =>
    cases d.redactRequest <;> cases r.redactor.planned d.input <;>
      cases r.redactor.planned d.output <;> simp

/-- There is no redaction only where it would do nothing. -/
theorem redaction?_cases {m : Method} (declared : r.info? m = some d) :
    r.redaction? m = some (r.fullRedaction d) ∨
      r.redaction? m = none ∧ r.fullRedaction d = ⟨none, none⟩ := by
  rw [redaction?_eq, declared, Option.bind_some, redactionOf_eq]
  by_cases nothing : r.fullRedaction d = ⟨none, none⟩
  · exact .inr ⟨if_pos nothing, nothing⟩
  · exact .inl (if_neg nothing)

theorem handed_eq {call : Call} (declared : r.info? call.method = some d) (skipStreaming : Bool) :
    r.handed skipStreaming call = r.redactRequest skipStreaming (r.fullRedaction d) call := by
  unfold handed
  rcases redaction?_cases declared with planned | ⟨unplanned, nothing⟩
  · rw [planned]
  · rw [unplanned, nothing]
    rfl

theorem answered_eq {m : Method} (declared : r.info? m = some d) (skipStreaming : Bool)
    (reply : Reply) :
    r.answered skipStreaming m reply =
      { reply with body := r.redactBody skipStreaming (r.fullRedaction d) reply.body } := by
  unfold answered
  rcases redaction?_cases declared with planned | ⟨unplanned, nothing⟩
  · rw [planned]
  · rw [unplanned, nothing]
    rfl

/-! ### Requests -/

/-- Redacting by a plan that may be left out is redacting. -/
theorem redactRequest_payload {call : Call} {redaction : Redaction} {message : String}
    (planned : redaction.request = r.redactor.planned message) (skipStreaming : Bool) :
    (r.redactRequest skipStreaming redaction call).payload =
      if skipStreaming && call.streaming then call.payload
      else r.redactor.redact message call.payload := by
  unfold redactRequest
  rw [planned, Redactor.planned]
  cases needed : r.redactor.needs message with
  | true => cases skipStreaming && call.streaming <;> rfl
  | false =>
    have unchanged := Redactor.redact_of_not_needs needed call.payload
    rw [unchanged, ite_self]
    rfl

theorem handed_payload {call : Call} (declared : r.info? call.method = some d)
    (skipStreaming : Bool) :
    (r.handed skipStreaming call).payload =
      if d.usesSensitiveData = true ∧ d.redactRequest = true ∧
          ¬ (skipStreaming = true ∧ call.streaming = true) then
        r.redactor.redact d.input call.payload
      else call.payload := by
  rw [handed_eq declared]
  by_cases redacts : d.usesSensitiveData = true ∧ d.redactRequest = true
  · have planned : (r.fullRedaction d).request = r.redactor.planned d.input := by
      simp [fullRedaction, redacts]
    rw [redactRequest_payload planned]
    by_cases skipped : skipStreaming = true ∧ call.streaming = true
    · simp [skipped]
    · rw [if_neg (by simpa using skipped), if_pos ⟨redacts.1, redacts.2, skipped⟩]
  · have unplanned : (r.fullRedaction d).request = none := by
      simpa [fullRedaction] using fun marked asked => absurd ⟨marked, asked⟩ redacts
    rw [redactRequest, unplanned, if_neg fun h => redacts ⟨h.1, h.2.1⟩]

/-! ### Replies -/

/-- An item of a stream, and what is left of it: an error stays what it is. -/
inductive KeepsItem (r : Registry) (message : String) :
    Except Status Json → Except Status Json → Prop
  | error (status : Status) : KeepsItem r message (.error status) (.error status)
  | value (v : Json) : KeepsItem r message (.ok v) (.ok (r.redactor.redact message v))

/-- What a handler of the method answers, and what the caller gets of it. Only a stream can be
exempt from redaction, and the headers of a reply always are. -/
inductive Returns (r : Registry) (skipStreaming : Bool) (d : MethodInfo) :
    Except Status Reply → Except Status Reply → Prop
  | error (status : Status) : Returns r skipStreaming d (.error status) (.error status)
  | unmarked (h : d.usesSensitiveData = false) (reply : Reply) :
      Returns r skipStreaming d (.ok reply) (.ok reply)
  | message (h : d.usesSensitiveData = true) (md : Metadata) (v : Json) :
      Returns r skipStreaming d (.ok ⟨md, .message v⟩)
        (.ok ⟨md, .message (r.redactor.redact d.output v)⟩)
  | stream (h : d.usesSensitiveData = true) (every : skipStreaming = false) (md : Metadata)
      {items kept : List (Except Status Json)}
      (each : List.Forall₂ (KeepsItem r d.output) items kept) :
      Returns r skipStreaming d (.ok ⟨md, .stream items⟩) (.ok ⟨md, .stream kept⟩)
  | passed (skips : skipStreaming = true) (md : Metadata) (items : List (Except Status Json)) :
      Returns r skipStreaming d (.ok ⟨md, .stream items⟩) (.ok ⟨md, .stream items⟩)

theorem keepsItem_map (r : Registry) (message : String) (items : List (Except Status Json)) :
    List.Forall₂ (KeepsItem r message) items
      (items.map (Except.map (r.redactor.redact message))) := by
  rw [List.forall₂_map_right_iff, List.forall₂_same]
  intro item _
  cases item with
  | error status => exact .error status
  | ok v => exact .value v

theorem redactBody_eq {redaction : Redaction} {message : String}
    (planned : redaction.response = r.redactor.planned message) (skipStreaming : Bool) (body : Body) :
    r.redactBody skipStreaming redaction body =
      if skipStreaming && body.isStream then body else body.map (r.redactor.redact message) := by
  unfold redactBody
  rw [planned, Redactor.planned]
  cases needed : r.redactor.needs message with
  | true => rfl
  | false =>
    have unchanged : r.redactor.redact message = id :=
      funext (Redactor.redact_of_not_needs needed)
    have same : body.map id = body := by
      cases body with
      | message v => rfl
      | stream items =>
        have each : Except.map (ε := Status) (id : Json → Json) = id := by
          funext item
          cases item <;> rfl
        rw [Body.map, each, List.map_id]
    rw [unchanged, same, ite_self]
    rfl

theorem returns_answered {m : Method} (declared : r.info? m = some d) (skipStreaming : Bool)
    (answer : Except Status Reply) :
    Returns r skipStreaming d answer (answer.map (r.answered skipStreaming m)) := by
  rcases answer with status | ⟨md, body⟩
  · exact .error status
  rw [Except.map, answered_eq declared]
  cases marked : d.usesSensitiveData with
  | false =>
    have unplanned : (r.fullRedaction d).response = none := by simp [fullRedaction, marked]
    rw [redactBody, unplanned]
    exact .unmarked marked _
  | true =>
    have planned : (r.fullRedaction d).response = r.redactor.planned d.output := by
      simp [fullRedaction, marked]
    rw [redactBody_eq planned]
    cases body with
    | message v =>
      rw [Body.isStream, Bool.and_false]
      exact .message marked md v
    | stream items =>
      cases skips : skipStreaming with
      | true => exact .passed rfl md items
      | false => exact .stream marked rfl md (keepsItem_map r d.output items)

end Registry

namespace Pipeline

variable {σ : Type} {p : Pipeline σ} {d : MethodInfo}

/-- What a call says of streaming itself is not asked where its method declares it. -/
theorem withDeclaredStreaming_eq {r : Registry} {call : Call}
    (declared : r.info? call.method = some d) :
    withDeclaredStreaming r call = { call with streaming := d.serverStreaming } := by
  rw [withDeclaredStreaming, declared]

theorem endpoint_streaming {call : Call} (declared : p.registry.info? call.method = some d)
    (flag : Bool) (now : Int) (s : σ) :
    p.endpoint now { call with streaming := flag } s = p.endpoint now call s := by
  have flagged : withDeclaredStreaming p.registry { call with streaming := flag } =
      { call with streaming := d.serverStreaming } := withDeclaredStreaming_eq declared
  unfold endpoint
  rw [flagged, withDeclaredStreaming_eq declared]

theorem runs_streaming {call : Call} (declared : p.registry.info? call.method = some d)
    (flag : Bool) (now : Int) (s : σ) :
    p.runs now { call with streaming := flag } s = p.runs now call s := by
  have recorded : p.recording.registry.info? call.method = some d := declared
  rw [runs, endpoint_streaming recorded, ← runs]

theorem handedFor_payload {call : Call} (declared : p.registry.info? call.method = some d)
    (caller : Option Caller) :
    (p.handedFor caller call).payload =
      if d.usesSensitiveData = true ∧ d.redactRequest = true ∧
          ¬ (p.skipStreaming = true ∧ d.serverStreaming = true) then
        p.registry.redactor.redact d.input call.payload
      else call.payload := by
  let declaredCall : Call := { call with streaming := d.serverStreaming, caller }
  have known : p.registry.info? declaredCall.method = some d := declared
  rw [handedFor, withDeclaredStreaming_eq declared]
  exact Registry.handed_payload known p.skipStreaming

/-- An admitted call runs its handler once, and the caller gets what is left of the answer. -/
theorem ran_of_admits {now : Int} {call : Call} {caller : Option Caller} {handler : Endpoint σ}
    (found : p.router.handler? call.method = some handler)
    (admitted : Admits p.authenticator.verifier p.authenticator.skip p.authenticator.authorizer now
      call.method call.metadata caller) (s : σ) :
    p.runs now call s = [(call.method, p.handedFor caller call)] ∧
      p.endpoint now call s =
        ((handler (p.handedFor caller call) s).1.map
            (p.registry.answered p.skipStreaming call.method),
          (handler (p.handedFor caller call) s).2) := by
  have handed := handed_eq_ok_iff.mpr ⟨caller, admitted, rfl⟩
  have sameMethod := (p.handedFor_fields caller call).1
  constructor
  · rw [runs_of_handed_ok handed, sameMethod, Router.contains, found]
    rfl
  · rw [endpoint_eq, handed]
    simp only [Router.endpoint, sameMethod, found]

theorem refused_or_ran (p : Pipeline σ) (now : Int) (call : Call) (s : σ) :
    (p.runs now call s = [] ∧ ∃ status, p.endpoint now call s = (.error status, s)) ∨
      ∃ caller handler, p.router.handler? call.method = some handler ∧
        p.runs now call s = [(call.method, p.handedFor caller call)] ∧
        p.endpoint now call s =
          ((handler (p.handedFor caller call) s).1.map
              (p.registry.answered p.skipStreaming call.method),
            (handler (p.handedFor caller call) s).2) := by
  by_cases served : ∃ handler caller, p.router.handler? call.method = some handler ∧
      Admits p.authenticator.verifier p.authenticator.skip p.authenticator.authorizer now
        call.method call.metadata caller
  · obtain ⟨handler, caller, found, admitted⟩ := served
    exact .inr ⟨caller, handler, found, ran_of_admits found admitted s⟩
  · apply Or.inl
    apply no_runs_of_not_admits
    intro handler caller found admitted
    exact served ⟨handler, caller, found, admitted⟩

/-- What is known of a pipeline that has been built over accepted declarations. -/
structure Follows (p : Pipeline σ) (c : AuthConfig) (schema : Schema) (registry : Registry)
    (router : Router σ) (services : List (Service σ)) : Prop where
  registry : p.registry = registry
  skipStreaming : p.skipStreaming = c.skipStreaming
  info : ∀ d ∈ schema.methods, p.registry.info? d.method = some d
  routes : ∀ m handler,
    p.router.handler? m = some handler ↔ Router.Registers router services m handler

theorem follows_of_build {files : Files} {c : AuthConfig} {schema : Schema} {registry : Registry}
    {router : Router σ} {services : List (Service σ)}
    (accepted : Registry.ofSchema schema = .ok registry)
    (built : build files c registry router services = .ok p) :
    Follows p c schema registry router services := by
  obtain ⟨v, skip, rules, served, -, -, -, routed, rfl⟩ := build_eq_ok_iff.mp built
  obtain ⟨-, entered, -⟩ := Registry.ofSchema_eq_ok_iff.mp accepted
  refine ⟨rfl, rfl, ?_, Router.handler?_eq_some_iff_registers routed⟩
  rw [← entered]
  exact fun d => Registry.info?_of_mem

/-- Where a handler is run, it gets the request, and the caller its answer, as the method is
declared: requests keep their sensitive fields only if the method does not have them redacted or is
one of the streaming ones that are skipped, single replies if it has none, and streams also if
streaming is skipped. A call cannot declare itself to be a stream. -/
theorem redacts_as_declared {files : Files} {c : AuthConfig} {schema : Schema} {registry : Registry}
    {router : Router σ} {services : List (Service σ)} {p : Pipeline σ} {d : MethodInfo}
    {call : Call} (accepted : Registry.ofSchema schema = .ok registry)
    (built : build files c registry router services = .ok p) (declared : d ∈ schema.methods)
    (calls : call.method = d.method) (now : Int) (s : σ) :
    (∀ m seen, (m, seen) ∈ p.runs now call s →
      m = d.method ∧
      seen.payload =
        (if d.usesSensitiveData = true ∧ d.redactRequest = true ∧
            ¬ (c.skipStreaming = true ∧ d.serverStreaming = true) then
          registry.redactor.redact d.input call.payload
        else call.payload) ∧
      ∃ handler, Router.Registers router services d.method handler ∧
        registry.Returns c.skipStreaming d (handler seen s).1 (p.endpoint now call s).1 ∧
        (p.endpoint now call s).2 = (handler seen s).2) ∧
    ∀ flag, p.runs now { call with streaming := flag } s = p.runs now call s ∧
      p.endpoint now { call with streaming := flag } s = p.endpoint now call s := by
  have follows := follows_of_build accepted built
  have info : p.registry.info? call.method = some d := by
    rw [calls]
    exact follows.info d declared
  rw [← follows.registry, ← follows.skipStreaming]
  refine ⟨fun m seen ran => ?_, fun flag => ⟨?_, ?_⟩⟩
  · rcases refused_or_ran p now call s with ⟨none, -⟩ | ⟨caller, handler, found, once, answer⟩
    · rw [none] at ran
      cases ran
    · rw [once] at ran
      obtain ⟨rfl, rfl⟩ := Prod.mk.inj (List.mem_singleton.mp ran)
      refine ⟨calls, handedFor_payload info caller, handler, ?_, ?_, ?_⟩
      · rw [← calls]
        exact (follows.routes _ _).mp found
      · rw [answer]
        exact Registry.returns_answered info p.skipStreaming _
      · rw [answer]
  · exact runs_streaming info flag now s
  · exact endpoint_streaming info flag now s

namespace Concealed

/-- A method that has its requests redacted too. -/
def info : MethodInfo := ⟨Sample.method, "User", "User", false, true, true, none⟩

def schema : Schema := ⟨[⟨"User", [⟨"id", false, none⟩, ⟨"email", true, none⟩]⟩], [info]⟩

/-- The method asks for no credential. -/
def config : AuthConfig := { AuthConfig.ofSecret "i" "k" with skip := ["a.B/C"] }

/-- Shows its request, beside an email. -/
def handler : Endpoint Unit := fun call s =>
  (.ok (.message (.obj [("seen", call.payload), ("email", .str "e")])), s)

def router : Router Unit := ⟨[(Sample.method, handler)]⟩

/-- A call that takes itself for a stream. -/
def call : Call := ⟨Sample.method, [], none, true, .obj [("id", .int 1), ("email", .str "e")]⟩

end Concealed

theorem sample_emails_kept_back :
    ∃ registry p, Registry.ofSchema Concealed.schema = .ok registry ∧
      build (fun _ => none) Concealed.config registry Concealed.router [] = .ok p ∧
      ∃ seen, p.runs 0 Concealed.call () = [(Sample.method, seen)] ∧
        seen.payload = .obj [("id", .int 1)] ∧
        (p.endpoint 0 Concealed.call ()).1 =
          .ok (.message (.obj [("seen", .obj [("id", .int 1)])])) := by
  let registry : Registry :=
    (Registry.ofRedactor (.compile Concealed.schema.messages)).add Concealed.info List.not_mem_nil
  have accepted : Registry.ofSchema Concealed.schema = .ok registry := by rfl
  obtain ⟨p, built⟩ : ∃ p, build (fun _ => none) Concealed.config registry
      Concealed.router [] = .ok p := ⟨_, rfl⟩
  have calls : Concealed.call.method = Concealed.info.method := rfl
  have law := redacts_as_declared accepted built (.head _) calls 0 ()
  let seen : Call := ⟨Sample.method, [], none, false, .obj [("id", .int 1)]⟩
  have once : p.runs 0 Concealed.call () = [(Sample.method, seen)] := by
    cases built
    rfl
  obtain ⟨-, payload, handler, registers, returns, -⟩ :=
    law.1 Sample.method seen (by simp [once])
  have only : handler = Concealed.handler := by
    rcases registers with found | ⟨_, none, -⟩
    · cases found
      rfl
    · cases none
  subst only
  refine ⟨registry, p, accepted, built, seen, once, payload, ?_⟩
  generalize (p.endpoint 0 Concealed.call ()).1 = answer at returns
  cases returns with
  | unmarked unmarked => cases unmarked
  | message => rfl

end Pipeline
end CallGuard
