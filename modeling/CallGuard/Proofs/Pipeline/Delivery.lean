import CallGuard.Proofs.Pipeline.Concealment
import CallGuard.Proofs.Schema.Exposure

/-!
What callers are delivered of a method with sensitive data: nothing sensitive, unless streams are
skipped and the handler answers with one. That the method is declared to have a single reply does
not keep the stream back.
-/
namespace CallGuard

/-- The messages of a body, without its errors. -/
def Body.messages : Body → List Json
  | message v => [v]
  | stream items => items.filterMap Except.toOption

namespace Registry

variable {r : Registry} {d : MethodInfo} {skipStreaming : Bool} {own reply : Reply}

theorem messages_of_keepsItem {message : String} {items kept : List (Except Status Json)}
    (each : List.Forall₂ (KeepsItem r message) items kept) :
    kept.filterMap Except.toOption =
      (items.filterMap Except.toOption).map (r.redactor.redact message) := by
  induction each with
  | nil => rfl
  | cons first _ ih =>
    cases first with
    | error status => exact ih
    | value v => exact congrArg (r.redactor.redact message v :: ·) ih

theorem Returns.messages_eq (h : r.Returns skipStreaming d (.ok own) (.ok reply))
    (marked : d.usesSensitiveData = true)
    (whole : ¬ (skipStreaming = true ∧ own.body.isStream = true)) :
    reply.body.messages = own.body.messages.map (r.redactor.redact d.output) := by
  cases h with
  | unmarked unmarked =>
    rw [marked] at unmarked
    cases unmarked
  | message => rfl
  | stream _ _ _ each => exact messages_of_keepsItem each
  | passed skips => exact absurd ⟨skips, rfl⟩ whole

theorem Returns.eq_of_skipped (h : r.Returns skipStreaming d (.ok own) (.ok reply))
    (skips : skipStreaming = true) (streams : own.body.isStream = true) : reply = own := by
  cases h with
  | unmarked | passed => rfl
  | message => cases streams
  | stream _ every =>
    rw [skips] at every
    cases every

end Registry

namespace Pipeline

variable {σ : Type}

/-- Whatever a method with sensitive data declares of streaming, each message that its callers get
is what redaction leaves of one of the handler's, and has no sensitive field left, unless streaming
is skipped and the handler answers with a stream: of that nothing is taken. -/
theorem delivers_redacted_unless_streamed {files : Files} {c : AuthConfig} {schema : Schema}
    {registry : Registry} {router : Router σ} {services : List (Service σ)} {p : Pipeline σ}
    {d : MethodInfo} {call : Call} {reply : Reply}
    (accepted : Registry.ofSchema schema = .ok registry)
    (built : build files c registry router services = .ok p) (declared : d ∈ schema.methods)
    (marked : d.usesSensitiveData = true) (calls : call.method = d.method) (now : Int) (s : σ)
    (answered : (p.endpoint now call s).1 = .ok reply) :
    ∃ handler seen own, Router.Registers router services d.method handler ∧
      p.runs now call s = [(d.method, seen)] ∧ (handler seen s).1 = .ok own ∧
      (¬ (c.skipStreaming = true ∧ own.body.isStream = true) →
        reply.body.messages = own.body.messages.map (registry.redactor.redact d.output) ∧
        ∀ v ∈ reply.body.messages, ¬ schema.Exposes d.output v) ∧
      (c.skipStreaming = true → own.body.isStream = true → reply = own) := by
  have follows := follows_of_build accepted built
  have info : p.registry.info? d.method = some d := follows.info d declared
  rcases refused_or_ran p now call s with
    ⟨-, _, refused⟩ | ⟨caller, handler, found, once, answer⟩
  · rw [refused] at answered
    cases answered
  · rw [answer] at answered
    obtain ⟨own, owned, shown⟩ := Except.map_eq_ok_iff.mp answered
    rw [calls] at found once shown
    have returns := Registry.returns_answered info p.skipStreaming (.ok own)
    rw [Except.map, shown, follows.registry, follows.skipStreaming] at returns
    refine ⟨handler, _, own, ?_, once, owned, fun whole => ?_, returns.eq_of_skipped⟩
    · exact (follows.routes _ _).mp found
    · have redacted := returns.messages_eq marked whole
      refine ⟨redacted, fun w delivered => ?_⟩
      rw [redacted] at delivered
      obtain ⟨v, -, rfl⟩ := List.mem_map.mp delivered
      exact Registry.not_exposes_redact accepted d.output v

namespace Streamed

/-- A method of one reply, with an email in it. -/
def info : MethodInfo := ⟨Sample.method, "User", "User", false, true, false, none⟩

def schema : Schema := ⟨[⟨"User", [⟨"id", false, none⟩, ⟨"email", true, none⟩]⟩], [info]⟩

def registry : Registry :=
  (Registry.ofRedactor (.compile schema.messages)).add info List.not_mem_nil

theorem accepted : Registry.ofSchema schema = .ok registry := by rfl

def user : Json := .obj [("id", .int 1), ("email", .str "e")]

/-- Answers with a stream all the same. -/
def handler : Endpoint Unit := fun _ s => (.ok (.stream [.ok user]), s)

def router : Router Unit := ⟨[(Sample.method, handler)]⟩

/-- The method asks for no credential. -/
def config (skipStreaming : Bool) : AuthConfig :=
  { AuthConfig.ofSecret "i" "k" with skip := ["a.B/C"], skipStreaming }

def call : Call := ⟨Sample.method, [], none, false, .null⟩

theorem redact_user : registry.redactor.redact info.output user = .obj [("id", .int 1)] := by rfl

theorem exposes_user : schema.Exposes info.output user := by
  have sensitive : (⟨"email", true, none⟩ : Field) ∈ [⟨"id", false, none⟩, ⟨"email", true, none⟩] :=
    .tail _ (.head _)
  exact .here (m := ⟨"User", _⟩) (.head _) sensitive rfl (.tail _ (.head _))

end Streamed

theorem sample_stream_redacted :
    ∃ p,
      build (fun _ => none) (Streamed.config false) Streamed.registry Streamed.router [] = .ok p ∧
      ∃ reply, (p.endpoint 0 Streamed.call ()).1 = .ok reply ∧
        reply.body.messages = [.obj [("id", .int 1)]] ∧
        ¬ Streamed.schema.Exposes "User" (.obj [("id", .int 1)]) := by
  obtain ⟨p, built⟩ : ∃ p, build (fun _ => none) (Streamed.config false) Streamed.registry
      Streamed.router [] = .ok p := ⟨_, rfl⟩
  obtain ⟨reply, answered⟩ : ∃ reply, (p.endpoint 0 Streamed.call ()).1 = .ok reply := by
    cases built
    exact ⟨_, rfl⟩
  obtain ⟨handler, seen, own, registers, -, owned, whole, -⟩ :=
    delivers_redacted_unless_streamed Streamed.accepted built (.head _) rfl rfl 0 () answered
  obtain ⟨redacted, clean⟩ := whole (by simp [Streamed.config])
  have messages : own.body.messages = [Streamed.user] := by
    rcases registers with found | ⟨_, none, -⟩
    · cases found
      cases owned
      rfl
    · cases none
  rw [messages, List.map_singleton, Streamed.redact_user] at redacted
  refine ⟨p, built, reply, answered, redacted, clean _ ?_⟩
  rw [redacted]
  exact List.mem_singleton_self _

/-- A stream for a method that is declared to have a single reply gets through as it is, email and
all, where streaming is skipped. -/
theorem streams_escape_declaration :
    ∃ p,
      build (fun _ => none) (Streamed.config true) Streamed.registry Streamed.router [] = .ok p ∧
      Streamed.info ∈ Streamed.schema.methods ∧ Streamed.info.serverStreaming = false ∧
      Streamed.info.usesSensitiveData = true ∧
      (p.endpoint 0 Streamed.call ()).1 = .ok (.stream [.ok Streamed.user]) ∧
      Streamed.registry.redactor.redact Streamed.info.output Streamed.user ≠ Streamed.user ∧
      Streamed.schema.Exposes Streamed.info.output Streamed.user := by
  obtain ⟨p, built⟩ : ∃ p, build (fun _ => none) (Streamed.config true) Streamed.registry
      Streamed.router [] = .ok p := ⟨_, rfl⟩
  have escaped : (p.endpoint 0 Streamed.call ()).1 = .ok (.stream [.ok Streamed.user]) := by
    cases built
    rfl
  have changed :
      Streamed.registry.redactor.redact Streamed.info.output Streamed.user ≠ Streamed.user := by
    intro same
    have shorter := Streamed.redact_user.symm.trans same
    simp [Streamed.user] at shorter
  exact ⟨p, built, .head _, rfl, rfl, escaped, changed, Streamed.exposes_user⟩

end Pipeline
end CallGuard
