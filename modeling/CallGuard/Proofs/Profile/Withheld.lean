import CallGuard.Proofs.Pipeline.Concealment
import CallGuard.Proofs.Profile.Effect
import CallGuard.Proofs.Reading
import CallGuard.Proofs.Schema.Exposure

/-!
Updates under declarations that keep a field of the request from its handler. An update that is
written as an object does not set the field, since redaction removes it by its name. Requests are
also read off lists, whose items have no names, and so a list sets the field all the same.
-/
namespace CallGuard

namespace Redactor

variable {r : Redactor} {message : String}

theorem redact_arr (items : List Json) : r.redact message (.arr items) = .arr items :=
  walk_of_not_obj r message (by simp)

/-- Nothing but a list is left as a list. -/
theorem eq_arr_of_redact {v : Json} {items : List Json}
    (redacted : r.redact message v = .arr items) : v = .arr items := by
  by_cases object : ∃ members, v = .obj members
  · obtain ⟨members, rfl⟩ := object
    unfold redact walk at redacted
    split at redacted <;> cases redacted
  · rwa [redact, walk_of_not_obj r message (not_exists.mp object)] at redacted

end Redactor

namespace Profile

/-! ### Fields of an update -/

/-- The fields that an update may set. -/
inductive Part where
  | name
  | email
  | address

namespace Part

/-- What it is called in a request. -/
def text : Part → String
  | name => "name"
  | email => "email"
  | address => "address"

/-- Where it stands in a request that is a list. -/
def index : Part → Nat
  | name => 0
  | email => 1
  | address => 2

abbrev Value : Part → Type
  | name => String
  | email => String
  | address => Address

def read : (x : Part) → Json → Except Mismatch (Option x.Value)
  | name => Reading.optional Form.text
  | email => Reading.optional Form.text
  | address => Reading.optional Address.read

/-- What is read if it may not be there. -/
def given (x : Part) (v : Option Json) : Except Mismatch (Option x.Value) :=
  v.elim (.ok none) x.read

end Part

def Update.part (u : Update) : (x : Part) → Option x.Value
  | .name => u.name
  | .email => u.email
  | .address => u.address

def part (p : Profile) : (x : Part) → Option x.Value
  | .name => p.name
  | .email => p.email
  | .address => p.address

theorem part_apply (u : Update) (p : Profile) (x : Part) :
    (apply u p).part x = (u.part x).or (p.part x) := by
  cases x <;> rfl

theorem part_blank (subject : String) (x : Part) : (blank subject).part x = none := by
  cases x <;> rfl

/-- An update that is an object has each part from the member of its name. -/
theorem Update.given_of_read_obj {members : List (String × Json)} {u : Update}
    (read : Update.read (Json.obj members) = .ok u) (x : Part) :
    x.given ((members.find? (·.1 == x.text)).map (·.2)) = .ok (u.part x) := by
  obtain ⟨_, address, two, third, rfl⟩ := Record.named_seq.mp (Record.named_of_read read)
  obtain ⟨_, email, one, second, rfl⟩ := Record.named_seq.mp two
  obtain ⟨_, name, made, first, rfl⟩ := Record.named_seq.mp one
  cases made
  cases x with
  | name => exact first
  | email => exact second
  | address => exact third

/-- An update that is a list has each part from the item in its place. -/
theorem Update.given_of_read_arr {items : List Json} {u : Update}
    (read : Update.read (Json.arr items) = .ok u) (x : Part) :
    x.given items[x.index]? = .ok (u.part x) := by
  obtain ⟨short, _, three⟩ := Record.listed_of_read read
  obtain ⟨_, address, _, two, third, rfl⟩ := Record.listed_seq.mp three
  obtain ⟨_, email, _, one, second, rfl⟩ := Record.listed_seq.mp two
  obtain ⟨_, name, _, made, first, rfl⟩ := Record.listed_seq.mp one
  cases made
  obtain ⟨item₀, rfl⟩ := Record.listed_defaulted.mp first
  obtain ⟨item₁, rfl⟩ := Record.listed_defaulted.mp second
  obtain ⟨item₂, -⟩ := Record.listed_defaulted.mp third
  cases x with
  | name => rwa [List.head?_eq_getElem?] at item₀
  | email => rwa [List.head?_tail] at item₁
  | address => rwa [List.head?_tail, List.getElem?_tail] at item₂

/-- Only objects and lists are read as updates. -/
theorem Update.obj_or_arr_of_read {v : Json} {u : Update} (read : Update.read v = .ok u) :
    (∃ members, v = .obj members) ∨ ∃ items, v = .arr items := by
  cases v with
  | obj members => exact .inl ⟨members, rfl⟩
  | arr items => exact .inr ⟨items, rfl⟩
  | null | bool | int | float | str => cases read

/-- Redaction takes a sensitive field out of every update but those that are lists. -/
theorem Update.part_of_redacted {schema : Schema} {registry : Registry} {m : Message} {f : Field}
    {x : Part} (accepted : Registry.ofSchema schema = .ok registry) (typed : m ∈ schema.messages)
    (listed : f ∈ m.fields) (named : f.name = x.text) (sensitive : f.sensitive = true)
    {payload : Json} (whole : ∀ items, payload ≠ .arr items) {u : Update}
    (read : Update.read (registry.redactor.redact m.name payload) = .ok u) : u.part x = none := by
  have hidden := Registry.not_exposes_redact accepted m.name payload
  rcases Update.obj_or_arr_of_read read with ⟨kept, redacted⟩ | ⟨items, redacted⟩
  · rw [redacted] at read hidden
    have absent : kept.find? (·.1 == x.text) = none := by
      rw [List.find?_eq_none]
      rintro ⟨name, v⟩ member same
      obtain rfl : name = f.name := by simpa [named] using same
      exact hidden (.here typed listed sensitive member)
    have given := Update.given_of_read_obj read x
    rw [absent] at given
    exact (Except.ok.inj given).symm
  · exact absurd (Redactor.eq_arr_of_redact redacted) (whole items)

/-! ### The store -/

/-- An update that does not give a part changes nobody's. -/
theorem Store.part_put_updated {s : Store} {u : Update} {x : Part} (unset : u.part x = none)
    (subject k : String) :
    (get? ⟨put subject (s.updated subject u) s.entries⟩ k).bind (·.part x) =
      (s.get? k).bind (·.part x) := by
  rw [get?_put]
  by_cases own : k = subject
  · subst own
    rw [if_pos rfl, Option.bind_some, updated, part_apply, unset, Option.none_or]
    cases s.get? k with
    | none => exact part_blank k x
    | some p => rfl
  · rw [if_neg own]

namespace Service

theorem Effect.part_eq {caller : Option Caller} {payload : Json} {s : Store}
    {outcome : Except Status Reply × Store} (effect : Effect updateProfile caller payload s outcome)
    {x : Part} (unset : ∀ u, Update.read payload = .ok u → u.part x = none) (k : String) :
    (outcome.2.get? k).bind (·.part x) = (s.get? k).bind (·.part x) := by
  cases effect with
  | refused => rfl
  | shown reads => exact absurd rfl reads
  | updated _ _ given => exact Store.part_put_updated (unset _ given) _ k
  | deleted deletes => exact absurd deletes (by decide)

/-- The method is declared to be the one that updates profiles, with a part of its requests that is
to be kept from its handler. -/
structure Withholds (schema : Schema) (d : MethodInfo) (x : Part) : Prop where
  declared : d ∈ schema.methods
  updates : Method.parse updateProfile = .ok d.method
  unary : d.serverStreaming = false
  marked : d.usesSensitiveData = true
  redacts : d.redactRequest = true
  sensitive : ∃ m ∈ schema.messages, m.name = d.input ∧
    ∃ f ∈ m.fields, f.name = x.text ∧ f.sensitive = true

namespace Withholds

variable {c : AuthConfig} {schema : Schema} {registry : Registry} {router : Router Store}
  {services : List (Pipeline.Service Store)} {p : Pipeline Store} {d : MethodInfo} {x : Part}
  {call : Call}

theorem handed_payload (withholds : Withholds schema d x)
    (follows : p.Follows c schema registry router services) (calls : call.method = d.method)
    (caller : Option Caller) :
    (p.handedFor caller call).payload = registry.redactor.redact d.input call.payload := by
  have info : p.registry.info? call.method = some d := by
    rw [calls]
    exact follows.info d withholds.declared
  have whole : ¬ (p.skipStreaming = true ∧ d.serverStreaming = true) := by
    simp [withholds.unary]
  rw [Pipeline.handedFor_payload info, if_pos ⟨withholds.marked, withholds.redacts, whole⟩,
    follows.registry]

theorem part_unset (withholds : Withholds schema d x)
    (accepted : Registry.ofSchema schema = .ok registry) {payload : Json}
    (whole : ∀ items, payload ≠ .arr items) {u : Update}
    (read : Update.read (registry.redactor.redact d.input payload) = .ok u) :
    u.part x = none := by
  obtain ⟨m, typed, input, f, listed, named, sensitive⟩ := withholds.sensitive
  rw [← input] at read
  exact Update.part_of_redacted accepted typed listed named sensitive whole read

/-- No other handler than the service's own is there for the method. -/
theorem handler?_eq (withholds : Withholds schema d x)
    (follows : p.Follows c schema registry router services) (served : handlers ∈ services) :
    p.router.handler? d.method = some (.unary Update.read (some ∘ toJson) update) := by
  rw [follows.routes]
  exact .inr ⟨handlers, served, updateProfile, .tail _ (.head _), withholds.updates⟩

end Withholds

/-- Where the declarations keep a part of an update from its handler, the handler is given it by
lists only: of these it gets every item. All other updates are without it, and leave that part of
every profile as it was. -/
theorem withheld_part_set_by_lists_only {files : Files} {c : AuthConfig} {schema : Schema}
    {registry : Registry} {router : Router Store} {services : List (Pipeline.Service Store)}
    {p : Pipeline Store} {d : MethodInfo} {x : Part} {call : Call}
    (accepted : Registry.ofSchema schema = .ok registry)
    (built : Pipeline.build files c registry router services = .ok p)
    (served : handlers ∈ services) (withholds : Withholds schema d x)
    (calls : call.method = d.method) (now : Int) (s : Store) :
    ((∀ items, call.payload ≠ .arr items) →
      (∀ m seen u, (m, seen) ∈ p.runs now call s → Update.read seen.payload = .ok u →
        u.part x = none) ∧
      ∀ k, ((p.endpoint now call s).2.get? k).bind (·.part x) = (s.get? k).bind (·.part x)) ∧
    ∀ items, call.payload = .arr items →
      ∀ m seen u, (m, seen) ∈ p.runs now call s → Update.read seen.payload = .ok u →
        x.given items[x.index]? = .ok (u.part x) := by
  have follows := Pipeline.follows_of_build accepted built
  have payload := withholds.handed_payload follows calls
  rcases Pipeline.refused_or_ran p now call s with
    ⟨nothing, status, refused⟩ | ⟨caller, handler, found, once, answer⟩
  · rw [nothing, refused]
    simp
  · have own : handler = .unary Update.read (some ∘ toJson) update := by
      rw [calls, withholds.handler?_eq follows served] at found
      exact (Option.some.inj found).symm
    subst own
    rw [once]
    refine ⟨fun whole => ⟨fun m seen u ran read => ?_, fun k => ?_⟩,
      fun items list m seen u ran read => ?_⟩
    · cases List.mem_singleton.mp ran
      rw [payload] at read
      exact withholds.part_unset accepted whole read
    · have effect : Effect updateProfile (p.handedFor caller call).caller _ s _ :=
        effect_of_route (.tail _ (.head _)) (p.handedFor caller call)
      rw [payload] at effect
      rw [answer]
      exact effect.part_eq (fun u read => withholds.part_unset accepted whole read) k
    · cases List.mem_singleton.mp ran
      rw [payload, list, Redactor.redact_arr] at read
      exact Update.given_of_read_arr read x

namespace Withheld

/-- Updates whose name the handler is not to be given. -/
def info : MethodInfo :=
  ⟨Sample.updateMethod, "UpdateProfileRequest", "Profile", false, true, true,
    some .authenticated⟩

def schema : Schema :=
  ⟨[⟨"UpdateProfileRequest", [sensitive "name", plain "email"]⟩, ⟨"Profile", []⟩], [info]⟩

def registry : Registry :=
  (Registry.ofRedactor (.compile schema.messages)).add info List.not_mem_nil

theorem accepted : Registry.ofSchema schema = .ok registry := by rfl

theorem withholds : Withholds schema info .name where
  declared := .head _
  updates := rfl
  unary := rfl
  marked := rfl
  redacts := rfl
  sensitive := ⟨_, .head _, rfl, _, .head _, rfl, rfl⟩

theorem exists_pipeline :
    ∃ p, Pipeline.build (fun _ => none) Sample.config registry .empty [handlers] = .ok p := by
  obtain ⟨served, routed⟩ := exists_routes
  exact ⟨_, Pipeline.build_eq_ok_iff.mpr ⟨_, _, _, served, rfl, rfl, rfl, routed, rfl⟩⟩

/-- The token's caller gets to update its profile. -/
theorem updated {p : Pipeline Store}
    (built : Pipeline.build (fun _ => none) Sample.config registry .empty [handlers] = .ok p)
    (payload : Json) (s : Store) :
    ∃ seen : Call, seen.caller = some Pipeline.Sample.caller ∧
      seen.payload = registry.redactor.redact info.input payload ∧
      p.runs 8 (Sample.call Sample.updateMethod payload) s = [(Sample.updateMethod, seen)] ∧
      (p.endpoint 8 (Sample.call Sample.updateMethod payload) s).2 =
        (Endpoint.unary Update.read (some ∘ toJson) update seen s).2 := by
  let call := Sample.call Sample.updateMethod payload
  have follows := Pipeline.follows_of_build accepted built
  have found : p.router.handler? call.method = _ :=
    withholds.handler?_eq follows (List.mem_singleton_self handlers)
  have admitted : Admits p.authenticator.verifier p.authenticator.skip p.authenticator.authorizer 8
      call.method call.metadata (some Pipeline.Sample.caller) := by
    obtain ⟨v, skip, rules, served, hv, hs, hr, -, rfl⟩ := Pipeline.build_eq_ok_iff.mp built
    cases hv
    cases hs
    cases hr
    exact .verified rfl Pipeline.Sample.token_carried Pipeline.Sample.token_accepted rfl
  obtain ⟨once, answer⟩ := Pipeline.ran_of_admits found admitted s
  refine ⟨_, (p.handedFor_fields _ call).2.2, withholds.handed_payload follows rfl _, once, ?_⟩
  rw [answer]

/-- Asks for a new name and a new email. -/
def members : List (String × Json) := [("name", .str "n"), ("email", .str "n@b")]

end Withheld

theorem sample_name_withheld :
    ∃ p, Pipeline.build (fun _ => none) Sample.config Withheld.registry .empty [handlers] = .ok p ∧
      let call := Sample.call Sample.updateMethod (.obj Withheld.members)
      ∃ seen u, p.runs 8 call .empty = [(Sample.updateMethod, seen)] ∧
        Update.read seen.payload = .ok u ∧ u.part .name = none ∧ u.part .email = some "n@b" ∧
        ((p.endpoint 8 call .empty).2.get? "u").bind (·.part .name) = none := by
  obtain ⟨p, built⟩ := Withheld.exists_pipeline
  obtain ⟨seen, -, payload, once, -⟩ := Withheld.updated built (.obj Withheld.members) .empty
  have read : Update.read seen.payload = .ok ⟨none, some "n@b", none⟩ := by
    rw [payload]
    rfl
  have law := withheld_part_set_by_lists_only Withheld.accepted built
    (List.mem_singleton_self handlers) Withheld.withholds
    (show (Sample.call Sample.updateMethod (.obj Withheld.members)).method = _ from rfl) 8 .empty
  obtain ⟨unset, unchanged⟩ := law.1 (by simp [Sample.call])
  refine ⟨p, built, seen, _, once, read, ?_, rfl, unchanged "u"⟩
  exact unset Sample.updateMethod seen _ (by simp [once]) read

/-- The name gets to the handler, and into the profile, in an update that is a list. -/
theorem lists_set_withheld_name :
    ∃ p, Pipeline.build (fun _ => none) Sample.config Withheld.registry .empty [handlers] = .ok p ∧
      Withholds Withheld.schema Withheld.info .name ∧
      let call := Sample.call Sample.updateMethod (.arr [.str "n"])
      ∃ seen u, p.runs 8 call .empty = [(Sample.updateMethod, seen)] ∧
        Update.read seen.payload = .ok u ∧ u.part .name = some "n" ∧
        ((p.endpoint 8 call .empty).2.get? "u").bind (·.part .name) = some "n" := by
  obtain ⟨p, built⟩ := Withheld.exists_pipeline
  obtain ⟨seen, known, payload, once, changed⟩ := Withheld.updated built (.arr [.str "n"]) .empty
  rw [Redactor.redact_arr] at payload
  have read : Update.read seen.payload = .ok ⟨some "n", none, none⟩ := by
    rw [payload]
    rfl
  refine ⟨p, built, Withheld.withholds, seen, _, once, read, rfl, ?_⟩
  rw [changed, Endpoint.unary, payload, known]
  rfl

end Service
end Profile
end CallGuard
