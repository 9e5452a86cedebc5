import CallGuard.Proofs.Http
import CallGuard.Proofs.Method.Naming

/-!
What a request asks for: the method in its path, the document in its body, and the one credential
that goes with the call. `serve_of_calls` and the theorems beside it say what becomes of a request
by these three, in the order in which they are looked at.
-/
namespace CallGuard

/-- The two parts of a method, joined as they are in a path, are read as the method. -/
theorem Method.parse_parts (m : Method) : parse (m.service.text ++ "/" ++ m.name) = .ok m := by
  rw [parse_eq_ok_iff, ← text, toList_text]
  have apart := m.service.chars_ne_slash
  cases chars : m.service.text.toList with
  | nil => exact absurd chars m.service.chars_ne_nil
  | cons c cs => exact dropSlash_of_ne (apart c (by simp [chars])) _

namespace Http

/-! ### Bodies -/

/-- Nothing but white space of ASCII. -/
def Blank (body : Bytes) : Prop :=
  ∀ b ∈ body, b = 0x20 ∨ b = 0x09 ∨ b = 0x0a ∨ b = 0x0c ∨ b = 0x0d

/-- The document in a body. -/
inductive Holds (body : Bytes) : Json → Prop
  | blank (white : Blank body) : Holds body (.obj [])
  | document {v : Json} (read : Json.read body = .ok v) : Holds body v

theorem all_white_iff {body : Bytes} :
    (body.all fun b => Ascii.isSpace b || b == Ascii.formFeed) = true ↔ Blank body := by
  simp only [Blank, Ascii.isSpace, Ascii.space, Ascii.tab, Ascii.lineFeed, Ascii.formFeed,
    Ascii.carriageReturn, List.all_eq_true, Bool.or_eq_true, beq_iff_eq]
  grind

theorem mem_and_not_isSpace_of_skipSpace {bs rest : Bytes} {b : UInt8}
    (h : Json.skipSpace bs = b :: rest) : b ∈ bs ∧ Ascii.isSpace b = false := by
  unfold Json.skipSpace at h
  constructor
  · exact (List.dropWhile_sublist Ascii.isSpace).mem (h ▸ List.mem_cons_self)
  · have first := List.head_dropWhile_not Ascii.isSpace (l := bs) (by simp [h])
    simpa [h] using first

/-- A form feed is white in a body, but to the reader of documents it is a fault like any other byte
that starts no value. -/
theorem read_ne_ok_of_blank {body : Bytes} (white : Blank body) (v : Json) :
    Json.read body ≠ .ok v := by
  have unread : ∃ f, Json.scanValue (Json.readFuel body) Json.depthLimit body = .error f := by
    rw [Json.readFuel, Json.scanValue]
    cases skipped : Json.skipSpace body with
    | nil => exact ⟨_, rfl⟩
    | cons b rest =>
      obtain ⟨member, solid⟩ := mem_and_not_isSpace_of_skipSpace skipped
      obtain rfl : b = Ascii.formFeed := by
        rcases white b member with rfl | rfl | rfl | rfl | rfl
        all_goals first | rfl | exact absurd solid (by decide)
      exact ⟨_, rfl⟩
  obtain ⟨f, unread⟩ := unread
  simp [Json.read, Json.runScan, unread, Except.map]

theorem payload_eq_ok_iff {body : Bytes} {v : Json} : payload body = .ok v ↔ Holds body v := by
  unfold payload
  split
  · rename_i white
    have white := all_white_iff.mp white
    constructor
    · rintro ⟨⟩
      exact .blank white
    · intro holds
      cases holds with
      | blank => rfl
      | document read => exact absurd read (read_ne_ok_of_blank white v)
  · rename_i dark
    rw [Except.mapError_eq_ok_iff]
    constructor
    · exact .document
    · intro holds
      cases holds with
      | blank white => exact absurd (all_white_iff.mpr white) dark
      | document read => exact read

/-- A body that holds nothing is the fault of the request. -/
theorem payload_of_not_holds {body : Bytes} (h : ∀ v, ¬ Holds body v) :
    ∃ message, payload body = .error ⟨.invalidArgument, message⟩ := by
  cases read : payload body with
  | ok v => exact absurd (payload_eq_ok_iff.mp read) (h v)
  | error status =>
    unfold payload at read
    split at read
    · cases read
    · obtain ⟨e, -, rfl⟩ := Except.mapError_eq_error_iff.mp read
      exact ⟨_, rfl⟩

/-! ### Calls -/

/-- The service and the method that a request is posted to. -/
structure Posted (r : Request) (service name : String) : Prop where
  verb : r.verb = "POST"
  path : segments? r.target = some (service, name)

/-- What goes with the call: the first credential, if it can. -/
def passedOn (headers : Metadata) : Except Status Metadata :=
  match headers.get? Bearer.header with
  | none => .ok []
  | some value =>
    match Metadata.value? value with
    | some value => .ok [(Bearer.header, value)]
    | none => .error .invalidCredential

theorem passedOn_of_none {headers : Metadata} (bare : headers.get? Bearer.header = none) :
    passedOn headers = .ok [] := by
  rw [passedOn, bare]

theorem passedOn_of_some {headers : Metadata} {value : Bytes}
    (found : headers.get? Bearer.header = some value)
    (allowed : value.all Metadata.isValueByte = true) :
    passedOn headers = .ok [(Bearer.header, value)] := by
  simp [passedOn, found, Metadata.value?, allowed]

theorem passedOn_of_not_allowed {headers : Metadata} {value : Bytes}
    (found : headers.get? Bearer.header = some value)
    (unfit : value.all Metadata.isValueByte = false) :
    passedOn headers = .error .invalidCredential := by
  simp [passedOn, found, Metadata.value?, unfit]

theorem call_of_named {service name : String} {r : Request} {m : Method} {v : Json}
    (named : Method.parse (service ++ "/" ++ name) = .ok m) (holds : Holds r.body v) :
    call service name r = (passedOn r.headers).map fun md => ⟨m, md, none, false, v⟩ := by
  have read := payload_eq_ok_iff.mpr holds
  unfold call passedOn
  simp only [named, read, Except.mapError, bind, Except.bind, pure, Except.pure]
  cases r.headers.get? Bearer.header with
  | none => rfl
  | some value => cases fit : Metadata.value? value <;> simp [fit, Except.map]

theorem call_of_unnamed {service name : String} (r : Request)
    (unnamed : ∀ m, Method.parse (service ++ "/" ++ name) ≠ .ok m) :
    call service name r = .error .unknownMethod := by
  unfold call
  cases named : Method.parse (service ++ "/" ++ name) with
  | ok m => exact absurd named (unnamed m)
  | error e => rfl

theorem call_of_not_holds {service name : String} {r : Request} {m : Method}
    (named : Method.parse (service ++ "/" ++ name) = .ok m) (h : ∀ v, ¬ Holds r.body v) :
    ∃ message, call service name r = .error ⟨.invalidArgument, message⟩ := by
  obtain ⟨message, unread⟩ := payload_of_not_holds h
  refine ⟨message, ?_⟩
  unfold call
  simp only [named, unread, Except.mapError, bind, Except.bind]

/-! ### Answers -/

section

variable {σ : Type} {r : Request} {service name : String}

theorem serve_of_call_error {status : Status} (posted : Posted r service name)
    (refused : call service name r = .error status) (endpoint : Endpoint σ) (s : σ) :
    serve endpoint r s = (respond (.error status), s) := by
  simp [serve, posted.verb, posted.path, refused]

theorem serve_of_call_ok {made : Call} (posted : Posted r service name)
    (h : call service name r = .ok made) (endpoint : Endpoint σ) (s : σ) :
    serve endpoint r s = (respond (endpoint made s).1, (endpoint made s).2) := by
  simp [serve, posted.verb, posted.path, h]

/-- A request that names a method and holds a document is a call of it, or is turned away for a
credential that no call can carry. -/
theorem serve_of_calls {m : Method} {v : Json} (posted : Posted r service name)
    (named : Method.parse (service ++ "/" ++ name) = .ok m) (holds : Holds r.body v)
    (endpoint : Endpoint σ) (s : σ) :
    serve endpoint r s =
      match passedOn r.headers with
      | .ok md =>
        (respond (endpoint ⟨m, md, none, false, v⟩ s).1, (endpoint ⟨m, md, none, false, v⟩ s).2)
      | .error status => (respond (.error status), s) := by
  have made := call_of_named named holds
  cases passed : passedOn r.headers with
  | ok md => exact serve_of_call_ok posted (by rw [made, passed]; rfl) endpoint s
  | error status => exact serve_of_call_error posted (by rw [made, passed]; rfl) endpoint s

end

end Http
end CallGuard
