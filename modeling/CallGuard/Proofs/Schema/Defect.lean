import CallGuard.Proofs.Except
import CallGuard.Proofs.Schema.Valid

/-!
What is wrong with declarations that are refused, and what the registry knows of those that are
accepted. Of several defects the first one is reported: names of messages and fields come before
the types of fields, and these before methods.
-/
namespace CallGuard

/-! ### Defects -/

/-- A field without a name, or with that of a field before it. -/
inductive Message.FieldDefect (m : Message) (passed : List Field) (f : Field) : ConfigError → Prop
  | unnamed (blank : Text.isBlankText f.name = true) :
      FieldDefect m passed f (.emptyFieldName m.name)
  | again (named : Text.isBlankText f.name = false) (same : ∃ g ∈ passed, g.name = f.name) :
      FieldDefect m passed f (.duplicateField m.name f.name)

/-- A message with the name of one before it, or else the first defect of its fields. -/
inductive Message.NameDefect (passed : List Message) (m : Message) : ConfigError → Prop
  | again (same : ∃ n ∈ passed, n.name = m.name) : NameDefect passed m (.duplicateMessage m.name)
  | field {e : ConfigError} (fresh : ¬ ∃ n ∈ passed, n.name = m.name)
      (first : List.FirstFound m.FieldDefect [] m.fields e) : NameDefect passed m e

/-- A field for messages that are not declared. -/
inductive Message.TypeDefect (s : Schema) (m : Message) (f : Field) : ConfigError → Prop
  | undeclared {t : String} (typed : f.message = some t) (unknown : s.declares t = false) :
      TypeDefect s m f (.unknownFieldType m.name f.name t)

/-- A method with a request or a reply that is not declared, or that is declared before. -/
inductive MethodInfo.Defect (s : Schema) (passed : List MethodInfo) (d : MethodInfo) :
    ConfigError → Prop
  | input (unknown : s.declares d.input = false) :
      Defect s passed d (.unknownMessage d.method d.input)
  | output (known : s.declares d.input = true) (unknown : s.declares d.output = false) :
      Defect s passed d (.unknownMessage d.method d.output)
  | again (input : s.declares d.input = true) (output : s.declares d.output = true)
      (same : ∃ e ∈ passed, e.method = d.method) : Defect s passed d (.duplicateMethod d.method)

namespace Schema

def NameDefect (s : Schema) : ConfigError → Prop := List.FirstFound Message.NameDefect [] s.messages

def TypeDefect (s : Schema) : ConfigError → Prop :=
  List.FirstFound (fun _ m => List.FirstFound (fun _ => m.TypeDefect s) [] m.fields) [] s.messages

def MethodDefect (s : Schema) : ConfigError → Prop :=
  List.FirstFound (MethodInfo.Defect s) [] s.methods

/-- The first defect of the declarations. -/
inductive FirstDefect (s : Schema) : ConfigError → Prop
  | name {e : ConfigError} (first : s.NameDefect e) : FirstDefect s e
  | type {e : ConfigError} (named : ¬ ∃ e, s.NameDefect e) (first : s.TypeDefect e) :
      FirstDefect s e
  | method {e : ConfigError} (named : ¬ ∃ e, s.NameDefect e) (typed : ¬ ∃ e, s.TypeDefect e)
      (first : s.MethodDefect e) : FirstDefect s e

end Schema

/-! ### What is reported -/

theorem contains_passed_iff {α γ : Type} [BEq γ] [LawfulBEq γ] {key : α → γ} {passed : List α}
    {k : γ} : (passed.map key).reverse.contains k = true ↔ ∃ x ∈ passed, key x = k := by
  simp

namespace Message

theorem fieldFault?_eq_some_iff {m : Message} {e : ConfigError} :
    m.fieldFault? [] m.fields = some e ↔ List.FirstFound m.FieldDefect [] m.fields e := by
  refine List.scan_eq_some_iff Field.name
    (fun seen f =>
      if Text.isBlankText f.name then some (.emptyFieldName m.name)
      else if seen.contains f.name then some (.duplicateField m.name f.name) else none)
    (fun _ => rfl) (fun seen f rest => ?_) (fun passed f e => ?_)
  · rw [fieldFault?]
    repeat' split
    all_goals rfl
  · constructor
    · intro h
      split at h
      · rename_i blank
        cases h
        exact .unnamed blank
      · rename_i named
        split at h
        · rename_i again
          cases h
          exact .again (by simpa using named) (contains_passed_iff.mp again)
        · cases h
    · intro defect
      cases defect with
      | unnamed blank => rw [if_pos blank]
      | again named same => rw [if_neg (by simp [named]), if_pos (contains_passed_iff.mpr same)]

theorem typeFault?_eq_some_iff {s : Schema} {m : Message} {e : ConfigError} :
    m.typeFault? s = some e ↔ List.FirstFound (fun _ => m.TypeDefect s) [] m.fields e := by
  refine List.findSome?_eq_some_iff_firstFound fun f e => ?_
  constructor
  · intro h
    split at h
    · rename_i t typed
      split at h
      · cases h
      · rename_i unknown
        cases h
        exact .undeclared typed (by simpa using unknown)
    · cases h
  · intro defect
    cases defect with
    | undeclared typed unknown => simp [typed, unknown]

end Message

namespace Schema

variable {s : Schema} {e : ConfigError}

theorem messageFault?_eq_some_iff :
    messageFault? [] s.messages = some e ↔ s.NameDefect e := by
  refine List.scan_eq_some_iff Message.name
    (fun seen m =>
      if seen.contains m.name then some (.duplicateMessage m.name) else m.fieldFault? [] m.fields)
    (fun _ => rfl) (fun seen m rest => ?_) (fun passed m e => ?_)
  · rw [messageFault?]
    split <;> rfl
  · constructor
    · intro h
      split at h
      · rename_i again
        cases h
        exact .again (contains_passed_iff.mp again)
      · rename_i fresh
        exact .field (mt contains_passed_iff.mpr fresh) (Message.fieldFault?_eq_some_iff.mp h)
    · intro defect
      cases defect with
      | again same => rw [if_pos (contains_passed_iff.mpr same)]
      | field fresh first =>
        rw [if_neg (mt contains_passed_iff.mp fresh), Message.fieldFault?_eq_some_iff.mpr first]

theorem typeFault?_eq_some_iff :
    s.messages.findSome? (Message.typeFault? s) = some e ↔ s.TypeDefect e :=
  List.findSome?_eq_some_iff_firstFound fun _ _ => Message.typeFault?_eq_some_iff

theorem fault?_eq_some_iff :
    s.fault? = some e ↔ s.NameDefect e ∨ (¬ ∃ e, s.NameDefect e) ∧ s.TypeDefect e := by
  have named : messageFault? [] s.messages = none ↔ ¬ ∃ e, s.NameDefect e := by
    simp only [Option.eq_none_iff_forall_ne_some, ne_eq, messageFault?_eq_some_iff, not_exists]
  rw [fault?, Option.or_eq_some_iff, messageFault?_eq_some_iff, named, typeFault?_eq_some_iff]

theorem firstDefect_iff :
    s.FirstDefect e ↔ s.fault? = some e ∨ s.fault? = none ∧ s.MethodDefect e := by
  have sound : s.fault? = none ↔ (¬ ∃ e, s.NameDefect e) ∧ ¬ ∃ e, s.TypeDefect e := by
    simp only [Option.eq_none_iff_forall_ne_some, ne_eq, fault?_eq_some_iff]
    grind
  rw [sound, fault?_eq_some_iff]
  constructor
  · intro defect
    cases defect with
    | name first => exact .inl (.inl first)
    | type named first => exact .inl (.inr ⟨named, first⟩)
    | method named typed first => exact .inr ⟨⟨named, typed⟩, first⟩
  · rintro ((first | ⟨named, first⟩) | ⟨⟨named, typed⟩, first⟩)
    · exact .name first
    · exact .type named first
    · exact .method named typed first

end Schema

namespace Registry

variable {s : Schema} {r : Registry} {e : ConfigError}

theorem enter_eq_error_iff {d : MethodInfo} :
    enter s r d = .error e ↔ MethodInfo.Defect s r.methods d e := by
  unfold enter
  constructor
  · intro h
    split at h
    · rename_i unknown
      cases h
      exact .input (by simpa using unknown)
    · rename_i input
      split at h
      · rename_i unknown
        cases h
        exact .output (by simpa using input) (by simpa using unknown)
      · rename_i output
        split at h
        · rename_i again
          cases h
          exact .again (by simpa using input) (by simpa using output) (by simpa using again)
        · cases h
  · intro defect
    cases defect with
    | input unknown => simp [unknown]
    | output known unknown => simp [known, unknown]
    | again input output same =>
      have there : d.method ∈ r.methods.map (·.method) := by simpa using same
      simp [input, output, there]

/-- Of the methods that are entered the first one with a defect is reported. -/
theorem foldlM_enter_eq_error_iff {ds : List MethodInfo} :
    ds.foldlM (enter s) r = .error e ↔
      List.FirstFound (MethodInfo.Defect s) r.methods ds e := by
  induction ds generalizing r with
  | nil => exact ⟨nofun, nofun⟩
  | cons d ds ih =>
    rw [List.foldlM_cons, Except.bind_eq_error_iff, enter_eq_error_iff, List.firstFound_cons_iff]
    refine or_congr_right ?_
    simp only [← enter_eq_error_iff]
    cases entered : enter s r d with
    | error e' => simp
    | ok next =>
      obtain ⟨-, fresh, rfl⟩ := enter_eq_ok_iff.mp entered
      simp [ih, add]

theorem ofSchema_eq_error_iff : ofSchema s = .error e ↔ s.FirstDefect e := by
  rw [Schema.firstDefect_iff, ofSchema, Except.bind_eq_error_iff]
  cases s.fault? with
  | some e' => simp
  | none =>
    simp only [Option.elim_none, reduceCtorEq, false_or, exists_const, true_and]
    exact foldlM_enter_eq_error_iff

/-! ### What is known of accepted declarations -/

theorem planned_eq_some_iff {redactor : Redactor} {message t : String} :
    redactor.planned message = some t ↔ redactor.needs message = true ∧ t = message := by
  simp [Redactor.planned, eq_comm (a := t)]

/-- The parts of a plan for the method: its messages that can have something to remove, of those
that are to be redacted. There is no plan without any. -/
structure Redacts (r : Registry) (d : MethodInfo) (plan : Redaction) : Prop where
  marked : d.usesSensitiveData = true
  request : ∀ t, plan.request = some t ↔
    d.redactRequest = true ∧ r.redactor.needs d.input = true ∧ t = d.input
  response : ∀ t, plan.response = some t ↔ r.redactor.needs d.output = true ∧ t = d.output
  something : plan.request ≠ none ∨ plan.response ≠ none

theorem redactionOf_eq_some_iff {d : MethodInfo} {plan : Redaction} :
    r.redactor.redactionOf d = some plan ↔ r.Redacts d plan := by
  have request : ∀ t, (if d.redactRequest then r.redactor.planned d.input else none) = some t ↔
      d.redactRequest = true ∧ r.redactor.needs d.input = true ∧ t = d.input := by
    simp [planned_eq_some_iff]
  have response : ∀ t, r.redactor.planned d.output = some t ↔
      r.redactor.needs d.output = true ∧ t = d.output := fun _ => planned_eq_some_iff
  obtain ⟨asked, answered⟩ := plan
  unfold Redactor.redactionOf
  cases marked : d.usesSensitiveData with
  | false => exact ⟨nofun, fun redacts => by simp [redacts.marked] at marked⟩
  | true =>
    simp only [Bool.not_true, Bool.false_eq_true, ↓reduceIte, Option.ite_none_left_eq_some,
      Option.some.injEq, Redaction.mk.injEq]
    constructor
    · rintro ⟨some_part, rfl, rfl⟩
      exact ⟨marked, request, response, by simpa [Decidable.or_iff_not_not_and_not] using some_part⟩
    · rintro ⟨-, asks, answers, some_part⟩
      obtain rfl : _ = asked := Option.ext fun t => (request t).trans (asks t).symm
      obtain rfl : _ = answered := Option.ext fun t => (response t).trans (answers t).symm
      exact ⟨by simpa [Decidable.or_iff_not_not_and_not] using some_part, rfl, rfl⟩

/-- What is looked up of a method is what is declared of it, in the one place where it is declared;
and its messages are redacted if it is said to carry sensitive data and they can have some. -/
structure Reflects (r : Registry) (s : Schema) : Prop where
  declared : ∀ m d, r.info? m = some d ↔ d ∈ s.methods ∧ d.method = m
  undeclared : ∀ m, r.info? m = none ↔ ∀ d ∈ s.methods, d.method ≠ m
  access : ∀ m access, r.access? m = some access ↔
    ∃ d ∈ s.methods, d.method = m ∧ d.access = some access
  size : r.methods.length = s.methods.length
  redactor : r.redactor = .compile s.messages
  redaction : ∀ m plan, r.redaction? m = some plan ↔
    ∃ d ∈ s.methods, d.method = m ∧ r.Redacts d plan

theorem reflects_of_accepted (accepted : ofSchema s = .ok r) : r.Reflects s := by
  obtain ⟨valid, methods, redactor⟩ := ofSchema_eq_ok_iff.mp accepted
  have known : ∀ m d, r.info? m = some d ↔ d ∈ s.methods ∧ d.method = m := by
    intro m d
    rw [info?_eq_some_iff, methods]
  constructor
  case declared => exact known
  case undeclared =>
    intro m
    simp only [Option.eq_none_iff_forall_ne_some, ne_eq, known, not_and]
  case access =>
    intro m access
    simp only [access?, Option.bind_eq_some_iff, known, and_assoc]
  case size => rw [methods]
  case redactor => exact redactor
  case redaction =>
    intro m plan
    simp only [redaction?_eq, Option.bind_eq_some_iff, known, redactionOf_eq_some_iff, and_assoc]

/-- Declarations are accepted if they are valid, and are looked up as they were made; of all others
the first defect is reported. -/
theorem ofSchema_exact (s : Schema) :
    ((∃ r, ofSchema s = .ok r) ↔ s.Valid) ∧
      (∀ e, ofSchema s = .error e ↔ s.FirstDefect e) ∧
        ∀ r, ofSchema s = .ok r → r.Reflects s := by
  refine ⟨?_, fun _ => ofSchema_eq_error_iff, fun _ => reflects_of_accepted⟩
  constructor
  · rintro ⟨r, accepted⟩
    exact (ofSchema_eq_ok_iff.mp accepted).1
  · exact exists_ofSchema

end Registry

namespace Schema.Sample

def listing : Method := ⟨⟨"t.Pages", rfl⟩, "List", rfl⟩

/-- A list of users shows their addresses to nobody. It comes before what it is made of. -/
def directory : Schema :=
  ⟨[⟨"Page", [⟨"users", false, some "User"⟩]⟩,
      ⟨"User", [⟨"id", false, none⟩, ⟨"mail", true, none⟩]⟩],
    [⟨listing, "Page", "Page", false, true, false, some .authenticated⟩]⟩

/-- The type of one field is missing, another field has no name, and a third has that of the first;
neither message of the method is declared. -/
def disorder : Schema :=
  ⟨[⟨"Page", [⟨"users", false, some "User"⟩]⟩,
      ⟨"Entry", [⟨"id", false, none⟩, ⟨" ", false, none⟩, ⟨"id", false, none⟩]⟩],
    [⟨listing, "Query", "Answer", false, true, false, none⟩]⟩

end Schema.Sample

theorem Registry.sample_directory_accepted :
    (∃ r, Registry.ofSchema Schema.Sample.directory = .ok r ∧
      r.redaction? Schema.Sample.listing = some ⟨none, some "Page"⟩) ∧
        Schema.Sample.disorder.FirstDefect (.emptyFieldName "Entry") := by
  obtain ⟨r, accepted⟩ : ∃ r, Registry.ofSchema Schema.Sample.directory = .ok r := ⟨_, rfl⟩
  constructor
  · have reflects := (ofSchema_exact _).2.2 r accepted
    have needs : r.redactor.needs "Page" = true := by
      rw [reflects.redactor]
      decide
    refine ⟨r, accepted, (reflects.redaction _ _).mpr ⟨_, .head _, rfl, rfl, ?_, ?_, .inr nofun⟩⟩
    · simp
    · simp [needs, eq_comm]
  · exact ((ofSchema_exact _).2.1 _).mp (by rfl)

end CallGuard
