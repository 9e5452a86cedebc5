import CallGuard.Proofs.Except
import CallGuard.Proofs.List
import CallGuard.Schema.Registry
import Mathlib.Data.List.Nodup

/-! Which declarations are accepted: those in which every name stands for one thing. -/
namespace CallGuard

namespace Message

theorem fieldFault?_eq_none_iff {m : Message} {seen : List String} {fields : List Field} :
    m.fieldFault? seen fields = none ↔
      (∀ f ∈ fields, Text.isBlankText f.name = false ∧ f.name ∉ seen) ∧
        (fields.map (·.name)).Nodup := by
  induction fields generalizing seen with
  | nil => simp [fieldFault?]
  | cons f rest ih =>
    unfold fieldFault?
    cases blank : Text.isBlankText f.name with
    | true => simp [blank]
    | false =>
      by_cases known : f.name ∈ seen
      · simp [known]
      · simp only [List.contains_eq_mem, known, decide_false, Bool.false_eq_true, ↓reduceIte, ih,
          List.map_cons, List.nodup_cons, List.mem_cons, List.mem_map]
        grind

theorem typeFault?_eq_none_iff {s : Schema} {m : Message} :
    m.typeFault? s = none ↔
      ∀ f ∈ m.fields, ∀ t, f.message = some t → s.declares t = true := by
  unfold typeFault?
  rw [List.findSome?_eq_none_iff]
  refine forall₂_congr fun f _ => ?_
  cases f.message with
  | none => simp
  | some t => cases declared : s.declares t <;> simp [declared]

end Message

namespace Schema

theorem messageFault?_eq_none_iff {seen : List String} {messages : List Message} :
    messageFault? seen messages = none ↔
      (∀ m ∈ messages, m.name ∉ seen ∧ m.fieldFault? [] m.fields = none) ∧
        (messages.map (·.name)).Nodup := by
  induction messages generalizing seen with
  | nil => simp [messageFault?]
  | cons m rest ih =>
    unfold messageFault?
    by_cases known : m.name ∈ seen
    · simp [known]
    · simp only [List.contains_eq_mem, known, decide_false, Bool.false_eq_true, ↓reduceIte,
        Option.or_eq_none_iff, ih, List.map_cons, List.nodup_cons,
        List.mem_cons, List.mem_map]
      grind

/-- Names are not blank where fields have them, no two things of one kind share one, and every
message that is spoken of is declared. -/
structure Valid (s : Schema) : Prop where
  messages_distinct : (s.messages.map (·.name)).Nodup
  fields_named : ∀ m ∈ s.messages, ∀ f ∈ m.fields, Text.isBlankText f.name = false
  fields_distinct : ∀ m ∈ s.messages, (m.fields.map (·.name)).Nodup
  types_declared : ∀ m ∈ s.messages, ∀ f ∈ m.fields, ∀ t, f.message = some t → s.declares t = true
  methods_declared : ∀ d ∈ s.methods, s.declares d.input = true ∧ s.declares d.output = true
  methods_distinct : (s.methods.map (·.method)).Nodup

theorem fault?_eq_none_iff {s : Schema} :
    s.fault? = none ↔
      (s.messages.map (·.name)).Nodup ∧
        (∀ m ∈ s.messages, (∀ f ∈ m.fields, Text.isBlankText f.name = false) ∧
          (m.fields.map (·.name)).Nodup) ∧
        ∀ m ∈ s.messages, ∀ f ∈ m.fields, ∀ t, f.message = some t → s.declares t = true := by
  simp only [fault?, Option.or_eq_none_iff, messageFault?_eq_none_iff,
    Message.fieldFault?_eq_none_iff, List.findSome?_eq_none_iff, Message.typeFault?_eq_none_iff,
    List.not_mem_nil, not_false_eq_true, true_and, and_true]
  rw [and_assoc, and_left_comm]

theorem declares_iff {s : Schema} {message : String} :
    s.declares message = true ↔ ∃ m ∈ s.messages, m.name = message := by
  simp [declares]

namespace Valid

variable {s : Schema}

theorem message_unique (h : s.Valid) {m n : Message} (hm : m ∈ s.messages) (hn : n ∈ s.messages)
    (same : m.name = n.name) : m = n :=
  List.inj_on_of_nodup_map h.messages_distinct hm hn same

theorem field_unique (h : s.Valid) {m : Message} (hm : m ∈ s.messages) {f g : Field}
    (hf : f ∈ m.fields) (hg : g ∈ m.fields) (same : f.name = g.name) : f = g :=
  List.inj_on_of_nodup_map (h.fields_distinct m hm) hf hg same

theorem method_unique (h : s.Valid) {d e : MethodInfo} (hd : d ∈ s.methods) (he : e ∈ s.methods)
    (same : d.method = e.method) : d = e :=
  List.inj_on_of_nodup_map h.methods_distinct hd he same

end Valid
end Schema

namespace Registry

variable {s : Schema} {r : Registry}

/-! ### Tables -/

/-- The methods and the plans for messages tell which redactions there are. -/
theorem eq_of_methods {r' : Registry} (methods : r.methods = r'.methods)
    (redactor : r.redactor = r'.redactor) : r = r' := by
  have redactions : r.redactions = r'.redactions := by
    rw [r.tabulated, r'.tabulated, methods, redactor]
  cases r
  cases r'
  congr

/-- What a method is declared as is found by the method. -/
theorem info?_of_mem {d : MethodInfo} (declared : d ∈ r.methods) :
    r.info? d.method = some d := by
  apply List.find?_eq_some_of_unique declared
  · simp
  · intro e he same
    exact List.inj_on_of_nodup_map r.distinct he declared (by simpa using same)

theorem info?_eq_some_iff {m : Method} {d : MethodInfo} :
    r.info? m = some d ↔ d ∈ r.methods ∧ d.method = m := by
  constructor
  · intro found
    exact ⟨List.mem_of_find?_eq_some found, by simpa using List.find?_some found⟩
  · rintro ⟨declared, rfl⟩
    exact info?_of_mem declared

/-- The redaction in the table is that of the method's declaration. -/
theorem redaction?_eq (r : Registry) (m : Method) :
    r.redaction? m = (r.info? m).bind r.redactor.redactionOf := by
  rw [redaction?, r.tabulated]
  exact List.find?_filterMap_of_nodup r.distinct m

/-! ### Entering methods -/

theorem enter_eq_ok_iff {d : MethodInfo} {r' : Registry} :
    enter s r d = .ok r' ↔
      (s.declares d.input = true ∧ s.declares d.output = true) ∧
        ∃ fresh : d.method ∉ r.methods.map (·.method), r.add d fresh = r' := by
  unfold enter
  cases input : s.declares d.input with
  | false => simp
  | true =>
    cases output : s.declares d.output with
    | false => simp
    | true => by_cases known : d.method ∈ r.methods.map (·.method) <;> simp [known]

/-- What is entered one after another is there in its order, if nothing is there twice. -/
theorem foldlM_enter_eq_ok_iff {ds : List MethodInfo} {r' : Registry} :
    ds.foldlM (enter s) r = .ok r' ↔
      (∀ d ∈ ds, s.declares d.input = true ∧ s.declares d.output = true) ∧
      ((r.methods ++ ds).map (·.method)).Nodup ∧
      r'.methods = r.methods ++ ds ∧ r'.redactor = r.redactor := by
  induction ds generalizing r with
  | nil =>
    rw [List.append_nil]
    constructor
    · rintro ⟨⟩
      exact ⟨nofun, r'.distinct, rfl, rfl⟩
    · rintro ⟨-, -, methods, redactor⟩
      exact congrArg Except.ok (eq_of_methods methods.symm redactor.symm)
  | cons d ds ih =>
    have split (fresh : d.method ∉ r.methods.map (·.method)) :
        (r.add d fresh).methods ++ ds = r.methods ++ d :: ds := List.append_assoc _ [d] ds
    rw [List.foldlM_cons, Except.bind_eq_ok_iff, List.forall_mem_cons]
    constructor
    · rintro ⟨next, entered, rest⟩
      obtain ⟨declared, fresh, rfl⟩ := enter_eq_ok_iff.mp entered
      obtain ⟨others, distinct, methods, redactor⟩ := ih.mp rest
      rw [split] at distinct methods
      exact ⟨⟨declared, others⟩, distinct, methods, redactor⟩
    · rintro ⟨⟨declared, others⟩, distinct, methods, redactor⟩
      have fresh : d.method ∉ r.methods.map (·.method) := by
        rw [List.map_append, List.nodup_append] at distinct
        exact fun there => distinct.2.2 _ there _ (by simp) rfl
      rw [← split fresh] at distinct methods
      exact ⟨_, enter_eq_ok_iff.mpr ⟨declared, fresh, rfl⟩,
        ih.mpr ⟨others, distinct, methods, redactor⟩⟩

theorem ofSchema_eq_ok_iff :
    ofSchema s = .ok r ↔ s.Valid ∧ r.methods = s.methods ∧ r.redactor = .compile s.messages := by
  have accepted : (s.fault?.elim (.ok ()) .error : Except ConfigError Unit) = .ok () ↔
      s.fault? = none := by
    cases s.fault? <;> simp
  rw [ofSchema, Except.bind_eq_ok_iff]
  simp only [accepted, exists_const, foldlM_enter_eq_ok_iff, Schema.fault?_eq_none_iff]
  constructor
  · rintro ⟨⟨messages, fields, types⟩, declared, distinct, methods, redactor⟩
    exact ⟨⟨messages, fun m hm => (fields m hm).1, fun m hm => (fields m hm).2, types, declared,
      distinct⟩, methods, redactor⟩
  · rintro ⟨valid, methods, redactor⟩
    exact ⟨⟨valid.messages_distinct,
      fun m hm => ⟨valid.fields_named m hm, valid.fields_distinct m hm⟩, valid.types_declared⟩,
      valid.methods_declared, valid.methods_distinct, methods, redactor⟩

theorem exists_ofSchema (valid : s.Valid) : ∃ r, ofSchema s = .ok r := by
  let r : Registry :=
    ⟨s.methods, s.methods.filterMap (Redactor.compile s.messages).row?, .compile s.messages,
      valid.methods_distinct, rfl⟩
  exact ⟨r, ofSchema_eq_ok_iff.mpr ⟨valid, rfl, rfl⟩⟩

end Registry
end CallGuard
