import CallGuard.Proofs.Schema.Redaction

/-!
Sensitive fields in values, found where the declarations say that they may be: in the object itself,
or in the messages that its fields hold. What redaction leaves of a value has none of them.
-/
namespace CallGuard

namespace Schema

/-- Somewhere in the value, which is one of the message, there is a sensitive field. -/
inductive Exposes (s : Schema) : String → Json → Prop
  | here {m : Message} {f : Field} {v : Json} {members : List (String × Json)}
      (hm : m ∈ s.messages) (hf : f ∈ m.fields) (sensitive : f.sensitive = true)
      (member : (f.name, v) ∈ members) : Exposes s m.name (.obj members)
  | inside {m : Message} {f : Field} {t : String} {v : Json} {members : List (String × Json)}
      (hm : m ∈ s.messages) (hf : f ∈ m.fields) (typed : f.message = some t)
      (member : (f.name, v) ∈ members) (inner : Exposes s t v) : Exposes s m.name (.obj members)
  | item {m : Message} {f : Field} {t : String} {v : Json} {items : List Json}
      {members : List (String × Json)} (hm : m ∈ s.messages) (hf : f ∈ m.fields)
      (typed : f.message = some t) (member : (f.name, .arr items) ∈ members) (listed : v ∈ items)
      (inner : Exposes s t v) : Exposes s m.name (.obj members)

variable {s : Schema}

theorem not_exposes_arr {t : String} {items : List Json} : ¬ s.Exposes t (.arr items) := by
  intro exposed
  cases exposed

/-! ### What is left -/

/-- A field that is left is not sensitive, and holds what is left of its messages. -/
theorem shown_of_stripsMembers (valid : s.Valid) {m : Message} (hm : m ∈ s.messages) {f : Field}
    (hf : f ∈ m.fields) {members kept : List (String × Json)}
    (stripped : StripsMembers s m members kept) {w : Json} (left : (f.name, w) ∈ kept) :
    f.sensitive = false ∧ ∀ t, f.message = some t → ∃ v, StripsField s t v w := by
  induction members generalizing kept with
  | nil =>
    cases stripped
    cases left
  | cons entry rest ih =>
    cases stripped with
    | sensitive _ _ tail => exact ih tail left
    | nested hg shown typed head tail =>
      rcases List.mem_cons.mp left with first | later
      · obtain ⟨same, rfl⟩ := Prod.mk.inj first
        obtain rfl := valid.field_unique hm hf hg same
        refine ⟨shown, fun t known => ?_⟩
        obtain rfl := Option.some.inj (typed.symm.trans known)
        exact ⟨_, head⟩
      · exact ih tail later
    | other plain tail =>
      rcases List.mem_cons.mp left with first | later
      · obtain ⟨same, rfl⟩ := Prod.mk.inj first
        obtain ⟨shown, untyped⟩ := plain f hf same
        refine ⟨shown, fun t typed => ?_⟩
        rw [untyped] at typed
        cases typed
      · exact ih tail later

theorem exists_strips_of_mem {t : String} {items kept : List Json}
    (stripped : StripsItems s t items kept) {w : Json} (left : w ∈ kept) :
    ∃ v, Strips s t v w := by
  induction items generalizing kept with
  | nil =>
    cases stripped
    cases left
  | cons v rest ih =>
    cases stripped with
    | cons head tail =>
      rcases List.mem_cons.mp left with rfl | later
      · exact ⟨v, head⟩
      · exact ih tail later

/-- An object is left of an object only. -/
theorem exists_stripsMembers (valid : s.Valid) {m : Message} (hm : m ∈ s.messages) {v : Json}
    {kept : List (String × Json)} (stripped : Strips s m.name v (.obj kept)) :
    ∃ members, v = .obj members ∧ StripsMembers s m members kept := by
  by_cases object : ∃ members, v = .obj members
  · obtain ⟨members, rfl⟩ := object
    obtain ⟨_, same, each⟩ := (strips_obj valid hm).mp stripped
    cases same
    exact ⟨members, rfl, each⟩
  · have unchanged := (strips_of_not_obj (not_exists.mp object)).mp stripped
    exact absurd ⟨kept, unchanged.symm⟩ object

/-- A list in a field is left of a list. -/
theorem exists_stripsItems {t : String} {v : Json} {kept : List Json}
    (stripped : StripsField s t v (.arr kept)) : ∃ items, StripsItems s t items kept := by
  cases stripped with
  | one scalar value =>
    cases value with
    | undeclared | scalar => exact absurd rfl (scalar kept)
  | list each => exact ⟨_, each⟩

/-- By induction on where a sensitive field would be: whatever leads there is left of something. -/
theorem not_strips_of_exposes (valid : s.Valid) {t : String} {w : Json} (exposed : s.Exposes t w) :
    ∀ v, ¬ Strips s t v w := by
  induction exposed with
  | here hm hf sensitive member =>
    intro v stripped
    obtain ⟨_, -, each⟩ := exists_stripsMembers valid hm stripped
    have shown := (shown_of_stripsMembers valid hm hf each member).1
    rw [sensitive] at shown
    cases shown
  | inside hm hf typed member inner ih =>
    intro v stripped
    obtain ⟨_, -, each⟩ := exists_stripsMembers valid hm stripped
    obtain ⟨whole, field⟩ := (shown_of_stripsMembers valid hm hf each member).2 _ typed
    cases field with
    | one _ value => exact ih whole value
    | list => exact not_exposes_arr inner
  | item hm hf typed member listed _ ih =>
    intro v stripped
    obtain ⟨_, -, each⟩ := exists_stripsMembers valid hm stripped
    obtain ⟨_, field⟩ := (shown_of_stripsMembers valid hm hf each member).2 _ typed
    obtain ⟨_, ofItems⟩ := exists_stripsItems field
    obtain ⟨whole, value⟩ := exists_strips_of_mem ofItems listed
    exact ih whole value

end Schema

/-- Redaction leaves no sensitive field, at no depth. -/
theorem Registry.not_exposes_redact {s : Schema} {r : Registry}
    (accepted : Registry.ofSchema s = .ok r) (message : String) (v : Json) :
    ¬ s.Exposes message (r.redactor.redact message v) := by
  obtain ⟨valid, -, compiled⟩ := Registry.ofSchema_eq_ok_iff.mp accepted
  rw [compiled]
  intro exposed
  have stripped := (Redactor.strips_iff valid v message _).mpr rfl
  exact Schema.not_strips_of_exposes valid exposed v stripped

end CallGuard
