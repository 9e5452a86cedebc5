import CallGuard.Proofs.Schema.Valid

/-! What is left of a value without its sensitive fields, read off the declarations alone. -/
namespace CallGuard.Schema

mutual

/-- The value, of the given message, and what is left of it. -/
inductive Strips (s : Schema) : String → Json → Json → Prop
  | undeclared {message : String} {v : Json} (h : s.declares message = false) :
      Strips s message v v
  | scalar {message : String} {v : Json} (h : ∀ members, v ≠ .obj members) :
      Strips s message v v
  | object {m : Message} {members kept : List (String × Json)} (hm : m ∈ s.messages)
      (each : StripsMembers s m members kept) : Strips s m.name (.obj members) (.obj kept)

/-- Members of an object, and what is left of them in their order. -/
inductive StripsMembers (s : Schema) :
    Message → List (String × Json) → List (String × Json) → Prop
  | nil {m : Message} : StripsMembers s m [] []
  | sensitive {m : Message} {f : Field} {v : Json} {rest kept : List (String × Json)}
      (hf : f ∈ m.fields) (h : f.sensitive = true) (tail : StripsMembers s m rest kept) :
      StripsMembers s m ((f.name, v) :: rest) kept
  | nested {m : Message} {f : Field} {t : String} {v w : Json} {rest kept : List (String × Json)}
      (hf : f ∈ m.fields) (h : f.sensitive = false) (typed : f.message = some t)
      (head : StripsField s t v w) (tail : StripsMembers s m rest kept) :
      StripsMembers s m ((f.name, v) :: rest) ((f.name, w) :: kept)
  | other {m : Message} {name : String} {v : Json} {rest kept : List (String × Json)}
      (h : ∀ f ∈ m.fields, f.name = name → f.sensitive = false ∧ f.message = none)
      (tail : StripsMembers s m rest kept) :
      StripsMembers s m ((name, v) :: rest) ((name, v) :: kept)

/-- The value of a field of the given message: one such value, or a list of them. -/
inductive StripsField (s : Schema) : String → Json → Json → Prop
  | one {t : String} {v w : Json} (h : ∀ items, v ≠ .arr items) (value : Strips s t v w) :
      StripsField s t v w
  | list {t : String} {items kept : List Json} (each : StripsItems s t items kept) :
      StripsField s t (.arr items) (.arr kept)

inductive StripsItems (s : Schema) : String → List Json → List Json → Prop
  | nil {t : String} : StripsItems s t [] []
  | cons {t : String} {v w : Json} {rest kept : List Json} (head : Strips s t v w)
      (tail : StripsItems s t rest kept) : StripsItems s t (v :: rest) (w :: kept)

end

/-! ### One level of a value -/

variable {s : Schema}

theorem strips_of_undeclared {message : String} (h : s.declares message = false) {v w : Json} :
    Strips s message v w ↔ w = v := by
  constructor
  · intro stripped
    cases stripped with
    | undeclared | scalar => rfl
    | object hm => simp [declares_iff.mpr ⟨_, hm, rfl⟩] at h
  · rintro rfl
    exact .undeclared h

theorem strips_of_not_obj {message : String} {v : Json} (h : ∀ members, v ≠ .obj members)
    {w : Json} : Strips s message v w ↔ w = v := by
  constructor
  · intro stripped
    cases stripped with
    | undeclared | scalar => rfl
    | object => exact absurd rfl (h _)
  · rintro rfl
    exact .scalar h

theorem strips_obj (valid : s.Valid) {m : Message} (hm : m ∈ s.messages)
    {members : List (String × Json)} {w : Json} :
    Strips s m.name (.obj members) w ↔ ∃ kept, w = .obj kept ∧ StripsMembers s m members kept := by
  constructor
  · intro stripped
    generalize known : m.name = name at stripped
    cases stripped with
    | undeclared h => simp [declares_iff.mpr ⟨m, hm, known⟩] at h
    | scalar h => exact absurd rfl (h members)
    | object hm' each =>
      obtain rfl := valid.message_unique hm hm' known
      exact ⟨_, rfl, each⟩
  · rintro ⟨kept, rfl, each⟩
    exact .object hm each

theorem stripsMembers_nil {m : Message} {kept : List (String × Json)} :
    StripsMembers s m [] kept ↔ kept = [] := by
  constructor
  · intro stripped
    cases stripped
    rfl
  · rintro rfl
    exact .nil

theorem stripsMembers_sensitive (valid : s.Valid) {m : Message} (hm : m ∈ s.messages) {f : Field}
    (hf : f ∈ m.fields) (h : f.sensitive = true) {v : Json} {rest kept : List (String × Json)} :
    StripsMembers s m ((f.name, v) :: rest) kept ↔ StripsMembers s m rest kept := by
  constructor
  · intro stripped
    generalize known : f.name = name at stripped
    cases stripped with
    | sensitive _ _ tail => exact tail
    | nested hg open_ =>
      obtain rfl := valid.field_unique hm hf hg known
      simp [h] at open_
    | other plain => simp [(plain f hf known).1] at h
  · exact .sensitive hf h

theorem stripsMembers_nested (valid : s.Valid) {m : Message} (hm : m ∈ s.messages) {f : Field}
    (hf : f ∈ m.fields) (h : f.sensitive = false) {t : String} (typed : f.message = some t)
    {v : Json} {rest kept : List (String × Json)} :
    StripsMembers s m ((f.name, v) :: rest) kept ↔
      ∃ w tail, kept = (f.name, w) :: tail ∧ StripsField s t v w ∧ StripsMembers s m rest tail := by
  constructor
  · intro stripped
    generalize known : f.name = name at stripped
    cases stripped with
    | sensitive hg hidden =>
      obtain rfl := valid.field_unique hm hf hg known
      simp [h] at hidden
    | nested hg _ typed' head tail =>
      obtain rfl := valid.field_unique hm hf hg known
      obtain rfl : t = _ := Option.some.inj (typed.symm.trans typed')
      exact ⟨_, _, rfl, head, tail⟩
    | other plain => simp [(plain f hf known).2] at typed
  · rintro ⟨w, tail, rfl, head, rest⟩
    exact .nested hf h typed head rest

theorem stripsMembers_other {m : Message} {name : String}
    (h : ∀ f ∈ m.fields, f.name = name → f.sensitive = false ∧ f.message = none) {v : Json}
    {rest kept : List (String × Json)} :
    StripsMembers s m ((name, v) :: rest) kept ↔
      ∃ tail, kept = (name, v) :: tail ∧ StripsMembers s m rest tail := by
  constructor
  · intro stripped
    cases stripped with
    | sensitive hf hidden => simp [(h _ hf rfl).1] at hidden
    | nested hf _ typed => simp [(h _ hf rfl).2] at typed
    | other _ tail => exact ⟨_, rfl, tail⟩
  · rintro ⟨tail, rfl, rest⟩
    exact .other h rest

theorem stripsField_of_not_arr {t : String} {v : Json} (h : ∀ items, v ≠ .arr items) {w : Json} :
    StripsField s t v w ↔ Strips s t v w := by
  constructor
  · intro stripped
    cases stripped with
    | one _ value => exact value
    | list => exact absurd rfl (h _)
  · exact .one h

theorem stripsField_arr {t : String} {items : List Json} {w : Json} :
    StripsField s t (.arr items) w ↔ ∃ kept, w = .arr kept ∧ StripsItems s t items kept := by
  constructor
  · intro stripped
    cases stripped with
    | one h => exact absurd rfl (h items)
    | list each => exact ⟨_, rfl, each⟩
  · rintro ⟨kept, rfl, each⟩
    exact .list each

theorem stripsItems_nil {t : String} {kept : List Json} : StripsItems s t [] kept ↔ kept = [] := by
  constructor
  · intro stripped
    cases stripped
    rfl
  · rintro rfl
    exact .nil

theorem stripsItems_cons {t : String} {v : Json} {rest kept : List Json} :
    StripsItems s t (v :: rest) kept ↔
      ∃ w tail, kept = w :: tail ∧ Strips s t v w ∧ StripsItems s t rest tail := by
  constructor
  · intro stripped
    cases stripped with
    | cons head tail => exact ⟨_, _, rfl, head, tail⟩
  · rintro ⟨w, tail, rfl, head, rest⟩
    exact .cons head rest

end CallGuard.Schema
