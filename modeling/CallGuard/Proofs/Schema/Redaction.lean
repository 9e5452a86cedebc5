import CallGuard.Proofs.List
import CallGuard.Proofs.Schema.Marking
import CallGuard.Proofs.Schema.Stripping

/-!
Redaction leaves of a value just what the declarations say, although it has plans for the marked
messages only: a plan that was left out would have had nothing to do.
-/
namespace CallGuard

open Schema

/-- A key is that of a sensitive field, or of one with messages, or nothing is to be done. -/
theorem Message.key_cases (m : Message) (name : String) :
    (∃ f ∈ m.fields, f.sensitive = true ∧ f.name = name) ∨
      (∃ f ∈ m.fields, f.sensitive = false ∧ f.name = name ∧ ∃ t, f.message = some t) ∨
      ∀ f ∈ m.fields, f.name = name → f.sensitive = false ∧ f.message = none := by
  by_cases known : ∃ f ∈ m.fields, f.name = name ∧ (f.sensitive = true ∨ f.message ≠ none)
  · obtain ⟨f, hf, named, told⟩ := known
    cases sensitive : f.sensitive with
    | true => exact .inl ⟨f, hf, sensitive, named⟩
    | false =>
      obtain ⟨t, typed⟩ := Option.ne_none_iff_exists'.mp (told.resolve_left (by simp [sensitive]))
      exact .inr (.inl ⟨f, hf, sensitive, named, t, typed⟩)
  · refine .inr (.inr fun f hf named => ?_)
    simpa using fun told => known ⟨f, hf, named, told⟩

namespace Redactor

variable {s : Schema}

/-! ### Plans -/

theorem plan?_compile_of_unmarked {messages : List Message} {t : String}
    (unmarked : t ∉ marked messages) : (compile messages).plan? t = none := by
  have absent : ∀ m ∈ messages, m.name ∈ marked messages → m.name ≠ t := by
    rintro m - known rfl
    exact unmarked known
  simpa [plan?, compile, List.find?_eq_none] using absent

theorem plan?_compile_of_marked (valid : s.Valid) {m : Message} (hm : m ∈ s.messages)
    (known : m.name ∈ marked s.messages) :
    (compile s.messages).plan? m.name = some (m.plan (marked s.messages)) := by
  have found : (s.messages.filter ((marked s.messages).contains ·.name)).find? (·.name == m.name) =
      some m := by
    apply List.find?_eq_some_of_unique
    · simp [hm, known]
    · simp
    · intro n hn same
      exact valid.message_unique (List.mem_filter.mp hn).1 hm (by simpa using same)
  rw [plan?, compile, List.find?_map]
  simp only [Function.comp_def, found, Option.map_some]

/-- A plan for an unmarked message would be an empty one. -/
theorem plan_of_unmarked {messages : List Message} {m : Message} (hm : m ∈ messages)
    (unmarked : m.name ∉ marked messages) : m.plan (marked messages) = ⟨[], []⟩ := by
  have untouched := fun f hf => field_untouched_of_unmarked hm unmarked (f := f) hf
  have removes : m.fields.filter (·.sensitive) = [] := by
    simpa [List.filter_eq_nil_iff] using fun f hf => (untouched f hf).1
  have nests : ∀ f ∈ m.fields, f.message.filter (marked messages).contains = none := by
    simpa [Option.filter_eq_none_iff] using fun f hf => (untouched f hf).2
  simp only [Message.plan, removes, List.map_nil, Plan.mk.injEq, true_and,
    List.filterMap_eq_nil_iff]
  intro f hf
  simp [(untouched f hf).1, nests f hf]

theorem remove_contains_iff {m : Message} {names : List String} {name : String} :
    (m.plan names).remove.contains name = true ↔
      ∃ f ∈ m.fields, f.sensitive = true ∧ f.name = name := by
  simp [Message.plan, and_assoc]

theorem mem_nested_iff {m : Message} {names : List String} {name t : String} :
    (name, t) ∈ (m.plan names).nested ↔
      ∃ f ∈ m.fields, f.sensitive = false ∧ f.message = some t ∧ t ∈ names ∧ f.name = name := by
  simp only [Message.plan, List.mem_filterMap]
  refine exists_congr fun f => and_congr_right fun _ => ?_
  cases f.sensitive <;> simp [Option.filter_eq_some_iff, and_assoc]

theorem nested?_of_mem (valid : s.Valid) {m : Message} (hm : m ∈ s.messages)
    {names : List String} {name t : String} (h : (name, t) ∈ (m.plan names).nested) :
    Plan.nested? (m.plan names) name = some t := by
  have found : (m.plan names).nested.find? (·.1 == name) = some (name, t) := by
    apply List.find?_eq_some_of_unique h
    · simp
    · rintro ⟨name', u⟩ hu same
      obtain rfl : name' = name := by simpa using same
      obtain ⟨f, hf, -, typed, -, named⟩ := mem_nested_iff.mp h
      obtain ⟨g, hg, -, typed', -, named'⟩ := mem_nested_iff.mp hu
      obtain rfl := valid.field_unique hm hf hg (named.trans named'.symm)
      rw [typed] at typed'
      rw [Option.some.inj typed']
  rw [Plan.nested?, found]
  rfl

theorem nested?_eq_none {m : Message} {names : List String} {name : String}
    (h : ∀ t, (name, t) ∉ (m.plan names).nested) : Plan.nested? (m.plan names) name = none := by
  simp only [Plan.nested?, Option.map_eq_none_iff, List.find?_eq_none, beq_iff_eq]
  rintro ⟨name', t⟩ ht rfl
  exact h t ht

/-! ### One level of a value -/

theorem walkItems_of_unplanned {r : Redactor} {t : String} (h : r.plan? t = none)
    (items : List Json) : walkItems r t items = items := by
  induction items with
  | nil => rfl
  | cons v rest ih =>
    rw [walkItems, ih]
    cases v <;> simp [walk, h]

theorem walk_of_unplanned {r : Redactor} {t : String} (h : r.plan? t = none) (each : Bool)
    (v : Json) : r.walk each t v = v := by
  cases v <;> simp [walk, h, walkItems_of_unplanned]

theorem redact_of_not_needs {r : Redactor} {message : String} (h : r.needs message = false)
    (v : Json) : r.redact message v = v := by
  have unplanned : r.plan? message = none := by simpa [needs] using h
  exact walk_of_unplanned unplanned false v

theorem walkMembers_empty (r : Redactor) (members : List (String × Json)) :
    walkMembers r ⟨[], []⟩ members = members := by
  induction members with
  | nil => rfl
  | cons entry rest ih =>
    obtain ⟨name, v⟩ := entry
    simp [walkMembers, Plan.nested?, ih]

theorem walk_of_undeclared {message : String} (h : s.declares message = false) (v : Json) :
    (compile s.messages).walk false message v = v := by
  apply walk_of_unplanned
  apply plan?_compile_of_unmarked
  intro known
  rw [← spread_marked, spread, List.mem_map] at known
  obtain ⟨m, hm, named⟩ := known
  simp [declares_iff.mpr ⟨m, (List.mem_filter.mp hm).1, named⟩] at h

/-- A declared message is walked by the plan it would have, also if it has none. -/
theorem walk_obj (valid : s.Valid) {m : Message} (hm : m ∈ s.messages) (each : Bool)
    (members : List (String × Json)) :
    (compile s.messages).walk each m.name (.obj members) =
      .obj (walkMembers (compile s.messages) (m.plan (marked s.messages)) members) := by
  by_cases known : m.name ∈ marked s.messages
  · rw [walk, plan?_compile_of_marked valid hm known]
  · rw [walk, plan?_compile_of_unmarked known, plan_of_unmarked hm known, walkMembers_empty]

theorem walkMembers_sensitive {r : Redactor} {m : Message} {names : List String} {f : Field}
    (hf : f ∈ m.fields) (h : f.sensitive = true) (v : Json) (rest : List (String × Json)) :
    walkMembers r (m.plan names) ((f.name, v) :: rest) = walkMembers r (m.plan names) rest := by
  rw [walkMembers, if_pos (remove_contains_iff.mpr ⟨f, hf, h, rfl⟩)]

/-- A field of messages is walked, whether its type has a plan or not. -/
theorem walkMembers_nested (valid : s.Valid) {m : Message} (hm : m ∈ s.messages) {f : Field}
    (hf : f ∈ m.fields) (h : f.sensitive = false) {t : String} (typed : f.message = some t)
    (v : Json) (rest : List (String × Json)) :
    walkMembers (compile s.messages) (m.plan (marked s.messages)) ((f.name, v) :: rest) =
      (f.name, (compile s.messages).walk true t v) ::
        walkMembers (compile s.messages) (m.plan (marked s.messages)) rest := by
  have kept : ¬ (m.plan (marked s.messages)).remove.contains f.name = true := by
    intro removed
    obtain ⟨g, hg, hidden, named⟩ := remove_contains_iff.mp removed
    obtain rfl := valid.field_unique hm hg hf named
    simp [h] at hidden
  rw [walkMembers, if_neg kept]
  by_cases known : t ∈ marked s.messages
  · rw [nested?_of_mem valid hm (mem_nested_iff.mpr ⟨f, hf, h, typed, known, rfl⟩)]
  · have unplanned : Plan.nested? (m.plan (marked s.messages)) f.name = none := by
      apply nested?_eq_none
      intro u hu
      obtain ⟨g, hg, -, typed', known', named⟩ := mem_nested_iff.mp hu
      obtain rfl := valid.field_unique hm hg hf named
      rw [typed] at typed'
      exact known (Option.some.inj typed' ▸ known')
    rw [unplanned, walk_of_unplanned (plan?_compile_of_unmarked known)]

theorem walkMembers_other {r : Redactor} {m : Message} {names : List String} {name : String}
    (h : ∀ f ∈ m.fields, f.name = name → f.sensitive = false ∧ f.message = none) (v : Json)
    (rest : List (String × Json)) :
    walkMembers r (m.plan names) ((name, v) :: rest) =
      (name, v) :: walkMembers r (m.plan names) rest := by
  have kept : ¬ (m.plan names).remove.contains name = true := by
    intro removed
    obtain ⟨f, hf, hidden, named⟩ := remove_contains_iff.mp removed
    simp [(h f hf named).1] at hidden
  have unplanned : Plan.nested? (m.plan names) name = none := by
    apply nested?_eq_none
    intro t ht
    obtain ⟨f, hf, -, typed, -, named⟩ := mem_nested_iff.mp ht
    simp [(h f hf named).2] at typed
  rw [walkMembers, if_neg kept, unplanned]

theorem walk_of_not_obj (r : Redactor) (message : String) {v : Json}
    (h : ∀ members, v ≠ .obj members) : r.walk false message v = v := by
  cases v with
  | obj members => exact absurd rfl (h members)
  | arr items => simp [walk]
  | null | bool | int | float | str => rfl

/-! ### Whole values -/

theorem strips_iff_of_not_obj (r : Redactor) (t : String) {v : Json}
    (h : ∀ members, v ≠ .obj members) (w : Json) :
    Strips s t v w ↔ w = r.walk false t v := by
  rw [strips_of_not_obj h, walk_of_not_obj r t h]

theorem strips_iff_of_members (valid : s.Valid) {members : List (String × Json)}
    (each : ∀ m ∈ s.messages, ∀ kept, StripsMembers s m members kept ↔
      kept = walkMembers (compile s.messages) (m.plan (marked s.messages)) members)
    (t : String) (w : Json) :
    Strips s t (.obj members) w ↔ w = (compile s.messages).walk false t (.obj members) := by
  cases declared : s.declares t with
  | false => rw [strips_of_undeclared declared, walk_of_undeclared declared]
  | true =>
    obtain ⟨m, hm, rfl⟩ := declares_iff.mp declared
    rw [strips_obj valid hm, walk_obj valid hm]
    simp [each m hm]

mutual

theorem strips_iff (valid : s.Valid) : ∀ (v : Json) (t : String) (w : Json),
    Strips s t v w ↔ w = (compile s.messages).walk false t v
  | .null, t, w | .bool _, t, w | .int _, t, w | .float _, t, w | .str _, t, w | .arr _, t, w =>
    strips_iff_of_not_obj _ t (by simp) w
  | .obj members, t, w =>
    strips_iff_of_members valid (fun _ hm => stripsMembers_iff valid members hm) t w

theorem stripsField_iff (valid : s.Valid) : ∀ (v : Json) (t : String) (w : Json),
    StripsField s t v w ↔ w = (compile s.messages).walk true t v
  | .null, t, w | .bool _, t, w | .int _, t, w | .float _, t, w | .str _, t, w => by
    rw [stripsField_of_not_arr (by simp)]
    exact strips_iff_of_not_obj (compile s.messages) t (by simp) w
  | .arr items, t, w => by
    rw [stripsField_arr, walk, if_pos rfl]
    simp [stripsItems_iff valid items]
  | .obj members, t, w => by
    rw [stripsField_of_not_arr (by simp)]
    exact strips_iff_of_members valid (fun _ hm => stripsMembers_iff valid members hm) t w

theorem stripsItems_iff (valid : s.Valid) : ∀ (items : List Json) (t : String) (kept : List Json),
    StripsItems s t items kept ↔ kept = walkItems (compile s.messages) t items
  | [], t, kept => stripsItems_nil
  | v :: rest, t, kept => by
    rw [stripsItems_cons, walkItems]
    simp [strips_iff valid v, stripsItems_iff valid rest]

theorem stripsMembers_iff (valid : s.Valid) : ∀ (members : List (String × Json)) {m : Message},
    m ∈ s.messages → ∀ kept, StripsMembers s m members kept ↔
      kept = walkMembers (compile s.messages) (m.plan (marked s.messages)) members
  | [], m, hm, kept => by rw [stripsMembers_nil, walkMembers]
  | (name, v) :: rest, m, hm, kept => by
    have tail := stripsMembers_iff valid rest hm
    rcases m.key_cases name with ⟨f, hf, sensitive, rfl⟩ | ⟨f, hf, shown, rfl, t, typed⟩ | plain
    · rw [stripsMembers_sensitive valid hm hf sensitive, walkMembers_sensitive hf sensitive, tail]
    · rw [stripsMembers_nested valid hm hf shown typed, walkMembers_nested valid hm hf shown typed]
      simp [stripsField_iff valid v, tail]
    · rw [stripsMembers_other plain, walkMembers_other plain]
      simp [tail]

end

end Redactor

/-- Redaction by the plans of accepted declarations always comes to an end, and leaves what the
declarations say and nothing else, also where types of messages hold one another. -/
theorem Registry.redact_eq_iff_strips {s : Schema} {r : Registry}
    (accepted : Registry.ofSchema s = .ok r) (message : String) (v w : Json) :
    r.redactor.redact message v = w ↔ s.Strips message v w := by
  obtain ⟨valid, -, compiled⟩ := Registry.ofSchema_eq_ok_iff.mp accepted
  rw [compiled, Redactor.strips_iff valid, Redactor.redact, eq_comm]

namespace Registry.Sample

/-- Nodes of a tree, each with a secret. -/
def schema : Schema := ⟨[⟨"Node", [⟨"secret", true, none⟩, ⟨"nodes", false, some "Node"⟩]⟩], []⟩

def tree : Json :=
  .obj [("nodes", .arr [.obj [("secret", .str "t"), ("id", .int 2)], .null]), ("id", .int 1),
    ("secret", .str "s")]

def strippedTree : Json := .obj [("nodes", .arr [.obj [("id", .int 2)], .null]), ("id", .int 1)]

end Registry.Sample

theorem Registry.sample_tree_stripped :
    ∃ r, Registry.ofSchema Sample.schema = .ok r ∧
      r.redactor.redact "Node" Sample.tree = Sample.strippedTree ∧
      Sample.schema.Strips "Node" Sample.tree Sample.strippedTree := by
  have accepted : Registry.ofSchema Sample.schema =
      .ok (.ofRedactor (.compile Sample.schema.messages)) := by
    rfl
  have left : Redactor.redact (.compile Sample.schema.messages) "Node" Sample.tree =
      Sample.strippedTree := by
    rfl
  exact ⟨_, accepted, left, (redact_eq_iff_strips accepted "Node" _ _).mp left⟩

end CallGuard
