import CallGuard.Proofs.Schema.Redaction
import Mathlib.Tactic.TFAE

/-!
Which messages have a plan. They are those from which a chain of fields leads to a sensitive one,
and the only ones of which redaction ever changes a value. Scans over the declarations that go on
until one of them marks nothing more find the same messages, in whatever order these are declared
and however they hold one another.
-/
namespace CallGuard

namespace Schema

/-- A chain of fields that hold messages leads from the message to a sensitive field. No other field
of the chain is sensitive. -/
inductive Reaches (s : Schema) : String → Prop
  | here {m : Message} {f : Field} (hm : m ∈ s.messages) (hf : f ∈ m.fields)
      (sensitive : f.sensitive = true) : Reaches s m.name
  | through {m : Message} {f : Field} {t : String} (hm : m ∈ s.messages) (hf : f ∈ m.fields)
      (shown : f.sensitive = false) (typed : f.message = some t) (rest : Reaches s t) :
      Reaches s m.name

variable {s : Schema}

theorem Reaches.declared {message : String} (h : s.Reaches message) :
    s.declares message = true := by
  cases h with
  | here hm => exact declares_iff.mpr ⟨_, hm, rfl⟩
  | through hm => exact declares_iff.mpr ⟨_, hm, rfl⟩

end Schema

namespace Redactor

variable {s : Schema}

/-! ### Rounds -/

theorem reaches_of_touches {m : Message} (hm : m ∈ s.messages) {names : List String}
    (known : ∀ t ∈ names, s.Reaches t) (h : m.touches names = true) : s.Reaches m.name := by
  simp only [Message.touches, List.any_eq_true, Bool.or_eq_true, Option.any_eq_true,
    List.contains_eq_mem, decide_eq_true_eq] at h
  obtain ⟨f, hf, touched⟩ := h
  cases sensitive : f.sensitive with
  | true => exact .here hm hf sensitive
  | false =>
    obtain ⟨t, typed, ht⟩ := touched.resolve_left (by simp [sensitive])
    exact .through hm hf sensitive typed (known t ht)

/-- By induction on the rounds: a round marks messages with fields for those of the round before. -/
theorem reaches_of_mem_mark {n : Nat} {t : String} (h : t ∈ mark s.messages n) : s.Reaches t := by
  induction n generalizing t with
  | zero => cases h
  | succ n ih =>
    obtain ⟨m, hm, rfl⟩ := List.mem_map.mp h
    obtain ⟨declared, touches⟩ := List.mem_filter.mp hm
    exact reaches_of_touches declared (fun _ => ih) touches

theorem mem_marked_iff {t : String} : t ∈ marked s.messages ↔ s.Reaches t := by
  constructor
  · exact reaches_of_mem_mark
  · intro reaches
    induction reaches with
    | here hm hf sensitive =>
      apply mem_marked_of_touches hm
      exact List.any_eq_true.mpr ⟨_, hf, by simp [sensitive]⟩
    | through hm hf _ typed _ known =>
      apply mem_marked_of_touches hm
      exact List.any_eq_true.mpr ⟨_, hf, by simp [typed, known]⟩

theorem needs_compile_iff (valid : s.Valid) {message : String} :
    (compile s.messages).needs message = true ↔ s.Reaches message := by
  rw [← mem_marked_iff]
  by_cases known : message ∈ marked s.messages
  · obtain ⟨m, hm, rfl⟩ := Schema.declares_iff.mp (mem_marked_iff.mp known).declared
    simp [needs, plan?_compile_of_marked valid hm known, known]
  · simp [needs, plan?_compile_of_unmarked known, known]

/-! ### Scans -/

/-- The names of the messages with a sensitive field. -/
def guarded (messages : List Message) : List String :=
  (messages.filter fun m => m.fields.any (·.sensitive)).map (·.name)

/-- Marks a message if a field of it that is not sensitive holds messages of a marked type. -/
def visit (marked : List String) (m : Message) : List String :=
  if m.name ∈ marked then marked
  else if m.fields.any fun f => !f.sensitive && f.message.any marked.contains then m.name :: marked
  else marked

/-- Looks at each message once. What is marked on the way counts for the messages after it. -/
def scan (messages : List Message) (marked : List String) : List String :=
  messages.foldl visit marked

/-- Scans again and again, until one of them marks nothing more. -/
inductive Settles (messages : List Message) : List String → List String → Prop
  | still {marked : List String} (same : (scan messages marked).length = marked.length) :
      Settles messages marked (scan messages marked)
  | again {marked final : List String} (more : (scan messages marked).length ≠ marked.length)
      (rest : Settles messages (scan messages marked) final) : Settles messages marked final

/-- The message is one to mark. -/
def Due (marked : List String) (m : Message) : Prop :=
  m.name ∉ marked ∧ ∃ f ∈ m.fields, f.sensitive = false ∧ ∃ t ∈ marked, f.message = some t

theorem visit_cases (marked : List String) (m : Message) :
    ¬ Due marked m ∧ visit marked m = marked ∨
      Due marked m ∧ visit marked m = m.name :: marked := by
  unfold visit Due
  by_cases known : m.name ∈ marked
  · exact .inl ⟨fun due => due.1 known, if_pos known⟩
  · have asks : (m.fields.any fun f => !f.sensitive && f.message.any marked.contains) = true ↔
        ∃ f ∈ m.fields, f.sensitive = false ∧ ∃ t ∈ marked, f.message = some t := by
      simp [Option.any_eq_true, and_comm]
    rw [if_neg known]
    split
    · rename_i holds
      exact .inr ⟨⟨known, asks.mp holds⟩, rfl⟩
    · rename_i free
      exact .inl ⟨fun due => free (asks.mpr due.2), rfl⟩

/-- What holds at the start of a scan and is kept by each mark that it makes holds at its end. -/
theorem scan_induct {P : List String → Prop} {messages : List Message} {marked : List String}
    (start : P marked)
    (step : ∀ reached, P reached → ∀ m ∈ messages, Due reached m → P (m.name :: reached)) :
    P (scan messages marked) := by
  refine List.foldlRecOn messages visit start fun reached ih m hm => ?_
  rcases visit_cases reached m with ⟨-, same⟩ | ⟨due, more⟩
  · rwa [same]
  · rw [more]
    exact step reached ih m hm due

/-- How many messages are not marked. -/
def unmarked (messages : List Message) (marked : List String) : Nat :=
  (messages.filter (·.name ∉ marked)).length

theorem unmarked_cons_lt {messages : List Message} {marked : List String} {m : Message}
    (hm : m ∈ messages) (fresh : m.name ∉ marked) :
    unmarked messages (m.name :: marked) < unmarked messages marked := by
  have fewer : messages.filter (fun n => n.name ∉ m.name :: marked) =
      (messages.filter (·.name ∉ marked)).filter (·.name ≠ m.name) := by
    rw [List.filter_filter]
    simp
  unfold unmarked
  rw [fewer, List.length_filter_lt_length_iff_exists]
  exact ⟨m, by simp [hm, fresh], by simp⟩

/-- A scan that marks something leaves fewer messages to mark. -/
theorem scan_cases (messages : List Message) (marked : List String) :
    scan messages marked = marked ∨
      marked.length < (scan messages marked).length ∧
        unmarked messages (scan messages marked) < unmarked messages marked := by
  refine scan_induct (P := fun reached => reached = marked ∨ marked.length < reached.length ∧
    unmarked messages reached < unmarked messages marked) (.inl rfl) ?_
  intro reached ih m hm due
  have fewer := unmarked_cons_lt hm due.1
  have longer : reached.length < (m.name :: reached).length := Nat.lt_succ_self _
  rcases ih with rfl | ⟨grown, less⟩
  · exact .inr ⟨longer, fewer⟩
  · exact .inr ⟨Nat.lt_trans grown longer, Nat.lt_trans fewer less⟩

/-- The scans come to an end, whatever is marked at their start. -/
theorem exists_settles (messages : List Message) (marked : List String) :
    ∃ final, Settles messages marked final := by
  induction left : unmarked messages marked using Nat.strongRecOn generalizing marked with
  | ind n ih =>
    by_cases same : (scan messages marked).length = marked.length
    · exact ⟨_, .still same⟩
    · have fewer : unmarked messages (scan messages marked) < n := by
        rcases scan_cases messages marked with still | ⟨-, fewer⟩
        · exact absurd (congrArg List.length still) same
        · rwa [← left]
      obtain ⟨final, rest⟩ := ih _ fewer _ rfl
      exact ⟨final, .again same rest⟩

theorem mem_scan {messages : List Message} {marked : List String} {t : String} (h : t ∈ marked) :
    t ∈ scan messages marked :=
  scan_induct (P := (t ∈ ·)) h fun _ known _ _ _ => List.mem_cons_of_mem _ known

theorem reaches_of_mem_scan {marked : List String} (known : ∀ t ∈ marked, s.Reaches t) :
    ∀ t ∈ scan s.messages marked, s.Reaches t := by
  refine scan_induct (P := fun reached => ∀ t ∈ reached, s.Reaches t) known ?_
  intro reached ih m hm due
  obtain ⟨-, f, hf, shown, t, ht, typed⟩ := due
  exact List.forall_mem_cons.mpr ⟨.through hm hf shown typed (ih t ht), ih⟩

/-- A scan that marks nothing more found nothing to mark. -/
theorem not_due_of_scan_eq {messages : List Message} {marked : List String}
    (still : scan messages marked = marked) : ∀ m ∈ messages, ¬ Due marked m := by
  induction messages with
  | nil => simp
  | cons m rest ih =>
    rcases visit_cases marked m with ⟨settled, same⟩ | ⟨-, more⟩
    · have later : scan rest marked = marked := by
        rwa [scan, List.foldl_cons, same] at still
      exact List.forall_mem_cons.mpr ⟨settled, ih later⟩
    · have longer : scan rest (m.name :: marked) = marked := by
        rwa [scan, List.foldl_cons, more] at still
      rcases scan_cases rest (m.name :: marked) with same | ⟨grown, -⟩
      · rw [same] at longer
        exact absurd (congrArg List.length longer) (by simp)
      · rw [longer, List.length_cons] at grown
        omega

/-- What the scans end with: nothing is left to mark, and nothing of the start is lost. -/
theorem Settles.closed {messages : List Message} {marked final : List String}
    (settles : Settles messages marked final) :
    (∀ t ∈ marked, t ∈ final) ∧ ∀ m ∈ messages, ¬ Due final m := by
  induction settles with
  | @still marked same =>
    have still : scan messages marked = marked := by
      rcases scan_cases messages marked with still | ⟨longer, -⟩
      · exact still
      · omega
    rw [still]
    exact ⟨fun _ => id, not_due_of_scan_eq still⟩
  | again _ _ ih => exact ⟨fun t ht => ih.1 t (mem_scan ht), ih.2⟩

theorem Settles.reaches {marked final : List String} (settles : Settles s.messages marked final)
    (known : ∀ t ∈ marked, s.Reaches t) : ∀ t ∈ final, s.Reaches t := by
  induction settles with
  | still => exact reaches_of_mem_scan known
  | again _ _ ih => exact ih (reaches_of_mem_scan known)

theorem Settles.mem_iff {final : List String}
    (settles : Settles s.messages (guarded s.messages) final) {t : String} :
    t ∈ final ↔ s.Reaches t := by
  constructor
  · refine settles.reaches (fun t ht => ?_) t
    obtain ⟨m, hm, rfl⟩ := List.mem_map.mp ht
    obtain ⟨declared, sensitive⟩ := List.mem_filter.mp hm
    obtain ⟨f, hf, sensitive⟩ := List.any_eq_true.mp sensitive
    exact .here declared hf sensitive
  · intro reaches
    obtain ⟨kept, settled⟩ := settles.closed
    induction reaches with
    | @here m f hm hf sensitive =>
      have start : m.name ∈ guarded s.messages :=
        List.mem_map_of_mem (List.mem_filter.mpr ⟨hm, List.any_eq_true.mpr ⟨f, hf, sensitive⟩⟩)
      exact kept _ start
    | through hm hf shown typed _ known =>
      by_contra fresh
      exact settled _ hm ⟨fresh, _, hf, shown, _, known, typed⟩

/-! ### Values that change -/

/-- Objects in the fields of the chain, and a member in the sensitive field at its end. -/
theorem exists_changed_of_reaches (valid : s.Valid) {message : String} (h : s.Reaches message) :
    ∃ members, (compile s.messages).redact message (.obj members) ≠ .obj members := by
  induction h with
  | @here m f hm hf sensitive =>
    have removed : s.Strips m.name (.obj [(f.name, .null)]) (.obj []) :=
      .object hm (.sensitive hf sensitive .nil)
    refine ⟨[(f.name, .null)], ?_⟩
    rw [redact, ← (strips_iff valid _ _ _).mp removed]
    simp
  | @through m f t hm hf shown typed _ ih =>
    obtain ⟨members, changed⟩ := ih
    have inner := (strips_iff valid (.obj members) t _).mpr rfl
    have outer : s.Strips m.name (.obj [(f.name, .obj members)])
        (.obj [(f.name, (compile s.messages).redact t (.obj members))]) :=
      .object hm (.nested hf shown typed (.one (by simp) inner) .nil)
    refine ⟨[(f.name, .obj members)], ?_⟩
    rw [redact, ← (strips_iff valid _ _ _).mp outer]
    simpa using changed

end Redactor

/-- The messages with a plan are those from which a chain of fields leads to a sensitive one, and
those of which some value is changed. The scans that mark them come to an end, with just these. -/
theorem Registry.planned_where_it_matters {s : Schema} {r : Registry}
    (accepted : Registry.ofSchema s = .ok r) :
    (∃ final, Redactor.Settles s.messages (Redactor.guarded s.messages) final ∧
      ∀ message, message ∈ final ↔ r.redactor.needs message = true) ∧
    ∀ message,
      [r.redactor.needs message = true,
        s.declares message = true ∧ s.Reaches message,
        ∃ v, r.redactor.redact message v ≠ v].TFAE := by
  obtain ⟨valid, -, compiled⟩ := Registry.ofSchema_eq_ok_iff.mp accepted
  rw [compiled]
  constructor
  · obtain ⟨final, settles⟩ := Redactor.exists_settles s.messages (Redactor.guarded s.messages)
    refine ⟨final, settles, fun message => ?_⟩
    rw [settles.mem_iff, Redactor.needs_compile_iff valid]
  · intro message
    tfae_have 1 → 2 := by
      intro needed
      have reaches := (Redactor.needs_compile_iff valid).mp needed
      exact ⟨reaches.declared, reaches⟩
    tfae_have 2 → 3 := by
      rintro ⟨-, reaches⟩
      obtain ⟨members, changed⟩ := Redactor.exists_changed_of_reaches valid reaches
      exact ⟨.obj members, changed⟩
    tfae_have 3 → 1 := by
      rintro ⟨v, changed⟩
      by_contra unneeded
      exact changed (Redactor.redact_of_not_needs (by simpa using unneeded) v)
    tfae_finish

namespace Registry.Sample

/-- A ring of types that hold one another, and only the last of them with a secret. The first is
declared before all that it leads to. -/
def ring : Schema :=
  ⟨[⟨"Org", [⟨"teams", false, some "Team"⟩]⟩,
    ⟨"Team", [⟨"org", false, some "Org"⟩, ⟨"members", false, some "User"⟩]⟩,
    ⟨"User", [⟨"team", false, some "Team"⟩, ⟨"email", true, none⟩]⟩], []⟩

end Registry.Sample

theorem Registry.sample_ring_planned :
    ∃ r, Registry.ofSchema Sample.ring = .ok r ∧ r.redactor.needs "Org" = true ∧
      ∃ v, r.redactor.redact "Org" v ≠ v := by
  have accepted : Registry.ofSchema Sample.ring =
      .ok (.ofRedactor (.compile Sample.ring.messages)) := by
    rfl
  have same := (planned_where_it_matters accepted).2 "Org"
  have user : Sample.ring.Reaches "User" :=
    .here (m := ⟨"User", _⟩) (.tail _ (.tail _ (.head _))) (.tail _ (.head _)) rfl
  have team : Sample.ring.Reaches "Team" :=
    .through (m := ⟨"Team", _⟩) (.tail _ (.head _)) (.tail _ (.head _)) rfl rfl user
  have org : Sample.ring.Reaches "Org" :=
    .through (m := ⟨"Org", _⟩) (.head _) (.head _) rfl rfl team
  have chain : Sample.ring.declares "Org" = true ∧ Sample.ring.Reaches "Org" := ⟨rfl, org⟩
  exact ⟨_, accepted, (same.out 0 1).mpr chain, (same.out 1 2).mp chain⟩

end CallGuard
