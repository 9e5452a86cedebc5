import CallGuard.Proofs.Profile.Store

/-!
What a store shows after any operations on it, told by their history. Of each attribute, and of
whether a subject has a profile at all, the last event that says anything of it is believed:
`last_writer_wins` puts the store beside what the history says of each subject apart.
-/
namespace CallGuard.Profile

/-- What profiles can have and updates can give. -/
structure Attribute (α : Type) where
  held : Profile → Option α
  given : Update → Option α
  held_blank : ∀ subject, held (blank subject) = none
  held_apply : ∀ u p, held (apply u p) = (given u).or (held p)

namespace Attribute

def name : Attribute String := ⟨Profile.name, Update.name, fun _ => rfl, fun _ _ => rfl⟩

def email : Attribute String := ⟨Profile.email, Update.email, fun _ => rfl, fun _ _ => rfl⟩

def address : Attribute Address := ⟨Profile.address, Update.address, fun _ => rfl, fun _ _ => rfl⟩

end Attribute

namespace Store

/-! ### Operations and their histories -/

inductive Op where
  | insert (p : Profile)
  | update (subject : String) (u : Update)
  | remove (subject : String)
  deriving DecidableEq

/-- What an operation answers. -/
inductive Answer where
  | inserted
  | updated (p : Profile)
  | refused (fault : StoreFault)
  | removed (had : Bool)
  deriving DecidableEq

def Answer.isRefused : Answer → Bool
  | refused _ => true
  | _ => false

/-- An operation and what it answered. -/
abbrev Event := Op × Answer

namespace Op

def subject : Op → String
  | insert p => p.subject
  | update subject _ => subject
  | remove subject => subject

def step (op : Op) (s : Store) : Answer × Store :=
  match op with
  | insert p => (.inserted, s.insert p)
  | update subject u =>
    match s.update subject u with
    | .error fault => (.refused fault, s)
    | .ok (p, t) => (.updated p, t)
  | remove subject => (.removed (s.remove subject).1, (s.remove subject).2)

end Op

/-- The store that the operations lead to. -/
def run (ops : List Op) (s : Store) : Store := ops.foldl (fun s op => (op.step s).2) s

def history : List Op → Store → List Event
  | [], _ => []
  | op :: rest, s => (op, (op.step s).1) :: history rest (op.step s).2

/-! ### What a history tells -/

/-- The value that is said last, or the initial one if nothing is said. -/
inductive LastSaid {β : Type} (tells : Event → Option β) (initial : β) (events : List Event) :
    β → Prop
  | initially (silent : ∀ e ∈ events, tells e = none) : LastSaid tells initial events initial
  | later (before after : List Event) {e : Event} {v : β}
      (parts : events = before ++ e :: after) (said : tells e = some v)
      (silent : ∀ e ∈ after, tells e = none) : LastSaid tells initial events v

/-- What is said of one subject: events on others say nothing of it. -/
def about {β : Type} (k : String) (tells : Event → Option β) (e : Event) : Option β :=
  if e.1.subject = k then tells e else none

/-- What an event says of whether its subject has a profile. -/
def presence : Event → Option Bool
  | (.insert _, _) => some true
  | (.update _ _, .updated _) => some true
  | (.remove _, _) => some false
  | _ => none

/-- What an event says of its subject's attribute. -/
def written {α : Type} (f : Attribute α) : Event → Option (Option α)
  | (.insert p, _) => some (f.held p)
  | (.update _ u, .updated _) => (f.given u).map some
  | (.remove _, _) => some none
  | _ => none

/-- What is found of a subject is what the events say of it, from what was found at first. -/
structure Recounted (k : String) (first : Option Profile) (events : List Event)
    (found : Option Profile) : Prop where
  absent : found = none ↔ LastSaid (about k presence) first.isSome events false
  name : ∀ p, found = some p → ∀ v,
    p.name = v ↔ LastSaid (about k (written .name)) (first.bind (·.name)) events v
  email : ∀ p, found = some p → ∀ v,
    p.email = v ↔ LastSaid (about k (written .email)) (first.bind (·.email)) events v
  address : ∀ p, found = some p → ∀ v,
    p.address = v ↔ LastSaid (about k (written .address)) (first.bind (·.address)) events v

section LastSaid

variable {β : Type} {tells : Event → Option β} {initial v : β}

theorem lastSaid_nil_iff : LastSaid tells initial [] v ↔ initial = v := by
  constructor
  · intro last
    cases last with
    | initially => rfl
    | later before after parts => simp at parts
  · rintro rfl
    exact .initially (List.forall_mem_nil _)

/-- What the first event tells is to the rest what the initial value is to all. -/
theorem lastSaid_cons_iff {e : Event} {events : List Event} :
    LastSaid tells initial (e :: events) v ↔ LastSaid tells ((tells e).getD initial) events v := by
  constructor
  · intro last
    cases last with
    | initially silent =>
      rw [silent e List.mem_cons_self]
      exact .initially fun later mem => silent later (List.mem_cons_of_mem _ mem)
    | later before after parts said silent =>
      cases before with
      | nil =>
        obtain ⟨rfl, rfl⟩ := List.cons.inj parts
        rw [said]
        exact .initially silent
      | cons _ before =>
        obtain ⟨rfl, rfl⟩ := List.cons.inj parts
        exact .later before after rfl said silent
  · intro last
    cases last with
    | initially silent =>
      cases said : tells e with
      | none => exact .initially (List.forall_mem_cons.mpr ⟨said, silent⟩)
      | some w => exact .later [] events rfl said silent
    | later before after parts said silent =>
      exact .later (e :: before) after (congrArg (e :: ·) parts) said silent

/-- What is read of a store is what is said last, if each step reads as it says. -/
theorem lastSaid_history_iff (read : Store → β)
    (step : ∀ (op : Op) s, read (op.step s).2 = (tells (op, (op.step s).1)).getD (read s))
    (ops : List Op) (s : Store) :
    LastSaid tells (read s) (history ops s) v ↔ read (run ops s) = v := by
  induction ops generalizing s with
  | nil => exact lastSaid_nil_iff
  | cons op rest ih => rw [history, lastSaid_cons_iff, ← step, ih, run, run, List.foldl_cons]

end LastSaid

/-! ### One step -/

/-- What an operation makes of its subject's profile. -/
def Op.outcome : Op → Option Profile → Option Profile
  | insert p, _ => some p
  | update subject u, old =>
    if u.fault? = none then some (apply u (old.getD (blank subject))) else old
  | remove _, _ => none

/-- What an operation answers where its subject has the profile. -/
def Op.reply : Op → Option Profile → Answer
  | insert _, _ => .inserted
  | update subject u, old =>
    u.fault?.elim (.updated (apply u (old.getD (blank subject)))) .refused
  | remove _, old => .removed old.isSome

theorem get?_step (op : Op) (s : Store) (k : String) :
    (op.step s).2.get? k = if op.subject = k then op.outcome (s.get? k) else s.get? k := by
  cases op with
  | insert p => simp [Op.step, Op.subject, Op.outcome, insert, get?_put, eq_comm]
  | update subject u =>
    simp only [Op.step, Op.subject, Op.outcome, update_eq]
    cases u.fault? with
    | some fault => simp
    | none =>
      by_cases here : subject = k
      · simp [get?_put, updated, here]
      · simp [get?_put, here, Ne.symm here]
  | remove subject => simp [Op.step, Op.subject, Op.outcome, get?_remove, eq_comm]

theorem step_reply (op : Op) (s : Store) : (op.step s).1 = op.reply (s.get? op.subject) := by
  cases op with
  | insert p => rfl
  | update subject u =>
    simp only [Op.step, Op.subject, Op.reply, update_eq, updated]
    cases u.fault? <;> rfl
  | remove subject => rfl

/-- A step reads and writes its own subject's profile alone. -/
theorem get?_step_congr {s t : Store} {k : String} (same : s.get? k = t.get? k) (op : Op) :
    (op.step s).2.get? k = (op.step t).2.get? k := by
  rw [get?_step, get?_step, same]

theorem get?_step_of_ne {op : Op} {k : String} (other : op.subject ≠ k) (s : Store) :
    (op.step s).2.get? k = s.get? k := by
  rw [get?_step, if_neg other]

theorem presence_step (k : String) (op : Op) (s : Store) :
    ((op.step s).2.get? k).isSome =
      (about k presence (op, (op.step s).1)).getD (s.get? k).isSome := by
  rw [get?_step, step_reply, about]
  by_cases own : op.subject = k
  · cases op with
    | insert p => simp [own, Op.outcome, presence]
    | update subject u =>
      cases refused : u.fault? <;> simp [own, Op.outcome, Op.reply, presence, refused]
    | remove subject => simp [own, Op.outcome, presence]
  · simp [own]

theorem written_step {α : Type} (f : Attribute α) (k : String) (op : Op) (s : Store) :
    ((op.step s).2.get? k).bind f.held =
      (about k (written f) (op, (op.step s).1)).getD ((s.get? k).bind f.held) := by
  rw [get?_step, step_reply, about]
  by_cases own : op.subject = k
  · cases op with
    | insert p => simp [own, Op.outcome, written]
    | update subject u =>
      cases refused : u.fault? with
      | some fault => simp [own, Op.outcome, Op.reply, written, refused]
      | none =>
        have old : f.held ((s.get? k).getD (blank subject)) = (s.get? k).bind f.held := by
          cases s.get? k with
          | none => exact f.held_blank subject
          | some p => rfl
        cases given : f.given u <;>
          simp [own, Op.outcome, Op.reply, written, refused, f.held_apply, old, given]
    | remove subject => simp [own, Op.outcome, written]
  · simp [own]

/-- A refused update leaves the store as it is. -/
theorem step_of_refused {op : Op} {s : Store} (refused : (op.step s).1.isRefused = true) :
    (op.step s).2 = s := by
  cases op with
  | insert p => cases refused
  | update subject u =>
    cases made : s.update subject u with
    | error fault => simp [Op.step, made]
    | ok updated => simp [Op.step, made, Answer.isRefused] at refused
  | remove subject => cases refused

/-! ### Runs -/

theorem run_cons (op : Op) (rest : List Op) (s : Store) :
    run (op :: rest) s = run rest (op.step s).2 := rfl

theorem held_iff {α : Type} (f : Attribute α) {s : Store} {ops : List Op} {k : String} {p : Profile}
    (found : (run ops s).get? k = some p) (v : Option α) :
    f.held p = v ↔
      LastSaid (about k (written f)) ((s.get? k).bind f.held) (history ops s) v := by
  rw [lastSaid_history_iff (fun s => (s.get? k).bind f.held) (written_step f k), found,
    Option.bind_some]

theorem recounted (s : Store) (ops : List Op) (k : String) :
    Recounted k (s.get? k) (history ops s) ((run ops s).get? k) where
  absent := by
    rw [lastSaid_history_iff (fun s => (s.get? k).isSome) (presence_step k),
      Option.isSome_eq_false_iff, Option.isNone_iff_eq_none]
  name _ := held_iff .name
  email _ := held_iff .email
  address _ := held_iff .address

/-- The operations that were not refused lead to the same store by themselves. -/
theorem run_taken (ops : List Op) (s : Store) :
    run (((history ops s).filter (!·.2.isRefused)).map (·.1)) s = run ops s := by
  induction ops generalizing s with
  | nil => rfl
  | cons op rest ih =>
    rw [history, run_cons, ← ih]
    cases refused : (op.step s).1.isRefused with
    | true => rw [List.filter_cons_of_neg (by simp [refused]), step_of_refused refused]
    | false =>
      rw [List.filter_cons_of_pos (by simp [refused]), List.map_cons, run_cons]

/-- What happens to a subject, and what it is answered, comes of the operations on it alone. -/
theorem run_on {s t : Store} {k : String} (same : s.get? k = t.get? k) (ops : List Op) :
    (history ops s).filter (·.1.subject = k) = history (ops.filter (·.subject = k)) t ∧
      (run ops s).get? k = (run (ops.filter (·.subject = k)) t).get? k := by
  induction ops generalizing s t with
  | nil => exact ⟨rfl, same⟩
  | cons op rest ih =>
    rw [history, run_cons]
    by_cases own : op.subject = k
    · obtain ⟨answers, found⟩ := ih (get?_step_congr same op)
      have answer : (op.step s).1 = (op.step t).1 := by
        rw [step_reply, step_reply, own, same]
      rw [List.filter_cons_of_pos (by simpa using own), List.filter_cons_of_pos (by simpa using own),
        history, run_cons, answers, answer]
      exact ⟨rfl, found⟩
    · rw [List.filter_cons_of_neg (by simpa using own), List.filter_cons_of_neg (by simpa using own)]
      exact ih ((get?_step_of_ne own s).trans same)

/-- Two operations on different subjects that follow each other can change places. -/
theorem filter_swap {op op' : Op} (apart : op.subject ≠ op'.subject) (before after : List Op)
    (k : String) :
    (before ++ op :: op' :: after).filter (·.subject = k) =
      (before ++ op' :: op :: after).filter (·.subject = k) := by
  by_cases own : op.subject = k
  · have other : op'.subject ≠ k := own ▸ apart.symm
    simp [own, other]
  · simp [List.filter_cons, own]

/-- A subject is found as its history tells it, an update that is made answers with what is found
next, and neither updates that are refused nor operations on other subjects count, so that those on
different subjects can change places: no subject is found or answered otherwise. -/
theorem last_writer_wins (s : Store) (ops : List Op) (k : String) :
    Recounted k (s.get? k) (history ops s) ((run ops s).get? k) ∧
    (∀ u p t, (run ops s).update k u = .ok (p, t) → t.get? k = some p) ∧
    run (((history ops s).filter (!·.2.isRefused)).map (·.1)) s = run ops s ∧
    ((history ops s).filter (·.1.subject = k) = history (ops.filter (·.subject = k)) s ∧
      (run ops s).get? k = (run (ops.filter (·.subject = k)) s).get? k) ∧
    ∀ before after op op', op.subject ≠ op'.subject →
      (history (before ++ op :: op' :: after) s).filter (·.1.subject = k) =
        (history (before ++ op' :: op :: after) s).filter (·.1.subject = k) ∧
      (run (before ++ op :: op' :: after) s).get? k =
        (run (before ++ op' :: op :: after) s).get? k := by
  have alone := fun ops : List Op => run_on (rfl : s.get? k = s.get? k) ops
  refine ⟨recounted s ops k, ?_, run_taken ops s, alone ops, ?_⟩
  · intro u p t made
    rw [update_eq] at made
    split at made
    · cases made
    · cases made
      simp [get?_put]
  · intro before after op op' apart
    have same := filter_swap apart before after k
    obtain ⟨answers, found⟩ := alone (before ++ op :: op' :: after)
    obtain ⟨answers', found'⟩ := alone (before ++ op' :: op :: after)
    constructor
    · rw [answers, answers', same]
    · rw [found, found', same]

namespace History.Sample

def first : Store := ofList [⟨"u", some "Ann", some "a@b", none⟩]

def rename : Update := ⟨some "Bob", none, none⟩

/-- Before `u` is removed it is renamed, and refused another email, and after it gets an email, while
`v` comes and goes. -/
def ops : List Op :=
  [.update "u" rename, .insert ⟨"v", none, none, none⟩, .update "u" ⟨some "Eve", some "no", none⟩,
    .remove "u", .update "u" ⟨none, some "u@b", none⟩, .remove "v"]

end History.Sample

open History.Sample in
/-- With the profile its name is gone, old and new, and its email is the one given since. -/
theorem sample_only_since_removal :
    (run ops first).get? "u" = some ⟨"u", none, some "u@b", none⟩ ∧
    LastSaid (about "u" (written .name)) (some "Ann") (history ops first) none ∧
    LastSaid (about "u" (written .email)) (some "a@b") (history ops first) (some "u@b") ∧
    LastSaid (about "v" presence) false (history ops first) false ∧
    (∃ p t, (run ops first).update "u" rename = .ok (p, t) ∧ t.get? "u" = some p) ∧
    (run [.insert ⟨"v", none, none, none⟩, .update "u" rename] first).get? "u" =
      (run [.update "u" rename, .insert ⟨"v", none, none, none⟩] first).get? "u" := by
  obtain ⟨ofU, made, -, -, swap⟩ := last_writer_wins first ops "u"
  have ofV := (last_writer_wins first ops "v").1
  have found : (run ops first).get? "u" = some ⟨"u", none, some "u@b", none⟩ := by decide
  refine ⟨found, (ofU.name _ found _).mp rfl, (ofU.email _ found _).mp rfl, ?_, ?_, ?_⟩
  · exact ofV.absent.mp (by decide)
  · exact ⟨_, _, rfl, made rename _ _ rfl⟩
  · exact (swap [] [] _ _ (by decide)).2

end Store
end CallGuard.Profile
