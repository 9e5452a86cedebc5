import CallGuard.Proofs.Json.Document
import CallGuard.Proofs.Json.Expect
import CallGuard.Token.Payload

/-!
The claims of a payload are the members of the object that it is as a document, none of which has a
registered name twice or is given up halfway.
-/
namespace CallGuard

namespace Json

theorem exists_merged_eq_obj_iff {v : Json} :
    (∃ members, v.merged = .obj members) ↔ ∃ written, v = .obj written := by
  cases v <;> simp [merged, ofMembers]

/-- Objects are what begins with a brace. -/
theorem brace_iff {fuel depth : Nat} {bs rest : Bytes} {v : Json}
    (read : scanValue fuel depth bs = .ok (v, rest)) :
    (∃ tail, skipSpace bs = Ascii.openBrace :: tail) ↔ ∃ members, v = .obj members := by
  obtain ⟨k, b, tail, front, step⟩ := exists_step read
  constructor
  · rintro ⟨tail', brace⟩
    obtain ⟨rfl, rfl⟩ := List.cons.inj (front.symm.trans brace)
    obtain ⟨members, rfl, -⟩ := step.of_openBrace
    exact ⟨members, rfl⟩
  · rintro ⟨members, rfl⟩
    exact ⟨tail, step.of_obj.1 ▸ front⟩

end Json

namespace Token.Claims

open Json

theorem scan_eq_ok_iff {bs rest : Bytes} {claims : Claims} :
    scan bs = .ok (claims, rest) ↔
      ∃ v, scanValue (readFuel bs) depthLimit bs = .ok (v, rest) ∧ v.merged = .obj claims := by
  constructor
  · intro h
    unfold scan at h
    split at h
    · rename_i tail brace
      obtain ⟨⟨v, rest'⟩, read, same⟩ := Except.bind_eq_ok_iff.mp h
      obtain ⟨members, merged⟩ := exists_merged_eq_obj_iff.mpr ((brace_iff read).mp ⟨tail, brace⟩)
      simp only [merged] at same
      cases same
      exact ⟨_, read, merged⟩
    · exact absurd h (refuse_ne_ok _ _ _)
  · rintro ⟨v, read, merged⟩
    obtain ⟨written, rfl⟩ := exists_merged_eq_obj_iff.mp ⟨_, merged⟩
    obtain ⟨tail, brace⟩ := (brace_iff read).mpr ⟨written, rfl⟩
    unfold scan
    rw [brace]
    refine Except.bind_eq_ok_iff.mpr ⟨_, read, ?_⟩
    simp only [merged]
    rfl

/-! ### Registered names -/

def IsNested (v : Json) : Prop := (∃ xs, v = .arr xs) ∨ ∃ ms, v = .obj ms

/-- The claim is passed over as a whole: no list or object is the subject, and none that holds
something is a time. -/
def Passes (name : String) (v : Json) : Prop :=
  (isTime name → IsNested v → v = .arr [] ∨ v = .obj []) ∧ (name = "sub" → ¬ IsNested v)

/-- Neither a further member comes next nor the end of an object. -/
def Stuck (bs : Bytes) : Prop := ∀ next, ¬ KeyAt false bs next

variable {fuel depth : Nat} {bs rest left : Bytes} {v : Json} {name : String}

theorem stuck_cons {c : UInt8} (front : Ascii.isSpace c = false ∧ c ≠ Ascii.comma ∧
    c ≠ Ascii.closeBrace) (more : Bytes) : Stuck (c :: more) := by
  have bare := skipSpace_cons front.1 more
  intro next place
  cases place with
  | close close => exact front.2.2 (List.cons.inj (bare.symm.trans close)).1
  | later comma => exact front.2.1 (List.cons.inj (bare.symm.trans comma)).1

theorem isOpen_iff {b : UInt8} {tail : Bytes} (step : Step fuel depth b tail v rest) :
    isOpen b = true ↔ IsNested v := by
  rw [isOpen, Bool.or_eq_true, beq_iff_eq, beq_iff_eq]
  constructor
  · rintro (rfl | rfl)
    · obtain ⟨xs, rfl, -⟩ := step.of_openBracket
      exact .inl ⟨xs, rfl⟩
    · obtain ⟨ms, rfl, -⟩ := step.of_openBrace
      exact .inr ⟨ms, rfl⟩
  · rintro (⟨xs, rfl⟩ | ⟨ms, rfl⟩)
    · exact .inl step.of_arr.1
    · exact .inr step.of_obj.1

/-- Behind the bracket of a list or an object comes what is in it, or the bracket that closes it. -/
theorem inside_of_step {b : UInt8} {tail : Bytes} (step : Step fuel depth b tail v rest)
    (nested : IsNested v) :
    (v = .arr [] ∨ v = .obj []) ∧ (∃ c, skipSpace tail = c :: rest ∧ isClose b c) ∨
      ¬ (v = .arr [] ∨ v = .obj []) ∧ ∃ c after, skipSpace tail = c :: after ∧ ¬ isClose b c ∧
        Stuck (c :: after) := by
  rcases nested with ⟨xs, rfl⟩ | ⟨ms, rfl⟩
  · obtain ⟨rfl, items⟩ := step.of_arr
    cases fuel with
    | zero => cases items
    | succ fuel =>
      cases xs with
      | nil =>
        obtain ⟨front⟩ := scanItems_nil_iff.mp items
        exact .inl ⟨.inl rfl, _, front, by decide⟩
      | cons x xs =>
        obtain ⟨next, middle, place, item, -⟩ := scanItems_cons_iff.mp items
        cases place with
        | @first _ after c front inner =>
          obtain ⟨k, b, tail', begins, step⟩ := exists_step item
          rw [← front, skipSpace_skipSpace, front] at begins
          obtain ⟨rfl, rfl⟩ := List.cons.inj begins
          have inner : ¬ isClose Ascii.openBracket c := by simpa [isClose] using inner
          exact .inr ⟨by simp, c, after, front, inner, stuck_cons step.front _⟩
  · obtain ⟨rfl, members⟩ := step.of_obj
    cases fuel with
    | zero => cases members
    | succ fuel =>
      cases ms with
      | nil =>
        obtain ⟨front⟩ := scanMembers_nil_iff.mp members
        exact .inl ⟨.inr rfl, _, front, by decide⟩
      | cons m ms =>
        obtain ⟨next, behind, after, middle, member, -⟩ := scanMembers_cons_iff.mp members
        cases member.place with
        | first front => exact .inr ⟨by simp, _, _, front, by decide, stuck_cons (by decide) _⟩

theorem skipClaim_cases (name : String) (read : scanValue fuel depth bs = .ok (v, rest)) :
    Passes name v ∧ skipClaim name bs = .ok ((), rest) ∨
      ¬ Passes name v ∧ ∃ left, skipClaim name bs = .ok ((), left) ∧ Stuck left := by
  obtain ⟨k, b, tail, front, step⟩ := exists_step read
  unfold skipClaim
  rw [front]
  dsimp only
  split
  · rename_i given
    obtain ⟨time, opens⟩ := Bool.and_eq_true_iff.mp given
    have nested := (isOpen_iff step).mp opens
    rcases inside_of_step step nested with ⟨empty, c, inside, close⟩ |
      ⟨filled, c, after, inside, inner, stuck⟩
    · have no_subject : name ≠ "sub" := by
        rintro rfl
        exact absurd time (by decide)
      rw [inside]
      dsimp only
      rw [if_pos close]
      exact .inl ⟨⟨fun _ _ => empty, fun subject => absurd subject no_subject⟩, rfl⟩
    · rw [inside]
      dsimp only
      rw [if_neg inner]
      exact .inr ⟨fun passes => filled (passes.1 time nested), _, rfl, stuck⟩
  · rename_i no_time
    split
    · rename_i given
      obtain ⟨subject, opens⟩ := Bool.and_eq_true_iff.mp given
      have nested := (isOpen_iff step).mp opens
      exact .inr ⟨fun passes => passes.2 (beq_iff_eq.mp subject) nested, _, rfl,
        stuck_cons step.front tail⟩
    · rename_i no_subject
      rw [← scanValue_skipSpace, front] at read
      refine .inl ⟨⟨fun time nested => ?_, fun subject nested => ?_⟩, skipValue_of_scanValue read⟩
      · exact absurd (Bool.and_eq_true_iff.mpr ⟨time, (isOpen_iff step).mpr nested⟩) no_time
      · exact absurd (Bool.and_eq_true_iff.mpr
          ⟨beq_iff_eq.mpr subject, (isOpen_iff step).mpr nested⟩) no_subject

theorem scanOnce_stuck {seen : List String} {k : Nat} (stuck : Stuck bs) (found : Unit × Bytes) :
    scanOnce seen k false bs ≠ .ok found := by
  intro h
  cases k with
  | zero => cases h
  | succ k =>
    obtain ⟨next, place, -⟩ := Except.bind_eq_ok_iff.mp h
    exact stuck next (nextKey_eq_ok_iff.mp place)

theorem scanOnce_eq_ok_iff {seen : List String} {first : Bool} {ms : List (String × Json)}
    {k : Nat} (known : ∀ n ∈ seen, n ∈ registered)
    (read : scanMembers fuel depth first bs = .ok (ms, rest)) (enough : bs.length < k) :
    scanOnce seen k first bs = .ok ((), left) ↔
      (Once registered seen ms ∧ ∀ m ∈ ms, Passes m.1 m.2) ∧ left = rest := by
  obtain ⟨k, rfl⟩ : ∃ j, k = j + 1 := ⟨k - 1, by omega⟩
  induction ms generalizing fuel k seen first bs with
  | nil =>
    cases fuel with
    | zero => cases read
    | succ fuel =>
      rw [scanOnce, Except.bind_of_ok (nextKey_eq_ok_iff.mpr (scanMembers_nil_iff.mp read))]
      simp [once_of_nothing, pure, Except.pure, eq_comm]
  | cons m ms ih =>
    obtain ⟨name, v⟩ := m
    cases fuel with
    | zero => cases read
    | succ fuel =>
      obtain ⟨next, behind, after, middle, member, more⟩ := scanMembers_cons_iff.mp read
      obtain ⟨short, shorter⟩ := member.length_lt
      obtain ⟨k, rfl⟩ : ∃ j, k = j + 1 := ⟨k - 1, by omega⟩
      rw [scanOnce, Except.bind_of_ok (nextKey_eq_ok_iff.mpr member.place)]
      dsimp only
      rw [Except.bind_of_ok member.named, once_cons_iff known, List.forall_mem_cons]
      dsimp only
      split
      · rename_i old
        refine iff_of_false (unfitWhole_ne_ok _ _ _ _) ?_
        rintro ⟨⟨⟨new, -⟩, -⟩, -⟩
        exact new (List.contains_iff_mem.mp old)
      · rename_i new
        have new : name ∉ seen := by simpa using new
        rw [Except.bind_of_ok member.colon]
        rcases skipClaim_cases name member.read with
          ⟨passes, skipped⟩ | ⟨fails, after', skipped, stuck⟩
        · rw [Except.bind_of_ok skipped, ih (mem_listed_of_seen _ known) more k (by omega)]
          simp [new, passes]
        · rw [Except.bind_of_ok skipped]
          refine iff_of_false (scanOnce_stuck stuck _) ?_
          rintro ⟨⟨-, passes, -⟩, -⟩
          exact fails passes

/-- The claims as they are written: no registered name twice, and no claim that is given up. -/
def Valid (ms : List (String × Json)) : Prop :=
  (namesAmong registered ms).Nodup ∧ ∀ m ∈ ms, Passes m.1 m.2

theorem scanValid_eq_ok_iff {ms : List (String × Json)}
    (read : scanValue fuel depth bs = .ok (.obj ms, rest)) :
    scanValid bs = .ok ((), left) ↔ Valid ms ∧ left = rest := by
  obtain ⟨k, b, tail, front, step⟩ := exists_step read
  obtain ⟨rfl, members⟩ := step.of_obj
  have long := length_lt_of_skipSpace front
  unfold scanValid
  rw [front]
  change scanOnce [] (bs.length + 1) true tail = _ ↔ _
  rw [scanOnce_eq_ok_iff (by simp) members (by omega), once_iff_nodup, Valid]

theorem read_eq_ok_iff {bs : Bytes} {claims : Claims} :
    read bs = .ok claims ↔ Json.read bs = .ok (.obj claims) ∧ runScan scanValid bs = .ok () := by
  have document : Json.read bs = .ok (.obj claims) ↔ runScan scan bs = .ok claims := by
    rw [Json.read, Except.map_eq_ok_iff]
    simp only [runScan_eq_ok_iff, scan_eq_ok_iff]
    constructor
    · rintro ⟨v, ⟨rest, read, ended⟩, merged⟩
      exact ⟨rest, ⟨v, read, merged⟩, ended⟩
    · rintro ⟨rest, ⟨v, read, merged⟩, ended⟩
      exact ⟨v, ⟨rest, read, ended⟩, merged⟩
  rw [document, read, Except.bind_eq_ok_iff]
  simp only [Except.bind_eq_ok_iff]
  constructor
  · rintro ⟨_, document, ⟨⟩, once, same⟩
    cases same
    exact ⟨document, once⟩
  · rintro ⟨document, once⟩
    exact ⟨_, document, (), once, rfl⟩

/-- A payload is read if it is an object with valid claims; of two others with one name the later
counts. -/
theorem read_iff_written {bs : Bytes} {claims : Claims} :
    read bs = .ok claims ↔ ∃ written,
      runScan (scanValue (readFuel bs) depthLimit) bs = .ok (.obj written) ∧ Valid written ∧
        (Json.obj written).merged = .obj claims := by
  rw [read_eq_ok_iff, Json.read, Except.map_eq_ok_iff]
  constructor
  · rintro ⟨⟨v, document, merged⟩, valid⟩
    obtain ⟨written, rfl⟩ := exists_merged_eq_obj_iff.mp ⟨_, merged⟩
    obtain ⟨rest, read, -⟩ := runScan_eq_ok_iff.mp document
    obtain ⟨left, scanned, -⟩ := runScan_eq_ok_iff.mp valid
    exact ⟨written, document, ((scanValid_eq_ok_iff read).mp scanned).1, merged⟩
  · rintro ⟨written, document, valid, merged⟩
    obtain ⟨rest, read, ended⟩ := runScan_eq_ok_iff.mp document
    refine ⟨⟨_, document, merged⟩, runScan_eq_ok_iff.mpr ⟨rest, ?_, ended⟩⟩
    exact (scanValid_eq_ok_iff read).mpr ⟨valid, rfl⟩

end Token.Claims
end CallGuard
