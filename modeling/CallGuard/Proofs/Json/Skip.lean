import CallGuard.Proofs.Json.Token

/-!
Passing over a value. What can be read can be passed over, and both leave the same bytes. Neither
depends on the count of its steps, as long as there are two for each byte.
-/
namespace CallGuard.Json

variable {fuel depth : Nat} {bs rest : Bytes} {v : Json}

theorem skipGo_skipSpace (k : Nat) (bs : Bytes) : skipGo k (skipSpace bs) = skipGo k bs := by
  cases k with
  | zero => rfl
  | succ k => rw [skipGo, skipGo, skipSpace_skipSpace]

/-- A value that has been read was not nothing, and is read again and passed over by two steps a
byte. -/
def RereadsValue (fuel : Nat) : Prop :=
  ∀ ⦃depth : Nat⦄ ⦃bs rest : Bytes⦄ ⦃v : Json⦄, scanValue fuel depth bs = .ok (v, rest) →
    rest.length < bs.length ∧ ∀ k, 2 * bs.length ≤ k →
      scanValue k depth bs = .ok (v, rest) ∧ skipGo k bs = .ok ((), rest)

def RereadsItems (fuel : Nat) : Prop :=
  ∀ ⦃depth : Nat⦄ ⦃first : Bool⦄ ⦃bs rest : Bytes⦄ ⦃xs : List Json⦄,
    scanItems fuel depth first bs = .ok (xs, rest) →
      rest.length < bs.length ∧ ∀ k, 2 * bs.length < k →
        scanItems k depth first bs = .ok (xs, rest) ∧ skipItems k first bs = .ok ((), rest)

def RereadsMembers (fuel : Nat) : Prop :=
  ∀ ⦃depth : Nat⦄ ⦃first : Bool⦄ ⦃bs rest : Bytes⦄ ⦃ms : List (String × Json)⦄,
    scanMembers fuel depth first bs = .ok (ms, rest) →
      rest.length < bs.length ∧ ∀ k, 2 * bs.length < k →
        scanMembers k depth first bs = .ok (ms, rest) ∧ skipMembers k first bs = .ok ((), rest)

/-- What one induction on the count of steps shows together. -/
structure Rereads (fuel : Nat) : Prop where
  value : RereadsValue fuel
  items : RereadsItems fuel
  members : RereadsMembers fuel

/-- Only lists and objects take more than one step, for what is in them. -/
theorem Rereads.step {b : UInt8} {tail : Bytes} (ih : Rereads fuel)
    (front : skipSpace (b :: tail) = b :: tail) (step : Step fuel depth b tail v rest) :
    rest.length < tail.length + 1 ∧ ∀ k, 2 * tail.length < k →
      Step k depth b tail v rest ∧ skipGo (k + 1) (b :: tail) = .ok ((), rest) := by
  simp only [skipGo, front]
  cases step with
  | null word =>
    have left := congrArg List.length (append_of_scanWord word)
    rw [List.length_append] at left
    refine ⟨by omega, fun k _ => ⟨.null word, ?_⟩⟩
    rw [if_pos rfl, word]
  | true word =>
    have left := congrArg List.length (append_of_scanWord word)
    rw [List.length_append] at left
    refine ⟨by omega, fun k _ => ⟨.true word, ?_⟩⟩
    rw [if_neg (by decide), if_pos rfl, word]
  | false word =>
    have left := congrArg List.length (append_of_scanWord word)
    rw [List.length_append] at left
    refine ⟨by omega, fun k _ => ⟨.false word, ?_⟩⟩
    rw [if_neg (by decide), if_neg (by decide), if_pos rfl, word]
  | number begins read value =>
    obtain ⟨shorter, skipped⟩ := skip_of_scanNumber read
    refine ⟨shorter, fun k _ => ⟨.number begins read value, ?_⟩⟩
    iterate 3 rw [if_neg (ne_of_beginsNumber begins (by decide))]
    rw [← skipped]
    rcases begins with minus | digit
    · rw [if_pos minus, if_pos minus]
    · rw [if_pos digit]
  | str read =>
    obtain ⟨shorter, skipped⟩ := skipString_of_scanString read
    refine ⟨by omega, fun k _ => ⟨.str read, ?_⟩⟩
    iterate 5 rw [if_neg (by decide)]
    rw [if_pos rfl, skipped]
  | arr deep read =>
    obtain ⟨shorter, again⟩ := ih.items read
    refine ⟨by omega, fun k enough => ?_⟩
    obtain ⟨read, skipped⟩ := again k enough
    refine ⟨.arr deep read, ?_⟩
    iterate 6 rw [if_neg (by decide)]
    rw [if_pos rfl, skipped]
  | obj deep read =>
    obtain ⟨shorter, again⟩ := ih.members read
    refine ⟨by omega, fun k enough => ?_⟩
    obtain ⟨read, skipped⟩ := again k enough
    refine ⟨.obj deep read, ?_⟩
    iterate 7 rw [if_neg (by decide)]
    rw [if_pos rfl, skipped]

theorem Rereads.value_succ (ih : Rereads fuel) : RereadsValue (fuel + 1) := by
  intro depth bs rest v h
  obtain ⟨b, tail, front, step⟩ := step_of_scanValue h
  have long := length_lt_of_skipSpace front
  have bare : skipSpace (b :: tail) = b :: tail := by rw [← front, skipSpace_skipSpace]
  obtain ⟨shorter, again⟩ := ih.step bare step
  refine ⟨by omega, fun k enough => ?_⟩
  obtain ⟨k, rfl⟩ : ∃ j, k = j + 1 := ⟨k - 1, by omega⟩
  obtain ⟨step, skipped⟩ := again k (by omega)
  refine ⟨scanValue_of_step front step, ?_⟩
  rw [← skipGo_skipSpace, front, skipped]

theorem ItemAt.length_le {first : Bool} {next : Bytes} (h : ItemAt first bs (.member next)) :
    next.length ≤ bs.length := by
  cases h with
  | first front => exact length_lt_of_skipSpace front
  | later comma front =>
    have long := length_lt_of_skipSpace comma
    have longer := length_lt_of_skipSpace front
    rw [List.length_cons]
    omega

theorem ItemAt.skipItems_eq {first : Bool} {next : Bytes} (h : ItemAt first bs (.member next))
    (k : Nat) :
    skipItems (k + 1) first bs = skipGo k next >>= fun left => skipItems k false left.2 := by
  cases h with
  | first front inner =>
    rw [skipItems, front]
    dsimp only
    rw [if_neg inner, if_pos (by simp), if_pos rfl]
  | later comma front inner =>
    rw [skipItems, comma, ← front, skipGo_skipSpace]
    rfl

theorem Rereads.items_succ (ih : Rereads fuel) : RereadsItems (fuel + 1) := by
  intro depth first bs rest xs h
  cases xs with
  | nil =>
    obtain ⟨front⟩ := scanItems_nil_iff.mp h
    have long := length_lt_of_skipSpace front
    refine ⟨by omega, fun k enough => ?_⟩
    obtain ⟨k, rfl⟩ : ∃ j, k = j + 1 := ⟨k - 1, by omega⟩
    exact ⟨scanItems_nil_iff.mpr (.close front), by simp [skipItems, front]⟩
  | cons x xs =>
    obtain ⟨next, middle, place, read, more⟩ := scanItems_cons_iff.mp h
    obtain ⟨shorter, again⟩ := ih.value read
    obtain ⟨shortest, again_more⟩ := ih.items more
    have long := place.length_le
    refine ⟨by omega, fun k enough => ?_⟩
    obtain ⟨k, rfl⟩ : ∃ j, k = j + 1 := ⟨k - 1, by omega⟩
    obtain ⟨read, skipped⟩ := again k (by omega)
    obtain ⟨more, skipped_more⟩ := again_more k (by omega)
    refine ⟨scanItems_cons_iff.mpr ⟨next, middle, place, read, more⟩, ?_⟩
    rw [place.skipItems_eq, Except.bind_of_ok skipped, skipped_more]

theorem KeyAt.length_lt {first : Bool} {next : Bytes} (h : KeyAt first bs (.member next)) :
    next.length < bs.length := by
  cases h with
  | first front => exact length_lt_of_skipSpace front
  | later comma front =>
    exact (length_lt_of_skipSpace front).trans (length_lt_of_skipSpace comma)

theorem KeyAt.skipMembers_eq {first : Bool} {next : Bytes} (h : KeyAt first bs (.member next))
    (k : Nat) :
    skipMembers (k + 1) first bs = skipString next >>= fun name => scanColon name.2 >>= fun after =>
      skipGo k after >>= fun left => skipMembers k false left.2 := by
  cases h with
  | first front =>
    have bare : skipSpace (Ascii.quote :: next) = Ascii.quote :: next := by
      rw [← front, skipSpace_skipSpace]
    rw [skipMembers, front]
    dsimp only
    rw [if_neg (by decide), if_pos (by decide), if_pos rfl, bare]
    exact if_pos rfl
  | later comma front =>
    rw [skipMembers, comma]
    dsimp only
    rw [if_neg (by decide), if_pos (by decide), if_neg (by decide), front]
    exact if_pos rfl

theorem length_of_scanColon {after : Bytes} (h : scanColon bs = .ok after) :
    after.length < bs.length :=
  length_lt_of_skipSpace (scanColon_eq_ok_iff.mp h)

theorem Rereads.members_succ (ih : Rereads fuel) : RereadsMembers (fuel + 1) := by
  intro depth first bs rest ms h
  cases ms with
  | nil =>
    obtain ⟨front⟩ := scanMembers_nil_iff.mp h
    have long := length_lt_of_skipSpace front
    refine ⟨by omega, fun k enough => ?_⟩
    obtain ⟨k, rfl⟩ : ∃ j, k = j + 1 := ⟨k - 1, by omega⟩
    exact ⟨scanMembers_nil_iff.mpr (.close front), by simp [skipMembers, front]⟩
  | cons m ms =>
    obtain ⟨next, behind, after, middle, ⟨place, named, colon, read⟩, more⟩ :=
      scanMembers_cons_iff.mp h
    obtain ⟨short, skipped_name⟩ := skipString_of_scanString named
    obtain ⟨shorter, again⟩ := ih.value read
    obtain ⟨shortest, again_more⟩ := ih.members more
    have long := place.length_lt
    have longer := length_of_scanColon colon
    refine ⟨by omega, fun k enough => ?_⟩
    obtain ⟨k, rfl⟩ : ∃ j, k = j + 1 := ⟨k - 1, by omega⟩
    obtain ⟨read, skipped⟩ := again k (by omega)
    obtain ⟨more, skipped_more⟩ := again_more k (by omega)
    refine ⟨scanMembers_cons_iff.mpr
      ⟨next, behind, after, middle, ⟨place, named, colon, read⟩, more⟩, ?_⟩
    rw [place.skipMembers_eq, Except.bind_of_ok skipped_name, Except.bind_of_ok colon,
      Except.bind_of_ok skipped, skipped_more]

/-- By induction on the count of steps that the reading was given. -/
theorem rereads (fuel : Nat) : Rereads fuel := by
  induction fuel with
  | zero => exact ⟨nofun, nofun, nofun⟩
  | succ fuel ih => exact ⟨ih.value_succ, ih.items_succ, ih.members_succ⟩

/-- What follows the value of a member is shorter than what its name was in. -/
theorem MemberAt.length_lt {first : Bool} {name : String} {next behind after middle : Bytes}
    (member : MemberAt fuel depth first bs name v next behind after middle) :
    middle.length < after.length ∧ after.length < bs.length := by
  obtain ⟨place, named, colon, read⟩ := member
  have := place.length_lt
  have := (skipString_of_scanString named).1
  have := length_of_scanColon colon
  have := ((rereads fuel).value read).1
  omega

/-- A value that can be read can be passed over, to the same end. -/
theorem skipValue_of_scanValue (h : scanValue fuel depth bs = .ok (v, rest)) :
    skipValue bs = .ok ((), rest) :=
  (((rereads fuel).value h).2 (readFuel bs) (Nat.le_add_right _ _)).2

end CallGuard.Json
