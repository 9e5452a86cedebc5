import CallGuard.Json.Expect
import CallGuard.Proofs.Json.Skip

/-!
Parts of a document whose shape is known beforehand. Where a value can be read, what is expected is
found just if the value is of its kind, and then it ends where the value does.
-/
namespace CallGuard.Json

variable {fuel depth : Nat} {bs rest left : Bytes} {v : Json}

theorem refuse_ne_ok {α : Type} (expected : String) (bs : Bytes) (found : α × Bytes) :
    refuse expected bs ≠ .ok found := by
  intro h
  unfold refuse at h
  repeat' split at h
  · cases h
  · cases h
  · cases h
  · obtain ⟨_, -, refused⟩ := Except.bind_eq_ok_iff.mp h
    cases refused

theorem unfitWhole_ne_ok {α : Type} (close : UInt8) (m : Mismatch) (bs : Bytes)
    (found : α × Bytes) : unfitWhole close m bs ≠ .ok found := by
  unfold unfitWhole
  cases skipSpace bs <;> nofun

theorem scanValue_skipSpace (fuel depth : Nat) (bs : Bytes) :
    scanValue fuel depth (skipSpace bs) = scanValue fuel depth bs := by
  cases fuel with
  | zero => rfl
  | succ fuel => rw [scanValue, scanValue, skipSpace_skipSpace]

/-- A value that has been read has a first step. -/
theorem exists_step (read : scanValue fuel depth bs = .ok (v, rest)) :
    ∃ k b tail, skipSpace bs = b :: tail ∧ Step k depth b tail v rest := by
  cases fuel with
  | zero => cases read
  | succ k => exact ⟨k, step_of_scanValue read⟩

/-! ### Texts -/

def IsText (v : Json) : Prop := ∃ s, v = .str s

def IsTexts (v : Json) : Prop := ∃ texts : List String, v = .arr (texts.map .str)

theorem expectText_eq_ok_iff (read : scanValue fuel depth bs = .ok (v, rest))
    {expected s : String} :
    expectText expected bs = .ok (s, left) ↔ v = .str s ∧ left = rest := by
  obtain ⟨k, b, tail, front, step⟩ := exists_step read
  have found : expectText expected bs = .ok (s, left) ↔
      b = Ascii.quote ∧ scanString tail = .ok (s, left) := by
    unfold expectText
    rw [front]
    split
    · rename_i same
      obtain ⟨rfl, rfl⟩ := List.cons.inj same
      simp
    · rename_i other
      have quote : b ≠ Ascii.quote := fun same => other tail (same ▸ rfl)
      simp [refuse_ne_ok, quote]
  rw [found]
  constructor
  · rintro ⟨rfl, text⟩
    obtain ⟨s', rfl, text'⟩ := step.of_quote
    cases text.symm.trans text'
    exact ⟨rfl, rfl⟩
  · rintro ⟨rfl, rfl⟩
    exact step.of_str

theorem expectText_iff {expected : String} (read : scanValue fuel depth bs = .ok (v, rest)) :
    (∃ s, expectText expected bs = .ok (s, left)) ↔ v.IsText ∧ left = rest := by
  simp only [expectText_eq_ok_iff read, exists_and_right, IsText]

/-! ### Null or something -/

theorem expectOption_of_null {α : Type} {scan : Bytes → Except Fault (α × Bytes)}
    (read : scanValue fuel depth bs = .ok (.null, rest)) :
    expectOption scan bs = .ok (none, rest) := by
  obtain ⟨k, b, tail, front, step⟩ := exists_step read
  obtain rfl := step.of_null
  unfold expectOption
  rw [front]
  change (scanWord (Bytes.ofString "ull") tail >>= fun found => pure (none, found.2)) = _
  rw [Except.bind_of_ok step.of_lowerN.2]
  rfl

theorem expectOption_of_ne {α : Type} {scan : Bytes → Except Fault (α × Bytes)}
    (read : scanValue fuel depth bs = .ok (v, rest)) (some_value : v ≠ .null) :
    expectOption scan bs =
      scan (skipSpace bs) >>= fun found => pure (some found.1, found.2) := by
  obtain ⟨k, b, tail, front, step⟩ := exists_step read
  have other : b ≠ Ascii.lowerN := by
    rintro rfl
    exact some_value step.of_lowerN.1
  unfold expectOption
  rw [front]
  split
  · rename_i same
    exact absurd (List.cons.inj same).1 other
  · rfl

/-- Null is always found, and anything else if what is expected is. -/
theorem expectOption_iff {α : Type} {scan : Bytes → Except Fault (α × Bytes)} {P : Json → Prop}
    (expects : ∀ {bs}, scanValue fuel depth bs = .ok (v, rest) →
      ((∃ a, scan bs = .ok (a, left)) ↔ P v ∧ left = rest))
    (read : scanValue fuel depth bs = .ok (v, rest)) :
    (∃ a, expectOption scan bs = .ok (a, left)) ↔ (v = .null ∨ P v) ∧ left = rest := by
  by_cases null : v = .null
  · subst null
    simp [expectOption_of_null read, eq_comm]
  · have again : scanValue fuel depth (skipSpace bs) = .ok (v, rest) := by
      rw [scanValue_skipSpace, read]
    rw [expectOption_of_ne read null, or_iff_right null, ← expects again]
    constructor
    · rintro ⟨a, h⟩
      obtain ⟨⟨found, _⟩, scanned, same⟩ := Except.bind_eq_ok_iff.mp h
      cases same
      exact ⟨found, scanned⟩
    · rintro ⟨found, scanned⟩
      exact ⟨some found, by rw [Except.bind_of_ok scanned]; rfl⟩

/-! ### Lists of texts -/

theorem textsGo_eq_ok_iff {first : Bool} {xs : List Json} {k : Nat} {texts : List String}
    (read : scanItems fuel depth first bs = .ok (xs, rest)) (enough : bs.length < k) :
    textsGo k first bs = .ok (texts, left) ↔ xs = texts.map .str ∧ left = rest := by
  obtain ⟨k, rfl⟩ : ∃ j, k = j + 1 := ⟨k - 1, by omega⟩
  induction xs generalizing fuel k first bs texts with
  | nil =>
    cases fuel with
    | zero => cases read
    | succ fuel =>
      rw [textsGo, Except.bind_of_ok (nextItem_eq_ok_iff.mpr (scanItems_nil_iff.mp read))]
      dsimp only
      rw [Except.pure_eq_ok_iff, Prod.mk.injEq]
      simp [eq_comm]
  | cons x xs ih =>
    cases fuel with
    | zero => cases read
    | succ fuel =>
      obtain ⟨next, middle, place, item, more⟩ := scanItems_cons_iff.mp read
      have long := place.length_le
      have shorter := ((rereads fuel).value item).1
      obtain ⟨k, rfl⟩ : ∃ j, k = j + 1 := ⟨k - 1, by omega⟩
      have others {ss : List String} : textsGo (k + 1) false middle = .ok (ss, left) ↔
          xs = ss.map .str ∧ left = rest := ih more k (by omega)
      rw [textsGo, Except.bind_of_ok (nextItem_eq_ok_iff.mpr place)]
      constructor
      · intro h
        obtain ⟨⟨s, after⟩, text, h⟩ := Except.bind_eq_ok_iff.mp h
        obtain ⟨⟨ss, _⟩, h, same⟩ := Except.bind_eq_ok_iff.mp h
        cases same
        obtain ⟨rfl, rfl⟩ := (expectText_eq_ok_iff item).mp text
        obtain ⟨rfl, rfl⟩ := others.mp h
        exact ⟨rfl, rfl⟩
      · rintro ⟨same, rfl⟩
        obtain ⟨s, ss, rfl, rfl, rfl⟩ := List.map_eq_cons_iff.mp same.symm
        refine Except.bind_eq_ok_iff.mpr ⟨_, (expectText_eq_ok_iff item).mpr ⟨rfl, rfl⟩, ?_⟩
        exact Except.bind_eq_ok_iff.mpr ⟨_, others.mpr ⟨rfl, rfl⟩, rfl⟩

theorem expectTexts_eq_ok_iff (read : scanValue fuel depth bs = .ok (v, rest))
    {texts : List String} :
    expectTexts bs = .ok (texts, left) ↔ v = .arr (texts.map .str) ∧ left = rest := by
  obtain ⟨k, b, tail, front, step⟩ := exists_step read
  have long := length_lt_of_skipSpace front
  unfold expectTexts
  rw [front]
  split
  · rename_i same
    obtain ⟨rfl, rfl⟩ := List.cons.inj same
    obtain ⟨xs, rfl, items⟩ := step.of_openBracket
    rw [textsGo_eq_ok_iff items (by omega), Json.arr.injEq]
  · rename_i other
    refine iff_of_false (refuse_ne_ok _ _ _) ?_
    rintro ⟨rfl, -⟩
    exact other tail (step.of_arr.1 ▸ rfl)

theorem expectTexts_iff (read : scanValue fuel depth bs = .ok (v, rest)) :
    (∃ texts, expectTexts bs = .ok (texts, left)) ↔ v.IsTexts ∧ left = rest := by
  simp only [expectTexts_eq_ok_iff read, exists_and_right, IsTexts]

/-! ### Names -/

theorem expectNull_of_null (read : scanValue fuel depth bs = .ok (.null, rest)) :
    expectNull bs = .ok ((), rest) := by
  obtain ⟨k, b, tail, front, step⟩ := exists_step read
  obtain rfl := step.of_null
  unfold expectNull
  rw [front]
  exact step.of_lowerN.2

theorem scanValue_of_expectNull (h : expectNull bs = .ok ((), rest)) :
    scanValue (fuel + 1) depth bs = .ok (.null, rest) := by
  unfold expectNull at h
  split at h
  · rename_i tail front
    exact scanValue_of_step front (.null h)
  · exact absurd h (refuse_ne_ok _ _ _)

theorem expectKey_eq_ok_iff {s : String} :
    expectKey bs = .ok (s, rest) ↔
      ∃ next, KeyAt true bs (.member next) ∧ scanString next = .ok (s, rest) := by
  unfold expectKey
  constructor
  · intro h
    split at h
    · rename_i next front
      exact ⟨next, .first front, h⟩
    · cases h
    · cases h
  · rintro ⟨next, place, named⟩
    cases place with
    | first front =>
      rw [front]
      exact named

/-- The only key of an object, with null as its value, read in the parts it has. -/
theorem scanMembers_only_iff {s : String} :
    (∃ k, scanMembers k depth true bs = .ok ([(s, .null)], rest)) ↔
      ∃ behind after middle, expectKey bs = .ok (s, behind) ∧ scanColon behind = .ok after ∧
        expectNull after = .ok ((), middle) ∧ skipSpace middle = Ascii.closeBrace :: rest := by
  constructor
  · rintro ⟨k, read⟩
    cases k with
    | zero => cases read
    | succ k =>
      obtain ⟨next, behind, after, middle, ⟨place, named, colon, null⟩, more⟩ :=
        scanMembers_cons_iff.mp read
      cases k with
      | zero => cases null
      | succ k =>
        obtain ⟨close⟩ := scanMembers_nil_iff.mp more
        exact ⟨behind, after, middle, expectKey_eq_ok_iff.mpr ⟨next, place, named⟩, colon,
          expectNull_of_null null, close⟩
  · rintro ⟨behind, after, middle, key, colon, null, close⟩
    obtain ⟨next, place, named⟩ := expectKey_eq_ok_iff.mp key
    refine ⟨2, scanMembers_cons_iff.mpr
      ⟨next, behind, after, middle, ⟨place, named, colon, ?_⟩, ?_⟩⟩
    · exact scanValue_of_expectNull null
    · exact scanMembers_nil_iff.mpr (.close close)

/-- What an object has is the same however many steps read it. -/
theorem scanMembers_unique {j k : Nat} {first : Bool} {ms ms' : List (String × Json)}
    (read : scanMembers j depth first bs = .ok (ms, rest))
    (read' : scanMembers k depth first bs = .ok (ms', left)) : ms' = ms ∧ left = rest := by
  have again := (((rereads j).members read).2 (2 * bs.length + 1) (Nat.lt_succ_self _)).1
  have again' := (((rereads k).members read').2 (2 * bs.length + 1) (Nat.lt_succ_self _)).1
  rw [again] at again'
  cases again'
  exact ⟨rfl, rfl⟩

theorem known_eq_ok_iff {names : List String} {s s' : String} {after : Bytes} :
    (if names.contains s' then .ok (s', after)
      else unfitAt (.unknownVariant s' names) after : Except Fault (String × Bytes)) =
        .ok (s, left) ↔ s ∈ names ∧ s' = s ∧ after = left := by
  by_cases member : s' ∈ names
  · rw [if_pos (by simpa using member), Except.ok.injEq, Prod.mk.injEq]
    exact ⟨fun same => ⟨same.1 ▸ member, same⟩, And.right⟩
  · rw [if_neg (by simpa using member)]
    refine iff_of_false nofun ?_
    rintro ⟨listed, rfl, -⟩
    exact member listed

theorem expectName_eq_ok_iff (read : scanValue fuel depth bs = .ok (v, rest))
    {names : List String} {s : String} :
    expectName names bs = .ok (s, left) ↔
      s ∈ names ∧ (v = .str s ∨ v = .obj [(s, .null)]) ∧ left = rest := by
  obtain ⟨k, b, tail, front, step⟩ := exists_step read
  unfold expectName
  rw [front]
  dsimp only
  split
  · rename_i quote
    subst quote
    obtain ⟨s', rfl, text⟩ := step.of_quote
    rw [Except.bind_of_ok text]
    dsimp only
    rw [known_eq_ok_iff]
    simp [eq_comm]
  · rename_i no_text
    split
    · rename_i brace
      subst brace
      obtain ⟨ms, rfl, members⟩ := step.of_openBrace
      constructor
      · intro h
        obtain ⟨⟨s', behind⟩, key, h⟩ := Except.bind_eq_ok_iff.mp h
        obtain ⟨⟨_, _⟩, found, h⟩ := Except.bind_eq_ok_iff.mp h
        obtain ⟨listed, rfl, rfl⟩ := known_eq_ok_iff.mp found
        obtain ⟨after, colon, h⟩ := Except.bind_eq_ok_iff.mp h
        obtain ⟨⟨⟨⟩, middle⟩, null, h⟩ := Except.bind_eq_ok_iff.mp h
        dsimp only at null h
        split at h
        · rename_i close
          cases h
          obtain ⟨_, only⟩ :=
            scanMembers_only_iff.mpr ⟨behind, after, middle, key, colon, null, close⟩
          obtain ⟨rfl, rfl⟩ := scanMembers_unique members only
          exact ⟨listed, .inr rfl, rfl⟩
        · cases h
        · cases h
      · rintro ⟨listed, same | same, rfl⟩
        · cases same
        · cases same
          obtain ⟨behind, after, middle, key, colon, null, close⟩ :=
            scanMembers_only_iff.mp ⟨k, members⟩
          rw [Except.bind_of_ok key]
          dsimp only
          rw [Except.bind_of_ok (known_eq_ok_iff.mpr ⟨listed, rfl, rfl⟩)]
          dsimp only
          rw [Except.bind_of_ok colon, Except.bind_of_ok null]
          dsimp only
          rw [close]
          rfl
    · rename_i no_object
      refine iff_of_false nofun ?_
      rintro ⟨-, rfl | rfl, -⟩
      · exact no_text step.of_str.1
      · exact no_object step.of_obj.1

/-! ### Members that may stand there once -/

/-- Those of the listed names that members have. -/
def namesAmong (listed : List String) (ms : List (String × Json)) : List String :=
  (ms.map (·.1)).filter (listed.contains ·)

/-- The listed names stand there once, and did not before. -/
def Once (listed seen : List String) (ms : List (String × Json)) : Prop :=
  (namesAmong listed ms).Nodup ∧ ∀ name ∈ namesAmong listed ms, name ∉ seen

section Once

variable {listed seen : List String} {name : String} {ms : List (String × Json)}

theorem once_of_nothing : Once listed seen [] := ⟨.nil, nofun⟩

theorem once_iff_nodup : Once listed [] ms ↔ (namesAmong listed ms).Nodup := by simp [Once]

theorem once_cons_iff (known : ∀ n ∈ seen, n ∈ listed) :
    Once listed seen ((name, v) :: ms) ↔
      name ∉ seen ∧ Once listed (if listed.contains name then name :: seen else seen) ms := by
  by_cases among : name ∈ listed
  · have names : namesAmong listed ((name, v) :: ms) = name :: namesAmong listed ms := by
      simp [namesAmong, among]
    rw [if_pos (List.contains_iff_mem.mpr among)]
    simp only [Once, names, List.nodup_cons, List.mem_cons]
    grind
  · have names : namesAmong listed ((name, v) :: ms) = namesAmong listed ms := by
      simp [namesAmong, among]
    have new : name ∉ seen := fun old => among (known _ old)
    simp [Once, names, among, new]

theorem mem_listed_of_seen (name : String) (known : ∀ n ∈ seen, n ∈ listed) :
    ∀ n ∈ (if listed.contains name then name :: seen else seen), n ∈ listed := by
  split
  · rename_i among
    exact List.forall_mem_cons.mpr ⟨List.contains_iff_mem.mp among, known⟩
  · exact known

theorem Once.not_mem (once : Once listed (name :: seen) ms) (among : name ∈ listed) :
    name ∉ ms.map (·.1) := by
  intro hn
  have again : name ∈ namesAmong listed ms :=
    List.mem_filter.mpr ⟨hn, List.contains_iff_mem.mpr among⟩
  exact once.2 name again List.mem_cons_self

end Once

end CallGuard.Json
