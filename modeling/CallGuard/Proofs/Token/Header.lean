import CallGuard.Proofs.Json.Document
import CallGuard.Proofs.Json.Expect
import CallGuard.Token.Header

/-!
What a header announces. Where the header is a document it is the algorithm that the member `alg`
names, if each member it knows stands there once and with a value that it may have.
-/
namespace CallGuard.Token

open Json

variable {fuel : Nat} {bs rest left : Bytes} {v : Json} {a : Algorithm}

/-! ### Algorithms -/

namespace Algorithm

theorem mem_all (a : Algorithm) : a ∈ all := by cases a <;> decide

theorem find?_name (a : Algorithm) : all.find? (·.name == a.name) = some a := by cases a <;> rfl

theorem name_inj {a b : Algorithm} (same : a.name = b.name) : a = b := by
  have found := find?_name a
  rw [same, find?_name b] at found
  exact (Option.some.inj found).symm

/-- The value names the algorithm: it is the name, or an object with the name as its only key. -/
def IsNamed (a : Algorithm) (v : Json) : Prop := v = .str a.name ∨ v = .obj [(a.name, .null)]

theorem IsNamed.unique {a b : Algorithm} (named : a.IsNamed v) (other : b.IsNamed v) : a = b := by
  rcases named with rfl | rfl <;> rcases other with same | same <;> simp at same
  · exact name_inj same
  · exact name_inj same

theorem scan_eq_ok_iff {fuel depth : Nat} (read : scanValue fuel depth bs = .ok (v, rest)) :
    scan bs = .ok (a, left) ↔ a.IsNamed v ∧ left = rest := by
  unfold scan
  rw [Except.bind_eq_ok_iff]
  constructor
  · rintro ⟨⟨s, after⟩, found, h⟩
    obtain ⟨listed, named, rfl⟩ := (expectName_eq_ok_iff read).mp found
    obtain ⟨b, -, rfl⟩ := List.mem_map.mp listed
    dsimp only at h
    rw [find?_name] at h
    cases h
    exact ⟨named, rfl⟩
  · rintro ⟨named, rfl⟩
    have listed := List.mem_map_of_mem (f := name) (mem_all a)
    refine ⟨(a.name, left), (expectName_eq_ok_iff read).mpr ⟨listed, named, rfl⟩, ?_⟩
    dsimp only
    rw [find?_name]
    rfl

end Algorithm

/-! ### Members -/

/-- The value is an object of which the members make up a key. -/
def IsKey (v : Json) : Prop := ∃ members, v = .obj members ∧ keyFault? members = none

theorem scanKey_iff (read : scanValue fuel (depthLimit - 1) bs = .ok (v, rest)) :
    (∃ u, scanKey bs = .ok (u, left)) ↔ IsKey v ∧ left = rest := by
  obtain ⟨k, b, tail, front, step⟩ := exists_step read
  have long := length_lt_of_skipSpace front
  unfold scanKey
  rw [front]
  split
  · rename_i same
    obtain ⟨rfl, rfl⟩ := List.cons.inj same
    obtain ⟨ms, rfl, members⟩ := step.of_openBrace
    have enough : 2 * tail.length < readFuel bs := by
      unfold readFuel
      omega
    have again : scanMembers (readFuel bs) (depthLimit - 2) true tail = .ok (ms, rest) :=
      (((rereads k).members members).2 _ enough).1
    rw [Except.bind_of_ok again]
    dsimp only
    cases fault : keyFault? ms with
    | none => simp [IsKey, fault, eq_comm]
    | some m => simp [IsKey, fault, unfitAt, faultAfter]
  · rename_i other
    refine iff_of_false (fun ⟨_, h⟩ => refuse_ne_ok _ _ _ h) ?_
    rintro ⟨⟨ms, rfl, -⟩, -⟩
    exact other tail (step.of_obj.1 ▸ rfl)

/-- A member other than `alg` may have the value. -/
def Suits (name : String) (v : Json) : Prop :=
  name ∈ headerNames → v = .null ∨
    if name = "jwk" then IsKey v
    else if name = "x5c" then v.IsTexts
    else v.IsText

/-- What a member announces, if its value is one that it may have. -/
def Yields (name : String) (v : Json) : Option Algorithm → Prop
  | some a => name = "alg" ∧ a.IsNamed v
  | none => name ≠ "alg" ∧ Suits name v

theorem scanMember_eq_ok_iff (read : scanValue fuel (depthLimit - 1) bs = .ok (v, rest))
    {name : String} {found : Option Algorithm} :
    scanMember name bs = .ok (found, left) ↔ Yields name v found ∧ left = rest := by
  have silent {α : Type} {x : Except Fault (α × Bytes)} {P : Prop} (plain : name ≠ "alg")
      (h : (∃ read, x = .ok (read, left)) ↔ P ∧ left = rest) (suits : Suits name v ↔ P) :
      (x >>= fun read => pure (none, read.2)) = .ok (found, left) ↔
        Yields name v found ∧ left = rest := by
    rw [Except.bind_eq_ok_iff]
    constructor
    · rintro ⟨⟨read, after⟩, scanned, same⟩
      cases same
      obtain ⟨fits, rfl⟩ := h.mp ⟨read, scanned⟩
      exact ⟨⟨plain, suits.mpr fits⟩, rfl⟩
    · rintro ⟨given, rfl⟩
      cases found with
      | some a => exact absurd given.1 plain
      | none =>
        obtain ⟨read, scanned⟩ := h.mpr ⟨suits.mp given.2, rfl⟩
        exact ⟨_, scanned, rfl⟩
  unfold scanMember
  split
  · rename_i alg
    rw [Except.bind_eq_ok_iff]
    constructor
    · rintro ⟨⟨a, after⟩, scanned, same⟩
      cases same
      obtain ⟨named, rfl⟩ := (Algorithm.scan_eq_ok_iff read).mp scanned
      exact ⟨⟨alg, named⟩, rfl⟩
    · rintro ⟨given, rfl⟩
      cases found with
      | some a => exact ⟨_, (Algorithm.scan_eq_ok_iff read).mpr ⟨given.2, rfl⟩, rfl⟩
      | none => exact absurd alg given.1
  · rename_i alg
    split
    · rename_i jwk
      subst jwk
      refine silent alg (expectOption_iff scanKey_iff read) ?_
      simp [Suits, headerNames]
    · rename_i jwk
      split
      · rename_i x5c
        subst x5c
        refine silent alg (expectOption_iff expectTexts_iff read) ?_
        simp [Suits, headerNames]
      · rename_i x5c
        split
        · rename_i known
          refine silent alg (expectOption_iff expectText_iff read) ?_
          simp [Suits, jwk, x5c, List.contains_iff_mem.mp known]
        · rename_i unknown
          have passed : (∃ read, skipValue bs = .ok (read, left)) ↔ True ∧ left = rest := by
            rw [skipValue_of_scanValue read]
            simp [eq_comm]
          refine silent alg passed (iff_of_true (fun known => ?_) trivial)
          exact absurd (List.contains_iff_mem.mpr known) unknown

/-! ### Headers -/

/-- The members are those of a header that announces the algorithm. -/
structure IsHeader (ms : List (String × Json)) (a : Algorithm) : Prop where
  once : (namesAmong headerNames ms).Nodup
  named : ∃ v, ("alg", v) ∈ ms ∧ a.IsNamed v
  suits : ∀ m ∈ ms, m.1 ≠ "alg" → Suits m.1 m.2

theorem isHeader_iff {ms : List (String × Json)} :
    IsHeader ms a ↔ (namesAmong headerNames ms).Nodup ∧
      (∃ v, ("alg", v) ∈ ms ∧ a.IsNamed v) ∧ ∀ m ∈ ms, m.1 ≠ "alg" → Suits m.1 m.2 :=
  ⟨fun ⟨once, named, suits⟩ => ⟨once, named, suits⟩,
    fun ⟨once, named, suits⟩ => ⟨once, named, suits⟩⟩

/-- The members one after another, with the known names that were there before and the algorithm
that was announced. -/
inductive Gathers : List String → Option Algorithm → List (String × Json) → Algorithm → Prop
  | done {seen : List String} {a : Algorithm} : Gathers seen (some a) [] a
  | member {seen : List String} {alg found : Option Algorithm} {name : String} {v : Json}
    {ms : List (String × Json)} {a : Algorithm} (new : name ∉ seen) (yields : Yields name v found)
    (more : Gathers (if headerNames.contains name then name :: seen else seen)
      (found <|> alg) ms a) : Gathers seen alg ((name, v) :: ms) a

theorem announced_eq_ok_iff {alg : Option Algorithm} :
    announced alg bs = .ok (a, rest) ↔ alg = some a ∧ rest = bs := by
  cases alg <;> simp [announced, unfitAt, faultAfter, eq_comm]

theorem headerMembers_eq_ok_iff {seen : List String} {alg : Option Algorithm} {first : Bool}
    {ms : List (String × Json)} {k : Nat}
    (read : scanMembers fuel (depthLimit - 1) first bs = .ok (ms, rest)) (enough : bs.length < k) :
    headerMembers seen alg k first bs = .ok (a, left) ↔ Gathers seen alg ms a ∧ left = rest := by
  obtain ⟨k, rfl⟩ : ∃ j, k = j + 1 := ⟨k - 1, by omega⟩
  induction ms generalizing fuel k seen alg first bs with
  | nil =>
    cases fuel with
    | zero => cases read
    | succ fuel =>
      have place := nextKey_eq_ok_iff.mpr (scanMembers_nil_iff.mp read)
      rw [headerMembers, Except.bind_of_ok place]
      dsimp only
      rw [announced_eq_ok_iff]
      constructor
      · rintro ⟨rfl, rfl⟩
        exact ⟨.done, rfl⟩
      · rintro ⟨⟨⟩, rfl⟩
        exact ⟨rfl, rfl⟩
  | cons m ms ih =>
    obtain ⟨name, v⟩ := m
    cases fuel with
    | zero => cases read
    | succ fuel =>
      obtain ⟨next, behind, after, middle, member, more⟩ := scanMembers_cons_iff.mp read
      obtain ⟨short, shorter⟩ := member.length_lt
      obtain ⟨k, rfl⟩ : ∃ j, k = j + 1 := ⟨k - 1, by omega⟩
      rw [headerMembers, Except.bind_of_ok (nextKey_eq_ok_iff.mpr member.place)]
      dsimp only
      rw [Except.bind_of_ok member.named]
      dsimp only
      split
      · rename_i old
        refine iff_of_false (unfitWhole_ne_ok _ _ _ _) ?_
        rintro ⟨gathers, -⟩
        cases gathers with
        | member new => exact new (List.contains_iff_mem.mp old)
      · rename_i new
        rw [Except.bind_of_ok member.colon, Except.bind_eq_ok_iff]
        constructor
        · rintro ⟨⟨found, after⟩, scanned, h⟩
          obtain ⟨yields, rfl⟩ := (scanMember_eq_ok_iff member.read).mp scanned
          obtain ⟨gathers, rfl⟩ := (ih more k (by omega)).mp h
          exact ⟨.member (by simpa using new) yields gathers, rfl⟩
        · rintro ⟨gathers, rfl⟩
          cases gathers with
          | member _ yields gathers =>
            refine ⟨_, (scanMember_eq_ok_iff member.read).mpr ⟨yields, rfl⟩, ?_⟩
            exact (ih more k (by omega)).mpr ⟨gathers, rfl⟩

/-- Behind the last of its items a list must end. -/
theorem headerItems_nil_iff {alg : Option Algorithm} {first : Bool} :
    headerItems alg [] first bs = .ok (a, left) ↔
      skipSpace bs = Ascii.closeBracket :: left ∧ alg = some a := by
  unfold headerItems
  constructor
  · intro h
    repeat' split at h
    · cases h
    · rename_i front same
      obtain ⟨announced, rfl⟩ := announced_eq_ok_iff.mp h
      exact ⟨same ▸ front, announced⟩
    · cases h
    · cases h
  · rintro ⟨front, announced⟩
    rw [front]
    exact announced_eq_ok_iff.mpr ⟨announced, rfl⟩

theorem headerItems_eq_ok_iff {seen names : List String} {alg : Option Algorithm} {first : Bool}
    {vs : List Json} (read : scanItems fuel (depthLimit - 1) first bs = .ok (vs, rest))
    (once : names.Nodup) (new : ∀ name ∈ names, name ∉ seen) :
    headerItems alg names first bs = .ok (a, left) ↔
      (names.length = vs.length ∧ Gathers seen alg (names.zip vs) a) ∧ left = rest := by
  induction names generalizing fuel seen alg first bs vs with
  | nil =>
    rw [headerItems_nil_iff]
    cases fuel with
    | zero => cases read
    | succ fuel =>
      cases vs with
      | nil =>
        obtain ⟨front⟩ := scanItems_nil_iff.mp read
        rw [front]
        constructor
        · rintro ⟨same, rfl⟩
          cases same
          exact ⟨⟨rfl, .done⟩, rfl⟩
        · rintro ⟨⟨-, ⟨⟩⟩, rfl⟩
          exact ⟨rfl, rfl⟩
      | cons x xs =>
        obtain ⟨next, middle, place, -⟩ := scanItems_cons_iff.mp read
        refine iff_of_false ?_ nofun
        rintro ⟨close, -⟩
        cases place with
        | first front inner => exact inner (List.cons.inj (front.symm.trans close)).1
        | later comma => cases comma.symm.trans close
  | cons name names ih =>
    obtain ⟨single, once⟩ := List.nodup_cons.mp once
    obtain ⟨new_name, new⟩ := List.forall_mem_cons.mp new
    unfold headerItems
    cases fuel with
    | zero => cases read
    | succ fuel =>
      cases vs with
      | nil =>
        have place := scanItems_nil_iff.mp read
        rw [Except.bind_of_ok (nextItem_eq_ok_iff.mpr place)]
        exact iff_of_false nofun nofun
      | cons x xs =>
        obtain ⟨next, middle, place, item, more⟩ := scanItems_cons_iff.mp read
        have new' : ∀ n ∈ names,
            n ∉ (if headerNames.contains name then name :: seen else seen) := by
          intro n hn
          split
          · exact List.not_mem_cons_of_ne_of_not_mem (fun same => single (same ▸ hn)) (new n hn)
          · exact new n hn
        rw [Except.bind_of_ok (nextItem_eq_ok_iff.mpr place)]
        dsimp only
        rw [Except.bind_eq_ok_iff]
        constructor
        · rintro ⟨⟨found, after⟩, scanned, h⟩
          obtain ⟨yields, rfl⟩ := (scanMember_eq_ok_iff item).mp scanned
          obtain ⟨⟨full, gathers⟩, rfl⟩ := (ih more once new').mp h
          exact ⟨⟨congrArg Nat.succ full, .member new_name yields gathers⟩, rfl⟩
        · rintro ⟨⟨full, gathers⟩, rfl⟩
          cases gathers with
          | member _ yields gathers =>
            refine ⟨_, (scanMember_eq_ok_iff item).mpr ⟨yields, rfl⟩, ?_⟩
            exact (ih more once new').mpr ⟨⟨Nat.succ.inj full, gathers⟩, rfl⟩

/-! What is gathered member by member, said of all members at once. -/

/-- The algorithm was announced before, or is by a member. -/
def Names (alg : Option Algorithm) (ms : List (String × Json)) (a : Algorithm) : Prop :=
  (∃ v, ("alg", v) ∈ ms ∧ a.IsNamed v) ∨ "alg" ∉ ms.map (·.1) ∧ alg = some a

theorem names_cons_of_alg {alg : Option Algorithm} {v : Json} {ms : List (String × Json)}
    (once : "alg" ∉ ms.map (·.1)) : Names alg (("alg", v) :: ms) a ↔ a.IsNamed v := by
  have later (w : Json) : ("alg", w) ∉ ms := fun hw => once (List.mem_map_of_mem hw)
  simp [Names, later]

theorem names_cons_of_ne {alg : Option Algorithm} {name : String} {v : Json}
    {ms : List (String × Json)} (plain : name ≠ "alg") :
    Names alg ((name, v) :: ms) a ↔ Names alg ms a := by
  simp [Names, plain.symm]

theorem gathers_iff {seen : List String} {alg : Option Algorithm} {ms : List (String × Json)}
    (known : ∀ n ∈ seen, n ∈ headerNames) :
    Gathers seen alg ms a ↔
      Once headerNames seen ms ∧ Names alg ms a ∧ ∀ m ∈ ms, m.1 ≠ "alg" → Suits m.1 m.2 := by
  induction ms generalizing seen alg with
  | nil =>
    constructor
    · rintro ⟨⟩
      exact ⟨once_of_nothing, .inr ⟨nofun, rfl⟩, nofun⟩
    · rintro ⟨-, ⟨v, ⟨⟩, -⟩ | ⟨-, rfl⟩, -⟩
      exact .done
  | cons m ms ih =>
    obtain ⟨name, v⟩ := m
    have known' := mem_listed_of_seen name known
    rw [once_cons_iff known, List.forall_mem_cons]
    by_cases plain : name = "alg"
    · subst plain
      have known_alg : "alg" ∈ headerNames := by decide
      rw [if_pos (List.contains_iff_mem.mpr known_alg)] at known' ⊢
      constructor
      · intro h
        cases h with
        | @member _ _ found _ _ _ _ new yields more =>
          rw [if_pos (List.contains_iff_mem.mpr known_alg)] at more
          obtain ⟨once, named, suits⟩ := (ih known').mp more
          have absent := once.not_mem known_alg
          cases found with
          | none => exact absurd rfl yields.1
          | some b =>
            rcases named with ⟨w, hw, -⟩ | ⟨-, same⟩
            · exact absurd (List.mem_map_of_mem hw) absent
            · cases same
              exact ⟨⟨new, once⟩, (names_cons_of_alg absent).mpr yields.2, nofun, suits⟩
      · rintro ⟨⟨new, once⟩, named, -, suits⟩
        have absent := once.not_mem known_alg
        have named := (names_cons_of_alg absent).mp named
        have yields : Yields "alg" v (some a) := ⟨rfl, named⟩
        refine .member new yields ?_
        rw [if_pos (List.contains_iff_mem.mpr known_alg)]
        exact (ih known').mpr ⟨once, .inr ⟨absent, rfl⟩, suits⟩
    · rw [names_cons_of_ne plain]
      constructor
      · intro h
        cases h with
        | @member _ _ found _ _ _ _ new yields more =>
          cases found with
          | some b => exact absurd yields.1 plain
          | none =>
            obtain ⟨once, named, suits⟩ := (ih known').mp more
            exact ⟨⟨new, once⟩, named, fun _ => yields.2, suits⟩
      · rintro ⟨⟨new, once⟩, named, suits_v, suits⟩
        have yields : Yields name v none := ⟨plain, suits_v plain⟩
        exact .member new yields
          ((ih known').mpr ⟨once, named, suits⟩)

/-- The members that a document gives a header: those of an object, or the items of a list under the
names that headers know, in the order of these. -/
def membersOf : Json → Option (List (String × Json))
  | .obj ms => some ms
  | .arr vs => if headerNames.length = vs.length then some (headerNames.zip vs) else none
  | _ => none

theorem scanHeader_eq_ok_iff (read : scanValue fuel depthLimit bs = .ok (v, rest)) :
    scanHeader bs = .ok (a, left) ↔
      (∃ ms, membersOf v = some ms ∧ IsHeader ms a) ∧ left = rest := by
  have gathered {ms : List (String × Json)} : Gathers [] none ms a ↔ IsHeader ms a := by
    rw [gathers_iff (by simp)]
    simp [once_iff_nodup, Names, isHeader_iff]
  obtain ⟨k, b, tail, front, step⟩ := exists_step read
  have long := length_lt_of_skipSpace front
  unfold scanHeader
  rw [front]
  split
  · rename_i same
    obtain ⟨rfl, rfl⟩ := List.cons.inj same
    obtain ⟨ms, rfl, members⟩ := step.of_openBrace
    rw [headerMembers_eq_ok_iff members (by omega), gathered]
    simp [membersOf]
  · rename_i same
    obtain ⟨rfl, rfl⟩ := List.cons.inj same
    obtain ⟨vs, rfl, items⟩ := step.of_openBracket
    rw [headerItems_eq_ok_iff items (by decide) (fun _ _ => List.not_mem_nil), gathered]
    simp [membersOf]
  · rename_i no_brace no_bracket
    refine iff_of_false (refuse_ne_ok _ _ _) ?_
    rintro ⟨⟨ms, given, -⟩, -⟩
    cases v with
    | obj => exact no_brace tail (step.of_obj.1 ▸ rfl)
    | arr => exact no_bracket tail (step.of_arr.1 ▸ rfl)
    | _ => cases given

/-- A header that is a document announces the algorithm that it names. -/
theorem readHeader_eq_ok_iff (document : runScan (scanValue (readFuel bs) depthLimit) bs = .ok v) :
    readHeader bs = .ok a ↔ ∃ ms, membersOf v = some ms ∧ IsHeader ms a := by
  obtain ⟨rest, read, ended⟩ := runScan_eq_ok_iff.mp document
  simp only [readHeader, runScan_eq_ok_iff, scanHeader_eq_ok_iff read]
  constructor
  · rintro ⟨_, ⟨header, rfl⟩, -⟩
    exact header
  · exact fun header => ⟨rest, ⟨header, rfl⟩, ended⟩

end CallGuard.Token
