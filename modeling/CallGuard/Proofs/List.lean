import Mathlib.Data.List.Forall2
import Mathlib.Data.List.Sort

/-!
Lists in which what is looked for is there once, lists in order, lists that correspond one for one,
and what is found first in going through a list.
-/
namespace List

variable {α β : Type}

/-- There is one way to list elements in the strict order of their keys. -/
theorem eq_of_ascending [LT β] [Std.Asymm fun a b : β => a < b] (key : α → β) {xs ys : List α}
    (hx : xs.Pairwise fun a b => key a < key b) (hy : ys.Pairwise fun a b => key a < key b)
    (mem : ∀ a, a ∈ xs ↔ a ∈ ys) : xs = ys :=
  Pairwise.eq_of_mem_iff (r := InvImage (· < ·) key) hx hy mem

theorem find?_eq_some_of_unique {xs : List α} {p : α → Bool} {x : α} (hx : x ∈ xs)
    (hp : p x = true) (unique : ∀ y ∈ xs, p y = true → y = x) : xs.find? p = some x := by
  cases found : xs.find? p with
  | none => simp [List.find?_eq_none.mp found x hx] at hp
  | some y => rw [unique y (List.mem_of_find?_eq_some found) (List.find?_some found)]

/-- What is found first is still found without an element that was not. -/
theorem find?_eraseIdx_of_findIdx?_ne {xs : List α} {p : α → Bool} {i : Nat}
    (other : xs.findIdx? p ≠ some i) : (xs.eraseIdx i).find? p = xs.find? p := by
  induction xs generalizing i with
  | nil => rfl
  | cons x xs ih =>
    rw [findIdx?_cons] at other
    by_cases hp : p x = true
    · cases i with
      | zero => simp [hp] at other
      | succ i => rw [eraseIdx_cons_succ, find?_cons_of_pos hp, find?_cons_of_pos hp]
    · rw [find?_cons_of_neg hp]
      cases i with
      | zero => rfl
      | succ i =>
        rw [eraseIdx_cons_succ, find?_cons_of_neg hp]
        exact ih (by simpa [hp] using other)

/-- A table of what there is for some of the elements, by their keys, tells the same as these. -/
theorem find?_filterMap_of_nodup {γ : Type} [BEq γ] [LawfulBEq γ] {key : α → γ} {f : α → Option β}
    {xs : List α} (distinct : (xs.map key).Nodup) (k : γ) :
    ((xs.filterMap fun x => (f x).map (key x, ·)).find? (·.1 == k)).map (·.2) =
      (xs.find? (key · == k)).bind f := by
  induction xs with
  | nil => rfl
  | cons x xs ih =>
    obtain ⟨fresh, rest⟩ := nodup_cons.mp distinct
    have tail := ih rest
    by_cases same : key x = k
    · have absent : xs.find? (key · == k) = none := by
        rw [find?_eq_none]
        intro y hy found
        exact fresh (same ▸ LawfulBEq.eq_of_beq found ▸ mem_map_of_mem hy)
      rw [absent] at tail
      rw [find?_cons_of_pos (by simp [same])]
      cases entry : f x with
      | none => simpa [entry] using tail
      | some y => simp [entry, same]
    · rw [find?_cons_of_neg (by simpa using same), ← tail]
      cases entry : f x with
      | none => simp [entry]
      | some y => simp [entry, same]

theorem ne_nil_iff_of_forall₂ {R : α → β → Prop} {xs : List α} {ys : List β}
    (h : Forall₂ R xs ys) : xs ≠ [] ↔ ys ≠ [] := by
  cases h <;> simp

theorem exists_forall₂_iff {R : α → β → Prop} {xs : List α} :
    (∃ ys, Forall₂ R xs ys) ↔ ∀ x ∈ xs, ∃ y, R x y := by
  induction xs with
  | nil => simp
  | cons x xs ih =>
    rw [List.forall_mem_cons, ← ih]
    constructor
    · rintro ⟨_, h⟩
      cases h with
      | cons first rest => exact ⟨⟨_, first⟩, _, rest⟩
    · rintro ⟨⟨y, first⟩, ys, rest⟩
      exact ⟨y :: ys, .cons first rest⟩

theorem exists_mem_iff_of_forall₂ {R : α → β → Prop} {P : α → Prop} {Q : β → Prop} {xs : List α}
    {ys : List β} (h : Forall₂ R xs ys) (same : ∀ x y, R x y → (P x ↔ Q y)) :
    (∃ x ∈ xs, P x) ↔ ∃ y ∈ ys, Q y := by
  induction h with
  | nil => simp
  | cons first _ ih => simp [same _ _ first, ih]

/-! ### What is found first -/

/-- The first thing that is found in going through a list, after the elements that have been passed.
Of an element and those passed before it, `At` says what is found there. -/
inductive FirstFound (At : List α → α → β → Prop) : List α → List α → β → Prop
  | here {passed rest : List α} {x : α} {b : β} (found : At passed x b) :
      FirstFound At passed (x :: rest) b
  | later {passed rest : List α} {x : α} {b : β} (nothing : ∀ c, ¬ At passed x c)
      (tail : FirstFound At (passed ++ [x]) rest b) : FirstFound At passed (x :: rest) b

variable {γ : Type} {At : List α → α → β → Prop}

theorem firstFound_nil_iff {passed : List α} {b : β} : FirstFound At passed [] b ↔ False :=
  ⟨nofun, nofun⟩

theorem firstFound_cons_iff {passed rest : List α} {x : α} {b : β} :
    FirstFound At passed (x :: rest) b ↔
      At passed x b ∨ (∀ c, ¬ At passed x c) ∧ FirstFound At (passed ++ [x]) rest b := by
  constructor
  · intro first
    cases first with
    | here found => exact .inl found
    | later nothing tail => exact .inr ⟨nothing, tail⟩
  · rintro (found | ⟨nothing, tail⟩)
    · exact .here found
    · exact .later nothing tail

/-- A scan that remembers something of each element that it passes, the last one first, finds what
there is to find first. -/
theorem scan_eq_some_iff {scan : List γ → List α → Option β} (key : α → γ)
    (step : List γ → α → Option β) (nil : ∀ seen, scan seen [] = none)
    (cons : ∀ seen x rest, scan seen (x :: rest) = (step seen x).or (scan (key x :: seen) rest))
    (means : ∀ passed x b, step (passed.map key).reverse x = some b ↔ At passed x b)
    {xs : List α} {b : β} : scan [] xs = some b ↔ FirstFound At [] xs b := by
  have general : ∀ passed,
      scan (passed.map key).reverse xs = some b ↔ FirstFound At passed xs b := by
    induction xs with
    | nil => simp [nil, firstFound_nil_iff]
    | cons x rest ih =>
      intro passed
      have remembered : key x :: (passed.map key).reverse = ((passed ++ [x]).map key).reverse := by
        simp
      have silent : step (passed.map key).reverse x = none ↔ ∀ c, ¬ At passed x c := by
        simp only [Option.eq_none_iff_forall_ne_some, ne_eq, means]
      rw [cons, Option.or_eq_some_iff, means, silent, remembered, ih, firstFound_cons_iff]
  exact general []

/-- So does a search that remembers nothing. -/
theorem findSome?_eq_some_iff_firstFound {find : α → Option β} {Has : α → β → Prop}
    (means : ∀ x b, find x = some b ↔ Has x b) {xs : List α} {b : β} :
    xs.findSome? find = some b ↔ FirstFound (fun _ => Has) [] xs b := by
  have cons : ∀ (seen : List α) x rest, findSome? find (x :: rest) =
      (find x).or (findSome? find rest) := by
    intro _ x rest
    rw [findSome?_cons]
    cases find x <;> rfl
  exact scan_eq_some_iff id (fun _ => find) (fun _ => rfl) cons fun _ => means

end List
