import CallGuard.Text.Pieces
import Mathlib.Data.List.Basic

/-! The pieces of a text are what stands between its separators, and they make up the text. -/
namespace CallGuard.Text

variable {α : Type} [DecidableEq α]

theorem pieces_cons (sep x : α) (xs : List α) :
    pieces sep (x :: xs) = consPiece sep x (pieces sep xs) := rfl

theorem pieces_eq_splitOn (sep : α) (xs : List α) : pieces sep xs = xs.splitOn sep := by
  induction xs with
  | nil => rfl
  | cons x xs ih =>
    rw [pieces_cons, ih, List.splitOn_cons_eq_if_modifyHead]
    cases split : xs.splitOn sep with
    | nil => exact absurd split (List.splitOn_ne_nil sep xs)
    | cons piece pieces => by_cases h : x = sep <;> simp [consPiece, h]

theorem not_mem_of_mem_pieces {sep : α} {xs piece : List α} (h : piece ∈ pieces sep xs) :
    sep ∉ piece := by
  induction xs generalizing piece with
  | nil =>
    obtain rfl : piece = [] := by simpa [pieces] using h
    simp
  | cons x xs ih =>
    rw [pieces_cons] at h
    cases split : pieces sep xs with
    | nil => simp [pieces_eq_splitOn] at split
    | cons first rest =>
      rw [split] at ih h
      by_cases isSep : x = sep
      · rw [consPiece, if_pos isSep] at h
        rcases List.mem_cons.mp h with rfl | old
        · simp
        · exact ih old
      · rw [consPiece, if_neg isSep] at h
        rcases List.mem_cons.mp h with rfl | old
        · simpa [Ne.symm isSep] using ih List.mem_cons_self
        · exact ih (List.mem_cons_of_mem _ old)

theorem pieces_eq_iff {sep : α} {xs : List α} {ls : List (List α)} :
    pieces sep xs = ls ↔ ls ≠ [] ∧ [sep].intercalate ls = xs ∧ ∀ l ∈ ls, sep ∉ l := by
  constructor
  · rintro rfl
    refine ⟨?_, ?_, fun _ => not_mem_of_mem_pieces⟩
    · rw [pieces_eq_splitOn]
      exact List.splitOn_ne_nil sep xs
    · rw [pieces_eq_splitOn]
      exact List.intercalate_splitOn sep
  · rintro ⟨some_pieces, rfl, clean⟩
    rw [pieces_eq_splitOn]
    exact List.splitOn_intercalate sep clean some_pieces

theorem pieces_of_clean {sep : α} {piece : List α} (clean : sep ∉ piece) :
    pieces sep piece = [piece] :=
  pieces_eq_iff.mpr (by simpa using clean)

/-- Separators cut: a text is in one piece just if it has none. -/
theorem two_le_length_pieces_iff {sep : α} {xs : List α} :
    2 ≤ (pieces sep xs).length ↔ sep ∈ xs := by
  constructor
  · intro cut
    by_contra whole
    simp [pieces_of_clean whole] at cut
  · intro separated
    obtain ⟨some_pieces, joined, clean⟩ := pieces_eq_iff.mp (rfl : pieces sep xs = _)
    match found : pieces sep xs with
    | [] => exact absurd found some_pieces
    | [piece] =>
      rw [found] at joined clean
      obtain rfl : piece = xs := by simpa using joined
      exact absurd separated (clean piece (by simp))
    | _ :: _ :: rest => simp

/-- What holds of the separator holds of the pieces if it does of the whole. -/
theorem forall_mem_pieces_iff {P : α → Prop} {sep : α} (held : P sep) {xs : List α} :
    (∀ piece ∈ pieces sep xs, ∀ x ∈ piece, P x) ↔ ∀ x ∈ xs, P x := by
  induction xs with
  | nil => simp [pieces]
  | cons x xs ih =>
    rw [pieces_cons, List.forall_mem_cons, ← ih]
    cases split : pieces sep xs with
    | nil => simp [pieces_eq_splitOn] at split
    | cons first rest =>
      by_cases isSep : x = sep
      · simp [consPiece, isSep, held]
      · simp [consPiece, isSep, and_assoc]

/-- What stands on both sides of a separator is cut for itself. -/
theorem pieces_append_sep (sep : α) (xs ys : List α) :
    pieces sep (xs ++ sep :: ys) = pieces sep xs ++ pieces sep ys := by
  induction xs with
  | nil =>
    rw [List.nil_append, pieces_cons]
    cases split : pieces sep ys with
    | nil => simp [pieces_eq_splitOn] at split
    | cons first later => simp [pieces, consPiece]
  | cons x xs ih =>
    rw [List.cons_append, pieces_cons, pieces_cons, ih]
    cases split : pieces sep xs with
    | nil => simp [pieces_eq_splitOn] at split
    | cons first later => by_cases isSep : x = sep <;> simp [consPiece, isSep]

/-- Pieces with a separator after each are found again, and after the last there is nothing. -/
theorem pieces_flatMap_sep {sep : α} {ls : List (List α)} (clean : ∀ l ∈ ls, sep ∉ l) :
    pieces sep (ls.flatMap (· ++ [sep])) = ls ++ [[]] := by
  induction ls with
  | nil => rfl
  | cons l ls ih =>
    obtain ⟨first, later⟩ := List.forall_mem_cons.mp clean
    rw [List.flatMap_cons, List.append_assoc, List.singleton_append, pieces_append_sep,
      pieces_of_clean first, ih later, List.singleton_append, List.cons_append]

/-- There are as many separators as pieces if each piece has one after it. -/
theorem count_flatMap_sep {sep : α} {ls : List (List α)} (clean : ∀ l ∈ ls, sep ∉ l) :
    (ls.flatMap (· ++ [sep])).count sep = ls.length := by
  induction ls with
  | nil => rfl
  | cons l ls ih =>
    obtain ⟨first, later⟩ := List.forall_mem_cons.mp clean
    rw [List.flatMap_cons, List.count_append, ih later, List.count_append,
      List.count_eq_zero_of_not_mem first, List.count_singleton_self, List.length_cons]
    omega

/-! ### One cut -/

theorem cutFirst?_eq_none_iff {sep : α} {xs : List α} : cutFirst? sep xs = none ↔ sep ∉ xs := by
  induction xs with
  | nil => simp [cutFirst?]
  | cons x xs ih => by_cases isSep : x = sep <;> simp [cutFirst?, isSep, ih, eq_comm (a := sep)]

theorem cutFirst?_append {sep : α} {front : List α} (clean : sep ∉ front) (rest : List α) :
    cutFirst? sep (front ++ sep :: rest) = some (front, rest) := by
  induction front with
  | nil => simp [cutFirst?]
  | cons x front ih =>
    rw [List.mem_cons, not_or] at clean
    simp [cutFirst?, Ne.symm clean.1, ih clean.2]

/-- A cut at the first separator leaves none in front. -/
theorem cutFirst?_eq_some_iff {sep : α} {xs front rest : List α} :
    cutFirst? sep xs = some (front, rest) ↔ xs = front ++ sep :: rest ∧ sep ∉ front := by
  constructor
  · intro cut
    induction xs generalizing front with
    | nil => cases cut
    | cons x xs ih =>
      rw [cutFirst?] at cut
      split at cut
      · rename_i isSep
        cases cut
        exact ⟨by rw [isSep, List.nil_append], List.not_mem_nil⟩
      · rename_i other
        obtain ⟨⟨before, after⟩, later, same⟩ := Option.map_eq_some_iff.mp cut
        obtain ⟨rfl, rfl⟩ := Prod.mk.inj same
        obtain ⟨rfl, clean⟩ := ih later
        exact ⟨rfl, by simpa [Ne.symm other] using clean⟩
  · rintro ⟨rfl, clean⟩
    exact cutFirst?_append clean rest

/-- A cut at the last separator leaves none behind it. -/
theorem cutLast?_eq_some_iff {sep : α} {xs front last : List α} :
    cutLast? sep xs = some (front, last) ↔ xs = front ++ sep :: last ∧ sep ∉ last := by
  have turned : xs = front ++ sep :: last ↔ xs.reverse = last.reverse ++ sep :: front.reverse := by
    rw [← List.reverse_inj]
    simp
  rw [turned, ← List.mem_reverse, ← cutFirst?_eq_some_iff, cutLast?, Option.map_eq_some_iff]
  constructor
  · rintro ⟨⟨a, b⟩, cut, same⟩
    obtain ⟨rfl, rfl⟩ := Prod.mk.inj same
    simpa using cut
  · intro cut
    exact ⟨_, cut, by simp⟩

theorem cutLast?_eq_none_iff {sep : α} {xs : List α} : cutLast? sep xs = none ↔ sep ∉ xs := by
  rw [cutLast?, Option.map_eq_none_iff, cutFirst?_eq_none_iff, List.mem_reverse]

end CallGuard.Text
