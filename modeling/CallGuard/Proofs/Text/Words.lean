import CallGuard.Text.Blank
import Mathlib.Data.List.TakeWhile

/-!
Words are the longest runs of characters that are not white space, and what stands between them is
forgotten: however a list of words is spaced, these words are what is found. All comes from
`runs_append_blank`, that white space cuts a text in two.
-/
namespace CallGuard.Text

/-- The characters are a word: there are some, and no white space is among them. -/
def IsWord (w : List Char) : Prop := w ≠ [] ∧ ∀ c ∈ w, isBlank c = false

/-- The word is a run in the text that is as long as it can be: at either end of it there is white
space, or the text ends as well. -/
def IsRun (w cs : List Char) : Prop :=
  IsWord w ∧ ∃ before after, cs = before ++ w ++ after ∧
    (∀ c ∈ before.getLast?, isBlank c = true) ∧ ∀ c ∈ after.head?, isBlank c = true

/-- The text writes the words in their order, with any white space between two of them, of which
there must be some, and perhaps more of it at the ends. -/
inductive Spaced : List String → List Char → Prop
  | nil : Spaced [] []
  | blank {words : List String} {c : Char} {cs : List Char} (blank : isBlank c = true)
      (rest : Spaced words cs) : Spaced words (c :: cs)
  | word {w : String} {words : List String} {cs : List Char} (word : IsWord w.toList)
      (ends : ∀ c ∈ cs.head?, isBlank c = true) (rest : Spaced words cs) :
      Spaced (w :: words) (w.toList ++ cs)

/-- What `words` finds, as lists of characters. -/
def runs (cs : List Char) : List (List Char) :=
  let found := cs.foldr consWord ([], [])
  if found.1.isEmpty then found.2 else found.1 :: found.2

theorem words_eq_runs (s : String) : words s = (runs s.toList).map String.ofList := rfl

/-! ### Cuts -/

theorem consWord_blank {c : Char} (blank : isBlank c = true)
    (found : List Char × List (List Char)) :
    consWord c found = ([], if found.1.isEmpty then found.2 else found.1 :: found.2) := by
  rw [consWord, if_pos blank]

theorem consWord_solid {c : Char} (solid : isBlank c = false)
    (found : List Char × List (List Char)) : consWord c found = (c :: found.1, found.2) := by
  rw [consWord, if_neg (by simp [solid])]

/-- What is found behind a cut is added to what is found before it. -/
theorem foldr_append_blank {c : Char} (blank : isBlank c = true) (xs ys : List Char) :
    (xs ++ c :: ys).foldr consWord ([], []) =
      ((xs.foldr consWord ([], [])).1, (xs.foldr consWord ([], [])).2 ++ runs ys) := by
  induction xs with
  | nil =>
    rw [List.nil_append, List.foldr_cons, consWord_blank blank]
    rfl
  | cons x xs ih =>
    rw [List.cons_append, List.foldr_cons, List.foldr_cons, ih]
    cases kind : isBlank x with
    | true =>
      rw [consWord_blank kind, consWord_blank kind]
      split <;> rfl
    | false =>
      rw [consWord_solid kind, consWord_solid kind]

/-- White space cuts a text in two. -/
theorem runs_append_blank {c : Char} (blank : isBlank c = true) (xs ys : List Char) :
    runs (xs ++ c :: ys) = runs xs ++ runs ys := by
  have cut := foldr_append_blank blank xs ys
  generalize runs ys = later at cut ⊢
  rw [runs, cut, runs]
  dsimp only
  split <;> rfl

theorem runs_cons_blank {c : Char} (blank : isBlank c = true) (cs : List Char) :
    runs (c :: cs) = runs cs :=
  runs_append_blank blank [] cs

theorem foldr_of_solid {w : List Char} (solid : ∀ c ∈ w, isBlank c = false) :
    w.foldr consWord ([], []) = (w, []) := by
  induction w with
  | nil => rfl
  | cons c w ih =>
    obtain ⟨first, later⟩ := List.forall_mem_cons.mp solid
    rw [List.foldr_cons, ih later, consWord_solid first]

theorem runs_of_solid {w : List Char} (solid : ∀ c ∈ w, isBlank c = false) :
    runs w = if w.isEmpty then [] else [w] := by
  rw [runs, foldr_of_solid solid]

theorem runs_of_isWord {w : List Char} (word : IsWord w) : runs w = [w] := by
  rw [runs_of_solid word.2, if_neg (by simpa using word.1)]

/-- A word that ends where it does is the first to be found. -/
theorem runs_word_append {w cs : List Char} (word : IsWord w)
    (ends : ∀ c ∈ cs.head?, isBlank c = true) : runs (w ++ cs) = w :: runs cs := by
  cases cs with
  | nil =>
    rw [List.append_nil, runs_of_isWord word]
    rfl
  | cons c cs =>
    have blank := ends c rfl
    rw [runs_append_blank blank, runs_of_isWord word, runs_cons_blank blank]
    rfl

/-! ### Runs -/

theorem mem_runs_of_isRun {w cs : List Char} (run : IsRun w cs) : w ∈ runs cs := by
  obtain ⟨word, before, after, rfl, starts, ends⟩ := run
  have found : w ∈ runs (w ++ after) := by
    rw [runs_word_append word ends]
    exact List.mem_cons_self
  rcases before.eq_nil_or_concat with rfl | ⟨front, c, rfl⟩
  · exact found
  · have blank : isBlank c = true := starts c (by simp)
    have cut : front ++ [c] ++ w ++ after = front ++ c :: (w ++ after) := by simp
    rw [List.concat_eq_append, cut, runs_append_blank blank]
    exact List.mem_append_right _ found

/-- A run of what stands behind a cut is one of the whole. -/
theorem IsRun.append_blank {w cs : List Char} (run : IsRun w cs) (front : List Char) {c : Char}
    (blank : isBlank c = true) : IsRun w (front ++ c :: cs) := by
  obtain ⟨word, before, after, rfl, starts, ends⟩ := run
  refine ⟨word, front ++ c :: before, after, by simp, ?_, ends⟩
  intro last hlast
  rcases before.eq_nil_or_concat with rfl | ⟨middle, d, rfl⟩
  · obtain rfl : c = last := by simpa using hlast
    exact blank
  · obtain rfl : d = last := by simpa [List.getLast?_append, List.getLast?_cons] using hlast
    exact starts d (by simp)

/-- The induction is on the length of the text: what is left once its first run is gone is shorter,
but no tail that the recursion of `runs` would give. -/
theorem isRun_of_mem_runs {w cs : List Char} (found : w ∈ runs cs) : IsRun w cs := by
  generalize size : cs.length = n
  induction n using Nat.strongRecOn generalizing cs with
  | ind n ih =>
    have solid : ∀ c ∈ cs.takeWhile (!isBlank ·), isBlank c = false := by
      intro c hc
      simpa using List.mem_takeWhile_imp hc
    have whole := List.takeWhile_append_dropWhile (p := (!isBlank ·)) (l := cs)
    cases behind : cs.dropWhile (!isBlank ·) with
    | nil =>
      rw [behind, List.append_nil] at whole
      rw [whole] at solid
      rw [runs_of_solid solid] at found
      split at found
      · cases found
      · rename_i filled
        obtain rfl := List.mem_singleton.mp found
        refine ⟨⟨by simpa using filled, solid⟩, [], [], by simp, by simp, by simp⟩
    | cons c rest =>
      have blank : isBlank c = true := by
        have stopped := List.head_dropWhile_not (!isBlank ·) (l := cs) (by simp [behind])
        simpa [behind] using stopped
      rw [behind] at whole
      have shorter : rest.length < n := by
        rw [← size, ← whole, List.length_append, List.length_cons]
        omega
      rw [← whole, runs_append_blank blank, List.mem_append] at found
      rcases found with first | later
      · rw [runs_of_solid solid] at first
        split at first
        · cases first
        · rename_i filled
          obtain rfl := List.mem_singleton.mp first
          refine ⟨⟨by simpa using filled, solid⟩, [], c :: rest, ?_, by simp, ?_⟩
          · rw [List.nil_append, whole]
          · rintro d ⟨⟩
            exact blank
      · rw [← whole]
        exact (ih _ shorter later rfl).append_blank _ blank

theorem mem_words_iff {word s : String} : word ∈ words s ↔ IsRun word.toList s.toList := by
  rw [words_eq_runs, List.mem_map]
  constructor
  · rintro ⟨w, found, rfl⟩
    rw [String.toList_ofList]
    exact isRun_of_mem_runs found
  · intro run
    exact ⟨word.toList, mem_runs_of_isRun run, String.ofList_toList⟩

/-! ### Words that are spaced -/

theorem Spaced.runs_eq {words : List String} {cs : List Char} (spaced : Spaced words cs) :
    runs cs = words.map String.toList := by
  induction spaced with
  | nil => rfl
  | blank blank _ ih => rw [runs_cons_blank blank, ih]
  | word word ends _ ih => rw [runs_word_append word ends, ih, List.map_cons]

/-- However words are spaced, they are what is found. -/
theorem words_of_spaced {found : List String} {s : String} (spaced : Spaced found s.toList) :
    words s = found := by
  rw [words_eq_runs, spaced.runs_eq, List.map_map]
  simp

end CallGuard.Text
