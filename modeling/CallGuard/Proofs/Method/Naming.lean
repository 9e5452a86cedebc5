import CallGuard.ConfigError
import CallGuard.Proofs.Except
import Mathlib.Data.List.TakeWhile

/-!
What the text of a method says. It splits at its one slash, so that no two methods have the same,
and it is read as that method and no other.
-/
namespace CallGuard

namespace Method

theorem segmentFault?_eq_none_iff {cs : List Char} :
    segmentFault? cs = none ↔ cs ≠ [] ∧ cs.all isNameChar = true := by
  unfold segmentFault?
  cases cs with
  | nil => simp
  | cons c cs => cases (c :: cs).all isNameChar <;> simp

theorem segmentFault?_of_serviceFault? {cs : List Char} (h : serviceFault? cs = none) :
    segmentFault? cs = none := by
  unfold serviceFault? at h
  split at h
  · cases h
  · assumption

theorem ne_of_mem_segment {cs : List Char} (h : segmentFault? cs = none) {c : Char} (hc : c ∈ cs) :
    c ≠ '/' ∧ c ≠ '*' := by
  have char := List.all_eq_true.mp (segmentFault?_eq_none_iff.mp h).2 c hc
  simp only [isNameChar, Bool.and_eq_true, bne_iff_ne] at char
  exact ⟨char.1.2, char.2⟩

end Method

namespace ServiceName

theorem chars_ne_slash (s : ServiceName) : ∀ c ∈ s.text.toList, c ≠ '/' := fun _ hc =>
  (Method.ne_of_mem_segment (Method.segmentFault?_of_serviceFault? s.valid) hc).1

theorem chars_ne_nil (s : ServiceName) : s.text.toList ≠ [] :=
  (Method.segmentFault?_eq_none_iff.mp (Method.segmentFault?_of_serviceFault? s.valid)).1

theorem ext_chars {s t : ServiceName} (h : s.text.toList = t.text.toList) : s = t := by
  obtain ⟨a, _⟩ := s
  obtain ⟨b, _⟩ := t
  obtain rfl : a = b := String.toList_injective h
  rfl

theorem ofChars_eq_ok_iff {cs : List Char} {s : ServiceName} :
    ofChars cs = .ok s ↔ cs = s.text.toList := by
  unfold ofChars
  split
  · rename_i h
    rw [Except.ok.injEq]
    constructor
    · rintro rfl
      simp
    · rintro rfl
      exact ext_chars (by simp)
  · rename_i fault h
    simp only [reduceCtorEq, false_iff]
    rintro rfl
    simp [s.valid] at h

theorem takeWhile_chars (s : ServiceName) (cs : List Char) :
    (s.text.toList ++ '/' :: cs).takeWhile (· != '/') = s.text.toList := by
  rw [List.takeWhile_append_of_pos (by simpa using s.chars_ne_slash)]
  simp

theorem dropWhile_chars (s : ServiceName) (cs : List Char) :
    (s.text.toList ++ '/' :: cs).dropWhile (· != '/') = '/' :: cs := by
  rw [List.dropWhile_append_of_pos (by simpa using s.chars_ne_slash)]
  simp

/-- Where a service ends and what comes after its slash can be told from the whole. -/
theorem chars_slash_inj {s t : ServiceName} {cs ds : List Char} :
    s.text.toList ++ '/' :: cs = t.text.toList ++ '/' :: ds ↔ s = t ∧ cs = ds := by
  constructor
  · intro h
    have front := congrArg (List.takeWhile (· != '/')) h
    have rest := congrArg (List.dropWhile (· != '/')) h
    rw [takeWhile_chars, takeWhile_chars] at front
    rw [dropWhile_chars, dropWhile_chars] at rest
    exact ⟨ext_chars front, (List.cons.inj rest).2⟩
  · rintro ⟨rfl, rfl⟩
    rfl

theorem head?_chars_append (s : ServiceName) (cs : List Char) :
    (s.text.toList ++ cs).head? ≠ some '/' := by
  cases h : s.text.toList with
  | nil => exact absurd h s.chars_ne_nil
  | cons c rest => simpa using s.chars_ne_slash c (by simp [h])

end ServiceName

namespace Method

theorem toList_text (m : Method) :
    m.text.toList = m.service.text.toList ++ '/' :: m.name.toList := by
  simp [text]

theorem ext_chars {m n : Method} (service : m.service = n.service)
    (name : m.name.toList = n.name.toList) : m = n := by
  obtain ⟨s, a, _⟩ := m
  obtain ⟨t, b, _⟩ := n
  obtain rfl : s = t := service
  obtain rfl : a = b := String.toList_injective name
  rfl

theorem head?_text_ne_slash (m : Method) : m.text.toList.head? ≠ some '/' := by
  rw [toList_text]
  exact m.service.head?_chars_append _

theorem text_inj {m n : Method} : m.text = n.text ↔ m = n := by
  constructor
  · intro h
    have chars := congrArg String.toList h
    rw [toList_text, toList_text, ServiceName.chars_slash_inj] at chars
    exact ext_chars chars.1 chars.2
  · rintro rfl
    rfl

theorem ofParts_eq_ok_iff {service name : List Char} {m : Method} :
    ofParts service name = .ok m ↔ service = m.service.text.toList ∧ name = m.name.toList := by
  unfold ofParts
  rw [Except.bind_eq_ok_iff]
  simp only [ServiceName.ofChars_eq_ok_iff]
  constructor
  · rintro ⟨s, rfl, h⟩
    split at h
    · cases h
      simp
    · cases h
  · rintro ⟨rfl, rfl⟩
    refine ⟨m.service, rfl, ?_⟩
    split
    · exact congrArg Except.ok (ext_chars rfl (by simp))
    · rename_i fault h
      simp [m.name_valid] at h

theorem dropSlash_of_ne {c : Char} (h : c ≠ '/') (cs : List Char) :
    dropSlash (c :: cs) = c :: cs := by
  unfold dropSlash
  split
  · simp_all
  · rfl

theorem mem_dropSlash {c : Char} (h : c ≠ '/') {cs : List Char} : c ∈ dropSlash cs ↔ c ∈ cs := by
  cases cs with
  | nil => rfl
  | cons d cs =>
    by_cases slash : d = '/'
    · subst slash
      simp [dropSlash, h]
    · rw [dropSlash_of_ne slash]

/-- Characters without a slash in front are left once at most one is dropped. -/
theorem dropSlash_eq_iff {cs ds : List Char} (h : ds.head? ≠ some '/') :
    dropSlash cs = ds ↔ cs = ds ∨ cs = '/' :: ds := by
  cases cs with
  | nil => simp [dropSlash, eq_comm]
  | cons c cs =>
    by_cases slash : c = '/'
    · subst slash
      have other : '/' :: cs ≠ ds := by
        rintro rfl
        exact h rfl
      simp [dropSlash, other]
    · simp [dropSlash_of_ne slash, slash]

theorem dropSlash_eq_slash_iff {cs ds : List Char} :
    dropSlash cs = '/' :: ds ↔ cs = '/' :: '/' :: ds := by
  cases cs with
  | nil => simp [dropSlash]
  | cons c cs =>
    by_cases slash : c = '/'
    · subst slash
      simp [dropSlash]
    · simp [dropSlash_of_ne slash, slash]

theorem ofChars_eq_ok_iff {cs : List Char} {m : Method} :
    ofChars cs = .ok m ↔ dropSlash cs = m.text.toList := by
  simp only [ofChars]
  generalize dropSlash cs = cs
  rw [toList_text]
  constructor
  · intro h
    split at h
    · cases h
    · rename_i c name found
      obtain ⟨service, rfl⟩ := ofParts_eq_ok_iff.mp h
      obtain rfl : c = '/' := by
        have first := List.head_dropWhile_not (· != '/') (l := cs) (by simp [found])
        simpa [found] using first
      rw [← service, ← found, List.takeWhile_append_dropWhile]
  · rintro rfl
    rw [m.service.takeWhile_chars, m.service.dropWhile_chars]
    simp [ofParts_eq_ok_iff]

theorem parse_eq_ok_iff {s : String} {m : Method} :
    parse s = .ok m ↔ dropSlash s.toList = m.text.toList := by
  rw [parse, Except.mapError_eq_ok_iff, ofChars_eq_ok_iff]

/-- A method is read from its text, as it is or behind one slash. -/
theorem parse_eq_ok_iff_written {s : String} {m : Method} :
    parse s = .ok m ↔ s = m.text ∨ s = "/" ++ m.text := by
  rw [parse_eq_ok_iff, dropSlash_eq_iff m.head?_text_ne_slash]
  simp [← String.toList_inj]

/-- Of two slashes, one is left, and it stands in front of no method. -/
theorem parse_two_slashes_ne_ok (m n : Method) : parse ("//" ++ m.text) ≠ .ok n := by
  intro read
  have left := parse_eq_ok_iff.mp read
  apply n.head?_text_ne_slash
  rw [← left]
  simp [dropSlash]

end Method
end CallGuard
