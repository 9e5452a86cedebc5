import CallGuard.Proofs.List
import CallGuard.Proofs.Method.Naming

/-!
What the text of a pattern says. A method is covered if the text is its own or that of all methods
of its service, and reading drops slashes in front and nothing else.
-/
namespace CallGuard

theorem Method.star_not_mem_text (m : Method) : '*' ∉ m.text.toList := by
  rw [toList_text]
  intro star
  have service := segmentFault?_of_serviceFault? m.service.valid
  rcases List.mem_append.mp star with star | star
  · exact (ne_of_mem_segment service star).2 rfl
  · rcases List.mem_cons.mp star with slash | star
    · cases slash
    · exact (ne_of_mem_segment m.name_valid star).2 rfl

theorem Method.text_ne_slash_star (m : Method) (s : ServiceName) : m.text ≠ s.text ++ "/*" := by
  intro h
  apply m.star_not_mem_text
  simp [h]

namespace Pattern

theorem covers_iff {p : Pattern} {m : Method} :
    p.covers m = true ↔ p.text = m.text ∨ p.text = m.service.text ++ "/*" := by
  cases p with
  | one n =>
    simp only [covers, text, beq_iff_eq, Method.text_inj]
    simp [n.text_ne_slash_star]
  | allOf s =>
    have other := (m.text_ne_slash_star s).symm
    simp only [covers, text, beq_iff_eq, other, false_or]
    constructor
    · rintro rfl
      rfl
    · intro h
      have chars := congrArg String.toList h
      rw [String.toList_append, String.toList_append] at chars
      exact (ServiceName.chars_slash_inj.mp chars).1.symm

theorem wildcardService?_eq_some_iff {cs service : List Char} :
    wildcardService? cs = some service ↔ cs = service ++ ['/', '*'] := by
  unfold wildcardService?
  constructor
  · intro h
    split at h
    · rename_i rest found
      cases h
      have back := congrArg List.reverse found
      simpa using back
    · cases h
  · rintro rfl
    simp

theorem head?_text_ne_slash (p : Pattern) : p.text.toList.head? ≠ some '/' := by
  cases p with
  | one m => exact m.head?_text_ne_slash
  | allOf s =>
    rw [text, String.toList_append]
    exact s.head?_chars_append _

theorem ofChars_allOf_iff {cs : List Char} {s : ServiceName} :
    ofChars cs = .ok (.allOf s) ↔ Method.dropSlash cs = s.text.toList ++ ['/', '*'] := by
  simp only [ofChars]
  generalize Method.dropSlash cs = cs
  cases wild : wildcardService? cs with
  | some service =>
    obtain rfl := wildcardService?_eq_some_iff.mp wild
    simp [Except.map_eq_ok_iff, ServiceName.ofChars_eq_ok_iff]
  | none =>
    have other : cs ≠ s.text.toList ++ ['/', '*'] := by
      intro same
      simp [wildcardService?_eq_some_iff.mpr same] at wild
    simp [Except.map_eq_ok_iff, other]

theorem ofChars_one_iff {cs : List Char} {m : Method} :
    ofChars cs = .ok (.one m) ↔ Method.dropSlash (Method.dropSlash cs) = m.text.toList := by
  simp only [ofChars]
  generalize Method.dropSlash cs = cs
  cases wild : wildcardService? cs with
  | some service =>
    have star : '*' ∈ Method.dropSlash cs := by
      rw [Method.mem_dropSlash (by decide), wildcardService?_eq_some_iff.mp wild]
      simp
    have other : Method.dropSlash cs ≠ m.text.toList := by
      intro same
      exact m.star_not_mem_text (same ▸ star)
    simp [Except.map_eq_ok_iff, other]
  | none => simp [Except.map_eq_ok_iff, Method.ofChars_eq_ok_iff]

/-- The ways to write a pattern: slashes may stand in front of its text, two if it is that of one
method, one if it is that of a service's methods. -/
def WrittenAs : Pattern → String → Prop
  | one m, s => s = m.text ∨ s = "/" ++ m.text ∨ s = "//" ++ m.text
  | allOf service, s => s = service.text ++ "/*" ∨ s = "/" ++ (service.text ++ "/*")

theorem parse_eq_ok_iff {s : String} {p : Pattern} : parse s = .ok p ↔ p.WrittenAs s := by
  have front := p.head?_text_ne_slash
  rw [parse, Except.mapError_eq_ok_iff]
  cases p with
  | one m =>
    rw [text] at front
    rw [ofChars_one_iff, Method.dropSlash_eq_iff front, Method.dropSlash_eq_iff front,
      Method.dropSlash_eq_slash_iff]
    simp [WrittenAs, ← String.toList_inj, or_assoc]
  | allOf service =>
    have chars : (text (.allOf service)).toList = service.text.toList ++ ['/', '*'] := by
      simp [text]
    rw [chars] at front
    rw [ofChars_allOf_iff, Method.dropSlash_eq_iff front]
    simp [WrittenAs, ← String.toList_inj]

/-- Without the slashes in front, what is written is the text of the pattern. -/
theorem WrittenAs.dropWhile_slash {p : Pattern} {s : String} (h : p.WrittenAs s) :
    s.toList.dropWhile (· == '/') = p.text.toList := by
  have front : p.text.toList.dropWhile (· == '/') = p.text.toList := by
    have first := p.head?_text_ne_slash
    cases chars : p.text.toList with
    | nil => rfl
    | cons c cs =>
      have other : c ≠ '/' := by simpa [chars] using first
      simp [other]
  cases p with
  | one m => rcases h with rfl | rfl | rfl <;> simpa [text] using front
  | allOf service => rcases h with rfl | rfl <;> simpa [text] using front

theorem parse_text (p : Pattern) : parse p.text = .ok p := by
  rw [parse_eq_ok_iff]
  cases p with
  | one m => exact .inl rfl
  | allOf service => exact .inl rfl

theorem service_eq_of_covers {p : Pattern} {m n : Method} (hm : p.covers m = true)
    (hn : p.covers n = true) : m.service = n.service := by
  cases p with
  | one k =>
    obtain rfl : k = m := by simpa [covers] using hm
    obtain rfl : k = n := by simpa [covers] using hn
    rfl
  | allOf service =>
    obtain rfl : m.service = service := by simpa [covers] using hm
    have same : n.service = m.service := by simpa [covers] using hn
    exact same.symm

end Pattern

namespace SkipList

theorem contains_iff {skip : SkipList} {m : Method} :
    SkipList.contains skip m = true ↔
      ∃ p ∈ skip, p.text = m.text ∨ p.text = m.service.text ++ "/*" := by
  simp only [contains, List.any_eq_true, Pattern.covers_iff]

/-- The patterns of a list that has been read are those that its texts write. -/
theorem mem_iff_of_parse {texts : List String} {skip : SkipList} (read : parse texts = .ok skip)
    (p : Pattern) : p ∈ skip ↔ ∃ s ∈ texts, Pattern.parse s = .ok p := by
  have one_for_one := Except.mapM_eq_ok_iff.mp read
  have found := List.exists_mem_iff_of_forall₂ (P := fun s => Pattern.parse s = .ok p)
    (Q := (· = p)) one_for_one fun s q made => by rw [made, Except.ok.injEq]
  rw [found, exists_eq_right]

end SkipList

namespace Pattern

/-- A pattern is read from its text, and the text says what it covers: the method that has this text
or the methods of the service before the star, so that no pattern covers methods of two services. A
skip list has the methods that one of its texts says so of. -/
theorem patterns_mean_their_texts :
    (∀ p : Pattern, parse p.text = .ok p) ∧
    (∀ (p : Pattern) (m : Method),
      p.covers m = true ↔ p.text = m.text ∨ p.text = m.service.text ++ "/*") ∧
    (∀ (p : Pattern) (m n : Method),
      p.covers m = true → p.covers n = true → m.service = n.service) ∧
    (∀ (skip : SkipList) (m : Method), SkipList.contains skip m = true ↔
      ∃ p ∈ skip, p.text = m.text ∨ p.text = m.service.text ++ "/*") ∧
    ∀ (texts : List String) (skip : SkipList), SkipList.parse texts = .ok skip →
      ∀ p, p ∈ skip ↔ ∃ s ∈ texts, parse s = .ok p :=
  ⟨parse_text, fun _ _ => covers_iff, fun _ _ _ => service_eq_of_covers,
    fun _ _ => SkipList.contains_iff, fun _ _ => SkipList.mem_iff_of_parse⟩

namespace Sample

def service : ServiceName := ⟨"a.b", rfl⟩

def get : Method := ⟨service, "Get", rfl⟩

def put : Method := ⟨service, "Put", rfl⟩

/-- In a service of almost the same name. -/
def alike : Method := ⟨⟨"a.bb", rfl⟩, "Get", rfl⟩

end Sample

theorem sample_service_listed :
    (∃ p : Pattern, p.covers Sample.get = true ∧ p.covers Sample.put = true ∧
      p.covers Sample.alike = false ∧ Sample.get.service = Sample.put.service) ∧
    SkipList.parse ["/a.b/*", "a.bb/Get"] = .ok [.allOf Sample.service, .one Sample.alike] ∧
    ∀ p, p ∈ [allOf Sample.service, one Sample.alike] ↔
      ∃ s ∈ ["/a.b/*", "a.bb/Get"], parse s = .ok p := by
  obtain ⟨-, -, same_service, -, listed⟩ := patterns_mean_their_texts
  have covered : (allOf Sample.service).covers Sample.get = true := rfl
  have other : (allOf Sample.service).covers Sample.put = true := rfl
  exact ⟨⟨_, covered, other, rfl, same_service _ _ _ covered other⟩, rfl, listed _ _ rfl⟩

/-! ### One method -/

theorem parse_eq_one_iff {s : String} {m : Method} :
    parse s = .ok (.one m) ↔ Method.parse s = .ok m ∨ s = "//" ++ m.text := by
  rw [parse_eq_ok_iff, Method.parse_eq_ok_iff_written, WrittenAs, or_assoc]

/-- A pattern for one method is read from the texts that are read as the method, and from the
method's text behind two slashes. It is there that the readers differ, and such texts are the only
ones of a pattern for one method that are not read as any. -/
theorem read_alike_but_for_two_slashes (s : String) (m : Method) :
    (parse s = .ok (.one m) ↔ Method.parse s = .ok m ∨ s = "//" ++ m.text) ∧
    ((parse s = .ok (.one m) ↔ Method.parse s = .ok m) ↔ s ≠ "//" ++ m.text) ∧
    (((∃ n, parse s = .ok (.one n)) ∧ ∀ n, Method.parse s ≠ .ok n) ↔
      ∃ n : Method, s = "//" ++ n.text) := by
  refine ⟨parse_eq_one_iff, ?alike, ?unnamed⟩
  case alike =>
    rw [parse_eq_one_iff]
    constructor
    · rintro alike rfl
      exact m.parse_two_slashes_ne_ok m (alike.mp (.inr rfl))
    · intro other
      simp [other]
  case unnamed =>
    constructor
    · rintro ⟨⟨n, read⟩, unnamed⟩
      exact ⟨n, (parse_eq_one_iff.mp read).resolve_left (unnamed n)⟩
    · rintro ⟨n, rfl⟩
      exact ⟨⟨n, parse_eq_one_iff.mpr (.inr rfl)⟩, n.parse_two_slashes_ne_ok⟩

/-- This text makes a pattern, but names no method. -/
theorem two_slashes_unnamed :
    parse "//a.b/Get" = .ok (.one Sample.get) ∧
      Method.parse "//a.b/Get" = .error (.invalidMethod "//a.b/Get" .emptySegment) :=
  ⟨rfl, rfl⟩

end Pattern
end CallGuard
