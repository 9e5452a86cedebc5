import CallGuard.Proofs.Json.Document
import CallGuard.Proofs.Method.Naming
import CallGuard.Proofs.Text.Order
import CallGuard.Proofs.Text.Pieces
import CallGuard.Reading.Schemas

/-!
How the names of methods are written, and that each method has just one of them.
`exists_parse_iff_writes` joins the reader to a grammar that knows neither a first slash nor a last
dot: whatever has the form of a name is read, as the two parts that it has.
-/
namespace CallGuard.Method

/-! ### The grammar -/

/-- A name without parts: it is not empty, and there are no white space, slashes and stars in it. -/
def IsSegment (s : String) : Prop :=
  s ≠ "" ∧ ∀ c ∈ s.toList, Text.isBlank c = false ∧ c ≠ '/' ∧ c ≠ '*'

/-- A name of two or more parts, with dots between them and nowhere else. -/
def IsQualified (s : String) : Prop :=
  ∃ parts : List String, 2 ≤ parts.length ∧ s = ".".intercalate parts ∧
    ∀ part ∈ parts, IsSegment part ∧ '.' ∉ part.toList

/-- The text writes the two names with a slash between them. One may also stand in front. -/
def Writes (s service name : String) : Prop :=
  IsQualified service ∧ IsSegment name ∧
    (s = service ++ "/" ++ name ∨ s = "/" ++ (service ++ "/" ++ name))

/-- What stands in names, character by character. -/
theorem isNameChar_iff {c : Char} :
    isNameChar c = true ↔ Text.isBlank c = false ∧ c ≠ '/' ∧ c ≠ '*' := by
  simp [isNameChar, and_assoc]

theorem isSegment_iff {s : String} : IsSegment s ↔ segmentFault? s.toList = none := by
  simp [IsSegment, segmentFault?_eq_none_iff, ← isNameChar_iff, String.toList_eq_nil_iff]

theorem serviceFault?_eq_none_iff {cs : List Char} :
    serviceFault? cs = none ↔
      segmentFault? cs = none ∧ '.' ∈ cs ∧ ∀ part ∈ Text.pieces '.' cs, part ≠ [] := by
  unfold serviceFault?
  cases segmentFault? cs with
  | some fault => simp
  | none =>
    have filled : (∀ part ∈ Text.pieces '.' cs, part ≠ []) ↔
        (Text.pieces '.' cs).any List.isEmpty = false := by
      simp only [List.any_eq_false, List.isEmpty_iff, ne_eq]
    rw [filled]
    generalize (Text.pieces '.' cs).any List.isEmpty = empty
    by_cases dot : '.' ∈ cs <;> cases empty <;> simp [dot]

/-- The parts of a qualified name are what the dots cut it into. -/
theorem isQualified_iff_pieces {s : String} :
    IsQualified s ↔ 2 ≤ (Text.pieces '.' s.toList).length ∧
      ∀ part ∈ Text.pieces '.' s.toList, segmentFault? part = none := by
  constructor
  · rintro ⟨parts, many, rfl, segments⟩
    -- No part has a dot in it, so that the cuts are where the parts were joined.
    have cut : Text.pieces '.' (".".intercalate parts).toList = parts.map String.toList := by
      rw [Text.pieces_eq_iff, String.toList_intercalate]
      refine ⟨by rintro none_left; simp_all, rfl, ?_⟩
      simpa using fun part hp => (segments part hp).2
    rw [cut, List.length_map]
    refine ⟨many, ?_⟩
    simpa [← isSegment_iff] using fun part hp => (segments part hp).1
  · rintro ⟨many, segments⟩
    obtain ⟨-, joined, clean⟩ := Text.pieces_eq_iff.mp (rfl : Text.pieces '.' s.toList = _)
    refine ⟨(Text.pieces '.' s.toList).map String.ofList, by simpa using many, ?_, ?_⟩
    · rw [← String.toList_inj, String.toList_intercalate, List.map_map]
      simpa [Function.comp_def] using joined.symm
    · simpa [isSegment_iff] using fun part hp => ⟨segments part hp, clean part hp⟩

theorem isQualified_iff {s : String} : IsQualified s ↔ serviceFault? s.toList = none := by
  rw [isQualified_iff_pieces, serviceFault?_eq_none_iff, Text.two_le_length_pieces_iff]
  have dot_in_names : isNameChar '.' = true := by decide
  have chars : (∀ part ∈ Text.pieces '.' s.toList, ∀ c ∈ part, isNameChar c = true) ↔
      ∀ c ∈ s.toList, isNameChar c = true :=
    Text.forall_mem_pieces_iff (P := fun c => isNameChar c = true) dot_in_names
  simp only [segmentFault?_eq_none_iff, List.all_eq_true, forall_and, chars]
  constructor
  · rintro ⟨dot, filled, names⟩
    refine ⟨⟨?_, names⟩, dot, filled⟩
    exact List.ne_nil_of_mem dot
  · rintro ⟨⟨-, names⟩, dot, filled⟩
    exact ⟨dot, filled, names⟩

/-! ### Reading and writing -/

theorem exists_parse_iff_writes {s service name : String} :
    (∃ m, parse s = .ok m ∧ m.service.text = service ∧ m.name = name) ↔ Writes s service name := by
  simp only [parse_eq_ok_iff_written]
  constructor
  · rintro ⟨m, written, rfl, rfl⟩
    exact ⟨isQualified_iff.mpr m.service.valid, isSegment_iff.mpr m.name_valid, written⟩
  · rintro ⟨qualified, segment, written⟩
    exact ⟨⟨⟨service, isQualified_iff.mp qualified⟩, name, isSegment_iff.mp segment⟩, written, rfl,
      rfl⟩

theorem read_toJson (m : Method) : Method.read m.toJson = .ok m := by
  have read : parse m.text = .ok m := parse_eq_ok_iff_written.mpr (.inl rfl)
  change (parse m.text).mapError _ = _
  rw [read]
  rfl

theorem le_iff_bytes {m n : Method} :
    le m n = true ↔ Bytes.ofString m.text ≤ Bytes.ofString n.text := by
  rw [Bytes.ofString_le_iff, le, decide_eq_true_iff]

/-- A text is read just if the grammar has it, as the two names that it writes there, and the method
has the text without a slash in front. It is the one read from its text, as it is, behind a slash or
out of JSON, and methods are the same, and in order, as the bytes of their texts are. -/
theorem names_are_canonical :
    (∀ s service name, (∃ m, parse s = .ok m ∧ m.service.text = service ∧ m.name = name) ↔
      Writes s service name) ∧
    (∀ s m, parse s = .ok m ↔ m.text.toList = dropSlash s.toList) ∧
    (∀ m : Method, m.text = m.service.text ++ "/" ++ m.name ∧
      parse m.text = .ok m ∧ parse ("/" ++ m.text) = .ok m ∧
      Json.read (Bytes.ofString m.toJson.compact) = .ok m.toJson ∧ Method.read m.toJson = .ok m) ∧
    ∀ m n : Method, (m = n ↔ m.text = n.text) ∧
      (le m n = true ↔ Bytes.ofString m.text ≤ Bytes.ofString n.text) := by
  refine ⟨fun _ _ _ => exists_parse_iff_writes, fun s m => ?_, fun m => ?_, fun m n => ?_⟩
  · rw [parse_eq_ok_iff, eq_comm]
  · exact ⟨rfl, parse_eq_ok_iff_written.mpr (.inl rfl), parse_eq_ok_iff_written.mpr (.inr rfl),
      Json.read_compact_str m.text, m.read_toJson⟩
  · exact ⟨text_inj.symm, le_iff_bytes⟩

end CallGuard.Method
