import CallGuard.Http
import CallGuard.Proofs.Bytes
import CallGuard.Proofs.Json.Document
import CallGuard.Proofs.Json.Printer
import CallGuard.Proofs.Text.Pieces

/-!
How a stream is framed. The compact form of a document is one line, whatever texts stand in it, so
that the ends of lines are the ends of items: `framed_by_line_feeds` says that the items are found
again by cutting the body there, and that errors among them are items like any other.
-/
namespace CallGuard.Http

/-- The document of an error. -/
def faultOf (code message : String) : Json := .obj [("code", .str code), ("message", .str message)]

/-- What a stream's item is shown as. -/
def shown : Except Status Json → Json
  | .ok v => v
  | .error s => .obj [("error", faultOf s.code.name s.message)]

theorem line_eq (item : Except Status Json) : line item = (shown item).compact ++ "\n" := by
  cases item <;> rfl

theorem pieces_of_lines (items : List (Except Status Json)) :
    Text.pieces '\n' (String.join (items.map line)).toList =
      items.map (fun item => (shown item).compact.toList) ++ [[]] := by
  have whole : (String.join (items.map line)).toList =
      (items.map fun item => (shown item).compact.toList).flatMap (· ++ ['\n']) := by
    rw [String.toList_join, List.flatMap_map, List.flatMap_map]
    simp only [line_eq, String.toList_append]
    rfl
  rw [whole]
  apply Text.pieces_flatMap_sep
  intro l hl
  obtain ⟨item, -, rfl⟩ := List.mem_map.mp hl
  exact Json.newline_not_mem_compact _

/-! ### Bytes -/

/-- The bytes of an item's line, without its end. -/
def lineOf (item : Except Status Json) : Bytes := Bytes.ofString (shown item).compact

/-- The bytes of the response to a call that has been answered with a stream. -/
def bodyOf (md : Metadata) (items : List (Except Status Json)) : Bytes :=
  Bytes.ofString (respond (.ok ⟨md, .stream items⟩)).body

theorem lineFeed_not_mem_lineOf (item : Except Status Json) : Ascii.lineFeed ∉ lineOf item := by
  intro cut
  have newline : '\n' ∈ (shown item).compact.toList :=
    (Bytes.ofNat_mem_ofString_iff (c := '\n') (by decide)).mp cut
  exact Json.newline_not_mem_compact _ newline

theorem clean_lines (items : List (Except Status Json)) :
    ∀ l ∈ items.map lineOf, Ascii.lineFeed ∉ l := by
  intro l hl
  obtain ⟨item, -, rfl⟩ := List.mem_map.mp hl
  exact lineFeed_not_mem_lineOf item

theorem ofString_line (item : Except Status Json) :
    Bytes.ofString (line item) = lineOf item ++ [Ascii.lineFeed] := by
  have ending : Bytes.ofString "\n" = [Ascii.lineFeed] := by decide
  rw [line_eq, Bytes.ofString_append, ending, lineOf]

theorem bodyOf_eq (md : Metadata) (items : List (Except Status Json)) :
    bodyOf md items = (items.map lineOf).flatMap (· ++ [Ascii.lineFeed]) := by
  rw [bodyOf, respond, Bytes.ofString_join, List.flatMap_map, List.flatMap_map]
  simp only [ofString_line]

theorem pieces_bodyOf (md : Metadata) (items : List (Except Status Json)) :
    Text.pieces Ascii.lineFeed (bodyOf md items) = items.map lineOf ++ [[]] := by
  rw [bodyOf_eq, Text.pieces_flatMap_sep (clean_lines items)]

theorem count_bodyOf (md : Metadata) (items : List (Except Status Json)) :
    (bodyOf md items).count Ascii.lineFeed = items.length := by
  rw [bodyOf_eq, Text.count_flatMap_sep (clean_lines items), List.length_map]

theorem bodyOf_append (md : Metadata) (items later : List (Except Status Json)) :
    bodyOf md (items ++ later) = bodyOf md items ++ bodyOf md later := by
  simp only [bodyOf_eq, List.map_append, List.flatMap_append]

/-- What a body has been cut into tells what was put into it. -/
theorem bodyOf_eq_iff {md : Metadata} {items others : List (Except Status Json)} :
    bodyOf md items = bodyOf md others ↔ items.map lineOf = others.map lineOf := by
  constructor
  · intro same
    have cut := congrArg (Text.pieces Ascii.lineFeed) same
    rw [pieces_bodyOf, pieces_bodyOf] at cut
    exact List.append_cancel_right cut
  · intro same
    rw [bodyOf_eq, bodyOf_eq, same]

/-! ### Reading back -/

/-- What is shown of the item is its compact form and no more, so that it can be read back. -/
def IsExact (item : Except Status Json) : Prop := Json.Exact (Json.depthLimit - 1) (shown item)

theorem exact_faultOf (d : Nat) (code message : String) :
    Json.Exact (d + 1) (faultOf code message) := by
  refine .obj (by simp) fun m hm => ?_
  simp only [List.mem_cons, List.not_mem_nil, or_false] at hm
  rcases hm with rfl | rfl <;> exact .str _

/-- No error is lost in its line, whatever its message. -/
theorem isExact_error (s : Status) : IsExact (.error s) := by
  refine .obj (by simp) fun m hm => ?_
  obtain rfl := List.mem_singleton.mp hm
  exact exact_faultOf _ _ _

theorem read_lineOf {item : Except Status Json} (exact : IsExact item) :
    Json.read (lineOf item) = .ok (shown item) :=
  Json.read_compact exact

/-- The lines of exact items tell all that is shown of them. -/
theorem map_lineOf_eq_iff {items others : List (Except Status Json)}
    (exact : ∀ item ∈ items, IsExact item) (exact_others : ∀ item ∈ others, IsExact item) :
    items.map lineOf = others.map lineOf ↔ items.map shown = others.map shown := by
  have read {items : List (Except Status Json)} (exact : ∀ item ∈ items, IsExact item) :
      (items.map lineOf).map Json.read = (items.map shown).map .ok := by
    rw [List.map_map, List.map_map]
    exact List.map_congr_left fun item hi => read_lineOf (exact item hi)
  constructor
  · intro same
    have again := congrArg (List.map Json.read) same
    rw [read exact, read exact_others] at again
    exact List.map_injective_iff.mpr (fun _ _ => Except.ok.inj) again
  · intro same
    have printed := congrArg (List.map Json.bytes) same
    rwa [List.map_map, List.map_map] at printed

/-- A body of exact items tells all that is shown of them. -/
theorem bodyOf_eq_iff_shown {md : Metadata} {items others : List (Except Status Json)}
    (exact : ∀ item ∈ items, IsExact item) (exact_others : ∀ item ∈ others, IsExact item) :
    bodyOf md items = bodyOf md others ↔ items.map shown = others.map shown := by
  rw [bodyOf_eq_iff, map_lineOf_eq_iff exact exact_others]

/-- Each item of a stream, error or not, is a line of its own in the body, ended by a line feed as
there is no other in it. So the body cut at its line feeds gives the lines again, one for each item
and in their order, an error is followed by what comes after it, and streams with the same body have
the same lines. -/
theorem framed_by_line_feeds (md : Metadata) (items : List (Except Status Json)) :
    bodyOf md items = (items.map lineOf).flatMap (· ++ [Ascii.lineFeed]) ∧
    (∀ item, Ascii.lineFeed ∉ lineOf item) ∧
    (bodyOf md items).count Ascii.lineFeed = items.length ∧
    Text.pieces Ascii.lineFeed (bodyOf md items) = items.map lineOf ++ [[]] ∧
    (∀ s later, bodyOf md (items ++ .error s :: later) =
      bodyOf md items ++ lineOf (.error s) ++ Ascii.lineFeed :: bodyOf md later) ∧
    ∀ others, bodyOf md items = bodyOf md others ↔ items.map lineOf = others.map lineOf := by
  refine ⟨bodyOf_eq md items, lineFeed_not_mem_lineOf, count_bodyOf md items,
    pieces_bodyOf md items, ?_, fun _ => bodyOf_eq_iff⟩
  intro s later
  have first : bodyOf md (.error s :: later) =
      lineOf (.error s) ++ Ascii.lineFeed :: bodyOf md later := by
    simp [bodyOf_eq]
  rw [bodyOf_append, first, List.append_assoc]

/-- A message of two lines is in one line of the body, and the stream goes on after it. -/
example : respond (.ok ⟨[], .stream [.error ⟨.internal, "a\nb"⟩, .ok (.str "c")]⟩) =
    ⟨200, some "application/x-ndjson",
      "\x7b\"error\":\x7b\"code\":\"internal\",\"message\":\"a\\nb\"\x7d\x7d\n\"c\"\n"⟩ := by
  decide

end CallGuard.Http
