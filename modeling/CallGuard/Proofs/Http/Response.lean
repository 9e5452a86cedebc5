import CallGuard.Proofs.Http
import CallGuard.Proofs.Http.Framing

/-!
What responses tell. `Shows` describes the response to each outcome of a call; of exact documents it
leaves no doubt, so that a response tells all of its outcome but the metadata.
-/
namespace CallGuard

/-- A code is found by its name. -/
theorem Code.ofName?_name (c : Code) : ofName? c.name = some c := by
  cases c <;> rfl

namespace Http

/-- The response that tells an outcome. Cut at its ends of lines, a stream's body has a piece for
each of the items, and nothing after the last of them. -/
inductive Shows : Except Status Reply → Response → Prop
  | failed (s : Status) :
    Shows (.error s)
      ⟨s.code.httpStatus, some "application/json", (faultOf s.code.name s.message).compact⟩
  | message (md : Metadata) (m : Json) :
    Shows (.ok ⟨md, .message m⟩) ⟨200, some "application/json", m.compact⟩
  | stream (md : Metadata) {items : List (Except Status Json)} {body : String}
    (lines : Text.pieces '\n' body.toList =
      items.map (fun item => (shown item).compact.toList) ++ [[]]) :
    Shows (.ok ⟨md, .stream items⟩) ⟨200, some "application/x-ndjson", body⟩

theorem respond_shows (outcome : Except Status Reply) : Shows outcome (respond outcome) := by
  cases outcome with
  | error status => exact .failed status
  | ok reply =>
    obtain ⟨md, body⟩ := reply
    cases body with
    | message m => exact .message md m
    | stream items => exact .stream md (pieces_of_lines items)

/-! ### Outcomes told apart -/

/-- There is nothing in the outcome that its response cannot tell. -/
def Tellable : Except Status Reply → Prop
  | .error s => s.code ≠ .ok
  | .ok ⟨_, .message m⟩ => Json.Exact (Json.depthLimit - 1) m
  | .ok ⟨_, .stream items⟩ => ∀ item ∈ items, IsExact item

/-- The outcomes differ at most in their metadata, and in whether an item is an error or the
document that errors are shown as. -/
inductive Agree : Except Status Reply → Except Status Reply → Prop
  | failed (s : Status) : Agree (.error s) (.error s)
  | message (md other : Metadata) (m : Json) :
    Agree (.ok ⟨md, .message m⟩) (.ok ⟨other, .message m⟩)
  | stream (md other : Metadata) {items others : List (Except Status Json)}
    (same : items.map shown = others.map shown) :
    Agree (.ok ⟨md, .stream items⟩) (.ok ⟨other, .stream others⟩)

theorem faultOf_inj {s t : Status}
    (h : (faultOf s.code.name s.message).compact = (faultOf t.code.name t.message).compact) :
    s = t := by
  rw [Json.compact_inj (exact_faultOf _ _ _) (exact_faultOf _ _ _)] at h
  simp only [faultOf, Json.obj.injEq, List.cons.injEq, Prod.mk.injEq, Json.str.injEq, true_and,
    and_true] at h
  obtain ⟨name, message⟩ := h
  have code : s.code = t.code := by
    have found := s.code.ofName?_name
    rw [name, t.code.ofName?_name] at found
    exact (Option.some.inj found).symm
  cases s
  cases t
  simp_all

theorem lines_inj {items others : List (Except Status Json)}
    (exact : ∀ item ∈ items, IsExact item) (exact_others : ∀ item ∈ others, IsExact item)
    {pieces : List (List Char)}
    (lines : pieces = items.map (fun item => (shown item).compact.toList) ++ [[]])
    (lines_others : pieces = others.map (fun item => (shown item).compact.toList) ++ [[]]) :
    items.map shown = others.map shown := by
  have chars := List.append_cancel_right (lines.symm.trans lines_others)
  have encoded := congrArg (List.map (Bytes.ofString ∘ String.ofList)) chars
  simp only [List.map_map, Function.comp_def, String.ofList_toList] at encoded
  exact (map_lineOf_eq_iff exact exact_others).mp encoded

/-- A response shows no two outcomes that do not agree. -/
theorem agree_of_shows {a b : Except Status Reply} {r : Response} (tellable_a : Tellable a)
    (tellable_b : Tellable b) (shows_a : Shows a r) (shows_b : Shows b r) : Agree a b := by
  cases shows_a with
  | failed s =>
    generalize same : (⟨_, _, _⟩ : Response) = r at shows_b
    cases shows_b with
    | failed t =>
      obtain ⟨-, -, body⟩ := Response.mk.inj same
      obtain rfl := faultOf_inj body
      exact .failed s
    | message md m =>
      exact absurd (Code.httpStatus_eq_200_iff.mp (Response.mk.inj same).1) tellable_a
    | stream md lines => exact absurd (Response.mk.inj same).2.1 (by decide)
  | message md m =>
    generalize same : (⟨_, _, _⟩ : Response) = r at shows_b
    cases shows_b with
    | failed t =>
      exact absurd (Code.httpStatus_eq_200_iff.mp (Response.mk.inj same).1.symm) tellable_b
    | message other n =>
      obtain ⟨-, -, body⟩ := Response.mk.inj same
      obtain rfl := (Json.compact_inj tellable_a tellable_b).mp body
      exact .message md other m
    | stream other lines => exact absurd (Response.mk.inj same).2.1 (by decide)
  | stream md lines =>
    generalize same : (⟨_, _, _⟩ : Response) = r at shows_b
    cases shows_b with
    | failed t => exact absurd (Response.mk.inj same).2.1 (by decide)
    | message other m => exact absurd (Response.mk.inj same).2.1 (by decide)
    | stream other lines_b =>
      obtain ⟨-, -, rfl⟩ := Response.mk.inj same
      exact .stream md other (lines_inj tellable_a tellable_b lines lines_b)

/-- Calls that are answered with one response have outcomes that agree, and conversely. -/
theorem respond_eq_iff {a b : Except Status Reply} (tellable_a : Tellable a)
    (tellable_b : Tellable b) : respond a = respond b ↔ Agree a b := by
  constructor
  · intro same
    exact agree_of_shows tellable_a tellable_b (respond_shows a) (same ▸ respond_shows b)
  · intro agree
    cases agree with
    | failed s => rfl
    | message md other m => rfl
    | @stream md other items others same =>
      have lines (items : List (Except Status Json)) :
          items.map line = (items.map shown).map fun v => v.compact ++ "\n" := by
        rw [List.map_map]
        exact List.map_congr_left fun item _ => line_eq item
      rw [respond, respond, lines, lines, same]

end Http
end CallGuard
