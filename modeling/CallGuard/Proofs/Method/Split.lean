import CallGuard.Ascii
import CallGuard.Method.Split
import CallGuard.Proofs.Method.Naming
import CallGuard.Proofs.Text.Order
import CallGuard.Proofs.Text.Pieces

/-!
Names kept whole are names kept in halves: they are read from the same texts, with the same faults,
and their slices, their equality and their order are those of the halves.
-/
namespace CallGuard.SplitName

/-! ### Reading -/

/-- The last dot is as good as any to tell what a service lacks. -/
theorem serviceFault?_eq (cs : List Char) : serviceFault? cs = Method.serviceFault? cs := by
  unfold serviceFault? Method.serviceFault?
  cases Method.segmentFault? cs with
  | some fault => rfl
  | none =>
    cases cut : Text.cutLast? '.' cs with
    | none =>
      have dotless := Text.cutLast?_eq_none_iff.mp cut
      simp [dotless]
    | some parts =>
      obtain ⟨package, name⟩ := parts
      obtain ⟨rfl, clean⟩ := Text.cutLast?_eq_some_iff.mp cut
      have unpackaged : package.isEmpty = true →
          (Text.pieces '.' package).any List.isEmpty = true := by
        rw [List.isEmpty_iff]
        rintro rfl
        rfl
      rw [Text.pieces_append_sep, Text.pieces_of_clean clean, List.any_append]
      cases empty : package.isEmpty with
      | true => simp [unpackaged empty]
      | false =>
        have filled : package ≠ [] := by simpa using empty
        simp [filled, or_comm]

/-- What is read is the method that the halves make up, or what is wrong with these. -/
theorem ofChars_eq (cs : List Char) : ofChars cs = (Method.ofChars cs).map ofMethod := by
  unfold ofChars Method.ofChars
  dsimp only
  generalize Method.dropSlash cs = trimmed
  cases cut : Text.cutFirst? '/' trimmed with
  | none =>
    have slashless := Text.cutFirst?_eq_none_iff.mp cut
    have nothing : trimmed.dropWhile (· != '/') = [] := by
      rw [List.dropWhile_eq_nil_iff]
      exact fun c hc => bne_iff_ne.mpr fun same => slashless (same ▸ hc)
    rw [nothing]
    rfl
  | some parts =>
    obtain ⟨service, name⟩ := parts
    obtain ⟨rfl, clean⟩ := Text.cutFirst?_eq_some_iff.mp cut
    have before : ∀ c ∈ service, (c != '/') = true := fun c hc =>
      bne_iff_ne.mpr fun same => clean (same ▸ hc)
    have front : (service ++ '/' :: name).takeWhile (· != '/') = service := by
      rw [List.takeWhile_append_of_pos before]
      simp
    have rest : (service ++ '/' :: name).dropWhile (· != '/') = '/' :: name := by
      rw [List.dropWhile_append_of_pos before]
      simp
    have whole : String.ofList (service ++ '/' :: name) =
        String.ofList service ++ "/" ++ String.ofList name := by
      rw [← String.toList_inj]
      simp
    rw [front, rest]
    simp only [serviceFault?_eq]
    unfold Method.ofParts ServiceName.ofChars
    split
    · rename_i valid
      split
      · rename_i name_valid
        simp only [valid, name_valid]
        exact congrArg (fun text => (Except.ok ⟨text, _⟩ : Except NameFault SplitName)) whole
      · rename_i fault invalid
        simp only [valid, invalid]
        rfl
    · rename_i fault invalid
      rw [invalid]
      rfl

/-! ### Slices -/

variable (m n : Method)

theorem bytes_ofMethod : (ofMethod m).bytes =
    Bytes.ofString m.service.text ++ Ascii.slash :: Bytes.ofString m.name := by
  have slash : Bytes.ofString "/" = [Ascii.slash] := by decide
  rw [bytes, ofMethod, Method.text, Bytes.ofString_append, Bytes.ofString_append, slash,
    List.append_assoc, List.singleton_append]

theorem service_ofMethod : (ofMethod m).service = Bytes.ofString m.service.text := by
  rw [service, bytes_ofMethod]
  exact List.take_left

theorem method_ofMethod : (ofMethod m).method = Bytes.ofString m.name := by
  rw [method, bytes_ofMethod, ofMethod]
  simp

/-! ### Order -/

theorem ofMethod_inj {m n : Method} : ofMethod m = ofMethod n ↔ m = n := by
  constructor
  · intro same
    exact Method.text_inj.mp (congrArg full same)
  · rintro rfl
    rfl

theorem isLE_order : (order (ofMethod m) (ofMethod n)).isLE = Method.le m n := by
  unfold order compareOfLessAndEq Method.le
  have less : (ofMethod m).bytes < (ofMethod n).bytes ↔ m.text < n.text := Bytes.ofString_lt_iff
  by_cases before : m.text < n.text
  · rw [if_pos (less.mpr before), decide_eq_true (String.not_lt.mp (String.lt_asymm before))]
    rfl
  · rw [if_neg (before ∘ less.mp)]
    by_cases same : m = n
    · subst same
      simp
    · have texts : m.text ≠ n.text := same ∘ Method.text_inj.mp
      have bytes : (ofMethod m).bytes ≠ (ofMethod n).bytes := texts ∘ Bytes.ofString_inj.mp
      have after : ¬ m.text ≤ n.text := fun le =>
        texts (String.le_antisymm le (String.not_lt.mp before))
      rw [if_neg bytes, decide_eq_false after]
      rfl

/-- A text is read into one whole name just as it is read into two halves, fault for fault. The
slices of the whole are the halves, and two of them are the same, and in order, as the methods
are. -/
theorem split_names_are_methods :
    (∀ cs, ofChars cs = (Method.ofChars cs).map ofMethod) ∧
    ∀ m : Method, (ofMethod m).full = m.text ∧
      (ofMethod m).service = Bytes.ofString m.service.text ∧
      (ofMethod m).method = Bytes.ofString m.name ∧
      ∀ n, (ofMethod m = ofMethod n ↔ m = n) ∧
        (order (ofMethod m) (ofMethod n)).isLE = Method.le m n :=
  ⟨ofChars_eq, fun m => ⟨rfl, service_ofMethod m, method_ofMethod m, fun n =>
    ⟨ofMethod_inj, isLE_order m n⟩⟩⟩

end CallGuard.SplitName
