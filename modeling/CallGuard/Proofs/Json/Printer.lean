import CallGuard.Json.Printer

/-! The compact form of a document is a single line, whatever texts stand in the document. -/
namespace CallGuard

namespace Decimal

theorem newline_not_mem_toString (n : Nat) : '\n' ∉ (toString n).toList := by
  rw [Nat.toString_eq_repr, Nat.toList_repr]
  intro newline
  exact absurd (Nat.isDigit_of_mem_toDigits (by decide) (by decide) newline) (by decide)

theorem newline_not_mem_zeros (n : Nat) : '\n' ∉ (zeros n).toList := by
  simp [zeros]

theorem newline_not_mem_positional (s : Scaled) {wholeEnd : String}
    (h : '\n' ∉ wholeEnd.toList) : '\n' ∉ (s.positional wholeEnd).toList := by
  have digits := newline_not_mem_toString s.digits
  have padded (n : Nat) : '\n' ∉ (zeros n ++ toString s.digits).toList := by
    rw [String.toList_append, List.mem_append, not_or]
    exact ⟨newline_not_mem_zeros n, digits⟩
  have before (n k : Nat) : '\n' ∉ (zeros n ++ toString s.digits).toList.take k :=
    padded n ∘ List.mem_of_mem_take
  have after (n k : Nat) : '\n' ∉ (zeros n ++ toString s.digits).toList.drop k :=
    padded n ∘ List.mem_of_mem_drop
  unfold Scaled.positional
  split
  · simp only [String.toList_append, List.mem_append, not_or]
    exact ⟨⟨digits, newline_not_mem_zeros _⟩, h⟩
  · simp only [String.toList_append, String.toList_ofList, List.mem_append, not_or]
      at before after ⊢
    exact ⟨⟨before _ _, by decide⟩, after _ _⟩

theorem newline_not_mem_scientific (s : Scaled) : '\n' ∉ s.scientific.toList := by
  have digits := newline_not_mem_toString s.digits
  have lead : '\n' ∉ (toString s.digits).toList.take 1 := digits ∘ List.mem_of_mem_take
  have rest : '\n' ∉ (toString s.digits).toList.drop 1 := digits ∘ List.mem_of_mem_drop
  unfold Scaled.scientific
  simp only [String.toList_append, List.mem_append, not_or]
  refine ⟨⟨?_, ?_⟩, newline_not_mem_toString _⟩
  · split
    · simpa only [String.toList_ofList] using lead
    · simp only [String.toList_append, String.toList_ofList, List.mem_append, not_or]
      exact ⟨⟨lead, by decide⟩, rest⟩
  · split <;> decide

theorem newline_not_mem_text {l : Layout} (h : '\n' ∉ l.wholeEnd.toList) (x : Binary64) :
    '\n' ∉ (l.text x).toList := by
  unfold Layout.text
  simp only [String.toList_append, List.mem_append, not_or]
  constructor
  · split <;> decide
  · split
    · exact newline_not_mem_positional _ h
    · exact newline_not_mem_scientific _

end Decimal

namespace Json

theorem newline_ne_hexChar {n : Nat} (h : n < 16) : '\n' ≠ Bytes.hexChar n := by
  revert n
  decide

theorem newline_not_mem_escapeChar (c : Char) : '\n' ∉ escapeChar c := by
  by_cases newline : c = '\n'
  · subst newline
    decide
  · unfold escapeChar
    repeat' split
    all_goals try decide
    · rename_i low
      have high := newline_ne_hexChar (n := c.toNat / 16) (by omega)
      have rest := newline_ne_hexChar (n := c.toNat % 16) (by omega)
      simp [high, rest]
    · simpa using Ne.symm newline

theorem newline_not_mem_quoteChars (s : String) : '\n' ∉ quoteChars s := by
  simp [quoteChars, List.mem_flatMap, newline_not_mem_escapeChar]

theorem newline_not_mem_int (n : Int) : '\n' ∉ (toString n).toList := by
  cases n with
  | ofNat n => exact Decimal.newline_not_mem_toString n
  | negSucc n =>
    change '\n' ∉ ("-" ++ toString (n + 1)).toList
    rw [String.toList_append, List.mem_append, not_or]
    exact ⟨by decide, Decimal.newline_not_mem_toString _⟩

mutual

theorem newline_not_mem_print : ∀ v : Json, '\n' ∉ v.print
  | .null | .bool true | .bool false => by simp [print]
  | .int n => by
    rw [print]
    exact newline_not_mem_int n
  | .float x => by
    rw [print]
    exact Decimal.newline_not_mem_text (by decide) x
  | .str s => by
    rw [print]
    exact newline_not_mem_quoteChars s
  | .arr xs => by simp [print, newline_not_mem_printItems xs]
  | .obj ms => by simp [print, newline_not_mem_printMembers ms]

theorem newline_not_mem_printItems : ∀ xs : List Json, '\n' ∉ printItems xs
  | [] => by simp [printItems]
  | [x] => by
    rw [printItems]
    exact newline_not_mem_print x
  | x :: y :: rest => by
    simp [printItems, newline_not_mem_print x, newline_not_mem_printItems (y :: rest)]

theorem newline_not_mem_printMembers : ∀ ms : List (String × Json), '\n' ∉ printMembers ms
  | [] => by simp [printMembers]
  | [(name, v)] => by simp [printMembers, newline_not_mem_quoteChars, newline_not_mem_print v]
  | (name, v) :: m :: rest => by
    simp [printMembers, newline_not_mem_quoteChars, newline_not_mem_print v,
      newline_not_mem_printMembers (m :: rest)]

end

theorem newline_not_mem_compact (v : Json) : '\n' ∉ v.compact.toList := by
  rw [compact, String.toList_ofList]
  exact newline_not_mem_print v

end Json
end CallGuard
