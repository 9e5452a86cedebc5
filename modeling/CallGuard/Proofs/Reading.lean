import CallGuard.Json.Form
import CallGuard.Proofs.Except

/-!
What is known of a record once it has been read: each field came from the member of its name, or, in
a record that is a list, from the item in its place.
-/
namespace CallGuard.Record

variable {β γ : Type}

theorem named_of_read {r : Record Json β} {record : String} {members : List (String × Json)}
    {b : β} (read : r.read record (.obj members) = .ok b) :
    r.named (fun name => (members.find? (·.1 == name)).map (·.2)) = .ok b := by
  obtain ⟨parts, taken, read⟩ := Except.bind_eq_ok_iff.mp read
  cases taken
  obtain ⟨_, -, named⟩ := Except.bind_eq_ok_iff.mp read
  exact named

theorem listed_of_read {r : Record Json β} {record : String} {items : List Json} {b : β}
    (read : r.read record (.arr items) = .ok b) :
    ∃ short rest, r.listed short 0 items = .ok (b, rest) := by
  obtain ⟨parts, taken, read⟩ := Except.bind_eq_ok_iff.mp read
  cases taken
  obtain ⟨⟨b', rest⟩, listed, read⟩ := Except.bind_eq_ok_iff.mp read
  dsimp only at read
  split at read
  · cases read
  · cases read
    exact ⟨_, rest, listed⟩

theorem named_seq {f : Record Json (β → γ)} {x : Record Json β} {get? : String → Option Json}
    {c : γ} : (f.seq x).named get? = .ok c ↔
      ∃ g b, f.named get? = .ok g ∧ x.named get? = .ok b ∧ g b = c := by
  simp only [seq, Except.bind_eq_ok_iff, Except.pure_eq_ok_iff, exists_and_left]

theorem listed_seq {f : Record Json (β → γ)} {x : Record Json β} {short : Nat → Mismatch} {i : Nat}
    {items rest : List Json} {c : γ} : (f.seq x).listed short i items = .ok (c, rest) ↔
      ∃ g b others, f.listed short i items = .ok (g, others) ∧
        x.listed short (i + f.count) others = .ok (b, rest) ∧ g b = c := by
  simp only [seq, Except.bind_eq_ok_iff, Except.pure_eq_ok_iff, Prod.exists, Prod.mk.injEq]
  grind

/-- A field with a default takes the next item, if there is one. -/
theorem listed_defaulted {name : String} {default b : β} {read : Json → Except Mismatch β}
    {short : Nat → Mismatch} {i : Nat} {items rest : List Json} :
    (defaulted name default read).listed short i items = .ok (b, rest) ↔
      items.head?.elim (.ok default) read = .ok b ∧ rest = items.tail := by
  cases items with
  | nil =>
    constructor
    · intro listed
      cases listed
      exact ⟨rfl, rfl⟩
    · rintro ⟨taken, rfl⟩
      cases taken
      rfl
  | cons v others =>
    constructor
    · intro listed
      obtain ⟨_, taken, same⟩ := Except.map_eq_ok_iff.mp listed
      cases same
      exact ⟨taken, rfl⟩
    · rintro ⟨taken, rfl⟩
      exact Except.map_eq_ok_iff.mpr ⟨b, taken, rfl⟩

end CallGuard.Record
