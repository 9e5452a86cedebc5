import CallGuard.Proofs.Except
import CallGuard.Token.Fault

/-! Steps that fail with a fault of a kind, one after another: the first one that fails counts. -/
namespace CallGuard

/-- The step fails, with a fault of the kind. -/
def Fails {α : Type} (x : Except CredentialFault α) (kind : String) : Prop :=
  ∃ e, x = .error e ∧ e.kind = kind

section Fails

variable {α β : Type} {kind : String}

theorem fails_bind_iff {x : Except CredentialFault α} {f : α → Except CredentialFault β} :
    Fails (x >>= f) kind ↔ Fails x kind ∨ ∃ a, x = .ok a ∧ Fails (f a) kind := by
  simp only [Fails, Except.bind_eq_error_iff]
  constructor
  · rintro ⟨e, failed | ⟨a, passed, failed⟩, rfl⟩
    · exact .inl ⟨e, failed, rfl⟩
    · exact .inr ⟨a, passed, e, failed, rfl⟩
  · rintro (⟨e, failed, rfl⟩ | ⟨a, passed, e, failed, rfl⟩)
    · exact ⟨e, .inl failed, rfl⟩
    · exact ⟨e, .inr ⟨a, passed, failed⟩, rfl⟩

@[simp]
theorem not_fails_ok {a : α} : ¬ Fails (.ok a) kind := by
  rintro ⟨e, h, -⟩
  cases h

@[simp]
theorem not_fails_pure {a : α} : ¬ Fails (pure a) kind :=
  not_fails_ok

@[simp]
theorem fails_error_iff {e : CredentialFault} :
    Fails (.error e : Except CredentialFault α) kind ↔ kind = e.kind := by
  simp [Fails, eq_comm (a := kind)]

@[simp]
theorem fails_throw_iff {e : CredentialFault} :
    Fails (throw e : Except CredentialFault α) kind ↔ kind = e.kind :=
  fails_error_iff

@[simp]
theorem fails_ite_throw_iff {p : Prop} [Decidable p] {e : CredentialFault} {a : α} :
    Fails (if p then throw e else pure a) kind ↔ p ∧ kind = e.kind := by
  by_cases h : p <;> simp [h]

/-- A step that only reads fails with one kind of fault, whenever it gives nothing. -/
theorem fails_mapError_iff {ε : Type} {x : Except ε α} {f : ε → CredentialFault}
    (malformed : ∀ e, (f e).kind = "malformed") :
    Fails (x.mapError f) kind ↔ (¬ ∃ a, x = .ok a) ∧ kind = "malformed" := by
  cases x with
  | ok a => simp [Except.mapError]
  | error e => simp [Except.mapError, malformed]

end Fails

end CallGuard
