import CallGuard.Proofs.Except
import CallGuard.Router

/-!
Which handler a method has once services have added theirs, and a router that writes down what its
handlers are run with.
-/
namespace CallGuard.Router

variable {σ : Type}

theorem handler?_eq_none_of_add {r r' : Router σ} {m : Method} {h : Endpoint σ}
    (hr : r.add m h = .ok r') : r.handler? m = none := by
  unfold add contains at hr
  split at hr
  · cases hr
  · rename_i absent
    simpa using absent

/-- A new route is for its own method only, which had none. -/
theorem handler?_add {r r' : Router σ} {m : Method} {h : Endpoint σ} (hr : r.add m h = .ok r')
    (n : Method) (g : Endpoint σ) :
    r'.handler? n = some g ↔ r.handler? n = some g ∨ n = m ∧ g = h := by
  have absent := handler?_eq_none_of_add hr
  have routes : r' = ⟨r.routes ++ [(m, h)]⟩ := by
    unfold add at hr
    split at hr
    · cases hr
    · exact (Except.ok.inj hr).symm
  subst routes
  by_cases hn : n = m
  · subst hn
    have none_found : r.routes.find? (·.1 == n) = none := by simpa [handler?] using absent
    simp [handler?, List.find?_append, none_found, eq_comm]
  · have other : (m == n) = false := by simpa using Ne.symm hn
    simp [handler?, List.find?_append, other, hn]

theorem handler?_addNamed {r r' : Router σ} {name : String} {h : Endpoint σ}
    (hr : r.addNamed name h = .ok r') (n : Method) (g : Endpoint σ) :
    r'.handler? n = some g ↔ r.handler? n = some g ∨ Method.parse name = .ok n ∧ g = h := by
  obtain ⟨m, hm, ha⟩ := Except.bind_eq_ok_iff.mp hr
  rw [handler?_add ha, hm, Except.ok.injEq, eq_comm (a := n)]

theorem handler?_addAll {service : List (String × Endpoint σ)} {r r' : Router σ}
    (hr : r.addAll service = .ok r') (n : Method) (g : Endpoint σ) :
    r'.handler? n = some g ↔
      r.handler? n = some g ∨ ∃ name, (name, g) ∈ service ∧ Method.parse name = .ok n := by
  induction service generalizing r with
  | nil =>
    cases hr
    simp
  | cons route rest ih =>
    obtain ⟨name, h⟩ := route
    obtain ⟨r₁, h₁, h₂⟩ := Except.bind_eq_ok_iff.mp hr
    rw [ih h₂, handler?_addNamed h₁]
    simp only [List.mem_cons, Prod.mk.injEq]
    grind

/-- The method has the handler from the router, or from one of the services. -/
def Registers (r : Router σ) (services : List (List (String × Endpoint σ))) (m : Method)
    (h : Endpoint σ) : Prop :=
  r.handler? m = some h ∨
    ∃ service ∈ services, ∃ name, (name, h) ∈ service ∧ Method.parse name = .ok m

theorem handler?_eq_some_iff_registers {services : List (List (String × Endpoint σ))}
    {r r' : Router σ} (hr : services.foldlM addAll r = .ok r') (m : Method) (h : Endpoint σ) :
    r'.handler? m = some h ↔ Registers r services m h := by
  unfold Registers
  induction services generalizing r with
  | nil =>
    cases hr
    simp
  | cons service rest ih =>
    obtain ⟨r₁, h₁, h₂⟩ := Except.bind_eq_ok_iff.mp hr
    rw [ih h₂, handler?_addAll h₁]
    simp only [List.mem_cons]
    grind

/-! ### Runs of handlers -/

/-- What handlers have been run with, first to last: the method of each, and the call. -/
abbrev Runs := List (Method × Call)

/-- The handler of a method, which also writes down what it is run with. -/
def recorded (m : Method) (h : Endpoint σ) : Endpoint (σ × Runs) := fun call s =>
  ((h call s.1).1, (h call s.1).2, s.2 ++ [(m, call)])

def recording (r : Router σ) : Router (σ × Runs) :=
  ⟨r.routes.map fun route => (route.1, recorded route.1 route.2)⟩

theorem handler?_recording (r : Router σ) (m : Method) :
    r.recording.handler? m = (r.handler? m).map (recorded m) := by
  simp only [handler?, recording, List.find?_map, Option.map_map, Function.comp_def]
  cases found : r.routes.find? (·.1 == m) with
  | none => rfl
  | some route =>
    have key : route.1 = m := by simpa using List.find?_some found
    simp [key]

/-- A recording router does what the router does, and writes down the one run if there is any. -/
theorem endpoint_recording (r : Router σ) (call : Call) (s : σ) (runs : Runs) :
    r.recording.endpoint call (s, runs) =
      ((r.endpoint call s).1, (r.endpoint call s).2,
        runs ++ if r.contains call.method then [(call.method, call)] else []) := by
  unfold endpoint contains
  rw [handler?_recording]
  cases r.handler? call.method with
  | none => simp
  | some h => simp [recorded]

end CallGuard.Router
