import CallGuard.Call
import CallGuard.ConfigError

/-! The handlers of methods. -/
namespace CallGuard

/-- Each method has at most one handler. -/
structure Router (σ : Type) where
  routes : List (Method × Endpoint σ)

namespace Router

variable {σ : Type}

def empty : Router σ := ⟨[]⟩

def handler? (r : Router σ) (m : Method) : Option (Endpoint σ) :=
  (r.routes.find? (·.1 == m)).map (·.2)

def contains (r : Router σ) (m : Method) : Bool := (r.handler? m).isSome

def methods (r : Router σ) : List Method := r.routes.map (·.1)

/-- Gives a method its handler. -/
def add (r : Router σ) (m : Method) (handler : Endpoint σ) : Except ConfigError (Router σ) :=
  if r.contains m then .error (.duplicateRoute m) else .ok ⟨r.routes ++ [(m, handler)]⟩

/-- Gives the method of the name its handler. -/
def addNamed (r : Router σ) (method : String) (handler : Endpoint σ) :
    Except ConfigError (Router σ) := do
  r.add (← Method.parse method) handler

/-- Adds the handlers of a service. -/
def addAll (r : Router σ) (service : List (String × Endpoint σ)) : Except ConfigError (Router σ) :=
  service.foldlM (fun r (method, handler) => r.addNamed method handler) r

/-- Hands a call to the handler of its method. -/
def endpoint (r : Router σ) : Endpoint σ := fun call s =>
  match r.handler? call.method with
  | some handler => handler call s
  | none => (.error ⟨.unimplemented, "method " ++ call.method.text ++ " is not implemented"⟩, s)

end Router
end CallGuard
