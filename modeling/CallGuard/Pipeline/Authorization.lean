import CallGuard.Call
import CallGuard.Policy.Authorizer

/-! Turning away the calls that their caller may not make. -/
namespace CallGuard.Authorizer

/-- Passes on the calls of methods that are skipped, and of all others those that are allowed. -/
def guard {σ : Type} (a : Authorizer) (skip : SkipList) (next : Endpoint σ) : Endpoint σ :=
  fun call s =>
    if skip.contains call.method then next call s
    else
      match a.authorize call.method call.caller with
      | .error denial => (.error (denial.status call.caller.isSome), s)
      | .ok () => next call s

end CallGuard.Authorizer
