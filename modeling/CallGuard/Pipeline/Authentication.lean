import CallGuard.Call
import CallGuard.Call.Bearer
import CallGuard.Policy.Authorizer
import CallGuard.Token.Verifier

/-! Finding out who calls. No other part of a pipeline says so, and no call brings it along. -/
namespace CallGuard

/-- How a call gets past authentication. -/
inductive Admission where
  /-- Credentials are not looked at. -/
  | skipped
  | anonymous
  | authenticated (caller : Caller)
  deriving DecidableEq

def Admission.caller? : Admission → Option Caller
  | authenticated caller => some caller
  | _ => none

/-- The authorizer is asked only whether a method is public. -/
structure Authenticator where
  verifier : Verifier
  skip : SkipList
  authorizer : Authorizer

namespace Authenticator

/-- A credential is verified even where none is needed. -/
def authenticate (a : Authenticator) (now : Int) (m : Method) (md : Metadata) :
    Except Rejection Admission := do
  if a.skip.contains m then return .skipped
  match ← Bearer.token? md with
  | some token =>
    let caller ← (a.verifier.verifyAt token now).mapError .invalidCredential
    return .authenticated caller
  | none =>
    if (a.authorizer.resolve m).isPublic then return .anonymous else throw .missingCredential

/-- Passes on the calls that are admitted, each with the caller it was admitted as. -/
def guard {σ : Type} (a : Authenticator) (now : Int) (next : Endpoint σ) : Endpoint σ :=
  fun call s =>
    match a.authenticate now call.method call.metadata with
    | .error rejection => (.error rejection.status, s)
    | .ok admission => next { call with caller := admission.caller? } s

end Authenticator
end CallGuard
