import CallGuard.Crypto.Base64
import CallGuard.Json.Reader
import CallGuard.Status
import CallGuard.Text.Quoted

/-! Why a credential is refused. The caller is never told more than that it is. -/
namespace CallGuard

/-- What keeps a credential from being read. -/
inductive Malformation where
  | segments
  | base64 (fault : Crypto.Base64.Fault)
  | json (error : Json.ReadError)
  | missingSubject
  | subjectNotText
  | nameNotText
  | roleNotText
  | rolesNotList
  | timeNotNumber
  | missingExpiry
  | headerNotAscii
  | notBearer
  | unknownScheme
  | other (reason : String)
  deriving DecidableEq, Repr

def Malformation.message : Malformation → String
  | segments => "expected three non-empty dot separated segments"
  | base64 fault => "Base64 error: " ++ fault.message
  | json error => "JSON error: " ++ error.message
  | missingSubject => "missing sub claim"
  | subjectNotText => "sub claim must be a non-empty string"
  | nameNotText => "name claim must be a string"
  | roleNotText => "roles claim must contain only strings"
  | rolesNotList => "roles claim must be a string or array"
  | timeNotNumber => "timestamp claim must be a number"
  | missingExpiry => "missing exp claim"
  | headerNotAscii => "authorization value is not ASCII"
  | notBearer => "expected 'Bearer <token>'"
  | unknownScheme => "unsupported authorization scheme"
  | other reason => reason

inductive CredentialFault where
  | malformed (why : Malformation)
  | signatureInvalid
  | issuerMismatch (expected : String) (actual : Option String)
  | expired (expiry now : Int)
  | notYetValid (start now : Int)
  deriving DecidableEq, Repr

namespace CredentialFault

/-- The fault for an operator's eyes. -/
def message : CredentialFault → String
  | malformed why => "malformed credential: " ++ why.message
  | signatureInvalid => "credential signature is invalid"
  | issuerMismatch expected actual =>
    "credential issuer mismatch (expected " ++ expected ++ ", got " ++ Text.quotedOption actual ++
      ")"
  | expired t now => "credential expired at " ++ toString t ++ " (now " ++ toString now ++ ")"
  | notYetValid t now =>
    "credential not valid before " ++ toString t ++ " (now " ++ toString now ++ ")"

def kind : CredentialFault → String
  | malformed _ => "malformed"
  | signatureInvalid => "signature_invalid"
  | issuerMismatch _ _ => "issuer_mismatch"
  | expired _ _ => "expired"
  | notYetValid _ _ => "not_yet_valid"

end CredentialFault

/-- Why a call is turned away before anything is asked of the caller's rights. -/
inductive Rejection where
  | missingCredential
  | invalidCredential (fault : CredentialFault)
  deriving DecidableEq, Repr

namespace Rejection

def message : Rejection → String
  | missingCredential => "missing credential"
  | invalidCredential fault => "invalid credential: " ++ fault.message

def kind : Rejection → String
  | missingCredential => "missing_credential"
  | invalidCredential fault => fault.kind

/-- All that the caller is told. -/
def status : Rejection → Status
  | missingCredential => ⟨.unauthenticated, "missing credential"⟩
  | invalidCredential _ => .invalidCredential

end Rejection
end CallGuard
