import CallGuard.Call.Metadata
import CallGuard.Token.Fault

/-! Credentials in headers: `authorization: Bearer token`. -/
namespace CallGuard.Bearer

def header : String := "authorization"

/-- The bytes of the scheme's name, in lower case. -/
def scheme : Bytes := Bytes.ofString "bearer"

/-- The token in a header's value: after the scheme, in any case, and one space. -/
def ofValue (value : Bytes) : Except Malformation String :=
  if !value.all Metadata.isTextByte then .error .headerNotAscii
  else
    match value.dropWhile (· != Ascii.space) with
    | [] => .error .notBearer
    | _ :: token =>
      if (value.takeWhile (· != Ascii.space)).map Ascii.toLower ≠ scheme then .error .unknownScheme
      else if token.isEmpty || token.any Ascii.isSpace then .error .notBearer
      else .ok (Bytes.toAscii token)

/-- The token a call carries, if it carries a credential. Only the first one counts. -/
def token? (md : Metadata) : Except Rejection (Option String) :=
  match md.get? header with
  | none => .ok none
  | some value => ((ofValue value).map some).mapError (.invalidCredential ∘ .malformed)

/-- The header's value for a token. -/
def value? (token : String) : Option Bytes := Metadata.value? (Bytes.ofString ("Bearer " ++ token))

/-- What a token is refused with that no header can carry. -/
def invalidToken : Status := ⟨.invalidArgument, "credential is not valid metadata"⟩

/-- The headers with the token as their only credential. -/
def attach (token : String) (md : Metadata) : Except Status Metadata :=
  match value? token with
  | some value => .ok (md.set header value)
  | none => .error invalidToken

/-- Passes on the credential of one call to another. -/
def forward (caller : Metadata) : Option Bytes := caller.get? header

/-- What gives every request of a client its credential. -/
structure Interceptor where
  /-- The header's value, formed once. -/
  value : Bytes
  deriving DecidableEq

namespace Interceptor

/-- Sends a token. -/
def ofToken (token : String) : Except Status Interceptor :=
  match value? token with
  | some value => .ok ⟨value⟩
  | none => .error invalidToken

/-- Sends a header's value as it stands. -/
def ofHeader (value : Bytes) : Interceptor := ⟨value⟩

/-- Sends what a caller has sent, if that was a credential at all. -/
def forward (caller : Metadata) : Option Interceptor := (Bearer.forward caller).map ofHeader

/-- The request's headers, with the credential in place of those it had. -/
def call (i : Interceptor) (md : Metadata) : Except Status Metadata := .ok (md.set header i.value)

end Interceptor
end CallGuard.Bearer
