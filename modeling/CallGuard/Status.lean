/-! The status that ends a failed call: a code of the wire protocol and a message. -/
namespace CallGuard

inductive Code where
  | ok
  | cancelled
  | unknown
  | invalidArgument
  | deadlineExceeded
  | notFound
  | alreadyExists
  | permissionDenied
  | resourceExhausted
  | failedPrecondition
  | aborted
  | outOfRange
  | unimplemented
  | internal
  | unavailable
  | dataLoss
  | unauthenticated
  deriving DecidableEq, Repr

namespace Code

/-- The codes by their number on the wire. -/
def all : List Code :=
  [ok, cancelled, unknown, invalidArgument, deadlineExceeded, notFound, alreadyExists,
    permissionDenied, resourceExhausted, failedPrecondition, aborted, outOfRange, unimplemented,
    internal, unavailable, dataLoss, unauthenticated]

/-- A number that no code has is unknown. -/
def ofInt (n : Int) : Code := if n < 0 then unknown else all.getD n.toNat unknown

def name : Code → String
  | ok => "ok"
  | cancelled => "cancelled"
  | unknown => "unknown"
  | invalidArgument => "invalid_argument"
  | deadlineExceeded => "deadline_exceeded"
  | notFound => "not_found"
  | alreadyExists => "already_exists"
  | permissionDenied => "permission_denied"
  | resourceExhausted => "resource_exhausted"
  | failedPrecondition => "failed_precondition"
  | aborted => "aborted"
  | outOfRange => "out_of_range"
  | unimplemented => "unimplemented"
  | internal => "internal"
  | unavailable => "unavailable"
  | dataLoss => "data_loss"
  | unauthenticated => "unauthenticated"

def ofName? (s : String) : Option Code := all.find? (·.name == s)

/-- The HTTP status of an answer with this code. -/
def httpStatus : Code → Nat
  | ok => 200
  | unauthenticated => 401
  | permissionDenied => 403
  | unimplemented | notFound => 404
  | invalidArgument => 400
  | _ => 500

end Code

structure Status where
  code : Code
  message : String
  deriving DecidableEq, Repr

namespace Status

/-- What a caller without an identity is told, whatever it lacks one for. -/
def authenticationRequired : Status := ⟨.unauthenticated, "authentication required"⟩

def invalidCredential : Status := ⟨.unauthenticated, "invalid credential"⟩

def insufficientRole : Status := ⟨.permissionDenied, "insufficient role"⟩

def unknownMethod : Status := ⟨.unimplemented, "unknown method"⟩

end Status
end CallGuard
