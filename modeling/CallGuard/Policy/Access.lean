import CallGuard.Caller
import CallGuard.Text.Quoted

/-! What a caller must present for a method, and how a call is denied. -/
namespace CallGuard

/-- Why a call is denied. -/
inductive Denial where
  | authenticationRequired
  /-- The required roles that the caller does not hold, in ascending order. -/
  | insufficientRole (missing : List String)
  | ruleDenied (rule : String)
  | defaultDeny
  deriving DecidableEq, Repr

/-- The denial for an operator's eyes. -/
def Denial.message : Denial → String
  | authenticationRequired => "authentication required"
  | insufficientRole missing => "insufficient role (missing " ++ Text.quotedList missing ++ ")"
  | ruleDenied rule => "denied by rule " ++ rule
  | defaultDeny => "denied by default policy"

/-- What the caller is told: a known one, that it may not; an unknown one, to authenticate. Which
rule decided stays inside. -/
def Denial.status (d : Denial) (known : Bool) : Status :=
  match d with
  | authenticationRequired => .authenticationRequired
  | insufficientRole _ => .insufficientRole
  | ruleDenied _ | defaultDeny =>
    if known then ⟨.permissionDenied, "access denied"⟩ else .authenticationRequired

inductive Access where
  | anyone
  | authenticated
  /-- A caller that holds every one of the roles. -/
  | holding (roles : RoleSet)
  deriving DecidableEq

namespace Access

/-- The access for these roles; without any, a known caller is enough. -/
def ofRoles (roles : List String) : Access :=
  let rs := RoleSet.ofList roles
  if rs.isEmpty then authenticated else holding rs

def isPublic : Access → Bool
  | anyone => true
  | _ => false

def check : Access → Option Caller → Except Denial Unit
  | anyone, _ => .ok ()
  | _, none => .error .authenticationRequired
  | authenticated, some _ => .ok ()
  | holding required, some c =>
    match c.roles.missing required with
    | [] => .ok ()
    | missing => .error (.insufficientRole missing)

end Access
end CallGuard
