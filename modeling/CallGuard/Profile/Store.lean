import CallGuard.Profile.Model
import CallGuard.Status
import CallGuard.Text.Blank

/-! Profiles by their subject. -/
namespace CallGuard.Profile

/-- Why profiles cannot be read or changed as asked. -/
inductive StoreFault where
  | notFound (subject : String)
  | invalidEmail (email : String)
  | blankName
  /-- Values are refused for the reason given. -/
  | refused (reason : String)
  deriving DecidableEq, Repr

namespace StoreFault

def message : StoreFault → String
  | notFound subject => "Profile not found: " ++ subject
  | invalidEmail email => "Validation error: invalid email address " ++ Text.quoted email
  | blankName => "Validation error: name must not be empty"
  | refused reason => "Validation error: " ++ reason

/-- Which profile was not found stays inside. -/
def status : StoreFault → Status
  | notFound _ => ⟨.notFound, "Profile not found"⟩
  | fault => ⟨.invalidArgument, fault.message⟩

end StoreFault

/-- What keeps an update from being made. -/
def Update.fault? (u : Update) : Option StoreFault :=
  match u.email.filter (!·.toList.contains '@') with
  | some email => some (.invalidEmail email)
  | none => if u.name.any Text.isBlankText then some .blankName else none

/-- Each subject has at most one profile. -/
structure Store where
  entries : List (String × Profile)
  deriving DecidableEq, Repr

namespace Store

def empty : Store := ⟨[]⟩

def get? (s : Store) (subject : String) : Option Profile :=
  (s.entries.find? (·.1 == subject)).map (·.2)

/-- The entries with the subject's set: in its place, or at the end. -/
def put (subject : String) (p : Profile) : List (String × Profile) → List (String × Profile)
  | [] => [(subject, p)]
  | e :: rest => if e.1 = subject then (subject, p) :: rest else e :: put subject p rest

/-- Puts a profile in place of the one its subject has. -/
def insert (s : Store) (p : Profile) : Store := ⟨put p.subject p s.entries⟩

def ofList (profiles : List Profile) : Store := profiles.foldl insert empty

/-- Changes the subject's profile, or a blank one if it has none, and gives it back. Nothing is
changed unless everything can be. -/
def update (s : Store) (subject : String) (u : Update) : Except StoreFault (Profile × Store) :=
  match u.fault? with
  | some fault => .error fault
  | none =>
    let p := apply u ((s.get? subject).getD (blank subject))
    .ok (p, ⟨put subject p s.entries⟩)

/-- Removes the subject's profile, and says whether it had one. -/
def remove (s : Store) (subject : String) : Bool × Store :=
  ((s.get? subject).isSome, ⟨s.entries.filter (·.1 != subject)⟩)

/-- The profiles by subject, as many as asked for. -/
def list (s : Store) (limit : Option Nat) : List Profile :=
  let all := (s.entries.map (·.2)).mergeSort fun a b => decide (a.subject ≤ b.subject)
  limit.elim all all.take

end Store
end CallGuard.Profile
