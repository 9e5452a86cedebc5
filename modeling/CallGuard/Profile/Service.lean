import CallGuard.Handler
import CallGuard.Pipeline
import CallGuard.Profile.Store

/-!
A service of profiles. Callers read and change their own; who they are comes from the call and never
from its payload.
-/
namespace CallGuard.Profile.Service

def getProfile : String := "example.v1.ProfileService/GetProfile"
def updateProfile : String := "example.v1.ProfileService/UpdateProfile"
def deleteProfile : String := "example.v1.ProfileService/DeleteProfile"
def listProfiles : String := "example.v1.ProfileService/ListProfiles"
def ping : String := "example.v1.ProfileService/Ping"

/-- The caller's profile. One without a name shows the name in the credential. -/
def get (caller : Option Caller) (_ : Unit) (s : Store) : Except Status Profile × Store :=
  match Caller.require caller with
  | .error status => (.error status, s)
  | .ok c =>
    let p := (s.get? c.subject).getD (blank c.subject)
    (.ok { p with name := p.name.or c.name }, s)

/-- Changes the caller's profile. -/
def update (caller : Option Caller) (u : Update) (s : Store) : Except Status Profile × Store :=
  match Caller.require caller with
  | .error status => (.error status, s)
  | .ok c =>
    match s.update c.subject u with
    | .error fault => (.error fault.status, s)
    | .ok (p, s) => (.ok p, s)

/-- Deletes any profile, for admins. -/
def delete (caller : Option Caller) (subject : String) (s : Store) : Except Status Json × Store :=
  match Caller.requireRole caller "admin" with
  | .error status => (.error status, s)
  | .ok _ =>
    let (deleted, s) := s.remove subject
    (.ok (.obj [("subject", .str subject), ("deleted", .bool deleted)]), s)

/-- Lists the profiles of everyone. -/
def list (_ : Option Caller) (limit : Option Nat) (s : Store) :
    Except Status (List (Except Status Profile)) × Store :=
  (.ok ((s.list limit).map .ok), s)

def pong (_ : Option Caller) (_ : Unit) (s : Store) : Except Status Json × Store :=
  (.ok (.obj [("status", .str "ok")]), s)

/-- The handlers by the names of their methods. -/
def handlers : List (String × Endpoint Store) := [
  (getProfile, .unary (readEmpty "struct GetProfileRequest") (some ∘ toJson) get),
  (updateProfile, .unary Update.read (some ∘ toJson) update),
  (deleteProfile, .unary readDelete some delete),
  (listProfiles, .serverStreaming readList (some ∘ toJson) list),
  (ping, .unary (readEmpty "struct PingRequest") some pong)]

/-! ### Declarations -/

def plain (name : String) : Field := ⟨name, false, none⟩

def sensitive (name : String) : Field := ⟨name, true, none⟩

def messages : List Message := [
  ⟨"Empty", []⟩,
  ⟨"Address", [plain "city", sensitive "street"]⟩,
  ⟨"Profile",
    [plain "subject", plain "name", sensitive "email", ⟨"address", false, some "Address"⟩]⟩,
  ⟨"UpdateProfileRequest", [plain "name", plain "email", ⟨"address", false, some "Address"⟩]⟩,
  ⟨"DeleteProfileRequest", [plain "subject"]⟩,
  ⟨"DeleteProfileResponse", [plain "subject", plain "deleted"]⟩,
  ⟨"ListProfilesRequest", [plain "limit"]⟩,
  ⟨"PingResponse", [plain "status"]⟩]

def methods : Except ConfigError (List MethodInfo) := do
  return [
    ⟨← Method.parse getProfile, "Empty", "Profile", false, true, false, some .authenticated⟩,
    ⟨← Method.parse updateProfile, "UpdateProfileRequest", "Profile", false, true, false,
      some .authenticated⟩,
    ⟨← Method.parse deleteProfile, "DeleteProfileRequest", "DeleteProfileResponse", false, false,
      false, some (.ofRoles ["admin"])⟩,
    ⟨← Method.parse listProfiles, "ListProfilesRequest", "Profile", true, true, false, none⟩,
    ⟨← Method.parse ping, "Empty", "PingResponse", false, false, false, none⟩]

def registry : Except ConfigError Registry := do
  Registry.ofSchema ⟨messages, ← methods⟩

/-- The service behind a chain. -/
def pipeline (files : Files) (c : AuthConfig) : Except ConfigError (Pipeline Store) := do
  Pipeline.build files c (← registry) .empty [handlers]

end CallGuard.Profile.Service
