import CallGuard.Json.Form

/-! Profiles, the messages about them, and how both are written. -/
namespace CallGuard.Profile

open Reading

structure Address where
  city : String
  /-- Sensitive. -/
  street : String
  deriving DecidableEq, Repr

end Profile

structure Profile where
  subject : String
  name : Option String
  /-- Sensitive. -/
  email : Option String
  address : Option Profile.Address
  deriving DecidableEq, Repr

namespace Profile

/-- A profile with nothing in it. -/
def blank (subject : String) : Profile := ⟨subject, none, none, none⟩

/-- The fields to change, each with its new value. -/
structure Update where
  name : Option String
  email : Option String
  address : Option Address
  deriving DecidableEq, Repr

/-- Sets the fields that the update gives. -/
def apply (u : Update) (p : Profile) : Profile :=
  { p with name := u.name.or p.name, email := u.email.or p.email,
           address := u.address.or p.address }

variable {α : Type} [Form α]

def Address.read (v : α) : Except Mismatch Address :=
  let fields : Record α Address := Address.mk
    <$> Record.required "city" Form.text
    <*> Record.required "street" Form.text
  fields.read "struct Address" v

def read (v : α) : Except Mismatch Profile :=
  let fields : Record α Profile := Profile.mk
    <$> Record.required "subject" Form.text
    <*> Record.defaulted "name" none (Reading.optional Form.text)
    <*> Record.defaulted "email" none (Reading.optional Form.text)
    <*> Record.defaulted "address" none (Reading.optional Address.read)
  fields.read "struct Profile" v

def Update.read (v : α) : Except Mismatch Update :=
  let fields : Record α Update := Update.mk
    <$> Record.defaulted "name" none (Reading.optional Form.text)
    <*> Record.defaulted "email" none (Reading.optional Form.text)
    <*> Record.defaulted "address" none (Reading.optional Address.read)
  fields.read "struct UpdateProfileRequest" v

/-- A request without fields, of the name. -/
def readEmpty (record : String) (v : α) : Except Mismatch Unit :=
  (Record.pure () : Record α Unit).read record v

/-- The subject of the profile to delete. -/
def readDelete (v : α) : Except Mismatch String :=
  let fields : Record α String := id <$> Record.required "subject" Form.text
  fields.read "struct DeleteProfileRequest" v

/-- How many profiles to list at most. -/
def readList (v : α) : Except Mismatch (Option Nat) :=
  let limit (v : α) := Form.natural "usize" (1 <<< 64 - 1) v
  let fields : Record α (Option Nat) :=
    id <$> Record.defaulted "limit" none (Reading.optional limit)
  fields.read "struct ListProfilesRequest" v

def Address.toJson (a : Address) : Json :=
  .obj [("city", .str a.city), ("street", .str a.street)]

/-- What a profile does not have is not written. -/
def toJson (p : Profile) : Json :=
  let text (name : String) (v : Option String) := (v.map fun s => (name, Json.str s)).toList
  .obj (("subject", .str p.subject) :: text "name" p.name ++ text "email" p.email ++
    (p.address.map fun a => ("address", a.toJson)).toList)

end Profile
end CallGuard
