import CallGuard.Reading.Policies

/-! The settings of the profile service: where it listens, and who may call it. -/
namespace CallGuard.Profile

structure Settings where
  /-- The host and the number to listen at. -/
  bind : String × Nat
  auth : AuthConfig
  deriving DecidableEq

namespace Settings

def defaultBind : String × Nat := ("0.0.0.0", 8080)

variable {α : Type} [Form α]

def readServer (v : α) : Except Mismatch (String × Nat) :=
  let number (v : α) := Form.natural "u16" 65535 v
  let fields : Record α (String × Nat) := Prod.mk
    <$> Record.defaulted "host" defaultBind.1 Form.text
    <*> Record.defaulted "port" defaultBind.2 number
  fields.read "struct ServerSettings" v

def read (v : α) : Except Mismatch Settings :=
  let fields : Record α Settings := Settings.mk
    <$> Record.defaulted "server" defaultBind readServer
    <*> Record.required "auth" AuthConfig.read
  fields.read "struct Settings" v

end Settings
end CallGuard.Profile
