import Southbound.Text.Blank
import Southbound.Text.Quoted

/-!
# Credentials and desired devices

A configuration entry names a device that shall be managed and how to log in to it.  A key, if one
is given, is preferred to the password (`DesiredDevice.credentials`).

Secrets do not leave through text: `Credentials.redacted` shows the user name only.
-/

namespace Southbound

open Southbound.Text

/-- What a session is opened with. -/
inductive Credentials
  | password (username secret : String)
  | key (username secret : String)
deriving DecidableEq

namespace Credentials

/-- Who logs in. -/
def username : Credentials → String
  | password user _ => user
  | key user _ => user

/-- The credentials in words, without the secret. -/
def redacted : Credentials → String
  | password user _ =>
    "UsernamePassword \x7b username: " ++ quoted user ++ ", password: \"<redacted>\" \x7d"
  | key user _ => "SshKey \x7b username: " ++ quoted user ++ ", key: \"<redacted>\" \x7d"

end Credentials

/-- A configuration entry: a device that shall be managed. -/
structure DesiredDevice where
  /-- The address as the operator wrote it. -/
  address : String
  port : UInt16
  username : String
  password : String
  sshKey : Option String
deriving DecidableEq

namespace DesiredDevice

/-- The key without blanks around it, unless nothing is left of it; else the password. -/
def credentials (d : DesiredDevice) : Credentials :=
  match d.sshKey.map trimmed with
  | some key => if key = "" then .password d.username d.password else .key d.username key
  | none => .password d.username d.password

end DesiredDevice

end Southbound
