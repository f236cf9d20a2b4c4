import Southbound.Identity

/-!
# Failures of the systems around the provider

Configuration, sessions, device store and credential store can each refuse a call.  An error says
which of them refused and why; the words for it are in one place per error.
-/

namespace Southbound

/-- Why the desired devices could not be read. -/
inductive ConfigReadError
  /-- There is no configuration for the application. -/
  | unavailable (appId : String)
  /-- The configuration makes no sense. -/
  | malformed (detail : String)
deriving DecidableEq

namespace ConfigReadError

/-- The error in words. -/
def message : ConfigReadError → String
  | unavailable appId => s!"configuration for '{appId}' is unavailable"
  | malformed detail => s!"configuration is malformed: {detail}"

end ConfigReadError

/-- A call was refused by one of the collaborating systems. -/
inductive CollaboratorError
  | session (detail : String)
  | store (detail : String)
  | credentials (detail : String)
deriving DecidableEq

namespace CollaboratorError

/-- The error in words. -/
def message : CollaboratorError → String
  | session detail => s!"protocol session error: {detail}"
  | store detail => s!"device store error: {detail}"
  | credentials detail => s!"credential store error: {detail}"

end CollaboratorError

/-- What a role change reports back to the one who ordered it. -/
inductive RoleError
  /-- No session could be opened; the credentials are revoked. -/
  | connectionFailure (identity : Identity) (reason : String)
  /-- The change never ran to its end. -/
  | notProcessed (identity : Identity)
deriving DecidableEq

namespace RoleError

/-- The error in words. -/
def message : RoleError → String
  | connectionFailure identity reason => s!"cannot connect to device {identity}: {reason}"
  | notProcessed identity => s!"role change for {identity} was not processed"

end RoleError

end Southbound
