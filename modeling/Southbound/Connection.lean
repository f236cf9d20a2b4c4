import Southbound.Job

/-!
# Connections

A device is connected only while this node is told to master it.  On the role of master the device
is probed, a session is opened and the role is reported; on any other role the session is closed
first and the role reported then.  A device that is found unreachable, whose session breaks, that
leaves the store or that is torn down loses its connection too.

Only a session that cannot be opened is an error for the one who ordered the role.  All other
refusals are logged and the job goes on.
-/

namespace Southbound.Connection

open Job

/-- Logs a refusal. -/
def warnOnRefusal (attempt : Attempt) (id : Identity) : Except CollaboratorError Unit → Job Unit
  | .ok () => return
  | .error e => log (.callFailed attempt id e)

/-- Stores the credentials of a device, unless these are stored already. -/
def registerCredentials (id : Identity) (c : Credentials) : Job Unit := do
  let record ← changeRecord id .seen
  if record.state ≠ .unregistered ∧ record.credentials = some c then return
  else
    match ← storeKey id c with
    | .ok () =>
      log (.credentialsStored id)
      let _ ← changeRecord id (.credentialsStored c)
    | .error e => log (.callFailed .storeCredentials id e)

/-- Shows a device unavailable, if the store has it. -/
def disconnectIfStored (id : Identity) : Job Unit := do
  if (← lookUp id).isSome then
    warnOnRefusal .markDisconnected id (← writeStore (.disconnect id))

/-- Takes back what was prepared for a session that could not be opened. -/
def abandon (id : Identity) : Job Unit := do
  let _ ← changeRecord id .ended
  let _ ← changeRecord id .credentialsRevoked
  disconnectIfStored id
  warnOnRefusal .removeCredentials id (← removeKey id)

/-- Announces a device that the store does not have, as it was announced last. -/
def announceIfMissing (id : Identity) : Job Unit := do
  if (← lookUp id).isNone then
    let record ← readRecord id
    let d := record.lastDescription.getD (.placeholder id)
    warnOnRefusal .announce id (← writeStore (.connect id d))

/-- Answers the role of master. -/
def connect (id : Identity) : Job (Except RoleError Unit) := do
  let record ← readRecord id
  if record.state = .connected then
    log (.masterConfirmed id)
    reportRole id .master .master
    return .ok ()
  else if ← probe id then
    let _ ← changeRecord id (.reached .connecting)
    match ← openSession id with
    | .error e =>
      abandon id
      log (.callFailed .openSession id e)
      return .error (.connectionFailure id e.message)
    | .ok () =>
      let _ ← changeRecord id (.reached .connected)
      announceIfMissing id
      reportRole id .master .master
      log (.connected id)
      return .ok ()
  else
    log (.masterUnacknowledged id)
    return .ok ()

/-- Answers a role other than master.  A node that was not connected leaves the availability in the
store to the node that is. -/
def release (id : Identity) (role : Role) : Job Unit := do
  let record ← readRecord id
  warnOnRefusal .closeSession id (← closeSession id false)
  let _ ← changeRecord id .ended
  reportRole id role role
  log (.roleAccepted role id)
  if record.state = .connected then disconnectIfStored id

/-- Answers a role, if role changes are accepted. -/
def changeRole (id : Identity) (role : Role) : Job (Except RoleError Unit) := do
  if ← isActive then
    match role with
    | .master => connect id
    | .standby | .unassigned =>
      release id role
      return .ok ()
  else
    log (.roleIgnored role id)
    return .ok ()

/-- Shows a device unavailable that no longer answers. -/
def markUnreachable (id : Identity) : Job Unit := do
  let record ← readRecord id
  if record.state = .connected then
    warnOnRefusal .closeUnreachable id (← closeSession id false)
  let _ ← changeRecord id .ended
  match ← writeStore (.disconnect id) with
  | .ok () => log (.unreachable id)
  | .error e => log (.callFailed .markDisconnected id e)

/-- The session broke. -/
def sessionLost (id : Identity) : Job Unit := do
  let _ ← changeRecord id .ended
  if (← lookUp id).isNone then
    log (.lostWithoutDevice id)
  else
    match ← writeStore (.disconnect id) with
    | .ok () => log (.sessionGone id)
    | .error e => log (.callFailed .markDisconnected id e)

/-- The device left the store. -/
def deviceRemoved (id : Identity) : Job Unit := do
  log (.removingDevice id)
  warnOnRefusal .forceClose id (← closeSession id true)
  let _ ← changeRecord id .ended

/-- Ends the management of a device: its credentials are revoked and its session is closed. -/
def tearDown (id : Identity) : Job Unit := do
  warnOnRefusal .removeCredentials id (← removeKey id)
  warnOnRefusal .forceClose id (← closeSession id true)
  let _ ← changeRecord id .ended
  let _ ← changeRecord id .credentialsRevoked

/-- Ends the management of one device after the other. -/
def tearDownEach : List Identity → Job Unit
  | [] => return
  | id :: rest => do
    tearDown id
    tearDownEach rest

/-- Ends the management of every device whose credentials were stored. -/
def tearDownAll : Job Unit := do tearDownEach (← registered)

end Southbound.Connection
