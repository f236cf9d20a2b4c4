import Southbound.Discovery

/-!
# Reconciliation

A pass reads the desired devices and brings each of them to where its reachability calls for: its
credentials are stored, the store has it, and the store shows it available exactly if it answers.
Devices that configuration no longer lists are forgotten once they have no session.

A pass never fails.  A configuration that cannot be read ends it, an entry without an identity is
skipped, and a breakdown while one device is handled leaves the others alone.
-/

namespace Southbound.Reconciliation

open Connection Discovery Job

/-- Discovers ports that are not known in this session. -/
def discoverUnlessKnown (id : Identity) : Job Unit := do
  let record ← readRecord id
  if !record.portsDiscovered then discoverPorts id

/-- Brings one device to where its reachability calls for. -/
def converge (id : Identity) (placeholder : Description) : Job Unit := do
  if (← lookUp id).isNone then log (.notInStore id)
  else
    let reachable ← probe id
    let available ← isAvailable id
    let _ ← changeRecord id (.shown available)
    match reachable, available with
    | true, false =>
      if ← isLocalMaster id then
        announceAvailable id placeholder
        discoverUnlessKnown id
      else log (.masteredElsewhere id)
    | true, true => discoverUnlessKnown id
    | false, true => markUnreachable id
    | false, false => return

/-- Adds a device to the store that is not there. -/
def addIfMissing (id : Identity) : Job Unit := do
  if (← lookUp id).isNone then
    warnOnRefusal .announce id (← writeStore (.connect id (.placeholder id)))

/-- What a pass does for one desired device. -/
def reconcileDevice (id : Identity) (device : DesiredDevice) : Job Unit := do
  let _ ← changeRecord id .desired
  registerCredentials id device.credentials
  addIfMissing id
  converge id (.placeholder id)

/-- The identity of a desired device. -/
def identify (scheme : String) (device : DesiredDevice) : Except IdentityError Identity :=
  Identity.resolve scheme device.address device.port

/-- Handles the desired devices one after the other and collects their identities. -/
def reconcileEach (scheme : String) : List DesiredDevice → Job (List Identity)
  | [] => return []
  | device :: rest => do
    match identify scheme device with
    | .error e =>
      log (.entrySkipped e)
      reconcileEach scheme rest
    | .ok id =>
      if (← (reconcileDevice id device).contained).isNone then log (.deviceFailed id)
      let ids ← reconcileEach scheme rest
      return id :: ids

/-- Says which records were dropped. -/
def sayDropped : List Identity → Job Unit
  | [] => return
  | id :: rest => do
    log (.recordDropped id)
    sayDropped rest

/-- The desired devices, unless they cannot be read. -/
def readDevices (appId : String) : Job (Option (List DesiredDevice)) := do
  match ← desiredDevices appId with
  | .ok devices => return some devices
  | .error e =>
    log (.configUnreadable e)
    return none

/-- A pass over all desired devices. -/
def reconcileAll (s : Settings) : Job Unit := do
  match ← readDevices s.appId with
  | none => return
  | some devices =>
    log (.passStarted devices.length)
    let desired ← reconcileEach s.scheme devices
    markDesired desired
    sayDropped (← prune)

/-- Whether the identity of a desired device is this one. -/
def names (scheme : String) (id : Identity) (device : DesiredDevice) : Bool :=
  match identify scheme device with
  | .ok candidate => candidate == id
  | .error _ => false

/-- A pass for one device, if it is desired. -/
def reconcileOne (s : Settings) (id : Identity) : Job Unit := do
  match ← readDevices s.appId with
  | none => return
  | some devices =>
    match devices.find? (names s.scheme id) with
    | some device => reconcileDevice id device
    | none => log (.notConfigured id)

end Southbound.Reconciliation
