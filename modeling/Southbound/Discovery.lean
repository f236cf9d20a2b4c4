import Southbound.Connection

/-!
# Discovery

Discovery asks the driver of a device what the device is, which ports it has and what they count.
A driver that describes its device is asked for the ports too; one that only knows ports is asked
otherwise.  Ports count as discovered once the store took a list that is not empty, and counters
are collected only after that.

Whatever fails is logged and is not done this time.
-/

namespace Southbound.Discovery

open Connection Job

/-- What the driver says about the device, if that is of use. -/
def askDetails (id : Identity) (driver : Driver) : Job (Option Description) :=
  match driver.description with
  | none => do
    log (.noDescriptionDiscovery id)
    return none
  | some replies => do
    match ← discoverDetails id replies.details with
    | .ok (some d) => return some d
    | .ok none =>
      log (.noDescription id)
      return none
    | .error e =>
      log (.discoveryFailed .description id e)
      return none

/-- The description to announce a device with that just became available: the discovered one, the
stored one if that says the same, or the placeholder if nothing was discovered. -/
def describe (id : Identity) (placeholder : Description) : Job Description := do
  match ← lookUp id with
  | none => return placeholder.withAvailability true
  | some device =>
    match ← askDetails id device.driver with
    | none => return placeholder.withAvailability true
    | some found =>
      let chosen := if found.sameDetails device.description then device.description else found
      return chosen.withAvailability true

/-- Announces a device as available. -/
def announceAvailable (id : Identity) (placeholder : Description) : Job Unit := do
  let d ← describe id placeholder
  match ← writeStore (.connect id d) with
  | .ok () =>
    let _ ← changeRecord id (.announced d)
  | .error e => log (.callFailed .announceAvailable id e)

/-- The ports of an answer; none if it is a failure. -/
def portsOf (id : Identity) : Except DiscoveryError (List Port) → Job (List Port)
  | .ok ports => return ports
  | .error e => do
    log (.discoveryFailed .ports id e)
    return []

/-- The ports that the driver knows; none if it cannot tell. -/
def askPorts (id : Identity) (driver : Driver) : Job (List Port) :=
  match driver.description, driver.ports with
  | some replies, _ => do portsOf id (← discoverPortDetails id replies.ports)
  | none, some reply => do portsOf id (← listPorts id reply)
  | none, none => do
    log (.noPortDiscovery id)
    return []

/-- Brings the ports of the device into the store. -/
def bringPorts (id : Identity) (driver : Driver) : Job Unit := do
  let ports ← askPorts id driver
  if !ports.isEmpty then
    match ← writeStore (.ports id ports) with
    | .ok () =>
      let _ ← changeRecord id .portsDiscovered
    | .error e => log (.callFailed .updatePorts id e)

/-- Brings the counters of the device into the store, once its ports are known. -/
def bringStatistics (id : Identity) (driver : Driver) : Job Unit := do
  let record ← readRecord id
  if record.portsDiscovered then
    match driver.portStatistics with
    | none => log (.noStatisticsDiscovery id)
    | some reply =>
      match ← discoverStatistics id reply with
      | .ok statistics =>
        warnOnRefusal .updateStatistics id (← writeStore (.statistics id statistics))
      | .error e => log (.discoveryFailed .statistics id e)
  else log (.statisticsSkipped id)

/-- Brings ports and counters into the store, for a device that this node masters and that the store
shows available. -/
def discoverPorts (id : Identity) : Job Unit := do
  if ← isLocalMaster id then
    if ← isAvailable id then
      match ← lookUp id with
      | none => log (.portsSkipped id .notInStore)
      | some device =>
        bringPorts id device.driver
        bringStatistics id device.driver
    else log (.portsSkipped id .notAvailable)
  else log (.portsSkipped id .notMaster)

end Southbound.Discovery
