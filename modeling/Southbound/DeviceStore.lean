import Southbound.Event
import Southbound.Failure

/-!
# The device store

The store is the authority on devices: which there are, how each was described last, whether it is
available, and which ports and counters it has.  A device is added by its first connection and
leaves only by removal.  Whatever an observer of the store has to know is published as an event;
ports and counters are written silently.
-/

namespace Southbound

/-- What the store holds about one device. -/
structure StoredDevice where
  description : Description
  available : Bool
  ports : List Port
  statistics : List PortStatistics
deriving DecidableEq

/-- The devices by identity. -/
abbrev DeviceStore := SortedMap Identity StoredDevice

/-- What the provider writes to the store. -/
inductive StoreWrite
  /-- The device is described anew, and added if it is not there. -/
  | connect (id : Identity) (d : Description)
  /-- The device is no longer available. -/
  | disconnect (id : Identity)
  | ports (id : Identity) (ports : List Port)
  | statistics (id : Identity) (statistics : List PortStatistics)
deriving DecidableEq

namespace StoreWrite

/-- The device that is written. -/
def identity : StoreWrite → Identity
  | connect id _ | disconnect id | ports id _ | statistics id _ => id

end StoreWrite

namespace DeviceStore

/-- The device is described anew.  One that was there keeps its ports and counters. -/
def connect (s : DeviceStore) (id : Identity) (d : Description) : DeviceStore × List StoreEvent :=
  match s.get? id with
  | some known =>
    (s.insert id { known with description := d, available := d.availableByDefault },
      [⟨.updated, id, d.annotations⟩])
  | none => (s.insert id ⟨d, d.availableByDefault, [], []⟩, [⟨.added, id, d.annotations⟩])

/-- The device, which has to be there. -/
def present (s : DeviceStore) (id : Identity) : Except CollaboratorError StoredDevice :=
  match s.get? id with
  | some known => .ok known
  | none => .error (.store s!"unknown device {id}")

/-- Carries out a write.  Only a device that is there can be disconnected or have its ports and
counters written; a disconnected device loses its ports. -/
def write (s : DeviceStore) : StoreWrite →
    Except CollaboratorError (DeviceStore × List StoreEvent)
  | .connect id d => .ok (s.connect id d)
  | .disconnect id => do
    let known ← s.present id
    return (s.insert id { known with available := false, ports := [] },
      [⟨.updated, id, known.description.annotations⟩])
  | .ports id ports => do
    let known ← s.present id
    return (s.insert id { known with ports := ports }, [])
  | .statistics id statistics => do
    let known ← s.present id
    return (s.insert id { known with statistics := statistics }, [])

/-- Removes a device. -/
def remove (s : DeviceStore) (id : Identity) : DeviceStore × List StoreEvent :=
  match s.get? id with
  | some known => (s.erase id, [⟨.removed, id, known.description.annotations⟩])
  | none => (s, [])

/-- Whether the store shows the device available. -/
def isAvailable (s : DeviceStore) (id : Identity) : Bool := (s.get? id).any (·.available)

end DeviceStore

end Southbound
