import Southbound.Credentials
import Southbound.Device

/-!
# Device records

The provider keeps a record of every device it deals with: the credentials it handed out, the
description it announced last, and how far the connection has come.  The device store stays the
authority; records only keep the provider from repeating what it has done already.

A session is live while the record is `connecting` or `connected`.  Records change one at a time and
only in the ways that `RecordChange` lists; `Records.prune` drops what is neither desired nor live.
-/

namespace Southbound

/-- How far the connection to a device has come. -/
inductive ConnectionState
  /-- Seen, credentials not yet stored. -/
  | unregistered
  /-- Credentials stored. -/
  | keyStored
  /-- A session is being opened. -/
  | connecting
  /-- A session is open. -/
  | connected
  /-- The session ended or could not be opened. -/
  | disconnected
deriving DecidableEq

namespace ConnectionState

/-- Whether a session is open or being opened. -/
def isLive : ConnectionState → Bool
  | connecting | connected => true
  | unregistered | keyStored | disconnected => false

/-- The state in words. -/
def text : ConnectionState → String
  | unregistered => "Unregistered"
  | keyStored => "KeyStored"
  | connecting => "Connecting"
  | connected => "Connected"
  | disconnected => "Disconnected"

/-- The state that a word names. -/
def ofText? : String → Option ConnectionState
  | "Unregistered" => some unregistered
  | "KeyStored" => some keyStored
  | "Connecting" => some connecting
  | "Connected" => some connected
  | "Disconnected" => some disconnected
  | _ => none

end ConnectionState

/-- What the provider remembers about one device. -/
structure DeviceRecord where
  /-- The credentials last handed to the credential store. -/
  credentials : Option Credentials
  /-- The description last announced as available. -/
  lastDescription : Option Description
  /-- Whether ports were discovered in this session. -/
  portsDiscovered : Bool
  /-- Whether configuration still lists the device. -/
  desired : Bool
  /-- Whether the store was last seen to show the device available. -/
  available : Bool
  state : ConnectionState
deriving DecidableEq

namespace DeviceRecord

/-- The record of a device that was never seen. -/
def fresh : DeviceRecord := ⟨none, none, false, false, false, .unregistered⟩

instance : Inhabited DeviceRecord := ⟨fresh⟩

/-- The record after its session: a live state becomes `disconnected`, ports and availability are
forgotten. -/
def ended (r : DeviceRecord) : DeviceRecord :=
  { r with
    state := if r.state.isLive then .disconnected else r.state
    portsDiscovered := false
    available := false }

/-- Whether the record outlives a pass over the configuration. -/
def isKept (r : DeviceRecord) : Bool := r.desired || r.state.isLive

end DeviceRecord

/-! ## Changes -/

/-- A change to one record. -/
inductive RecordChange
  /-- Nothing changes, but the record is there afterwards. -/
  | seen
  /-- Configuration lists the device. -/
  | desired
  /-- The credential store took the credentials. -/
  | credentialsStored (c : Credentials)
  /-- The credentials are no longer in use. -/
  | credentialsRevoked
  /-- The connection has come to another state. -/
  | reached (state : ConnectionState)
  /-- Ports were discovered. -/
  | portsDiscovered
  /-- The device was announced as available. -/
  | announced (d : Description)
  /-- The store shows the device available, or not. -/
  | shown (available : Bool)
  /-- The session ended. -/
  | ended
deriving DecidableEq

namespace RecordChange

/-- The record after the change. -/
def apply (r : DeviceRecord) : RecordChange → DeviceRecord
  | seen => r
  | desired => { r with desired := true }
  | credentialsStored c =>
    { r with
      credentials := some c
      state := if r.state = .unregistered then .keyStored else r.state }
  | credentialsRevoked => { r with credentials := none }
  | reached state => { r with state := state }
  | portsDiscovered => { r with portsDiscovered := true }
  | announced d => { r with available := true, lastDescription := some d }
  | shown available => { r with available := available }
  | ended => r.ended

end RecordChange

/-! ## All records -/

/-- The records by identity. -/
abbrev Records := SortedMap Identity DeviceRecord

namespace Records

/-- The record of a device, a fresh one if there is none. -/
def read (m : Records) (id : Identity) : DeviceRecord := (m.get? id).getD .fresh

/-- Changes the record of a device; where there is none, a fresh one is changed. -/
def change (m : Records) (id : Identity) (c : RecordChange) : Records :=
  m.insert id (c.apply (m.read id))

/-- Notes for every record whether its device is desired. -/
def markDesired (m : Records) (desired : List Identity) : Records :=
  m.map fun id r => { r with desired := desired.contains id }

/-- The records that are neither desired nor live. -/
def prunable (m : Records) : List Identity := (m.filter fun _ r => !r.isKept).keys

/-- Drops the records that are neither desired nor live. -/
def prune (m : Records) : Records := m.filter fun _ r => r.isKept

/-- The devices whose credentials reached the credential store. -/
def registered (m : Records) : List Identity :=
  (m.filter fun _ r => r.state != .unregistered).keys

theorem read_change (m : Records) (id id' : Identity) (c : RecordChange) :
    (m.change id c).read id' = if id' = id then c.apply (m.read id) else m.read id' := by
  simp only [read, change, SortedMap.get?_insert]
  split <;> rfl

end Records

end Southbound
