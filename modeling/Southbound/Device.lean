import Southbound.Identity
import Southbound.SortedMap

/-!
# Devices, ports and their statistics

A `Description` is what the provider tells the device store about a device.  Before anything was
discovered it is a placeholder: every descriptive field is unknown and the annotations repeat the
identity.  Discovery replaces it with a richer one.

`Description.sameDetails` compares descriptions in everything but availability;
`sameDetails_iff` says so, and with it that it is an equivalence.
-/

namespace Southbound

open Southbound.Text

/-! ## Descriptions -/

/-- The broad category of a device. -/
inductive DeviceKind
  | switch
  | router
  | roadm
  | otn
  | other
deriving DecidableEq

namespace DeviceKind

/-- The category as documents name it. -/
def name : DeviceKind → String
  | switch => "Switch"
  | router => "Router"
  | roadm => "Roadm"
  | otn => "Otn"
  | other => "Other"

/-- The category that a document names. -/
def ofName? : String → Option DeviceKind
  | "Switch" => some switch
  | "Router" => some router
  | "Roadm" => some roadm
  | "Otn" => some otn
  | "Other" => some other
  | _ => none

end DeviceKind

/-- Free remarks on a device, by name. -/
abbrev Annotations := SortedMap String String

namespace Annotations

/-- The remark that holds the address. -/
def addressKey : String := "ipaddress"

/-- The remark that holds the port. -/
def portKey : String := "port"

/-- The remark that holds the scheme in capital letters. -/
def protocolKey : String := "protocol"

/-- The remarks that repeat an identity. -/
def ofIdentity (id : Identity) : Annotations :=
  .ofList [(addressKey, toString id.address), (portKey, toString id.port.toNat),
    (protocolKey, raised id.scheme.text)]

end Annotations

/-- Everything the device store is told about a device. -/
structure Description where
  uri : String
  kind : DeviceKind
  manufacturer : String
  hardwareVersion : String
  softwareVersion : String
  serialNumber : String
  chassisId : String
  /-- Whether the store shall show the device available when it is announced like this. -/
  availableByDefault : Bool
  annotations : Annotations
deriving DecidableEq

namespace Description

/-- What stands in a descriptive field that nothing is known about. -/
def unknown : String := "unknown"

/-- The description of a device of which only the identity is known. -/
def placeholder (id : Identity) : Description where
  uri := id.text
  kind := .switch
  manufacturer := unknown
  hardwareVersion := unknown
  softwareVersion := unknown
  serialNumber := unknown
  chassisId := unknown
  availableByDefault := false
  annotations := .ofIdentity id

/-- The description with another availability. -/
def withAvailability (d : Description) (available : Bool) : Description :=
  { d with availableByDefault := available }

/-- Whether two descriptions agree in everything but availability. -/
def sameDetails (a b : Description) : Bool :=
  a.uri == b.uri && a.kind == b.kind && a.manufacturer == b.manufacturer
    && a.hardwareVersion == b.hardwareVersion && a.softwareVersion == b.softwareVersion
    && a.serialNumber == b.serialNumber && a.chassisId == b.chassisId
    && a.annotations == b.annotations

theorem sameDetails_iff (a b : Description) :
    a.sameDetails b = true ↔ a.withAvailability b.availableByDefault = b := by
  cases a
  cases b
  simp [sameDetails, withAvailability, and_assoc]

end Description

/-! ## Ports -/

/-- A port of a device. -/
structure Port where
  number : UInt32
  name : String
  enabled : Bool
  /-- Megabits per second; zero when the device does not say. -/
  speed : UInt64
deriving DecidableEq

/-- The counters of a port. -/
structure PortStatistics where
  port : UInt32
  packetsReceived : UInt64
  packetsSent : UInt64
  bytesReceived : UInt64
  bytesSent : UInt64
  packetsReceivedDropped : UInt64
  packetsSentDropped : UInt64
deriving DecidableEq

namespace PortStatistics

/-- No traffic on port zero. -/
def zero : PortStatistics := ⟨0, 0, 0, 0, 0, 0, 0⟩

end PortStatistics

end Southbound
