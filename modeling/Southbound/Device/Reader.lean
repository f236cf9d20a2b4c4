import Southbound.Credentials
import Southbound.Datum
import Southbound.Device
import Southbound.Role

/-!
# Reading devices from documents

Descriptions, ports, statistics and desired devices have the same fields in every format.  Each
reader takes the fields in their fixed order, by name or by position; a field that is missing or
has the wrong type makes the whole value unreadable, and unknown fields are ignored.
-/

namespace Southbound

/-- Reads a description. -/
def Description.read? (encoding : Encoding) (d : Datum) : Option Description := do
  let fields ← encoding.fields? 9 d
  let uri ← fields.required 0 "uri" Datum.asText
  let kind ← fields.required 1 "device_type" fun k => k.asAlternative >>= DeviceKind.ofName?
  let manufacturer ← fields.required 2 "manufacturer" Datum.asText
  let hardwareVersion ← fields.required 3 "hw_version" Datum.asText
  let softwareVersion ← fields.required 4 "sw_version" Datum.asText
  let serialNumber ← fields.required 5 "serial_number" Datum.asText
  let chassisId ← fields.required 6 "chassis_id" Datum.asText
  let availableByDefault ← fields.required 7 "default_available" Datum.asBoolean
  let annotations ← fields.required 8 "annotations" (Datum.asTableOf Datum.asText)
  some { uri, kind, manufacturer, hardwareVersion, softwareVersion, serialNumber, chassisId,
         availableByDefault, annotations := .ofList annotations }

/-- Reads a port. -/
def Port.read? (encoding : Encoding) (d : Datum) : Option Port := do
  let fields ← encoding.fields? 4 d
  let number ← fields.required 0 "number" Datum.asUInt32
  let name ← fields.required 1 "name" Datum.asText
  let enabled ← fields.required 2 "enabled" Datum.asBoolean
  let speed ← fields.required 3 "speed_mbps" Datum.asUInt64
  some { number, name, enabled, speed }

/-- Reads the counters of a port. -/
def PortStatistics.read? (encoding : Encoding) (d : Datum) : Option PortStatistics := do
  let fields ← encoding.fields? 7 d
  let port ← fields.required 0 "port_number" Datum.asUInt32
  let packetsReceived ← fields.required 1 "packets_received" Datum.asUInt64
  let packetsSent ← fields.required 2 "packets_sent" Datum.asUInt64
  let bytesReceived ← fields.required 3 "bytes_received" Datum.asUInt64
  let bytesSent ← fields.required 4 "bytes_sent" Datum.asUInt64
  let packetsReceivedDropped ← fields.required 5 "packets_rx_dropped" Datum.asUInt64
  let packetsSentDropped ← fields.required 6 "packets_tx_dropped" Datum.asUInt64
  some { port, packetsReceived, packetsSent, bytesReceived, bytesSent, packetsReceivedDropped,
         packetsSentDropped }

/-- Reads a configuration entry. -/
def DesiredDevice.read? (encoding : Encoding) (d : Datum) : Option DesiredDevice := do
  let fields ← encoding.fields? 5 d
  let address ← fields.required 0 "address" Datum.asText
  let port ← fields.required 1 "port" Datum.asUInt16
  let username ← fields.required 2 "username" Datum.asText
  let password ← fields.required 3 "password" Datum.asText
  let sshKey ← fields.optional 4 "ssh_key" Datum.asText
  some { address, port, username, password, sshKey }

/-- Reads a role. -/
def Role.read? (d : Datum) : Option Role := d.asAlternative >>= Role.ofName?

end Southbound
