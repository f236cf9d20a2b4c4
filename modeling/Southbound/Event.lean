import Southbound.Device

/-!
# Events

Three sources report changes: the configuration, the session controller and the device store.  The
provider acts on some of them only; `ConfigEvent.isRelevant` and `StoreEvent.isRelevant` are the two
filters that need no more than the event and what is known about mastership.
-/

namespace Southbound

/-! ## Configuration -/

/-- What happened to a configuration entry. -/
inductive ConfigChange
  | added
  | updated
  | removed
deriving DecidableEq

namespace ConfigChange

/-- The change in words. -/
def text : ConfigChange → String
  | added => "Added"
  | updated => "Updated"
  | removed => "Removed"

/-- The change that a word names. -/
def ofText? : String → Option ConfigChange
  | "Added" => some added
  | "Updated" => some updated
  | "Removed" => some removed
  | _ => none

end ConfigChange

/-- A configuration entry changed. -/
structure ConfigEvent where
  /-- The application whose entry it is. -/
  key : String
  change : ConfigChange
deriving DecidableEq

namespace ConfigEvent

/-- Whether the event calls for reconciliation: the entry is the application's own and is there. -/
def isRelevant (e : ConfigEvent) (appId : String) : Bool :=
  e.key == appId && e.change != .removed

end ConfigEvent

/-! ## Sessions -/

/-- What happened to a session. -/
inductive SessionChange
  | added
  | removed
deriving DecidableEq

namespace SessionChange

/-- The change in words. -/
def text : SessionChange → String
  | added => "DeviceAdded"
  | removed => "DeviceRemoved"

end SessionChange

/-- A session was opened or ended. -/
structure SessionEvent where
  change : SessionChange
  identity : Identity
deriving DecidableEq

/-! ## Device store -/

/-- What happened to a device in the store. -/
inductive StoreChange
  | added
  | removed
  | updated
deriving DecidableEq

namespace StoreChange

/-- The change in words. -/
def text : StoreChange → String
  | added => "DeviceAdded"
  | removed => "DeviceRemoved"
  | updated => "DeviceUpdated"

/-- The change that a word names. -/
def ofText? : String → Option StoreChange
  | "DeviceAdded" => some added
  | "DeviceRemoved" => some removed
  | "DeviceUpdated" => some updated
  | _ => none

end StoreChange

/-- A device changed in the store. -/
structure StoreEvent where
  change : StoreChange
  identity : Identity
  /-- The remarks on the device at that time. -/
  annotations : Annotations
deriving DecidableEq

namespace StoreEvent

/-- The protocol that the remarks name. -/
def protocol (e : StoreEvent) : Option String := e.annotations.get? Annotations.protocolKey

/-- Whether the event concerns a device that this node acts on: nobody masters the device, or this
node does and the device speaks the scheme. -/
def isRelevant (e : StoreEvent) (hasMaster localMaster : Bool) (scheme : String) : Bool :=
  !hasMaster || localMaster && e.protocol.any (Text.equalIgnoringCase · scheme)

end StoreEvent

end Southbound
