import Southbound.Config

/-!
# Where the desired devices come from

The provider asks for the devices of its application.  A `ConfigSource` answers from a list, from a
file, or not at all.
-/

namespace Southbound

/-- Answers which devices an application desires. -/
inductive ConfigSource
  /-- The same devices for every application. -/
  | listed (devices : List DesiredDevice)
  /-- No devices, and why. -/
  | failing (e : ConfigReadError)
  /-- The devices of a configuration file. -/
  | file (f : ConfigFile)

namespace ConfigSource

/-- The devices of an application. -/
def desiredDevices (s : ConfigSource) (appId : String) :
    Except ConfigReadError (List DesiredDevice) :=
  match s with
  | listed devices => .ok devices
  | failing e => .error e
  | file f => Config.desiredDevices f appId

end ConfigSource

end Southbound
