import Southbound.Credentials
import Southbound.Event
import Southbound.Log

/-!
# What an observer sees

The provider is judged by its calls to the systems around it and by what those publish and log.  A
`Call` is one such call with all its arguments; an `Occurrence` is anything that an observer can
see, and a history is a list of occurrences, oldest first.  Looking something up is no call: it
leaves nothing to be seen.
-/

namespace Southbound

/-- A call of the provider to one of the systems around it. -/
inductive Call
  | desiredDevices (appId : String)
  | probe (id : Identity)
  | storeKey (id : Identity) (c : Credentials)
  | removeKey (id : Identity)
  | openSession (id : Identity)
  | closeSession (id : Identity) (force : Bool)
  | deviceConnected (id : Identity) (d : Description)
  | deviceDisconnected (id : Identity)
  | updatePorts (id : Identity) (ports : List Port)
  | updateStatistics (id : Identity) (statistics : List PortStatistics)
  | reportRole (id : Identity) (requested accepted : Role)
  -- inquiries that a device driver answers
  | discoverDetails (id : Identity)
  | discoverPortDetails (id : Identity)
  | listPorts (id : Identity)
  | discoverStatistics (id : Identity)
deriving DecidableEq

namespace Call

/-- The device that the call is about. -/
def identity? : Call → Option Identity
  | desiredDevices _ => none
  | probe id | storeKey id _ | removeKey id | openSession id | closeSession id _
  | deviceConnected id _ | deviceDisconnected id | updatePorts id _ | updateStatistics id _
  | reportRole id _ _ | discoverDetails id | discoverPortDetails id | listPorts id
  | discoverStatistics id => some id

end Call

/-- Something that an observer sees. -/
inductive Occurrence
  | called (c : Call)
  | storeChanged (e : StoreEvent)
  | sessionChanged (e : SessionEvent)
  | logged (l : LogLine)
deriving DecidableEq

namespace Occurrence

/-- The call, if it is one. -/
def call? : Occurrence → Option Call
  | called c => some c
  | _ => none

/-- The store event, if it is one. -/
def storeEvent? : Occurrence → Option StoreEvent
  | storeChanged e => some e
  | _ => none

/-- The session event, if it is one. -/
def sessionEvent? : Occurrence → Option SessionEvent
  | sessionChanged e => some e
  | _ => none

/-- The log line, if it is one. -/
def line? : Occurrence → Option LogLine
  | logged l => some l
  | _ => none

end Occurrence

end Southbound
