import Southbound.Capability
import Southbound.Event
import Southbound.Failure
import Southbound.Record
import Southbound.Role
import Southbound.Text.Duration

/-!
# Log lines

Everything that the provider and the systems around it tell an operator is a `LogLine`.  A line
says what happened, as data; how urgent that is (`LogLine.level`) and how it reads
(`LogLine.message`) are decided here and nowhere else.

The refusals of calls are three constructors: `callFailed`, `discoveryFailed` and
`configUnreadable`.  Their messages end in the message of the error they carry.
-/

namespace Southbound

/-- How urgent a line is. -/
inductive Level
  | error
  | warn
  | info
  | debug
deriving DecidableEq

namespace Level

/-- The level in words. -/
def text : Level → String
  | error => "ERROR"
  | warn => "WARN"
  | info => "INFO"
  | debug => "DEBUG"

end Level

/-- What was attempted when a call was refused. -/
inductive Attempt
  | storeCredentials
  | removeCredentials
  | openSession
  | closeSession
  | closeUnreachable
  | forceClose
  | announce
  | announceAvailable
  | markDisconnected
  | updatePorts
  | updateStatistics
deriving DecidableEq

namespace Attempt

/-- The attempt on a device in words. -/
def text (id : Identity) : Attempt → String
  | storeCredentials => s!"failed to store credentials for {id}"
  | removeCredentials => s!"failed to remove credentials for {id}"
  | openSession => s!"cannot open session to {id}"
  | closeSession => s!"failed to close session to {id}"
  | closeUnreachable => s!"failed to close session to unreachable {id}"
  | forceClose => s!"failed to force-close session to {id}"
  | announce => s!"failed to announce {id} to the device store"
  | announceAvailable => s!"failed to announce {id} as available"
  | markDisconnected => s!"failed to mark {id} disconnected"
  | updatePorts => s!"failed to update ports of {id}"
  | updateStatistics => s!"failed to update port statistics of {id}"

end Attempt

/-- What was asked of a driver. -/
inductive Inquiry
  | description
  | ports
  | statistics
deriving DecidableEq

namespace Inquiry

/-- The inquiry in words. -/
def text : Inquiry → String
  | description => "description"
  | ports => "port"
  | statistics => "port statistics"

end Inquiry

/-- Why ports were not looked for. -/
inductive PortObstacle
  | notMaster
  | notAvailable
  | notInStore
deriving DecidableEq

namespace PortObstacle

/-- The obstacle in words. -/
def text : PortObstacle → String
  | notMaster => "not the local master"
  | notAvailable => "not available"
  | notInStore => "not in the device store"

end PortObstacle

/-- The three sources of events. -/
inductive Stream
  | config
  | session
  | store
deriving DecidableEq

namespace Stream

/-- The source in words. -/
def text : Stream → String
  | config => "config"
  | session => "session"
  | store => "store"

end Stream

/-- Why a device did not answer a probe. -/
inductive ProbeFailure
  /-- No answer in time. -/
  | timedOut (ms : Nat)
  /-- The connection was refused or could not be routed. -/
  | notConnected (detail : String)
  /-- The connection opened and was gone at once. -/
  | closedEarly
deriving DecidableEq

/-- Something that an operator is told. -/
inductive LogLine
  -- refused calls
  | callFailed (attempt : Attempt) (id : Identity) (e : CollaboratorError)
  | discoveryFailed (inquiry : Inquiry) (id : Identity) (e : DiscoveryError)
  | configUnreadable (e : ConfigReadError)
  -- connections
  | credentialsStored (id : Identity)
  | roleIgnored (role : Role) (id : Identity)
  | masterConfirmed (id : Identity)
  | masterUnacknowledged (id : Identity)
  | connected (id : Identity)
  | roleAccepted (role : Role) (id : Identity)
  | unreachable (id : Identity)
  | lostWithoutDevice (id : Identity)
  | sessionGone (id : Identity)
  | removingDevice (id : Identity)
  -- discovery
  | noDescriptionDiscovery (id : Identity)
  | noDescription (id : Identity)
  | portsSkipped (id : Identity) (obstacle : PortObstacle)
  | noPortDiscovery (id : Identity)
  | statisticsSkipped (id : Identity)
  | noStatisticsDiscovery (id : Identity)
  -- reconciliation
  | passStarted (devices : Nat)
  | entrySkipped (e : IdentityError)
  | deviceFailed (id : Identity)
  | recordDropped (id : Identity)
  | notConfigured (id : Identity)
  | notInStore (id : Identity)
  | masteredElsewhere (id : Identity)
  | passFailed
  | scheduleStopped
  -- events
  | configChanged (change : ConfigChange) (key : String)
  | sessionAdded (id : Identity)
  | listenerLagged (stream : Stream) (missed : Nat)
  | listenerStopped (stream : Stream)
  -- the provider
  | providerStarted (scheme : String) (periodMs : Nat)
  | probeTriggered (id : Identity)
  | providerStopped
  -- worker pools
  | jobDropped (pool label : String)
  | jobFailed (pool label : String)
  | poolStopped (pool : String)
  -- sessions and mastership
  | sessionOpened (id : Identity) (username : String)
  | sessionClosed (id : Identity) (force : Bool)
  | roleReported (id : Identity) (requested accepted : Role)
  -- probes
  | reachable (id : Identity)
  | notReachable (id : Identity) (failure : ProbeFailure)
  -- the configuration watcher
  | watching (path : String)
  | watchFailed (detail : String)
  | fileChanged (path : String) (change : ConfigChange)
  | nobodyListens
  | watcherStopped
deriving DecidableEq

namespace LogLine

/-- How urgent the line is. -/
def level : LogLine → Level
  | callFailed .openSession _ _ | configUnreadable _ | deviceFailed _ | passFailed
  | jobFailed _ _ | watchFailed _ => .error
  | callFailed _ _ _ | discoveryFailed _ _ _ | lostWithoutDevice _ | noDescriptionDiscovery _
  | noPortDiscovery _ | entrySkipped _ | notInStore _ | listenerLagged _ _ => .warn
  | masterUnacknowledged _ | connected _ | unreachable _ | passStarted _ | providerStarted _ _
  | probeTriggered _ | providerStopped | sessionOpened _ _ | sessionClosed _ _
  | notReachable _ _ | watching _ | fileChanged _ _ => .info
  | credentialsStored _ | roleIgnored _ _ | masterConfirmed _ | roleAccepted _ _ | sessionGone _
  | removingDevice _ | noDescription _ | portsSkipped _ _ | statisticsSkipped _
  | noStatisticsDiscovery _ | recordDropped _ | notConfigured _ | masteredElsewhere _
  | scheduleStopped | configChanged _ _ | sessionAdded _ | listenerStopped _ | jobDropped _ _
  | poolStopped _ | roleReported _ _ _ | reachable _ | nobodyListens | watcherStopped => .debug

/-- Why a probe failed, in words. -/
def probeFailureText (id : Identity) (failure : ProbeFailure) : String :=
  let endpoint := String.ofList (Address.renderEndpoint id.address id.port)
  match failure with
  | .timedOut ms => s!"connect to {endpoint} timed out after {Text.duration ms}"
  | .notConnected detail => s!"connect to {endpoint} failed: {detail}"
  | .closedEarly => s!"connection to {endpoint} closed before it could be checked"

/-- The line in words, without its level.  The worker that a job ran on is not tracked and shown as
an asterisk, and the text of a breakdown as `<panic>`. -/
def message : LogLine → String
  | callFailed attempt id e => s!"{attempt.text id}: {e.message}"
  | discoveryFailed inquiry id e => s!"{inquiry.text} discovery failed for {id}: {e.message}"
  | configUnreadable e => s!"cannot read desired devices: {e.message}"
  | credentialsStored id => s!"stored credentials for {id}"
  | roleIgnored role id => s!"ignoring {role} for {id}: provider is not active"
  | masterConfirmed id => s!"{id} already connected; confirming MASTER"
  | masterUnacknowledged id =>
    s!"{id} is not reachable; MASTER left unacknowledged until the next attempt"
  | connected id => s!"connected to {id}"
  | roleAccepted role id => s!"accepted {role} for {id}"
  | unreachable id => s!"{id} is no longer reachable"
  | lostWithoutDevice id =>
    s!"{id} does not exist in the device store; it may already have been removed"
  | sessionGone id => s!"{id} removed from the session controller"
  | removingDevice id => s!"removing device {id}"
  | noDescriptionDiscovery id =>
    s!"no description discovery for {id}; using the default description"
  | noDescription id => s!"{id} returned no usable description"
  | portsSkipped id obstacle => s!"skipping port discovery for {id}: {obstacle.text}"
  | noPortDiscovery id => s!"no port discovery for {id}"
  | statisticsSkipped id => s!"skipping port statistics for {id}: no ports known yet"
  | noStatisticsDiscovery id => s!"no port statistics discovery for {id}"
  | passStarted devices => s!"checking connection to {devices} configured devices"
  | entrySkipped e => s!"skipping configured device: {e.message}"
  | deviceFailed id => s!"unhandled failure while reconciling {id}"
  | recordDropped id => s!"dropped record for {id}: no longer configured"
  | notConfigured id => s!"{id} is not configured; nothing to probe"
  | notInStore id =>
    s!"{id} has not been added to the device store, maybe due to a connectivity problem"
  | masteredElsewhere id => s!"{id} is reachable but mastered elsewhere"
  | passFailed => "reconciliation pass failed: <panic>"
  | scheduleStopped => "reconciliation schedule stopped"
  | configChanged change key => s!"configuration {change.text} for {key}; reconciling"
  | sessionAdded id => s!"{id} added to the session controller"
  | listenerLagged stream missed =>
    s!"{stream.text} listener fell behind; {missed} events skipped"
  | listenerStopped stream => s!"{stream.text} listener stopped"
  | providerStarted scheme periodMs =>
    s!"provider started: scheme {scheme}, polling every {Text.duration periodMs}"
  | probeTriggered id => s!"triggering probe on {id}"
  | providerStopped => "provider stopped"
  | jobDropped pool label => s!"{pool} pool is shut down; dropping '{label}'"
  | jobFailed pool label => s!"{pool}-*: task '{label}' failed: <panic>"
  | poolStopped pool => s!"{pool} pool stopped"
  | sessionOpened id username => s!"session opened to {id} as {username}"
  | sessionClosed id force => s!"session to {id} closed (force: {force})"
  | roleReported id requested accepted => s!"{id}: requested {requested}, accepted {accepted}"
  | reachable id => s!"{id} is reachable"
  | notReachable id failure => s!"{id} is not reachable: {probeFailureText id failure}"
  | watching path => s!"watching {path} for configuration changes"
  | watchFailed detail => s!"configuration watcher error: {detail}"
  | fileChanged path change => s!"configuration file {path} changed: {change.text}"
  | nobodyListens => "no configuration listeners"
  | watcherStopped => "configuration watcher stopped"

/-- The whole line. -/
def text (l : LogLine) : String := s!"{l.level.text} {l.message}"

end LogLine

end Southbound
