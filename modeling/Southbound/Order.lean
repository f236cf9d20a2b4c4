import Southbound.Reconciliation

/-!
# Orders

Whatever the provider is told to do becomes an `Order`, which waits in a queue until a worker takes
it.  An order knows the label under which it is logged and the job that carries it out.  Events
become orders here as well: `ofConfigEvent`, `ofSessionEvent` and `ofStoreEvent` say which do.

Whether a store event concerns this node is decided when the order is carried out, not when it is
given, because mastership may have moved by then.
-/

namespace Southbound

/-- What the provider is told to do. -/
inductive Order
  /-- The first pass after the start. -/
  | firstPass
  /-- A pass because configuration changed. -/
  | pass
  /-- A pass for one device. -/
  | probe (id : Identity)
  /-- A session broke. -/
  | sessionLost (id : Identity)
  /-- A device came to the store or left it. -/
  | storeChanged (e : StoreEvent)
  /-- This node has a new role for a device. -/
  | role (id : Identity) (r : Role)
deriving DecidableEq

namespace Order

open Job

/-- The label under which the order is logged. -/
def label : Order → String
  | firstPass => "initial reconciliation"
  | pass => "config reconciliation"
  | probe id => s!"probe {id}"
  | sessionLost id => s!"session removed {id}"
  | storeChanged e => s!"store {e.change.text} {e.identity}"
  | role id r => s!"{r} for {id}"

/-- What a change in the store calls for, if it concerns this node. -/
def reactToStore (s : Settings) (e : StoreEvent) : Job Unit := do
  let master ← masterOf e.identity
  let isLocal ← if master.isSome then isLocalMaster e.identity else pure false
  if e.isRelevant master.isSome isLocal s.scheme then
    match e.change with
    | .added => Discovery.discoverPorts e.identity
    | .removed => Connection.deviceRemoved e.identity
    | .updated => return

/-- Nothing to report. -/
def silently (j : Job Unit) : Job (Except RoleError Unit) := do
  j
  return .ok ()

/-- How the order is carried out.  Only a role has something to report. -/
def job (s : Settings) : Order → Job (Except RoleError Unit)
  | firstPass | pass => silently (Reconciliation.reconcileAll s)
  | probe id => silently (Reconciliation.reconcileOne s id)
  | sessionLost id => silently (Connection.sessionLost id)
  | storeChanged e => silently (reactToStore s e)
  | role id r => Connection.changeRole id r

/-! ## Events -/

/-- What the operator is told about a configuration event, and the order that it becomes. -/
def ofConfigEvent (s : Settings) (e : ConfigEvent) : List LogLine × Option Order :=
  if e.isRelevant s.appId then ([.configChanged e.change e.key], some .pass) else ([], none)

/-- What the operator is told about a session event, and the order that it becomes. -/
def ofSessionEvent (e : SessionEvent) : List LogLine × Option Order :=
  match e.change with
  | .added => ([.sessionAdded e.identity], none)
  | .removed => ([], some (.sessionLost e.identity))

/-- What the operator is told about a store event, and the order that it becomes. -/
def ofStoreEvent (e : StoreEvent) : List LogLine × Option Order :=
  if e.change = .updated then ([], none) else ([], some (.storeChanged e))

end Order

end Southbound
