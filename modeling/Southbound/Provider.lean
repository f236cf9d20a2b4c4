import Southbound.Channel
import Southbound.Schedule
import Southbound.Shift

/-!
# The provider

The provider owns two pools, the schedule of passes and the listeners on the three event streams.
Passes and reactions to events are carried out by the event pool, role changes by the connection
pool.

After `start` the first pass is queued, the schedule runs and the listeners listen.  `shutdown`
refuses role changes from then on, stops schedule and listeners, lets the event pool finish, ends
the management of every device and lets the connection pool finish.  The pools stay closed: a
provider that is started again listens, but carries out nothing.

Everything that can be done at a time is done before the clock moves on.
-/

namespace Southbound

/-- Events of one stream that were sent together. -/
inductive EventBatch
  | config (events : List ConfigEvent)
  | session (events : List SessionEvent)
  | store (events : List StoreEvent)

namespace EventBatch

/-- The stream of the events. -/
def stream : EventBatch → Stream
  | config _ => .config
  | session _ => .session
  | store _ => .store

end EventBatch

/-- How a shutdown ended. -/
inductive Ending
  | complete
  /-- A system broke down while a device was torn down. -/
  | crashed
  /-- A worker waits for an answer that is held back. -/
  | blocked
deriving DecidableEq

/-- The provider, and the deployment that it works on. -/
structure Provider where
  settings : Settings
  /-- How many events a stream keeps for its listener. -/
  capacity : Nat
  /-- Milliseconds since the beginning. -/
  now : Nat
  deployment : Deployment
  events : Pool Assignment
  connections : Pool Assignment
  schedules : List Schedule
  /-- The streams that are listened to. -/
  listening : List Stream

namespace Provider

/-- A provider that was not started. -/
def fresh (settings : Settings) (capacity : Nat) (d : Deployment) : Provider where
  settings := settings
  capacity := capacity
  now := 0
  deployment := d
  events := .ofSize "event" settings.eventWorkers
  connections := .ofSize "connection" settings.connectionWorkers
  schedules := []
  listening := []

/-! ## Work -/

/-- Tells the operator. -/
def say (p : Provider) (lines : List LogLine) : Provider :=
  { p with deployment := p.deployment.sayAll lines }

/-- Gives an order to the event pool. -/
def submitEvent (p : Provider) (o : Order) : Provider :=
  if p.events.accepting then
    { p with events := p.events.submit (o.assignment p.settings) }
  else p.say [.jobDropped p.events.name o.label]

/-- Gives an order to the connection pool. -/
def submitConnection (p : Provider) (o : Order) : Provider :=
  if p.connections.accepting then
    { p with connections := p.connections.submit (o.assignment p.settings) }
  else p.say [.jobDropped p.connections.name o.label]

/-- The workers of the event pool and the schedules, beginning with some turns. -/
def eventShift (p : Provider) (turns : List Turn) : Shift :=
  .begin p.settings p.now p.deployment p.events p.schedules turns

/-- The workers of the connection pool. -/
def connectionShift (p : Provider) : Shift :=
  .begin p.settings p.now p.deployment p.connections [] []

/-- Takes over what the event pool and the schedules did. -/
def afterEvents (p : Provider) (s : Shift) : Provider :=
  { p with events := s.pool, schedules := s.schedules, deployment := s.deployment }

/-- Takes over what the connection pool did. -/
def afterConnections (p : Provider) (s : Shift) : Provider :=
  { p with connections := s.pool, deployment := s.deployment }

/-- Does everything that the event pool and the schedules can do now. -/
def settle (p : Provider) : Provider := p.afterEvents (p.eventShift []).work

/-! ## Start and shutdown -/

/-- Stops the listeners. -/
def dropListeners (p : Provider) : Provider :=
  { p.say (p.listening.map .listenerStopped) with listening := [] }

/-- Starts the provider, with new event streams. -/
def start (p : Provider) : Provider :=
  let p := { p with deployment := { p.deployment with active := true } }
  let p := p.submitEvent .firstPass
  let p := { p with schedules := p.schedules ++ [Schedule.begin p.settings p.now] }
  let p := p.say [.providerStarted p.settings.scheme p.settings.period]
  let p := p.dropListeners
  { p with listening := [.config, .session, .store] }.settle

/-- Stops the schedules; a pass that waits is given up. -/
def dropSchedules (p : Provider) : Provider :=
  { p.say (p.schedules.map fun _ => .scheduleStopped) with schedules := [] }

/-- Closes the event pool and lets it finish. -/
def finishEvents (p : Provider) : Provider := { p with events := p.events.close }.settle

/-- Closes the connection pool and lets it finish. -/
def finishConnections (p : Provider) : Provider :=
  p.afterConnections { p with connections := p.connections.close }.connectionShift.work

/-- Stops the provider. -/
def shutdown (p : Provider) : Ending × Provider :=
  let p := { p with deployment := { p.deployment with active := false } }
  let p := p.dropSchedules.dropListeners.finishEvents
  if !p.events.isIdle then (.blocked, p)
  else
    let p := p.say [.poolStopped p.events.name]
    let (progress, d) := Connection.tearDownAll.run p.deployment
    let p := { p with deployment := d }
    match progress with
    | .done () =>
      let p := p.finishConnections
      (.complete, p.say [.poolStopped p.connections.name, .providerStopped])
    | .crashed => (.crashed, p)
    | .waiting _ => (.blocked, p)

/-! ## Commands -/

/-- Applies a role change and tells what became of it. -/
def changeRole (p : Provider) (id : Identity) (role : Role) :
    Except RoleError Unit × Provider :=
  let o := Order.role id role
  if !p.deployment.active then (.ok (), p.say [.roleIgnored role id])
  else if !p.connections.accepting then
    (.error (.notProcessed id), p.submitConnection o)
  else
    let p := p.submitConnection o
    let s := p.connectionShift.work
    let result := match s.results.getLast? with
      | some (_, some result) => result
      | _ => .error (.notProcessed id)
    (result, (p.afterConnections s).settle)

/-- Orders a pass for one device. -/
def triggerProbe (p : Provider) (id : Identity) : Provider :=
  ((p.say [.probeTriggered id]).submitEvent (.probe id)).settle

/-- Whether a device answers; `none` if the probe breaks down. -/
def isReachable (p : Provider) (id : Identity) : Option Bool × Provider :=
  match (Job.probe id).run p.deployment with
  | (.done reachable, d) => (some reachable, { p with deployment := d })
  | (_, d) => (none, { p with deployment := d })

/-! ## Time and answers -/

/-- Lets time go by in one jump. -/
def advance (p : Provider) (duration : Nat) : Provider :=
  { p with now := p.now + duration }.settle

/-- The turn of the one who waits for a ticket: a worker, or the pass of a schedule. -/
def turnFor (p : Provider) (ticket : Nat) : Option Turn :=
  if p.events.running.any (·.rest.ticket? == some ticket) then some .order
  else
    let waits := fun schedule : Schedule => schedule.pass.bind (·.ticket?) == some ticket
    (p.schedules.findIdx? waits).map .pass

/-- Lets the answers go that are held back; who waited longest goes on first. -/
def release (p : Provider) : Provider :=
  let tickets := List.range' p.deployment.released (p.deployment.held - p.deployment.released)
  let turns := tickets.filterMap p.turnFor
  let p := { p with deployment := p.deployment.release }
  p.afterEvents (p.eventShift turns).work

/-! ## Events -/

/-- A listener handles events: it speaks and gives orders, and leaves the work to the pool. -/
def handle {ε : Type} (p : Provider) (stream : Stream)
    (react : ε → List LogLine × Option Order) (sent : List ε) : Provider :=
  let backlog := Backlog.ofSent p.capacity sent
  let p := if backlog.missed = 0 then p else p.say [.listenerLagged stream backlog.missed]
  backlog.kept.foldl (fun p e =>
    let (lines, order) := react e
    let p := p.say lines
    match order with
    | some o => p.submitEvent o
    | none => p) p

/-- Sends events; the answer is whether a listener takes them. -/
def send (p : Provider) (batch : EventBatch) : Bool × Provider :=
  if p.listening.contains batch.stream then
    let p := match batch with
      | .config events => p.handle .config (Order.ofConfigEvent p.settings) events
      | .session events => p.handle .session Order.ofSessionEvent events
      | .store events => p.handle .store Order.ofStoreEvent events
    (true, p.settle)
  else (false, p)

/-- Ends a stream; its listener stops. -/
def closeStream (p : Provider) (stream : Stream) : Provider :=
  if p.listening.contains stream then
    { p.say [.listenerStopped stream] with listening := p.listening.filter (· != stream) }
  else p

end Provider

end Southbound
