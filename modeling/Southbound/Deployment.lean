import Southbound.Fault
import Southbound.Job
import Southbound.Mastership
import Southbound.Session

/-!
# Deployments

A `Deployment` is the provider's memory together with every system around it, as they are when the
provider runs alone: the device store, the keys and the sessions, mastership, the devices that
answer probes, the configuration, and what can go wrong.  `Deployment.perform` says what one action
does to it, `Job.run` what a whole job does.

A call that goes wrong is still seen, and has no other effect.
-/

namespace Southbound

/-- The provider's memory and the systems around it. -/
structure Deployment where
  /-- Whether role changes are accepted. -/
  active : Bool
  records : Records
  store : DeviceStore
  drivers : SortedMap Identity Driver
  keys : Keys
  sessions : Sessions
  mastership : Mastership
  /-- The devices that answer probes. -/
  reachable : SortedSet Identity
  config : ConfigSource
  /-- How many answers were ever held back. -/
  held : Nat
  /-- How many of them were released again. -/
  released : Nat
  faults : Faults
  /-- What was seen, oldest first. -/
  history : List Occurrence

namespace Deployment

/-- Nothing has happened yet. -/
def fresh (node : NodeId) (devices : List DesiredDevice) : Deployment where
  active := false
  records := ∅
  store := ∅
  drivers := ∅
  keys := ∅
  sessions := ∅
  mastership := .unclaimed node
  reachable := ∅
  config := .listed devices
  held := 0
  released := 0
  faults := .none
  history := []

/-- Adds to the history. -/
def note (d : Deployment) (os : List Occurrence) : Deployment :=
  { d with history := d.history ++ os }

/-- Adds a line to the history. -/
def say (d : Deployment) (l : LogLine) : Deployment := d.note [.logged l]

/-- Adds lines to the history. -/
def sayAll (d : Deployment) (ls : List LogLine) : Deployment := d.note (ls.map .logged)

/-- Starts a new history. -/
def withoutHistory (d : Deployment) : Deployment := { d with history := [] }

/-- What goes wrong at a point now. -/
def draw (d : Deployment) (point : FaultPoint) : Option Fault × Deployment :=
  let (fault, plan) := (d.faults point).next
  (fault, { d with faults := d.faults.plan point plan })

/-! ## The systems -/

/-- Writes to the store. -/
def writeStore (d : Deployment) (w : StoreWrite) : Except CollaboratorError Deployment := do
  let (store, events) ← d.store.write w
  return { d with store := store }.note (events.map .storeChanged)

/-- Removes a device from the store. -/
def removeDevice (d : Deployment) (id : Identity) : Deployment :=
  let (store, events) := d.store.remove id
  { d with store := store }.note (events.map .storeChanged)

/-- Stores credentials. -/
def storeKey (d : Deployment) (id : Identity) (c : Credentials) : Deployment :=
  { d with keys := d.keys.insert id c }

/-- Removes the credentials of a device. -/
def removeKey (d : Deployment) (id : Identity) : Deployment :=
  { d with keys := d.keys.erase id }

/-- Opens a session. -/
def openSession (d : Deployment) (id : Identity) : Except CollaboratorError Deployment := do
  let (sessions, seen) ← d.sessions.openTo d.keys id
  return { d with sessions := sessions }.note seen

/-- Closes a session. -/
def closeSession (d : Deployment) (id : Identity) (force : Bool) : Deployment :=
  let (sessions, seen) := d.sessions.closeTo id force
  { d with sessions := sessions }.note seen

/-- Takes note of an accepted role. -/
def acceptRole (d : Deployment) (id : Identity) (requested accepted : Role) : Deployment :=
  { d with mastership := d.mastership.accept id accepted }.say (.roleReported id requested accepted)

/-- Lets every answer go that is held back. -/
def release (d : Deployment) : Deployment := { d with released := d.held }

/-- What is known of a device. -/
def find? (d : Deployment) (id : Identity) : Option FoundDevice :=
  (d.store.get? id).map fun known => ⟨known.description, (d.drivers.get? id).getD ∅⟩

/-! ## Actions -/

/-- A call that breaks down or is answered. -/
def call {α : Type} (d : Deployment) (c : Call) (point : FaultPoint)
    (effect : Deployment → α × Deployment) : Option α × Deployment :=
  match (d.note [.called c]).draw point with
  | (some .crash, d) => (none, d)
  | (_, d) =>
    let (answer, d) := effect d
    (some answer, d)

/-- A call that breaks down, is refused or takes effect. -/
def attempt (d : Deployment) (c : Call) (point : FaultPoint)
    (effect : Deployment → Except CollaboratorError Deployment) :
    Option (Except CollaboratorError Unit) × Deployment :=
  match (d.note [.called c]).draw point with
  | (some .crash, d) => (none, d)
  | (some (.refuse e), d) => (some (.error e), d)
  | (_, d) =>
    match effect d with
    | .ok d => (some (.ok ()), d)
    | .error e => (some (.error e), d)

/-- A look at a system, which breaks down or is answered. -/
def look {α : Type} (d : Deployment) (point : FaultPoint) (answer : Option Fault → α) :
    Option α × Deployment :=
  match d.draw point with
  | (some .crash, d) => (none, d)
  | (fault, d) => (some (answer fault), d)

/-- An inquiry that a driver answers. -/
def inquire {α : Type} (d : Deployment) (c : Call) (reply : Reply α) :
    Option (Except DiscoveryError α) × Deployment :=
  let d := d.note [.called c]
  match reply with
  | .answer a => (some (.ok a), d)
  | .failure e => (some (.error e), d)
  | .crash => (none, d)

/-- The call that a write to the store makes, and where it can go wrong. -/
def storeCall : StoreWrite → Call × FaultPoint
  | .connect id d => (.deviceConnected id d, .deviceConnected id)
  | .disconnect id => (.deviceDisconnected id, .deviceDisconnected id)
  | .ports id ports => (.updatePorts id ports, .updatePorts id)
  | .statistics id statistics => (.updateStatistics id statistics, .updateStatistics id)

/-- Whether the action can be done now: nothing but a held answer has to be waited for. -/
def isReady (d : Deployment) : Action → Bool
  | .receiveDevices (some ticket) _ => decide (ticket < d.released)
  | _ => true

/-- What an action answers, or `none` if it breaks down, and what it does. -/
def perform (d : Deployment) : (a : Action) → Option a.Answer × Deployment
  | .log l => (some (), d.say l)
  | .isActive => (some d.active, d)
  | .setActive active => (some (), { d with active := active })
  | .readRecord id => (some (d.records.read id), d)
  | .changeRecord id c =>
    let records := d.records.change id c
    (some (records.read id), { d with records := records })
  | .markDesired desired => (some (), { d with records := d.records.markDesired desired })
  | .prune => (some d.records.prunable, { d with records := d.records.prune })
  | .registered => (some d.records.registered, d)
  | .requestDevices appId =>
    match (d.note [.called (.desiredDevices appId)]).draw .desiredDevices with
    | (some .crash, d) => (none, d)
    | (some .hold, d) => (some (some d.held), { d with held := d.held + 1 })
    | (_, d) => (some none, d)
  | .receiveDevices _ appId => (some (d.config.desiredDevices appId), d)
  | .probe id => d.call (.probe id) (.probe id) fun d => (d.reachable.contains id, d)
  | .storeKey id c =>
    d.attempt (.storeKey id c) (.storeKey id) fun d => .ok (d.storeKey id c)
  | .removeKey id => d.attempt (.removeKey id) (.removeKey id) fun d => .ok (d.removeKey id)
  | .openSession id => d.attempt (.openSession id) (.openSession id) (·.openSession id)
  | .closeSession id force =>
    d.attempt (.closeSession id force) (.closeSession id) fun d => .ok (d.closeSession id force)
  | .writeStore w => d.attempt (storeCall w).1 (storeCall w).2 (·.writeStore w)
  | .lookUp id =>
    d.look (.lookUp id) fun fault => if fault = some .absent then none else d.find? id
  | .isAvailable id => d.look (.isAvailable id) fun _ => d.store.isAvailable id
  | .isLocalMaster id => d.look (.isLocalMaster id) fun _ => d.mastership.isLocalMaster id
  | .masterOf id => d.look (.masterOf id) fun _ => d.mastership.masterOf id
  | .reportRole id requested accepted =>
    d.call (.reportRole id requested accepted) (.reportRole id)
      fun d => ((), d.acceptRole id requested accepted)
  | .discoverDetails id reply => d.inquire (.discoverDetails id) reply
  | .discoverPortDetails id reply => d.inquire (.discoverPortDetails id) reply
  | .listPorts id reply => d.inquire (.listPorts id) reply
  | .discoverStatistics id reply => d.inquire (.discoverStatistics id) reply

end Deployment

/-! ## Jobs -/

/-- How far a job has come. -/
inductive Progress (α : Type)
  | done (a : α)
  | crashed
  /-- An answer is held back; the job goes on once it is released. -/
  | waiting (rest : Job α)

namespace Progress

variable {α : Type}

/-- What is left of a job that waits. -/
def rest? : Progress α → Option (Job α)
  | waiting rest => some rest
  | done _ | crashed => none

/-- Whether nothing is left of the job. -/
def isEnded (p : Progress α) : Bool := p.rest?.isNone

end Progress

namespace Job

variable {α : Type}

/-- The ticket of the answer that the job waits for first. -/
def ticket? : Job α → Option Nat
  | act (.receiveDevices ticket _) _ => ticket
  | _ => none

/-- Whether the job can go on: it does not wait for an answer that is still held back. -/
def isReady : Job α → Deployment → Bool
  | act a _, d => d.isReady a
  | done _, _ | crashed, _ => true

/-- Runs a job until it ends or has to wait. -/
def run : Job α → Deployment → Progress α × Deployment
  | done a, d => (.done a, d)
  | crashed, d => (.crashed, d)
  | act a next, d =>
    if d.isReady a then
      let (reply, d) := d.perform a
      run (next reply) d
    else (.waiting (act a next), d)

theorem run_act (a : Action) (next : Option a.Answer → Job α) (d : Deployment)
    (ready : d.isReady a = true) :
    (act a next).run d = (next (d.perform a).1).run (d.perform a).2 := by
  simp [run, ready]

/-- A job and what follows it run one after the other. -/
theorem run_bind {β : Type} (j : Job α) (f : α → Job β) (d : Deployment) :
    (bind j f).run d =
      match j.run d with
      | (.done a, d) => (f a).run d
      | (.crashed, d) => (.crashed, d)
      | (.waiting rest, d) => (.waiting (bind rest f), d) := by
  induction j generalizing d with
  | done => rfl
  | crashed => rfl
  | act a next ih =>
    simp only [act_bind, run]
    split
    · exact ih _ _
    · rfl

/-- A contained job does what the job does, and never breaks down. -/
theorem run_contained (j : Job α) (d : Deployment) :
    j.contained.run d =
      match j.run d with
      | (.done a, d) => (.done (some a), d)
      | (.crashed, d) => (.done none, d)
      | (.waiting rest, d) => (.waiting rest.contained, d) := by
  induction j generalizing d with
  | done => rfl
  | crashed => rfl
  | act a next ih =>
    simp only [contained, run]
    split
    · exact ih _ _
    · rfl

end Job

end Southbound
