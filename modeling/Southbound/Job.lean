import Southbound.Capability
import Southbound.Config.Source
import Southbound.DeviceStore
import Southbound.Log
import Southbound.Record

/-!
# Jobs

What the provider does is written as jobs.  A `Job` is a tree of actions: each action is one step
that nothing else can interrupt (a call to a system around the provider, a look at a record, a
change of one), and the rest of the job depends on what came back.  Jobs that run at the same time
take turns action by action, so every interleaving of two jobs is a path through both trees.

An action answers or breaks down.  A breakdown ends the job, unless a part of it is contained
(`Job.contained`), in which case only that part ends.
-/

namespace Southbound

/-! ## Actions -/

/-- A device that was looked up: how it was described last, and the driver that speaks to it. -/
structure FoundDevice where
  description : Description
  driver : Driver

/-- One step of a job. -/
inductive Action
  -- the provider itself
  | log (l : LogLine)
  | isActive
  | setActive (active : Bool)
  | readRecord (id : Identity)
  | changeRecord (id : Identity) (c : RecordChange)
  | markDesired (desired : List Identity)
  | prune
  | registered
  -- configuration
  /-- Asks for the desired devices; the answer is a ticket if it is held back. -/
  | requestDevices (appId : String)
  /-- Takes the desired devices, once the ticket is released. -/
  | receiveDevices (ticket : Option Nat) (appId : String)
  -- reachability
  | probe (id : Identity)
  -- credentials and sessions
  | storeKey (id : Identity) (c : Credentials)
  | removeKey (id : Identity)
  | openSession (id : Identity)
  | closeSession (id : Identity) (force : Bool)
  -- the device store
  | writeStore (w : StoreWrite)
  | lookUp (id : Identity)
  | isAvailable (id : Identity)
  -- mastership
  | isLocalMaster (id : Identity)
  | masterOf (id : Identity)
  | reportRole (id : Identity) (requested accepted : Role)
  -- the driver of a device that was looked up
  | discoverDetails (id : Identity) (reply : Reply (Option Description))
  | discoverPortDetails (id : Identity) (reply : Reply (List Port))
  | listPorts (id : Identity) (reply : Reply (List Port))
  | discoverStatistics (id : Identity) (reply : Reply (List PortStatistics))

namespace Action

/-- What comes back from an action that does not break down. -/
@[reducible] def Answer : Action → Type
  | log _ | setActive _ | markDesired _ | reportRole _ _ _ => Unit
  | isActive | probe _ | isAvailable _ | isLocalMaster _ => Bool
  | readRecord _ | changeRecord _ _ => DeviceRecord
  | prune | registered => List Identity
  | requestDevices _ => Option Nat
  | receiveDevices _ _ => Except ConfigReadError (List DesiredDevice)
  | storeKey _ _ | removeKey _ | openSession _ | closeSession _ _ | writeStore _ =>
    Except CollaboratorError Unit
  | lookUp _ => Option FoundDevice
  | masterOf _ => Option NodeId
  | discoverDetails _ _ => Except DiscoveryError (Option Description)
  | discoverPortDetails _ _ | listPorts _ _ => Except DiscoveryError (List Port)
  | discoverStatistics _ _ => Except DiscoveryError (List PortStatistics)

end Action

/-! ## Jobs -/

/-- A tree of actions. -/
inductive Job (α : Type) : Type
  /-- The job ends with a result. -/
  | done (a : α)
  /-- The job breaks down. -/
  | crashed
  /-- An action, and how the job goes on with its answer, or with `none` if it breaks down. -/
  | act (a : Action) (next : Option a.Answer → Job α)

namespace Job

variable {α β : Type}

/-- One job, and another that goes on with its result. -/
def bind : Job α → (α → Job β) → Job β
  | done a, f => f a
  | crashed, _ => crashed
  | act a next, f => act a fun reply => bind (next reply) f

instance : Monad Job where
  pure := done
  bind := bind

/-- A job that ends in any case, with `none` where the job breaks down. -/
def contained : Job α → Job (Option α)
  | done a => done (some a)
  | crashed => done none
  | act a next => act a fun reply => contained (next reply)

/-- The action alone. -/
def ofAction (a : Action) : Job a.Answer :=
  act a fun
    | some answer => done answer
    | none => crashed

@[simp] theorem pure_eq (a : α) : (pure a : Job α) = done a := rfl

@[simp] theorem bind_eq (j : Job α) (f : α → Job β) : j >>= f = bind j f := rfl

@[simp] theorem done_bind (a : α) (f : α → Job β) : bind (done a) f = f a := rfl

@[simp] theorem crashed_bind (f : α → Job β) : bind crashed f = crashed := rfl

@[simp] theorem act_bind (a : Action) (next : Option a.Answer → Job α) (f : α → Job β) :
    bind (act a next) f = act a fun reply => bind (next reply) f := rfl

@[simp] theorem bind_done (j : Job α) : bind j done = j := by
  induction j with
  | done => rfl
  | crashed => rfl
  | act a next ih => simp [ih]

theorem bind_assoc {γ : Type} (j : Job α) (f : α → Job β) (g : β → Job γ) :
    bind (bind j f) g = bind j fun a => bind (f a) g := by
  induction j with
  | done => rfl
  | crashed => rfl
  | act a next ih => simp [ih]

instance : LawfulMonad Job := LawfulMonad.mk' Job bind_done (fun _ _ => rfl) bind_assoc

/-! ## Single actions -/

/-- Tells the operator. -/
def log (l : LogLine) : Job Unit := ofAction (.log l)

/-- Whether role changes are accepted. -/
def isActive : Job Bool := ofAction .isActive

/-- Accepts role changes, or no longer. -/
def setActive (active : Bool) : Job Unit := ofAction (.setActive active)

/-- The record of a device. -/
def readRecord (id : Identity) : Job DeviceRecord := ofAction (.readRecord id)

/-- Changes the record of a device and gives it back. -/
def changeRecord (id : Identity) (c : RecordChange) : Job DeviceRecord :=
  ofAction (.changeRecord id c)

/-- Notes for every record whether its device is desired. -/
def markDesired (desired : List Identity) : Job Unit := ofAction (.markDesired desired)

/-- Drops the records that are neither desired nor live, and tells which. -/
def prune : Job (List Identity) := ofAction .prune

/-- The devices whose credentials reached the credential store. -/
def registered : Job (List Identity) := ofAction .registered

/-- The desired devices of an application, when they are given out. -/
def desiredDevices (appId : String) : Job (Except ConfigReadError (List DesiredDevice)) := do
  let ticket : Option Nat ← ofAction (.requestDevices appId)
  ofAction (.receiveDevices ticket appId)

/-- Whether a device answers. -/
def probe (id : Identity) : Job Bool := ofAction (.probe id)

/-- Stores credentials. -/
def storeKey (id : Identity) (c : Credentials) : Job (Except CollaboratorError Unit) :=
  ofAction (.storeKey id c)

/-- Removes the credentials of a device. -/
def removeKey (id : Identity) : Job (Except CollaboratorError Unit) := ofAction (.removeKey id)

/-- Opens a session. -/
def openSession (id : Identity) : Job (Except CollaboratorError Unit) :=
  ofAction (.openSession id)

/-- Closes a session, with or without ceremony. -/
def closeSession (id : Identity) (force : Bool) : Job (Except CollaboratorError Unit) :=
  ofAction (.closeSession id force)

/-- Writes to the device store. -/
def writeStore (w : StoreWrite) : Job (Except CollaboratorError Unit) := ofAction (.writeStore w)

/-- What the device store and the driver registry know of a device. -/
def lookUp (id : Identity) : Job (Option FoundDevice) := ofAction (.lookUp id)

/-- Whether the device store shows a device available. -/
def isAvailable (id : Identity) : Job Bool := ofAction (.isAvailable id)

/-- Whether this node masters a device. -/
def isLocalMaster (id : Identity) : Job Bool := ofAction (.isLocalMaster id)

/-- The node that masters a device. -/
def masterOf (id : Identity) : Job (Option NodeId) := ofAction (.masterOf id)

/-- Tells the mastership service what became of a role change. -/
def reportRole (id : Identity) (requested accepted : Role) : Job Unit :=
  ofAction (.reportRole id requested accepted)

/-- Asks a driver to describe its device. -/
def discoverDetails (id : Identity) (reply : Reply (Option Description)) :
    Job (Except DiscoveryError (Option Description)) :=
  ofAction (.discoverDetails id reply)

/-- Asks a driver that describes its device for the ports. -/
def discoverPortDetails (id : Identity) (reply : Reply (List Port)) :
    Job (Except DiscoveryError (List Port)) :=
  ofAction (.discoverPortDetails id reply)

/-- Asks a driver that only knows ports for them. -/
def listPorts (id : Identity) (reply : Reply (List Port)) :
    Job (Except DiscoveryError (List Port)) :=
  ofAction (.listPorts id reply)

/-- Asks a driver for the counters of the ports. -/
def discoverStatistics (id : Identity) (reply : Reply (List PortStatistics)) :
    Job (Except DiscoveryError (List PortStatistics)) :=
  ofAction (.discoverStatistics id reply)

end Job

end Southbound
