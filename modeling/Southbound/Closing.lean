import Southbound.Crew

/-!
# A provider that is being stopped

`Provider.shutdown` lets each pool do all its work in one go.  Real workers are at work while the
shutdown is under way: the event pool drains while role changes are carried out beside it, and the
devices are torn down while role changes may still be under way, because the connection pool is
drained last.

A `Closing` is a provider between its last command and the end of its shutdown.  Workers of both
pools and the shutdown take turns between any two actions, as a list of moves says; whatever order
the devices are listed in for the teardown is one of the moves as well.  Every interleaving is a
list of moves, and every list of moves that can be made is an interleaving (`Closing.play`).

A worker whose order broke down is free at once and says so later; how much later is left open.
-/

namespace Southbound

/-- The pools of the provider. -/
inductive Branch
  /-- Passes and reactions to events. -/
  | events
  /-- Role changes. -/
  | connections
deriving DecidableEq

/-- Who does something. -/
inductive Party
  | worker (b : Branch)
  | shutdown
deriving DecidableEq

/-- An action that was done. -/
structure Deed where
  party : Party
  /-- The deployment as it was just before. -/
  before : Deployment
  action : Action

/-- How far a shutdown has come. -/
inductive Stage
  /-- It was not called. -/
  | serving
  /-- The event pool finishes. -/
  | draining
  /-- The devices are torn down one after the other. -/
  | tearing (rest : Job Unit)
  /-- The connection pool finishes. -/
  | finishing
  /-- It returned. -/
  | stopped

/-- A provider and its shutdown. -/
structure Closing where
  provider : Provider
  stage : Stage
  /-- What workers have to say about orders that broke down, the oldest first. -/
  unsaid : List LogLine
  /-- What was done so far, the oldest first. -/
  deeds : List Deed

namespace Closing

/-- What can happen next. -/
inductive Move
  /-- A free worker takes the oldest order. -/
  | take (b : Branch)
  /-- The worker in a place does the next action of its order. -/
  | go (b : Branch) (place : Nat)
  /-- The worker in a place is done with its order. -/
  | leave (b : Branch) (place : Nat)
  /-- A worker says how its order broke down. -/
  | say
  /-- The shutdown is called. -/
  | begin
  /-- The event pool is finished, and the devices to be torn down are listed. -/
  | list (ids : List Identity)
  /-- The shutdown does the next action of the teardown. -/
  | tear
  /-- The devices are torn down. -/
  | finish
  /-- The connection pool is finished, and the shutdown returns. -/
  | stop
deriving DecidableEq

variable (c : Closing)

/-- What the parties work on. -/
def deployment : Deployment := c.provider.deployment

/-- A pool of the provider. -/
def pool : Branch → Pool Assignment
  | .events => c.provider.events
  | .connections => c.provider.connections

/-! ## Workers -/

/-- The workers of a pool. -/
def crew (b : Branch) : Crew := ⟨c.pool b, c.deployment, []⟩

/-- The provider with another pool. -/
def withPool (b : Branch) (pool : Pool Assignment) : Closing :=
  match b with
  | .events => { c with provider := { c.provider with events := pool } }
  | .connections => { c with provider := { c.provider with connections := pool } }

/-- Says something. -/
def speak (lines : List LogLine) : Closing := { c with provider := c.provider.say lines }

/-- Takes over what the workers of a pool did. -/
def after (b : Branch) (crew : Crew) : Closing :=
  let c' := c.withPool b crew.pool
  { c' with
    provider := { c'.provider with deployment := crew.deployment }
    deeds := c.deeds ++ crew.deeds.map (⟨.worker b, c.deployment, ·⟩) }

/-- A worker is done with its order; if the order broke down there is something to say. -/
def leave (b : Branch) (place : Nat) : Option Closing :=
  match (c.pool b).running[place]? with
  | some ⟨_, .done _⟩ => some (c.withPool b ((c.pool b).finish place))
  | some ⟨order, .crashed⟩ =>
    some { c.withPool b ((c.pool b).finish place) with
      unsaid := c.unsaid ++ [.jobFailed (c.pool b).name order.label] }
  | _ => none

/-- A worker says how its order broke down. -/
def say : Option Closing :=
  match c.unsaid with
  | [] => none
  | l :: rest => some { c.speak [l] with unsaid := rest }

/-! ## The shutdown -/

/-- Role changes are refused, schedules and listeners stop, and the event pool is closed. -/
def begin : Option Closing :=
  match c.stage with
  | .serving =>
    let p := c.provider
    let p := { p with deployment := { p.deployment with active := false } }
    let p := p.dropSchedules.dropListeners
    some { c with provider := { p with events := p.events.close }, stage := .draining }
  | _ => none

/-- The shutdown does an action. -/
def act (a : Action) : Closing :=
  { c with
    provider := { c.provider with deployment := (c.deployment.perform a).2 }
    deeds := c.deeds ++ [⟨.shutdown, c.deployment, a⟩] }

/-- The event pool is finished, and the devices to be torn down are listed in some order. -/
def list (ids : List Identity) : Option Closing :=
  match c.stage with
  | .draining =>
    if c.provider.events.isIdle && ids.isPerm c.deployment.records.registered then
      let c' := (c.speak [.poolStopped c.provider.events.name]).act .registered
      some { c' with stage := .tearing (Connection.tearDownEach ids) }
    else none
  | _ => none

/-- The shutdown does the next action of the teardown. -/
def tear : Option Closing :=
  match c.stage with
  | .tearing (.act a next) =>
    if c.deployment.isReady a then
      some { c.act a with stage := .tearing (next (c.deployment.perform a).1) }
    else none
  | _ => none

/-- The devices are torn down, and the connection pool is closed. -/
def finish : Option Closing :=
  match c.stage with
  | .tearing (.done ()) =>
    let p := c.provider
    some { c with
      provider := { p with connections := p.connections.close }
      stage := .finishing }
  | _ => none

/-- The connection pool is finished, and the shutdown returns. -/
def stop : Option Closing :=
  match c.stage with
  | .finishing =>
    if c.provider.connections.isIdle then
      some { c.speak [.poolStopped c.provider.connections.name, .providerStopped] with
        stage := .stopped }
    else none
  | _ => none

/-! ## Interleavings -/

/-- A move, if it can be made. -/
def move : Move → Option Closing
  | .take b => (c.crew b).take.map (c.after b)
  | .go b place => ((c.crew b).go place).map (c.after b)
  | .leave b place => c.leave b place
  | .say => c.say
  | .begin => c.begin
  | .list ids => c.list ids
  | .tear => c.tear
  | .finish => c.finish
  | .stop => c.stop

/-- One move after the other, if they can be made. -/
def play (c : Closing) : List Move → Option Closing
  | [] => some c
  | m :: rest => (c.move m).bind (·.play rest)

end Closing

/-- The provider before its shutdown is called. -/
def Provider.closing (p : Provider) : Closing := ⟨p, .serving, [], []⟩

end Southbound
