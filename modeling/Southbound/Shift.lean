import Southbound.Deployment
import Southbound.Order
import Southbound.Pool
import Southbound.Schedule

/-!
# Shifts

A shift is the workers of one pool at work on a deployment, beside the schedules of passes.  Only
one of them does something at a time: they take turns, and whoever gets something to do has the turn
after all who are waiting for theirs (`Shift.step`).

Workers with nothing to do stand in line at the queue.  The first in line takes the oldest order and
leaves the queue to the next one, so orders are carried out first come, first served.  A worker
whose order ended goes to the end of the line, and first says if the order broke down; by then
another worker may have got further.  An order that waits for an answer keeps its worker, and a pass
that waits keeps its schedule.

`Shift.work` takes turns as long as anybody has one; `Shift.load` says how many that can be.
-/

namespace Southbound

/-- What a worker has to do: an order, and what is left of its job. -/
structure Assignment where
  order : Order
  rest : Job (Except RoleError Unit)

namespace Order

/-- The order, with its whole job left to do. -/
def assignment (s : Settings) (o : Order) : Assignment := ⟨o, o.job s⟩

end Order

/-- Something that somebody is about to do. -/
inductive Turn
  /-- The first in line looks into the queue. -/
  | serve
  /-- The oldest order that can go on goes on. -/
  | order
  /-- A worker says how its order broke down, if it did, and goes to the end of the line. -/
  | lineUp (line : Option LogLine)
  /-- A schedule says how its pass broke down, if it did, and starts the next one if that is due. -/
  | tick (place : Nat) (line : Option LogLine)
  /-- The pass of a schedule goes on. -/
  | pass (place : Nat)
deriving DecidableEq

/-- The workers of a pool and the schedules at work. -/
structure Shift where
  settings : Settings
  now : Nat
  deployment : Deployment
  pool : Pool Assignment
  /-- How many workers stand in line at the queue. -/
  line : Nat
  schedules : List Schedule
  /-- The turns to come, the next one first. -/
  turns : List Turn
  /-- The orders that ended, and what each reported; `none` if it broke down. -/
  results : List (Order × Option (Except RoleError Unit))

namespace Shift

/-- Whoever can do something by itself: the first in line, if there is an order, and the schedules
whose passes are due, in the order of their dates. -/
def firstTurns (now : Nat) (pool : Pool Assignment) (schedules : List Schedule) : List Turn :=
  let due := schedules.zipIdx.filter (·.1.isDue now)
  let dated := due.mergeSort fun a b => decide (a.1.ticker.due ≤ b.1.ticker.due)
  (if pool.start?.isSome then [.serve] else []) ++ dated.map fun s => .tick s.2 none

/-- The start of a shift; `turns` come before the turns of those who can do something by
themselves. -/
def begin (settings : Settings) (now : Nat) (deployment : Deployment) (pool : Pool Assignment)
    (schedules : List Schedule) (turns : List Turn) : Shift where
  settings := settings
  now := now
  deployment := deployment
  pool := pool
  line := pool.free
  schedules := schedules
  turns := turns ++ firstTurns now pool schedules
  results := []

/-- Gives somebody a turn, after all others. -/
def give (s : Shift) (t : Turn) : Shift := { s with turns := s.turns ++ [t] }

/-- Tells the operator. -/
def say (s : Shift) (line : Option LogLine) : Shift :=
  { s with deployment := s.deployment.sayAll line.toList }

/-! ## Workers -/

/-- The first in line takes the oldest order and leaves the queue to the next in line; if there is
no order it stays. -/
def serve (s : Shift) : Shift :=
  match s.pool.start? with
  | none => s
  | some (_, pool) =>
    let s := { s with pool := pool, line := s.line - 1 }
    (if s.line = 0 then s else s.give .serve).give .order

/-- A worker goes to the end of the line, and to the queue if nobody else stands there. -/
def lineUp (s : Shift) : Shift :=
  let s := { s with line := s.line + 1 }
  if s.line = 1 then s.serve else s

/-- The order in a place ended. -/
def finish (s : Shift) (place : Nat) (a : Assignment) (result : Option (Except RoleError Unit))
    (line : Option LogLine) : Shift :=
  { s with
    pool := s.pool.finish place
    results := s.results ++ [(a.order, result)] }.give (.lineUp line)

/-- The oldest order that can go on, and its place. -/
def ready? (s : Shift) : Option (Assignment × Nat) :=
  s.pool.running.zipIdx.find? (·.1.rest.isReady s.deployment)

/-- The oldest order that can go on goes on. -/
def carryOn (s : Shift) : Shift :=
  match s.ready? with
  | none => s
  | some (a, place) =>
    match a.rest.run s.deployment with
    | (.done r, d) => { s with deployment := d }.finish place a (some r) none
    | (.crashed, d) =>
      { s with deployment := d }.finish place a none (some (.jobFailed s.pool.name a.order.label))
    | (.waiting rest, d) =>
      { s with deployment := d, pool := s.pool.update place { a with rest := rest } }

/-! ## Schedules -/

/-- A schedule starts a pass, if one is due. -/
def tick (s : Shift) (place : Nat) : Shift :=
  match s.schedules[place]? with
  | none => s
  | some schedule =>
    if schedule.isDue s.now then
      { s with schedules := s.schedules.set place (schedule.startPass s.settings s.now) }.give
        (.pass place)
    else s

/-- What a schedule says about a pass that has come so far. -/
def verdict : Progress Unit → Option LogLine
  | .crashed => some .passFailed
  | .done () | .waiting _ => none

/-- The pass of a schedule goes on. -/
def carryOnPass (s : Shift) (place : Nat) : Shift :=
  match s.schedules[place]? with
  | none => s
  | some schedule =>
    match schedule.pass with
    | none => s
    | some pass =>
      let (progress, d) := pass.run s.deployment
      let s :=
        { s with
          deployment := d
          schedules := s.schedules.set place (schedule.withPass progress.rest?) }
      if progress.isEnded then s.give (.tick place (verdict progress)) else s

/-! ## Turns -/

/-- Somebody takes a turn. -/
def take (s : Shift) : Turn → Shift
  | .serve => s.serve
  | .order => s.carryOn
  | .lineUp line => (s.say line).lineUp
  | .tick place line => (s.say line).tick place
  | .pass place => s.carryOnPass place

/-- The next turn is taken. -/
def step (s : Shift) : Shift :=
  match s.turns with
  | [] => s
  | t :: rest => { s with turns := rest }.take t

/-! ## The end of a shift -/

/-- How many turns a turn stands for, those that follow from it included. -/
def turnLoad : Turn → Nat
  | .serve | .lineUp _ | .tick _ _ => 1
  | .order | .pass _ => 2

/-- The sum of what the entries of a list count for. -/
def total {α : Type} (count : α → Nat) : List α → Nat
  | [] => 0
  | x :: rest => count x + total count rest

/-- How many turns can at most be taken. -/
def load (s : Shift) : Nat :=
  total turnLoad s.turns + 4 * s.pool.queue.length
    + total (fun schedule => 2 * schedule.ticker.arrears s.now) s.schedules

/-- Turns are taken until nobody has anything to do. -/
def work (s : Shift) : Shift := Nat.repeat step s.load s

end Shift

end Southbound
