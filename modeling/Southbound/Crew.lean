import Southbound.Provider

/-!
# Workers that take turns at any time

In a `Shift` a worker that got to work goes on as long as it can.  The workers of a real pool may
take turns between any two actions.  A `Crew` is the workers of a pool at work on a deployment, with
all that they did so far, and a `Move` is what can happen next: a free worker takes the oldest
order, a worker does one action, or a worker is done with its order.

Every interleaving of the orders is a list of moves, and every list of moves that can be made is an
interleaving (`Crew.play`).
-/

namespace Southbound

/-- What the workers of a pool can do next. -/
inductive Move
  /-- A free worker takes the oldest order. -/
  | take
  /-- The worker in a place does the next action of its order. -/
  | go (place : Nat)
  /-- The worker in a place is done with its order. -/
  | leave (place : Nat)
deriving DecidableEq

/-- The workers of a pool at work. -/
structure Crew where
  pool : Pool Assignment
  deployment : Deployment
  /-- What the workers did, oldest first. -/
  deeds : List Action

namespace Crew

/-- A free worker takes the oldest order. -/
def take (c : Crew) : Option Crew :=
  match c.pool.start? with
  | some (_, pool) => some { c with pool := pool }
  | none => none

/-- The worker in a place does the next action of its order, if it does not have to wait. -/
def go (c : Crew) (place : Nat) : Option Crew :=
  match c.pool.running[place]? with
  | some ⟨order, .act a next⟩ =>
    if c.deployment.isReady a then
      let (reply, d) := c.deployment.perform a
      some ⟨c.pool.update place ⟨order, next reply⟩, d, c.deeds ++ [a]⟩
    else none
  | _ => none

/-- The worker in a place is done with its order, and says if the order broke down. -/
def leave (c : Crew) (place : Nat) : Option Crew :=
  match c.pool.running[place]? with
  | some ⟨_, .done _⟩ => some { c with pool := c.pool.finish place }
  | some ⟨order, .crashed⟩ =>
    some { c with
      pool := c.pool.finish place
      deployment := c.deployment.say (.jobFailed c.pool.name order.label) }
  | _ => none

/-- A move, if it can be made. -/
def move (c : Crew) : Move → Option Crew
  | .take => c.take
  | .go place => c.go place
  | .leave place => c.leave place

/-- One move after the other, if they can be made. -/
def play (c : Crew) : List Move → Option Crew
  | [] => some c
  | m :: rest => (c.move m).bind (·.play rest)

end Crew

/-- The workers of the connection pool. -/
def Provider.connectionCrew (p : Provider) : Crew := ⟨p.connections, p.deployment, []⟩

end Southbound
