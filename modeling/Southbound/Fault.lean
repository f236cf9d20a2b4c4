import Southbound.Call

/-!
# Faults

Any call to the systems around the provider can go wrong.  `Faults` says for every point where one
can what happens the next times: a finite script, one entry per call, and what holds when the script
has run out.  Every pattern of refusals and breakdowns is such a plan; the plan without faults is
`Faults.none`.
-/

namespace Southbound

/-- How a call goes wrong. -/
inductive Fault
  /-- The system refuses. -/
  | refuse (e : CollaboratorError)
  /-- The system breaks down in the call. -/
  | crash
  /-- A device that is there is not found. -/
  | absent
  /-- The answer is held back. -/
  | hold
deriving DecidableEq

/-- Where a call can go wrong; drivers have their own ways to fail. -/
inductive FaultPoint
  | desiredDevices
  | probe (id : Identity)
  | storeKey (id : Identity)
  | removeKey (id : Identity)
  | openSession (id : Identity)
  | closeSession (id : Identity)
  | deviceConnected (id : Identity)
  | deviceDisconnected (id : Identity)
  | updatePorts (id : Identity)
  | updateStatistics (id : Identity)
  | reportRole (id : Identity)
  | lookUp (id : Identity)
  | isAvailable (id : Identity)
  | isLocalMaster (id : Identity)
  | masterOf (id : Identity)
deriving DecidableEq

/-- What happens at one point from now on. -/
structure FaultPlan where
  /-- What happens the next times. -/
  script : List (Option Fault)
  /-- What happens when the script has run out. -/
  rest : Option Fault

namespace FaultPlan

/-- Nothing goes wrong. -/
def none : FaultPlan := ⟨[], Option.none⟩

/-- Goes wrong the same way every time, or so many times, after so many times that go well. -/
def repeated (fault : Fault) (times : Option Nat) (after : Nat) : FaultPlan :=
  let wait := List.replicate after Option.none
  match times with
  | some n => ⟨wait ++ List.replicate n (some fault), Option.none⟩
  | Option.none => ⟨wait, some fault⟩

/-- What happens now, and the plan from then on. -/
def next : FaultPlan → Option Fault × FaultPlan
  | ⟨[], rest⟩ => (rest, ⟨[], rest⟩)
  | ⟨now :: later, rest⟩ => (now, ⟨later, rest⟩)

end FaultPlan

/-- What happens at every point. -/
abbrev Faults := FaultPoint → FaultPlan

namespace Faults

/-- Nothing goes wrong anywhere. -/
def none : Faults := fun _ => .none

/-- Replaces the plan of one point. -/
def plan (f : Faults) (point : FaultPoint) (p : FaultPlan) : Faults :=
  fun point' => if point' = point then p else f point'

end Faults

end Southbound
