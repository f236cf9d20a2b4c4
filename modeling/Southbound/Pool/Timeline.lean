import Southbound.Log

/-!
# When jobs run

Where it is known how long jobs take, a pool has a timeline: when each job starts and ends.  A job
is taken by the worker that is free first, and starts when that worker is free, but not before it
was submitted.  A job that breaks down does so at its end, so breakdowns move nothing.

The clock counts milliseconds and moves only when somebody waits.
-/

namespace Southbound

/-- A job of known duration. -/
structure TimedJob where
  label : String
  duration : Nat
  /-- Whether the job breaks down at its end. -/
  failing : Bool
deriving DecidableEq

/-- When a job runs. -/
structure Span where
  start : Nat
  stop : Nat
deriving DecidableEq

/-- The jobs of a pool in time. -/
structure Timeline where
  name : String
  clock : Nat
  accepting : Bool
  /-- For each worker the time from which on it is free. -/
  freeAt : List Nat
  /-- The submitted jobs in order, and when they run; a job that was refused does not run. -/
  jobs : List (TimedJob × Option Span)
  /-- What the operator is told about the pool itself. -/
  lines : List LogLine
deriving DecidableEq

namespace Timeline

/-- Nothing was submitted yet; there is at least one worker. -/
def ofSize (name : String) (workers : Nat) : Timeline :=
  ⟨name, 0, true, List.replicate (max workers 1) 0, [], []⟩

/-- The number of workers. -/
def size (t : Timeline) : Nat := t.freeAt.length

/-- When the first worker is free. -/
def firstFree (t : Timeline) : Nat := t.freeAt.min?.getD 0

/-- When the last worker is free. -/
def lastFree (t : Timeline) : Nat := t.freeAt.max?.getD 0

/-- Submits a job, which the first free worker will take. -/
def submit (t : Timeline) (job : TimedJob) : Timeline :=
  if t.accepting then
    let start := max t.clock t.firstFree
    let stop := start + job.duration
    { t with
      freeAt := t.freeAt.erase t.firstFree ++ [stop]
      jobs := t.jobs ++ [(job, some ⟨start, stop⟩)] }
  else
    { t with
      jobs := t.jobs ++ [(job, none)]
      lines := t.lines ++ [.jobDropped t.name job.label] }

/-- Waits. -/
def advance (t : Timeline) (duration : Nat) : Timeline :=
  { t with clock := t.clock + duration }

/-- Accepts nothing more and waits until all jobs have ended. -/
def shutdown (t : Timeline) : Timeline :=
  { t with
    accepting := false
    clock := max t.clock t.lastFree
    lines := t.lines ++ [.poolStopped t.name] }

/-- What the operator is told about jobs that break down. -/
def failures (t : Timeline) : List LogLine :=
  t.jobs.filterMap fun (job, span) =>
    if job.failing ∧ span.isSome then some (.jobFailed t.name job.label) else none

end Timeline

end Southbound
