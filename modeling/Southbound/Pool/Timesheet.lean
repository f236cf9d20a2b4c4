import Southbound.Pool.Timeline
import Southbound.Pool.Workforce

/-!
# Workers on the clock

A `Timesheet` is a workforce with a clock, and the notes of when jobs started and ended.  A job
takes exactly as long as it says, and breaks down, if at all, at its end.  Nobody hesitates: the
clock moves on only when neither a worker nor a shutdown can do anything (`Timesheet.isQuiet`), so
only while jobs are in progress or nothing is left to do.

A `Beat` is what can happen next: a move of the workforce, or that a millisecond goes by.
-/

namespace Southbound

/-- A job that was given to a pool. -/
structure Submission where
  /-- How many jobs were given to the pool before it. -/
  number : Nat
  /-- When it was given to the pool. -/
  time : Nat
  job : TimedJob
deriving DecidableEq

/-- Everything that a worker can do. -/
def Worker.Deed.all : List Worker.Deed :=
  [.listen, .receive, .start, .finish false, .finish true, .notice, .quit]

/-- A workforce with a clock. -/
structure Timesheet where
  force : Workforce Submission
  clock : Nat
  /-- Which jobs started and when, the oldest first. -/
  begun : List (Submission × Nat)
  /-- Which jobs ended or broke down and when, the oldest first. -/
  finished : List (Submission × Nat)
  /-- When the calls of the shutdown came. -/
  calls : List Nat
deriving DecidableEq

/-- What can happen next. -/
inductive Beat
  | act (m : Workforce.Move Submission)
  /-- A millisecond goes by. -/
  | tick
deriving DecidableEq

namespace Timesheet

/-- A pool to which nothing was given, when the clock starts. -/
def ofSize (name : String) (n : Nat) : Timesheet where
  force := .ofSize name n
  clock := 0
  begun := []
  finished := []
  calls := []

variable (s : Timesheet)

/-- Whether a job that started has taken its time. -/
def isDue (t : Submission) : Bool :=
  s.begun.any fun (started, time) => started == t && time + t.job.duration == s.clock

/-- Whether the clock admits the move: a job is submitted now, and ends when it is due, as it was
going to. -/
def admits : Workforce.Move Submission → Bool
  | .submit t => t.number == s.force.submitted.length && t.time == s.clock
  | .work place (.finish failed) => match s.force.workers[place]? with
    | some (.serving t) => failed == t.job.failing && s.isDue t
    | _ => false
  | _ => true

/-- The workforce went on, and what is new is noted. -/
def note (force : Workforce Submission) : Timesheet where
  force := force
  clock := s.clock
  begun := s.begun ++ (force.started.drop s.force.started.length).map (·, s.clock)
  finished := s.finished ++ (force.ended.drop s.force.ended.length).map (·, s.clock)
  calls := s.calls ++ (force.farewells.drop s.force.farewells.length).map fun _ => s.clock

/-- A move of the workforce, if it can be made now. -/
def go (m : Workforce.Move Submission) : Option Timesheet :=
  if s.admits m then (s.force.move (·.job.label) m).map s.note else none

/-- The moves that workers and shutdowns could think of. -/
def turns : List (Workforce.Move Submission) :=
  (List.range s.force.workers.length).flatMap (fun place => Worker.Deed.all.map (.work place)) ++
    (List.range s.force.farewells.length).flatMap fun call => [.claim call, .leave call]

/-- Whether neither a worker nor a shutdown can do anything now. -/
def isQuiet : Bool := s.turns.all fun m => (s.go m).isNone

/-- What happens next, if it can. -/
def beat : Beat → Option Timesheet
  | .act m => s.go m
  | .tick => if s.isQuiet then some { s with clock := s.clock + 1 } else none

/-- One thing after the other, if they can happen. -/
def play (s : Timesheet) : List Beat → Option Timesheet
  | [] => some s
  | b :: rest => (s.beat b).bind (·.play rest)

end Timesheet

namespace Timeline

/-- When the accepted jobs run, in the order in which they were accepted. -/
def spans (line : Timeline) : List Span := line.jobs.filterMap (·.2)

/-- Waits until the job is submitted, and submits it. -/
def enter (line : Timeline) (t : Submission) : Timeline :=
  (line.advance (t.time - line.clock)).submit t.job

end Timeline

/-- The timeline of the jobs that were accepted. -/
def Timesheet.line (s : Timesheet) (n : Nat) : Timeline :=
  s.force.accepted.foldl Timeline.enter (.ofSize s.force.name n)

end Southbound
