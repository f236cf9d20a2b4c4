import Southbound.Schedule

/-!
# A schedule on the clock

A `Rounds` is a schedule at work, with a clock and the notes of when its passes were due, started
and ended.  It does one of three things, if it can do anything (`Rounds.poll`): it stops when it is
told to, it starts a pass that is due, or it takes note of a pass that is over.  To be told to stop
comes first, and a pass that is under way then is given up.

A pass goes on whenever it gets an answer, and works until it has to wait for the next one.  It can
take any time for both, and can be given up only while it waits.

Nobody hesitates: the clock moves on only when the schedule can do nothing.
-/

namespace Southbound

/-- Whether nothing is left of the job. -/
def Job.isOver {α : Type} : Job α → Bool
  | done _ | crashed => true
  | act _ _ => false

/-- Whether the job broke down. -/
def Job.hasCrashed {α : Type} : Job α → Bool
  | crashed => true
  | done _ | act _ _ => false

/-- A pass of a schedule. -/
structure Round where
  /-- When the pass was due. -/
  tick : Nat
  start : Nat
  /-- When the pass was over; `none` if it is not, or was given up. -/
  stop : Option Nat
  /-- Whether the pass broke down. -/
  failed : Bool
deriving DecidableEq

/-- What a schedule is at. -/
inductive Rounds.Phase
  /-- The next pass is not due yet. -/
  | waiting
  /-- A pass is under way. -/
  | passing
  | stopped
deriving DecidableEq

/-- A schedule on the clock. -/
structure Rounds where
  settings : Settings
  /-- When the schedule began. -/
  began : Nat
  schedule : Schedule
  phase : Rounds.Phase
  /-- Whether the pass works, and does not wait for an answer. -/
  working : Bool
  clock : Nat
  /-- When the schedule was told to stop. -/
  signal : Option Nat
  /-- The passes so far, the latest first. -/
  rounds : List Round
  /-- What the schedule said, the oldest first. -/
  lines : List LogLine

namespace Rounds

/-- What can happen next. -/
inductive Move
  /-- The schedule does what it can. -/
  | poll
  /-- The pass gets the answer that it waits for. -/
  | answer (reply : (a : Action) → Option a.Answer)
  /-- The pass has to wait for the next answer. -/
  | suspend
  /-- The schedule is told to stop. -/
  | signal
  /-- A millisecond goes by. -/
  | tick

/-- A schedule that begins now. -/
def begin (s : Settings) (now : Nat) : Rounds where
  settings := s
  began := now
  schedule := .begin s now
  phase := .waiting
  working := false
  clock := now
  signal := none
  rounds := []
  lines := []

variable (r : Rounds)

/-! ## The schedule -/

/-- The schedule stops; a pass is given up, unless it works. -/
def halt : Rounds :=
  { r with
    phase := .stopped
    schedule := if r.working then r.schedule else r.schedule.withPass none
    lines := r.lines ++ [.scheduleStopped] }

/-- A pass starts. -/
def launch : Rounds :=
  { r with
    phase := .passing
    schedule := r.schedule.startPass r.settings r.clock
    rounds := ⟨r.schedule.ticker.due, r.clock, none, false⟩ :: r.rounds }

/-- The schedule takes note of a pass that is over, and says if it broke down. -/
def notice (pass : Job Unit) : Rounds :=
  { r with
    phase := .waiting
    schedule := r.schedule.withPass none
    lines := r.lines ++ if pass.hasCrashed then [.passFailed] else [] }

/-- The schedule does what it can, if anything. -/
def poll : Option Rounds :=
  match r.phase with
  | .stopped => none
  | .waiting =>
    if r.signal.isSome then some r.halt
    else if r.schedule.isDue r.clock then some r.launch
    else none
  | .passing =>
    if r.signal.isSome then some r.halt
    else
      match r.schedule.pass with
      | some pass => if pass.isOver then some (r.notice pass) else none
      | none => none

/-! ## The pass -/

/-- The pass is over now. -/
def finish (rest : Job Unit) : Rounds :=
  { r with
    schedule := r.schedule.withPass (some rest)
    rounds := match r.rounds with
      | [] => []
      | x :: earlier => { x with stop := some r.clock, failed := rest.hasCrashed } :: earlier }

/-- The pass goes on with what is left of it, if anything. -/
def goOn (rest : Job Unit) : Rounds :=
  if rest.isOver then r.finish rest
  else { r with schedule := r.schedule.withPass (some rest), working := true }

/-- The pass gets the answer that it waits for. -/
def answer (reply : (a : Action) → Option a.Answer) : Option Rounds :=
  if r.working then none
  else
    match r.schedule.pass with
    | some (.act a next) => some (r.goOn (next (reply a)))
    | some (.done _) | some .crashed | none => none

/-- The pass has to wait for the next answer; one that was to be given up is given up. -/
def suspend : Option Rounds :=
  if r.working then
    some { r with
      working := false
      schedule := if r.phase = .stopped then r.schedule.withPass none else r.schedule }
  else none

/-! ## What happens -/

/-- What happens next, if it can. -/
def move : Move → Option Rounds
  | .poll => r.poll
  | .answer reply => r.answer reply
  | .suspend => r.suspend
  | .signal => if r.signal.isSome then none else some { r with signal := some r.clock }
  | .tick => if r.poll.isSome then none else some { r with clock := r.clock + 1 }

/-- One thing after the other, if they can happen. -/
def play (r : Rounds) : List Move → Option Rounds
  | [] => some r
  | m :: rest => (r.move m).bind (·.play rest)

/-! ## What is noted -/

/-- When the passes were due and when they started, the latest first. -/
def starts : List (Nat × Nat) := r.rounds.map fun x => (x.tick, x.start)

/-- Since when no pass is under way, if none is. -/
def freed : Nat :=
  match r.rounds with
  | [] => r.began
  | x :: _ => x.stop.getD x.start

/-- When the next pass starts, if none is under way. -/
def next : Nat := max r.freed r.schedule.ticker.due

end Rounds

namespace Round

/-- How long the pass took, if it is over. -/
def took (x : Round) : Option Nat := x.stop.map (· - x.start)

/-- The next pass of a schedule of this period: it starts when it is due, but not before the one
before it is over.  It is due a period after that one was due, or a period after that one started if
it started more than five milliseconds late. -/
def Precedes (period : Nat) (x x' : Round) : Prop :=
  (∃ stop, x.stop = some stop ∧ x.start ≤ stop ∧ x'.start = max stop x'.tick) ∧
    x'.tick = (if x.start ≤ x.tick + 5 then x.tick else x.start) + period

end Round

end Southbound
