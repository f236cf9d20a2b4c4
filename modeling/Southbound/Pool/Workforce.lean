import Southbound.Log

/-!
# The workers of a pool, one by one

`Pool` says what is waiting and what is running.  A `Workforce` says what each worker is at, and how
the workers, those who submit and those who shut the pool down get in each other's way.

One worker at a time has the queue to itself (`Worker.listening`); the others wait for that.  It
takes the first job, or learns that the queue is empty and closed, and leaves the queue to another
worker.  A job that was taken starts some time later, and when it ended or broke down its worker
notices that some time later still.

A shutdown closes the queue, then takes the workers to wait for them, and returns when they are
gone.  The workers can be taken once only: a call that comes second has nobody to wait for and
returns at once, whether or not the first one has returned.

A `Workforce.Move` is what can happen next.  Every interleaving is a list of moves, and every list
of moves that can be made is an interleaving (`Workforce.play`).
-/

namespace Southbound

/-- What a worker is at. -/
inductive Worker (τ : Type)
  /-- It waits until it has the queue to itself. -/
  | idle
  /-- It has the queue to itself, and waits for a job. -/
  | listening
  /-- It took a job that has not started. -/
  | carrying (t : τ)
  /-- Its job is in progress. -/
  | serving (t : τ)
  /-- Its job ended or broke down, and it has not noticed. -/
  | served (t : τ) (failed : Bool)
  /-- It found the queue closed and empty. -/
  | gone
deriving DecidableEq

namespace Worker

variable {τ : Type}

/-- Whether the worker has the queue to itself. -/
def isListening : Worker τ → Bool
  | listening => true
  | _ => false

/-- Whether the worker is gone. -/
def isGone : Worker τ → Bool
  | gone => true
  | _ => false

/-- The job that the worker took and that has not started. -/
def carried? : Worker τ → Option τ
  | carrying t => some t
  | _ => none

/-- The job of the worker that is in progress. -/
def running? : Worker τ → Option τ
  | serving t => some t
  | _ => none

/-- The job that keeps the worker from the queue. -/
def held? : Worker τ → Option τ
  | carrying t | serving t | served t _ => some t
  | idle | listening | gone => none

end Worker

/-- A call of the shutdown. -/
inductive Farewell
  /-- The queue is closed. -/
  | closing
  /-- The workers are waited for: all of them, or nobody if an earlier call took them. -/
  | waiting (all : Bool)
  /-- The call returned. -/
  | returned
deriving DecidableEq

/-- What a worker does next. -/
inductive Worker.Deed
  /-- It gets the queue to itself. -/
  | listen
  /-- It takes the first job. -/
  | receive
  /-- Its job starts. -/
  | start
  /-- Its job ends, or breaks down. -/
  | finish (failed : Bool)
  /-- It notices that its job is over. -/
  | notice
  /-- It learns that the queue is closed and empty. -/
  | quit
deriving DecidableEq

/-- A queue, the workers that serve it and the calls that wait for them to end. -/
structure Workforce (τ : Type) where
  name : String
  accepting : Bool
  /-- What waits, the oldest first. -/
  queue : List τ
  workers : List (Worker τ)
  /-- Whether no shutdown took the workers to wait for them. -/
  unclaimed : Bool
  /-- The calls of the shutdown, the oldest first. -/
  farewells : List Farewell
  /-- What was submitted, and whether it was accepted, the oldest first. -/
  submitted : List (τ × Bool)
  /-- What workers took, the oldest first. -/
  taken : List τ
  /-- What started, the oldest first. -/
  started : List τ
  /-- What ended or broke down, the oldest first. -/
  ended : List τ
  /-- What the operator was told, the oldest first. -/
  lines : List LogLine
deriving DecidableEq

namespace Workforce

variable {τ : Type}

/-- A pool to which nothing was submitted; it has one worker at least. -/
def ofSize (name : String) (n : Nat) : Workforce τ where
  name := name
  accepting := true
  queue := []
  workers := List.replicate (max n 1) .idle
  unclaimed := true
  farewells := []
  submitted := []
  taken := []
  started := []
  ended := []
  lines := []

/-! ## What there is to see -/

section

variable (w : Workforce τ)

/-- What was accepted, the oldest first. -/
def accepted : List τ := w.submitted.filterMap fun s => if s.2 then some s.1 else none

/-- What was taken and has not started. -/
def carried : List τ := w.workers.filterMap (·.carried?)

/-- What is in progress. -/
def running : List τ := w.workers.filterMap (·.running?)

/-- What keeps workers from the queue. -/
def held : List τ := w.workers.filterMap (·.held?)

/-- Whether nobody is left to wait for. -/
def isDeserted : Bool := w.workers.all (·.isGone)

end

/-! ## Moves -/

/-- What can happen next. -/
inductive Move (τ : Type)
  /-- A job is submitted. -/
  | submit (t : τ)
  /-- A worker does something. -/
  | work (place : Nat) (deed : Worker.Deed)
  /-- The shutdown is called: the queue is closed. -/
  | close
  /-- A shutdown takes the workers to wait for them. -/
  | claim (call : Nat)
  /-- A shutdown returns. -/
  | leave (call : Nat)
deriving DecidableEq

variable (label : τ → String) (w : Workforce τ)

/-- A worker gets to something else. -/
def assign (place : Nat) (worker : Worker τ) : Workforce τ :=
  { w with workers := w.workers.set place worker }

/-- Puts a job into the queue, unless the pool is closed. -/
def submit (t : τ) : Workforce τ :=
  if w.accepting then
    { w with queue := w.queue ++ [t], submitted := w.submitted ++ [(t, true)] }
  else
    { w with
      submitted := w.submitted ++ [(t, false)]
      lines := w.lines ++ [.jobDropped w.name (label t)] }

/-- What a worker that is at something does next, if it can. -/
def act (place : Nat) : Worker.Deed → Worker τ → Option (Workforce τ)
  | .listen, .idle =>
    if w.workers.any (·.isListening) then none else some (w.assign place .listening)
  | .receive, .listening =>
    match w.queue with
    | [] => none
    | t :: rest =>
      some { w.assign place (.carrying t) with queue := rest, taken := w.taken ++ [t] }
  | .start, .carrying t =>
    some { w.assign place (.serving t) with started := w.started ++ [t] }
  | .finish failed, .serving t =>
    some { w.assign place (.served t failed) with ended := w.ended ++ [t] }
  | .notice, .served t failed =>
    some { w.assign place .idle with
      lines := w.lines ++ if failed then [.jobFailed w.name (label t)] else [] }
  | .quit, .listening =>
    if w.queue.isEmpty && !w.accepting then some (w.assign place .gone) else none
  | _, _ => none

/-- What the worker in a place does next, if it can. -/
def work (place : Nat) (deed : Worker.Deed) : Option (Workforce τ) :=
  w.workers[place]?.bind (w.act label place deed)

/-- Accepts nothing from now on. -/
def close : Workforce τ :=
  { w with accepting := false, farewells := w.farewells ++ [.closing] }

/-- A shutdown takes the workers, if nobody took them before. -/
def claim (call : Nat) : Option (Workforce τ) :=
  match w.farewells[call]? with
  | some .closing =>
    some { w with
      unclaimed := false
      farewells := w.farewells.set call (.waiting w.unclaimed) }
  | _ => none

/-- A shutdown returns when those it waits for are gone. -/
def leave (call : Nat) : Option (Workforce τ) :=
  match w.farewells[call]? with
  | some (.waiting all) =>
    if all && !w.isDeserted then none
    else
      some { w with
        farewells := w.farewells.set call .returned
        lines := w.lines ++ [.poolStopped w.name] }
  | _ => none

/-- A move, if it can be made. -/
def move : Move τ → Option (Workforce τ)
  | .submit t => some (w.submit label t)
  | .work place deed => w.work label place deed
  | .close => some w.close
  | .claim call => w.claim call
  | .leave call => w.leave call

/-- One move after the other, if they can be made. -/
def play (w : Workforce τ) : List (Move τ) → Option (Workforce τ)
  | [] => some w
  | m :: rest => (w.move label m).bind (·.play rest)

end Workforce

end Southbound
