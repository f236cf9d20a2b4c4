/-!
# Worker pools

A pool has a fixed number of workers and a queue without bound.  What is submitted waits until a
worker is free; the queue is served first come, first served.  A pool that was closed accepts
nothing more and still serves what it accepted.

The pool does not look at what it serves.  `submit` puts an entry at the end of the queue, `start?`
moves the first entry to the running ones if a worker is free, `finish` takes one out, and every
entry that was accepted passes through all three.
-/

namespace Southbound

/-- A queue and the workers that serve it. -/
structure Pool (τ : Type) where
  name : String
  /-- The number of workers. -/
  size : Nat
  /-- There is at least one worker. -/
  size_pos : 0 < size
  accepting : Bool
  /-- What waits, the oldest first. -/
  queue : List τ
  /-- What was started and has not ended, the oldest first. -/
  running : List τ

namespace Pool

variable {τ : Type}

/-- An idle pool; it has one worker at least. -/
def ofSize (name : String) (workers : Nat) : Pool τ where
  name := name
  size := max workers 1
  size_pos := by omega
  accepting := true
  queue := []
  running := []

/-- Puts an entry into the queue, unless the pool is closed. -/
def submit (p : Pool τ) (t : τ) : Pool τ :=
  if p.accepting then { p with queue := p.queue ++ [t] } else p

/-- Accepts nothing from now on. -/
def close (p : Pool τ) : Pool τ := { p with accepting := false }

/-- The number of workers that have nothing to do. -/
def free (p : Pool τ) : Nat := p.size - p.running.length

/-- Starts the oldest entry that waits, if a worker is free. -/
def start? (p : Pool τ) : Option (τ × Pool τ) :=
  if p.free = 0 then none
  else
    match p.queue with
    | [] => none
    | t :: rest => some (t, { p with queue := rest, running := p.running ++ [t] })

/-- Replaces a running entry by what is left of it. -/
def update (p : Pool τ) (place : Nat) (t : τ) : Pool τ :=
  { p with running := p.running.set place t }

/-- Frees the worker of a running entry. -/
def finish (p : Pool τ) (place : Nat) : Pool τ :=
  { p with running := p.running.eraseIdx place }

/-- Whether everything that was accepted has ended. -/
def isIdle (p : Pool τ) : Bool := p.queue.isEmpty && p.running.isEmpty

/-- All that was accepted and has not ended, in the order of acceptance. -/
def pending (p : Pool τ) : List τ := p.running ++ p.queue

theorem pending_submit (p : Pool τ) (t : τ) :
    (p.submit t).pending = if p.accepting then p.pending ++ [t] else p.pending := by
  unfold submit
  split <;> simp [pending]

theorem pending_start {p q : Pool τ} {t : τ} (h : p.start? = some (t, q)) :
    q.pending = p.pending ∧ q.running = p.running ++ [t] := by
  unfold start? at h
  split at h
  · simp at h
  · split at h
    · simp at h
    · next rest queue =>
      obtain ⟨rfl, rfl⟩ := Prod.mk.inj (Option.some.inj h)
      simp [pending, queue]

/-- What is started was the first in the queue. -/
theorem queue_start {p q : Pool τ} {t : τ} (h : p.start? = some (t, q)) :
    p.queue = t :: q.queue := by
  unfold start? at h
  split at h
  · simp at h
  · split at h
    · simp at h
    · next rest queue =>
      obtain ⟨rfl, rfl⟩ := Prod.mk.inj (Option.some.inj h)
      exact queue

end Pool

end Southbound
