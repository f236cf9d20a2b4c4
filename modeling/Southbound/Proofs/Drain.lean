import Southbound.Provider
import Southbound.Shift.Load

/-!
# Pools that are drained

The workers of a pool carry out everything that was accepted, provided that no order has to wait
for an answer.  What all of the orders keep, each carried out in one go, is kept by the whole shift
(`Shift.work_of_draining`).

The argument counts workers.  Every worker stands in line, works or is about to line up; who works
has a turn to come; and while orders are left somebody in line has the turn to look into the queue.
So when there are no turns left all workers stand in line, and the queue is empty.

A shutdown drains both pools of the provider (`Provider.shutdown_of_completes`).
-/

namespace Southbound

/-- The job is carried out in one go wherever the statement holds, and keeps it. -/
def Job.Completes {α : Type} (I : Deployment → Prop) (j : Job α) : Prop :=
  ∀ d, I d → (j.run d).1.isEnded = true ∧ I (j.run d).2

theorem Job.Completes.isReady {α : Type} {I : Deployment → Prop} {j : Job α} (h : j.Completes I)
    {d : Deployment} (kept : I d) : j.isReady d = true := by
  have ended := (h d kept).1
  cases j with
  | done | crashed => rfl
  | act a next =>
    cases ready : d.isReady a with
    | true => exact ready
    | false => simp [run, ready, Progress.isEnded, Progress.rest?] at ended

/-- A teardown of one device after the other does for all of them what the teardown of each does for
those that are left. -/
theorem Job.run_tearDownEach {I : List Identity → Deployment → Prop}
    (step : ∀ id rest d, I (id :: rest) d →
      ∃ d', (Connection.tearDown id).run d = (.done (), d') ∧ I rest d')
    {ids : List Identity} {d : Deployment} (h : I ids d) :
    ∃ d', (Connection.tearDownEach ids).run d = (.done (), d') ∧ I [] d' := by
  induction ids generalizing d with
  | nil => exact ⟨d, rfl, h⟩
  | cons id rest ih =>
    obtain ⟨d₁, ran, left⟩ := step id rest d h
    obtain ⟨d', ran', torn⟩ := ih left
    refine ⟨d', ?_, torn⟩
    unfold Connection.tearDownEach
    rw [bind_eq, run_bind, ran]
    exact ran'

/-- What the operator is told is no matter of the statement. -/
def Deployment.Untold (I : Deployment → Prop) : Prop := ∀ d lines, I d → I (d.sayAll lines)

/-- Whether a worker is about to line up. -/
def Turn.linesUp : Turn → Bool
  | lineUp _ => true
  | _ => false

namespace Pool

variable {τ : Type} {p q : Pool τ} {t : τ}

theorem start_eq_none (h : p.start? = none) (free : 0 < p.free) : p.queue = [] := by
  unfold start? at h
  split at h
  · omega
  · split at h
    · assumption
    · cases h

theorem size_start (h : p.start? = some (t, q)) :
    q.size = p.size ∧ q.accepting = p.accepting := by
  unfold start? at h
  split at h
  · cases h
  · split at h
    · cases h
    · cases h
      exact ⟨rfl, rfl⟩

end Pool

namespace Shift

/-- A shift of a closed pool without schedules, each order of which is carried out in one go and
keeps a statement about the deployment. -/
structure Draining (I : Deployment → Prop) (s : Shift) : Prop where
  kept : I s.deployment
  jobs : ∀ e ∈ s.pool.pending, e.rest.Completes I
  closed : s.pool.accepting = false
  unscheduled : s.schedules = []
  workers : s.line + s.pool.running.length + s.turns.countP Turn.linesUp = s.pool.size
  busy : s.turns.count .order = s.pool.running.length
  served : s.pool.queue ≠ [] → 0 < s.line → .serve ∈ s.turns
  in_line : .serve ∈ s.turns → 0 < s.line
  once : s.turns.count .serve ≤ 1

theorem lineUp_eq (s : Shift) : s.lineUp =
    if s.line = 0 then Shift.serve { s with line := 1 } else { s with line := s.line + 1 } := by
  unfold lineUp
  by_cases alone : s.line = 0 <;> simp [alone]

namespace Draining

variable {I : Deployment → Prop} {s : Shift}

theorem begin (s : Settings) (now : Nat) {d : Deployment} {pool : Pool Assignment} (kept : I d)
    (jobs : ∀ e ∈ pool.queue, e.rest.Completes I) (unstarted : pool.running = [])
    (closed : pool.accepting = false) : (Shift.begin s now d pool [] []).Draining I := by
  have size := pool.size_pos
  have free : pool.free = pool.size := by simp [Pool.free, unstarted]
  have turns : (Shift.begin s now d pool [] []).turns =
      if pool.start?.isSome then [.serve] else [] := by
    simp [Shift.begin, firstTurns]
  constructor
  case kept => exact kept
  case jobs =>
    intro e he
    exact jobs e (by simpa [Shift.begin, Pool.pending, unstarted] using he)
  case closed => exact closed
  case unscheduled => rfl
  case workers =>
    rw [turns]
    cases pool.start?.isSome <;> simp [Shift.begin, free, unstarted, Turn.linesUp]
  case busy =>
    rw [turns]
    cases pool.start?.isSome <;> simp [Shift.begin, unstarted]
  case served =>
    intro waiting _
    rw [turns, if_pos]
    · simp
    · cases started : pool.start? with
      | none => exact absurd (Pool.start_eq_none started (by omega)) waiting
      | some _ => rfl
  case in_line =>
    intro _
    simp only [Shift.begin]
    omega
  case once =>
    rw [turns]
    cases pool.start?.isSome <;> simp

/-- The first in line, if there is one and nobody else has the turn, looks into the queue. -/
theorem serve (kept : I s.deployment) (jobs : ∀ e ∈ s.pool.pending, e.rest.Completes I)
    (closed : s.pool.accepting = false) (unscheduled : s.schedules = [])
    (workers : s.line + s.pool.running.length + s.turns.countP Turn.linesUp = s.pool.size)
    (busy : s.turns.count .order = s.pool.running.length) (in_line : 0 < s.line)
    (unserved : .serve ∉ s.turns) : s.serve.Draining I := by
  unfold Shift.serve
  cases started : s.pool.start? with
  | none =>
    have free : 0 < s.pool.free := by
      unfold Pool.free
      omega
    have empty := Pool.start_eq_none started free
    refine ⟨kept, jobs, closed, unscheduled, workers, busy, ?_, ?_, ?_⟩
    · exact fun waiting _ => absurd empty waiting
    · exact fun served => absurd served unserved
    · rw [List.count_eq_zero_of_not_mem unserved]
      omega
  | some entry =>
    obtain ⟨e, pool⟩ := entry
    obtain ⟨pending, running⟩ := Pool.pending_start started
    obtain ⟨size, accepting⟩ := Pool.size_start started
    rw [← accepting] at closed
    have length : pool.running.length = s.pool.running.length + 1 := by simp [running]
    dsimp only
    by_cases last : s.line - 1 = 0
    · rw [if_pos last]
      constructor
      case kept => exact kept
      case jobs => rwa [← pending] at jobs
      case closed => exact closed
      case unscheduled => exact unscheduled
      case workers =>
        simp only [give, List.countP_append]
        simp [Turn.linesUp]
        omega
      case busy => simp [give, busy, length]
      case served =>
        intro _ positive
        exact absurd positive (by simp only [give]; omega)
      case in_line =>
        intro served
        simp [give, unserved] at served
      case once => simp [give, List.count_eq_zero_of_not_mem unserved]
    · rw [if_neg last]
      constructor
      case kept => exact kept
      case jobs => rwa [← pending] at jobs
      case closed => exact closed
      case unscheduled => exact unscheduled
      case workers =>
        simp [give, Turn.linesUp]
        omega
      case busy => simp [give, busy, length]
      case served => simp [give]
      case in_line =>
        intro _
        simp only [give]
        omega
      case once => simp [give, List.count_eq_zero_of_not_mem unserved]

/-- A turn that changes nothing is over. -/
theorem pass (h : s.Draining I) {t : Turn} {rest : List Turn} (turns : s.turns = t :: rest)
    (idle : t ≠ .serve ∧ t ≠ .order ∧ t.linesUp = false) :
    Shift.Draining I { s with turns := rest } := by
  obtain ⟨not_serve, not_order, stays⟩ := idle
  constructor
  case kept => exact h.kept
  case jobs => exact h.jobs
  case closed => exact h.closed
  case unscheduled => exact h.unscheduled
  case workers => simpa [turns, List.countP_cons, stays] using h.workers
  case busy => simpa [turns, List.count_cons, not_order] using h.busy
  case served => simpa [turns, Ne.symm not_serve] using h.served
  case in_line => simpa [turns, Ne.symm not_serve] using h.in_line
  case once => simpa [turns, List.count_cons, not_serve] using h.once

theorem step_serve (h : s.Draining I) {rest : List Turn} (turns : s.turns = .serve :: rest) :
    (Shift.serve { s with turns := rest }).Draining I := by
  obtain ⟨kept, jobs, closed, unscheduled, workers, busy, _, in_line, once⟩ := h
  simp [turns, Turn.linesUp] at workers busy in_line once
  exact serve kept jobs closed unscheduled workers busy in_line (List.count_eq_zero.1 once)

theorem step_lineUp (h : s.Draining I) (untold : Deployment.Untold I) {line : Option LogLine}
    {rest : List Turn} (turns : s.turns = .lineUp line :: rest) :
    (Shift.say { s with turns := rest } line).lineUp.Draining I := by
  obtain ⟨kept, jobs, closed, unscheduled, workers, busy, served, in_line, once⟩ := h
  simp [turns, List.countP_cons, Turn.linesUp] at workers busy served in_line once
  have said := untold _ line.toList kept
  rw [lineUp_eq]
  split
  · next alone =>
    have nobody : s.line = 0 := alone
    refine serve said jobs closed unscheduled ?_ busy Nat.one_pos fun waiting => ?_
    · simp only [say]
      omega
    · have := in_line waiting
      omega
  · next others =>
    have somebody : s.line ≠ 0 := others
    refine ⟨said, jobs, closed, unscheduled, ?_, busy, ?_, fun _ => Nat.succ_pos _, once⟩
    · simp only [say]
      omega
    · exact fun waiting _ => served waiting (by omega)

/-- Everybody at work can go on, and is done at once. -/
theorem step_order (h : s.Draining I) {rest : List Turn} (turns : s.turns = .order :: rest) :
    (Shift.carryOn { s with turns := rest }).Draining I := by
  obtain ⟨kept, jobs, closed, unscheduled, workers, busy, served, in_line, once⟩ := h
  simp [turns, Turn.linesUp] at workers busy served in_line once
  cases running : s.pool.running with
  | nil => simp [running] at busy
  | cons e others =>
    simp only [running, List.length_cons] at workers busy
    have job := jobs e (by simp [Pool.pending, running])
    have ready := job.isReady kept
    obtain ⟨ended, kept'⟩ := job _ kept
    have finished : ∀ (d : Deployment) (result : Option (Except RoleError Unit))
        (line : Option LogLine), I d →
        (Shift.finish { s with turns := rest, deployment := d } 0 e result line).Draining I := by
      intro d result line hd
      have left : (s.pool.finish 0).running = others := by simp [Pool.finish, running]
      constructor
      case kept => exact hd
      case jobs =>
        intro e' he
        refine jobs e' ?_
        have he : e' ∈ others ++ s.pool.queue := by rwa [← left]
        rw [Pool.pending, running]
        exact List.mem_cons_of_mem _ he
      case closed => exact closed
      case unscheduled => exact unscheduled
      case workers =>
        simp [Shift.finish, give, left, Turn.linesUp]
        show _ = s.pool.size
        omega
      case busy =>
        simp [Shift.finish, give, left]
        omega
      case served => simpa [Shift.finish, give, Pool.finish] using served
      case in_line => simpa [Shift.finish, give] using in_line
      case once => simpa [Shift.finish, give] using once
    have first : Shift.ready? { s with turns := rest } = some (e, 0) := by
      simp [ready?, running, List.zipIdx_cons, ready]
    unfold Shift.carryOn
    rw [first]
    dsimp only
    revert ended kept'
    rcases e.rest.run s.deployment with ⟨_ | _ | _, d⟩
    · exact fun _ kept' => finished d _ _ kept'
    · exact fun _ kept' => finished d _ _ kept'
    · intro ended
      cases ended

theorem step (h : s.Draining I) (untold : Deployment.Untold I) : s.step.Draining I := by
  unfold Shift.step
  cases turns : s.turns with
  | nil => exact h
  | cons t rest =>
    have unscheduled : ∀ place : Nat, s.schedules[place]? = none := by simp [h.unscheduled]
    cases t with
    | serve => exact h.step_serve turns
    | order => exact h.step_order turns
    | lineUp line => exact h.step_lineUp untold turns
    | tick place line =>
      have passed := h.pass turns ⟨by simp, by simp, rfl⟩
      have idle : (Shift.say { s with turns := rest } line).tick place =
          Shift.say { s with turns := rest } line := by
        simp only [Shift.tick, say, unscheduled]
      dsimp only [take]
      rw [idle]
      exact { passed with kept := untold _ _ h.kept }
    | pass place =>
      have passed := h.pass turns ⟨by simp, by simp, rfl⟩
      have idle : Shift.carryOnPass { s with turns := rest } place = { s with turns := rest } := by
        simp only [Shift.carryOnPass, unscheduled]
      dsimp only [take]
      rw [idle]
      exact passed

theorem work (h : s.Draining I) (untold : Deployment.Untold I) : s.work.Draining I :=
  work_keeps (fun _ drains => drains.step untold) h

/-- When nobody has anything left to do, everything is done. -/
theorem isIdle (h : s.Draining I) (rested : s.turns = []) : s.pool.isIdle = true := by
  obtain ⟨_, _, _, _, workers, busy, served, _, _⟩ := h
  simp [rested] at workers busy served
  have size := s.pool.size_pos
  have running : s.pool.running = [] := List.eq_nil_of_length_eq_zero (by omega)
  have queue : s.pool.queue = [] := Classical.byContradiction fun waiting => by
    have := served waiting
    simp [running] at workers
    omega
  simp [Pool.isIdle, running, queue]

end Draining

/-- A shift carries out everything that the pool accepted, and keeps what every order keeps. -/
theorem work_of_draining {I : Deployment → Prop} {s : Shift} (h : s.Draining I)
    (untold : Deployment.Untold I) :
    s.work.pool.isIdle = true ∧ s.work.pool.accepting = false ∧ s.work.schedules = [] ∧
      I s.work.deployment := by
  have worked := h.work untold
  have paced : s.Paced := by
    intro schedule mem
    rw [h.unscheduled] at mem
    cases mem
  exact ⟨worked.isIdle (turns_work paced), worked.closed, worked.unscheduled, worked.kept⟩

end Shift

/-! ## Shutdown -/

/-- An idle pool is drained. -/
theorem Pool.completes_of_isIdle {pool : Pool Assignment} (idle : pool.isIdle = true)
    (I : Deployment → Prop) :
    pool.running = [] ∧ ∀ e ∈ pool.queue, e.rest.Completes I := by
  obtain ⟨queue, running⟩ : pool.queue = [] ∧ pool.running = [] := by simpa [isIdle] using idle
  exact ⟨running, by simp [queue]⟩

namespace Provider

/-- The provider has nothing to do, and is given nothing any more. -/
structure Stopped (p : Provider) : Prop where
  events_idle : p.events.isIdle = true
  events_closed : p.events.accepting = false
  connections_idle : p.connections.isIdle = true
  connections_closed : p.connections.accepting = false
  unscheduled : p.schedules = []
  deaf : p.listening = []

variable {I J : Deployment → Prop} {p : Provider}

theorem finishEvents_of_completes (untold : Deployment.Untold I) (kept : I p.deployment)
    (unstarted : p.events.running = []) (jobs : ∀ e ∈ p.events.queue, e.rest.Completes I)
    (unscheduled : p.schedules = []) :
    p.finishEvents.events.isIdle = true ∧ p.finishEvents.events.accepting = false ∧
      p.finishEvents.schedules = [] ∧ I p.finishEvents.deployment := by
  have begun : (Shift.begin p.settings p.now p.deployment p.events.close p.schedules []).Draining
      I := by
    rw [unscheduled]
    exact .begin _ _ kept jobs unstarted rfl
  exact Shift.work_of_draining begun untold

theorem finishConnections_of_completes (untold : Deployment.Untold I) (kept : I p.deployment)
    (unstarted : p.connections.running = [])
    (jobs : ∀ e ∈ p.connections.queue, e.rest.Completes I) :
    p.finishConnections.connections.isIdle = true ∧
      p.finishConnections.connections.accepting = false ∧ I p.finishConnections.deployment := by
  have begun : (Shift.begin p.settings p.now p.deployment p.connections.close [] []).Draining I :=
    .begin _ _ kept jobs unstarted rfl
  obtain ⟨idle, closed, _, kept⟩ := Shift.work_of_draining begun untold
  exact ⟨idle, closed, kept⟩

/-- The provider as it is when its event pool is drained. -/
def drained (p : Provider) : Provider :=
  { p with deployment := { p.deployment with active := false } }.dropSchedules.dropListeners
    |>.finishEvents

/-- The provider as it is at the end of a shutdown, when the devices are torn down. -/
def returned (p : Provider) (d : Deployment) : Provider :=
  let q := Provider.finishConnections { p.drained with deployment := d }
  q.say [.poolStopped q.connections.name, .providerStopped]

theorem shutdown_eq (p : Provider) : p.shutdown =
    if !p.drained.events.isIdle then (.blocked, p.drained)
    else
      let (progress, d) := Connection.tearDownAll.run
        (p.drained.deployment.sayAll [.poolStopped p.drained.events.name])
      match progress with
      | .done () => (.complete, p.returned d)
      | .crashed => (.crashed, { p.drained with deployment := d })
      | .waiting _ => (.blocked, { p.drained with deployment := d }) := rfl

/-- A shutdown is complete exactly if the event pool can be drained and the teardown does not break
down; the connection pool is finished after it. -/
theorem shutdown_eq_complete {p' : Provider} :
    p.shutdown = (.complete, p') ↔ p.drained.events.isIdle = true ∧
      ∃ d, Connection.tearDownAll.run
        (p.drained.deployment.sayAll [.poolStopped p.drained.events.name]) = (.done (), d) ∧
        p' = p.returned d := by
  rw [shutdown_eq]
  cases p.drained.events.isIdle with
  | false => simp
  | true =>
    rcases Connection.tearDownAll.run _ with ⟨_ | _ | _, d⟩
    · constructor
      · intro complete
        exact ⟨rfl, d, rfl, (Prod.mk.inj complete).2.symm⟩
      · rintro ⟨_, d', ran, rfl⟩
        cases ran
        rfl
    · simp
    · simp

/-- A shutdown drains the event pool, tears down what is registered then and drains the connection
pool.  What all orders of a pool keep holds when the pool is drained. -/
theorem shutdown_of_completes (untold : Deployment.Untold I) (untold' : Deployment.Untold J)
    (begun : I { p.deployment with active := false })
    (events : p.events.running = [] ∧ ∀ e ∈ p.events.queue, e.rest.Completes I)
    (connections : p.connections.running = [] ∧ ∀ e ∈ p.connections.queue, e.rest.Completes J)
    (torn : ∀ d, I d → ∃ d', Connection.tearDownAll.run d = (.done (), d') ∧ J d') :
    ∃ p', p.shutdown = (.complete, p') ∧ p'.Stopped ∧ J p'.deployment := by
  have kept : I (Provider.dropListeners (dropSchedules
      { p with deployment := { p.deployment with active := false } })).deployment :=
    untold _ _ (untold _ _ begun)
  obtain ⟨idle, closed, unscheduled, kept⟩ :=
    finishEvents_of_completes untold kept events.1 events.2 rfl
  obtain ⟨d, ran, kept⟩ := torn _ (untold _ [.poolStopped p.drained.events.name] kept)
  obtain ⟨idle', closed', kept⟩ := finishConnections_of_completes
    (p := { p.drained with deployment := d }) untold' kept connections.1 connections.2
  exact ⟨_, shutdown_eq_complete.2 ⟨idle, d, ran, rfl⟩,
    ⟨idle, closed, idle', closed', unscheduled, rfl⟩, untold' _ _ kept⟩

end Provider

end Southbound
