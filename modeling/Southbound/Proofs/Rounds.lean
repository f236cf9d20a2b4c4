import Mathlib.Data.List.Chain
import Mathlib.Order.WellFounded
import Southbound.Schedule.Rounds

/-!
# Schedules keep time

What can happen to a schedule on the clock, and when, is `Rounds.Does`; everything else rests on
that and on what is always so, `Rounds.Steady`: the passes that are over came one after the other
(`Round.Precedes`), and the schedule waits no longer than until the next one starts.

An idle schedule starts its next pass on time unless it is told to stop (`Steady.starts_next`), and
the clock always gets there: at one time only so much can happen (`Rounds.wellFounded_stirs`).  How
long passes take says when they start, and whether they break down makes no difference
(`Rounds.starts_unique`).  Once told to, the schedule stops before time goes on, and does nothing
from then on (`Steady.stopped_play`).  All together is `Rounds.keeps_time`.
-/

namespace Southbound

namespace Round

variable {period : Nat} {x x' y y' : Round}

/-- When a pass starts follows from when the one before it did and how long that took. -/
theorem Precedes.unique (h : x.Precedes period x') (h' : y.Precedes period y')
    (same : (x.tick, x.start) = (y.tick, y.start)) (took : x.took = y.took) :
    (x'.tick, x'.start) = (y'.tick, y'.start) := by
  obtain ⟨⟨stop, stopped, past, start⟩, tick⟩ := h
  obtain ⟨⟨stop', stopped', past', start'⟩, tick'⟩ := h'
  obtain ⟨ticks, starts⟩ := Prod.mk.inj same
  rw [Round.took, Round.took, stopped, stopped'] at took
  have took : stop - x.start = stop' - y.start := Option.some.inj took
  have stops : stop = stop' := by omega
  have ticks' : x'.tick = y'.tick := by rw [tick, tick', ticks, starts]
  rw [start, start', ticks', stops]

/-- Passes do not come in bursts. -/
theorem Precedes.spaced (h : x.Precedes period x') : x.start + period ≤ x'.start + 5 := by
  obtain ⟨⟨stop, -, past, start⟩, tick⟩ := h
  split at tick <;> omega

end Round

namespace Rounds

variable {r r' : Rounds}

/-! ## What can happen -/

/-- What can happen, and what comes of it. -/
inductive Does (r : Rounds) : Move → Rounds → Prop
  | halt (alive : r.phase ≠ .stopped) (told : r.signal.isSome = true) : Does r .poll r.halt
  | launch (waits : r.phase = .waiting) (untold : r.signal = none)
    (due : r.schedule.isDue r.clock = true) : Does r .poll r.launch
  | notice {job : Job Unit} (passes : r.phase = .passing) (untold : r.signal = none)
    (pass : r.schedule.pass = some job) (finished : job.isOver = true) : Does r .poll (r.notice job)
  | finish {reply : (a : Action) → Option a.Answer} {a : Action}
    {next : Option a.Answer → Job Unit} (rests : r.working = false)
    (pass : r.schedule.pass = some (.act a next)) (finished : (next (reply a)).isOver = true) :
    Does r (.answer reply) (r.finish (next (reply a)))
  | goOn {reply : (a : Action) → Option a.Answer} {a : Action}
    {next : Option a.Answer → Job Unit} (rests : r.working = false)
    (pass : r.schedule.pass = some (.act a next)) (unfinished : (next (reply a)).isOver = false) :
    Does r (.answer reply)
      { r with schedule := r.schedule.withPass (some (next (reply a))), working := true }
  | suspend (works : r.working = true) : Does r .suspend
    { r with
      working := false
      schedule := if r.phase = .stopped then r.schedule.withPass none else r.schedule }
  | signal (untold : r.signal = none) : Does r .signal { r with signal := some r.clock }
  | tick (quiet : r.poll = none) : Does r .tick { r with clock := r.clock + 1 }

theorem does_poll (polled : r.poll = some r') : r.Does .poll r' := by
  unfold poll at polled
  cases phase : r.phase with
  | stopped => simp [phase] at polled
  | waiting =>
    simp only [phase] at polled
    split at polled
    · next told =>
      cases polled
      exact .halt (by simp [phase]) told
    · next untold =>
      obtain ⟨due, same⟩ := Option.ite_none_right_eq_some.1 polled
      cases same
      exact .launch phase (by simpa using untold) due
  | passing =>
    simp only [phase] at polled
    split at polled
    · next told =>
      cases polled
      exact .halt (by simp [phase]) told
    · next untold =>
      split at polled
      · next job pass =>
        obtain ⟨finished, same⟩ := Option.ite_none_right_eq_some.1 polled
        cases same
        exact .notice phase (by simpa using untold) pass finished
      · cases polled

theorem does_answer {reply : (a : Action) → Option a.Answer} (answered : r.answer reply = some r') :
    r.Does (.answer reply) r' := by
  obtain ⟨rests, answered⟩ := Option.ite_none_left_eq_some.1 answered
  have rests : r.working = false := Bool.eq_false_iff.2 rests
  split at answered
  · next a next pass =>
    cases answered
    unfold Rounds.goOn
    split
    · next finished => exact .finish rests pass finished
    · next unfinished => exact .goOn rests pass (Bool.eq_false_iff.2 unfinished)
  all_goals cases answered

theorem does_of_move {m : Move} (moved : r.move m = some r') : r.Does m r' := by
  cases m with
  | poll => exact does_poll moved
  | answer reply => exact does_answer moved
  | suspend =>
    obtain ⟨works, same⟩ := Option.ite_none_right_eq_some.1 moved
    cases same
    exact .suspend works
  | signal =>
    obtain ⟨untold, same⟩ := Option.ite_none_left_eq_some.1 moved
    cases same
    exact .signal (by simpa using untold)
  | tick =>
    obtain ⟨quiet, same⟩ := Option.ite_none_left_eq_some.1 moved
    cases same
    exact .tick (by simpa using quiet)

/-- What every move keeps is kept by a play. -/
theorem play_keeps {I : Rounds → Prop} (step : ∀ v v' m, v.move m = some v' → I v → I v')
    {moves : List Move} (played : r.play moves = some r') (h : I r) : I r' := by
  induction moves generalizing r with
  | nil =>
    cases played
    exact h
  | cons m rest ih =>
    obtain ⟨v, moved, played⟩ := Option.bind_eq_some_iff.1 played
    exact ih played (step r v m moved h)

/-- A schedule that was told to stop can do so at once. -/
theorem poll_of_told (alive : r.phase ≠ .stopped) (told : r.signal.isSome = true) :
    r.poll = some r.halt := by
  unfold poll
  cases phase : r.phase with
  | stopped => exact absurd phase alive
  | waiting | passing => simp [told]

theorem untold_of_quiet (quiet : r.poll = none) (alive : r.phase ≠ .stopped) : r.signal = none := by
  cases signal : r.signal with
  | none => rfl
  | some time => cases quiet.symm.trans (poll_of_told alive (by rw [signal]; rfl))

theorem poll_of_over {job : Job Unit} (passes : r.phase = .passing) (untold : r.signal = none)
    (pass : r.schedule.pass = some job) (finished : job.isOver = true) :
    r.poll = some (r.notice job) := by
  simp [poll, passes, untold, pass, finished]

/-! ## What is always so -/

/-- The ticker after the passes so far. -/
def expected (r : Rounds) : Ticker :=
  match r.rounds with
  | [] => ⟨r.began + r.settings.initialDelay, r.settings.period⟩
  | x :: _ => Ticker.fire ⟨x.tick, r.settings.period⟩ x.start

/-- The passes that the schedule took note of. -/
def noticed (r : Rounds) : List Round := if r.phase = .passing then r.rounds.tail else r.rounds

/-- The schedule keeps time. -/
structure Steady (r : Rounds) : Prop where
  ticker : r.schedule.ticker = r.expected
  /-- The first pass started when it was due, the initial delay after the beginning. -/
  first : ∀ x ∈ r.rounds.getLast?, x.tick = r.began + r.settings.initialDelay ∧ x.start = x.tick
  chain : r.rounds.IsChain fun x' x => x.Precedes r.settings.period x'
  began : r.began ≤ r.clock
  past : ∀ x ∈ r.rounds, x.start ≤ r.clock ∧ ∀ stop ∈ x.stop, x.start ≤ stop ∧ stop ≤ r.clock
  working : r.working = true → ∃ a next, r.schedule.pass = some (.act a next)
  /-- The schedule waits no longer than until the next pass starts. -/
  waiting : r.phase = .waiting →
    r.schedule.pass = none ∧ (∀ x ∈ r.rounds.head?, x.stop.isSome) ∧ r.clock ≤ r.next
  /-- While the schedule has not taken note of it, a pass that is over ended just now. -/
  passing : r.phase = .passing → ∃ x earlier job, r.rounds = x :: earlier ∧
    r.schedule.pass = some job ∧ x.stop = (if job.isOver then some r.clock else none) ∧
    x.failed = job.hasCrashed
  stopped : r.phase = .stopped →
    r.signal.isSome = true ∧ (r.working = false → r.schedule.pass = none)
  /-- No pass starts after the signal, which the schedule follows at once. -/
  signalled : ∀ t ∈ r.signal,
    t ≤ r.clock ∧ (r.phase ≠ .stopped → t = r.clock) ∧ ∀ x ∈ r.rounds, x.start ≤ t
  /-- The schedule says which passes broke down, once it took note of them. -/
  said : r.phase ≠ .stopped →
    r.lines = List.replicate (r.noticed.countP (·.failed)) .passFailed

theorem steady_begin (s : Settings) (now : Nat) : (begin s now).Steady where
  ticker := rfl
  first := by simp [begin]
  chain := .nil
  began := Nat.le_refl _
  past := by simp [begin]
  working := by simp [begin]
  waiting _ := ⟨rfl, by simp [begin], Nat.le_max_left ..⟩
  passing := by simp [begin]
  stopped := by simp [begin]
  signalled := by simp [begin]
  said _ := rfl

namespace Steady

variable (h : r.Steady)

include h

theorem period : r.schedule.ticker.period = r.settings.period := by
  rw [h.ticker, expected]
  split <;> rfl

/-- A schedule that stops. -/
theorem halt (told : r.signal.isSome = true) : r.halt.Steady where
  ticker := by
    refine Eq.trans ?_ h.ticker
    show (if r.working then r.schedule else r.schedule.withPass none).ticker = _
    split <;> rfl
  first := h.first
  chain := h.chain
  began := h.began
  past := h.past
  working works := by
    obtain ⟨a, next, pass⟩ := h.working works
    exact ⟨a, next, by rw [Rounds.halt, if_pos (show r.working = true from works), pass]⟩
  waiting phase := by cases phase
  passing phase := by cases phase
  stopped _ := by
    refine ⟨told, fun rests => ?_⟩
    have rests : r.working = false := rests
    show (if r.working then r.schedule else r.schedule.withPass none).pass = none
    rw [rests]
    rfl
  signalled t signal := by
    obtain ⟨past, -, starts⟩ := h.signalled t signal
    exact ⟨past, fun alive => absurd rfl alive, starts⟩
  said alive := absurd rfl alive

/-- The pass that starts next, if it starts now. -/
theorem precedes {x : Round} (waits : r.phase = .waiting) (due : r.schedule.ticker.due ≤ r.clock)
    (latest : x ∈ r.rounds.head?) :
    x.Precedes r.settings.period ⟨r.schedule.ticker.due, r.clock, none, false⟩ := by
  obtain ⟨-, ended, soon⟩ := h.waiting waits
  obtain ⟨earlier, rounds⟩ : ∃ earlier, r.rounds = x :: earlier := List.head?_eq_some_iff.1 latest
  obtain ⟨stop, stopped⟩ := Option.isSome_iff_exists.1 (ended x latest)
  obtain ⟨-, finished⟩ := h.past x (by rw [rounds]; exact List.mem_cons_self)
  obtain ⟨later, past⟩ := finished stop stopped
  have freed : r.freed = stop := by simp [Rounds.freed, rounds, stopped]
  refine ⟨⟨stop, stopped, later, ?_⟩, ?_⟩
  · rw [Rounds.next, freed] at soon
    exact Nat.le_antisymm soon (Nat.max_le.2 ⟨past, due⟩)
  · rw [h.ticker, expected, rounds]
    show (if x.tick + 5 < x.start then x.start else x.tick) + _ = _
    by_cases late : x.tick + 5 < x.start
    · rw [if_pos late, if_neg (Nat.not_le.2 late)]
    · rw [if_neg late, if_pos (Nat.not_lt.1 late)]

theorem launch (waits : r.phase = .waiting) (untold : r.signal = none)
    (due : r.schedule.isDue r.clock = true) : r.launch.Steady := by
  have due : r.schedule.ticker.due ≤ r.clock := of_decide_eq_true (Bool.and_eq_true_iff.1 due).2
  obtain ⟨-, ended, soon⟩ := h.waiting waits
  refine
    { ticker := ?ticker, first := ?first, chain := ?chain, began := h.began, past := ?past
      working := ?working
      waiting := by intro phase; cases phase
      passing := ?passing
      stopped := by intro phase; cases phase
      signalled := ?signalled
      said := ?said }
  case ticker =>
    show r.schedule.ticker.fire r.clock = Ticker.fire ⟨r.schedule.ticker.due, r.settings.period⟩ _
    rw [← h.period]
  case first =>
    intro x last
    cases rounds : r.rounds with
    | nil =>
      obtain rfl : ⟨r.schedule.ticker.due, r.clock, none, false⟩ = x := by
        simpa [Rounds.launch, rounds] using last
      have first : r.schedule.ticker.due = r.began + r.settings.initialDelay := by
        rw [h.ticker, expected, rounds]
      refine ⟨first, ?_⟩
      have freed : r.freed = r.began := by rw [Rounds.freed, rounds]
      rw [Rounds.next, freed] at soon
      show r.clock = r.schedule.ticker.due
      omega
    | cons y earlier =>
      refine h.first x ?_
      simpa [Rounds.launch, rounds] using last
  case chain =>
    show (_ :: r.rounds).IsChain _
    cases rounds : r.rounds with
    | nil => exact List.isChain_singleton _
    | cons y earlier =>
      refine List.isChain_cons_cons.2 ⟨h.precedes waits due (by rw [rounds]; rfl), ?_⟩
      exact rounds ▸ h.chain
  case past =>
    intro x mem
    rcases List.mem_cons.1 mem with rfl | old
    · exact ⟨Nat.le_refl _, by simp⟩
    · exact h.past x old
  case working =>
    intro works
    obtain ⟨a, next, pass⟩ := h.working works
    cases (h.waiting waits).1.symm.trans pass
  case passing => exact fun _ => ⟨_, _, _, rfl, rfl, rfl, rfl⟩
  case signalled =>
    intro t signal
    cases untold.symm.trans signal
  case said =>
    intro _
    have said := h.said (by simp [waits])
    rwa [noticed, if_neg (by simp [waits])] at said

/-- A pass that is over does not work. -/
theorem rests_of_over {job : Job Unit} (pass : r.schedule.pass = some job)
    (finished : job.isOver = true) : r.working = false := by
  refine Bool.eq_false_iff.2 fun works => ?_
  obtain ⟨a, next, same⟩ := h.working works
  cases pass.symm.trans same
  cases finished

theorem notice {job : Job Unit} (passes : r.phase = .passing) (untold : r.signal = none)
    (pass : r.schedule.pass = some job) (finished : job.isOver = true) : (r.notice job).Steady := by
  obtain ⟨x, earlier, job', rounds, pass', stop, failed⟩ := h.passing passes
  cases pass.symm.trans pass'
  rw [finished, if_pos rfl] at stop
  refine
    { ticker := h.ticker, first := h.first, chain := h.chain, began := h.began, past := h.past
      working := fun works => ?working
      waiting := fun _ => ⟨rfl, fun y latest => ?ended, ?soon⟩
      passing := fun phase => by cases phase
      stopped := fun phase => by cases phase
      signalled := fun t signal => by cases untold.symm.trans signal
      said := fun _ => ?said }
  case working => cases (h.rests_of_over pass finished).symm.trans works
  case ended =>
    have latest : y ∈ r.rounds.head? := latest
    rw [rounds] at latest
    cases latest
    simp [stop]
  case soon =>
    have freed : r.freed = r.clock := by simp [Rounds.freed, rounds, stop]
    show r.clock ≤ max r.freed _
    rw [freed]
    exact Nat.le_max_left ..
  case said =>
    have said := h.said (by simp [passes])
    rw [noticed, if_pos passes, rounds, List.tail_cons] at said
    show r.lines ++ _ = List.replicate (r.rounds.countP _) _
    rw [said, rounds, List.countP_cons, failed]
    cases job.hasCrashed <;> simp [List.replicate_succ']

/-- A pass that waits for an answer is under way. -/
theorem passing_of_act {a : Action} {next : Option a.Answer → Job Unit} (rests : r.working = false)
    (pass : r.schedule.pass = some (.act a next)) :
    r.phase = .passing ∧
      ∃ x earlier, r.rounds = x :: earlier ∧ x.stop = none ∧ x.failed = false := by
  have passes : r.phase = .passing := by
    cases phase : r.phase with
    | waiting => cases (h.waiting phase).1.symm.trans pass
    | passing => rfl
    | stopped => cases ((h.stopped phase).2 rests).symm.trans pass
  obtain ⟨x, earlier, job, rounds, same, stop⟩ := h.passing passes
  cases pass.symm.trans same
  exact ⟨passes, x, earlier, rounds, stop⟩

/-- The pass under way is over now. -/
theorem finish {x : Round} {earlier : List Round} {rest : Job Unit}
    (passes : r.phase = .passing) (rests : r.working = false) (rounds : r.rounds = x :: earlier)
    (finished : rest.isOver = true) : (r.finish rest).Steady := by
  have ended : (r.finish rest).rounds =
      { x with stop := some r.clock, failed := rest.hasCrashed } :: earlier := by
    simp [Rounds.finish, rounds]
  refine
    { ticker := ?ticker, first := ?first, chain := ?chain, began := h.began, past := ?past
      working := fun works => by cases rests.symm.trans works
      waiting := fun phase => by cases passes.symm.trans phase
      passing := fun _ => ⟨_, earlier, rest, ended, rfl, by rw [finished]; rfl, rfl⟩
      stopped := fun phase => by cases passes.symm.trans phase
      signalled := ?signalled
      said := fun alive => ?said }
  case ticker =>
    refine Eq.trans (h.ticker : (r.finish rest).schedule.ticker = _) ?_
    rw [expected, expected, ended, rounds]
    rfl
  case first =>
    intro y last
    rw [ended] at last
    cases earlier with
    | nil =>
      cases last
      exact h.first x (by rw [rounds]; rfl)
    | cons z rest => exact h.first y (by rw [rounds]; exact last)
  case chain =>
    have chain := h.chain
    rw [rounds] at chain
    rw [ended]
    cases earlier with
    | nil => exact List.isChain_singleton _
    | cons z rest =>
      obtain ⟨precedes, chain⟩ := List.isChain_cons_cons.1 chain
      exact List.isChain_cons_cons.2 ⟨precedes, chain⟩
  case past =>
    intro y mem
    rw [ended] at mem
    have past := h.past
    rw [rounds] at past
    rcases List.mem_cons.1 mem with rfl | old
    · have started := (past x List.mem_cons_self).1
      exact ⟨started, fun stop same => by cases same; exact ⟨started, Nat.le_refl _⟩⟩
    · exact past y (List.mem_cons_of_mem _ old)
  case signalled =>
    intro t signal
    obtain ⟨past, now, starts⟩ := h.signalled t signal
    refine ⟨past, now, fun y mem => ?_⟩
    rw [ended] at mem
    rw [rounds] at starts
    rcases List.mem_cons.1 mem with rfl | old
    · exact starts x List.mem_cons_self
    · exact starts y (List.mem_cons_of_mem _ old)
  case said =>
    have said := h.said alive
    have passes' : (r.finish rest).phase = .passing := passes
    rw [noticed, if_pos passes, rounds] at said
    rw [noticed, if_pos passes', ended]
    exact said

/-- The pass under way goes on. -/
theorem goOn {x : Round} {earlier : List Round} {rest : Job Unit} (passes : r.phase = .passing)
    (rounds : r.rounds = x :: earlier) (under : x.stop = none) (calm : x.failed = false)
    (unfinished : rest.isOver = false) :
    Steady { r with schedule := r.schedule.withPass (some rest), working := true } := by
  cases rest with
  | done u => cases unfinished
  | crashed => cases unfinished
  | act a next =>
    exact
      { ticker := h.ticker, first := h.first, chain := h.chain, began := h.began, past := h.past
        working := fun _ => ⟨a, next, rfl⟩
        waiting := fun phase => by cases passes.symm.trans phase
        passing := fun _ => ⟨x, earlier, _, rounds, rfl, under, calm⟩
        stopped := fun phase => by cases passes.symm.trans phase
        signalled := h.signalled
        said := h.said }

theorem suspend (works : r.working = true) :
    Steady { r with
      working := false
      schedule := if r.phase = .stopped then r.schedule.withPass none else r.schedule } := by
  obtain ⟨a, next, pass⟩ := h.working works
  have awake : r.phase ≠ .waiting := fun phase => by cases (h.waiting phase).1.symm.trans pass
  refine
    { ticker := ?ticker, first := h.first, chain := h.chain, began := h.began, past := h.past
      working := fun works => by cases works
      waiting := fun phase => absurd phase awake
      passing := fun phase => ?passing
      stopped := fun phase => ?stopped
      signalled := h.signalled
      said := h.said }
  case ticker =>
    refine Eq.trans ?_ h.ticker
    dsimp only
    split <;> rfl
  case passing =>
    obtain ⟨x, earlier, job, rounds, same, stop⟩ := h.passing phase
    have kept : r.phase ≠ .stopped := fun stopped => by cases phase.symm.trans stopped
    exact ⟨x, earlier, job, rounds, by rw [if_neg kept, same], stop⟩
  case stopped =>
    have stopped : r.phase = .stopped := phase
    exact ⟨(h.stopped stopped).1, fun _ => by rw [if_pos stopped]; rfl⟩

theorem signal (untold : r.signal = none) : Steady { r with signal := some r.clock } where
  ticker := h.ticker
  first := h.first
  chain := h.chain
  began := h.began
  past := h.past
  working := h.working
  waiting := h.waiting
  passing := h.passing
  stopped phase := by
    have told := (h.stopped phase).1
    rw [untold] at told
    cases told
  signalled t same := by
    obtain rfl : r.clock = t := Option.some.inj same
    exact ⟨Nat.le_refl _, fun _ => rfl, fun x mem => (h.past x mem).1⟩
  said := h.said

theorem freed_le : r.freed ≤ r.clock := by
  unfold freed
  cases rounds : r.rounds with
  | nil => exact h.began
  | cons x earlier =>
    obtain ⟨started, finished⟩ := h.past x (by rw [rounds]; exact List.mem_cons_self)
    show x.stop.getD x.start ≤ r.clock
    cases stop : x.stop with
    | none => exact started
    | some time => exact (finished time stop).2

/-- A schedule that was not told to stop waits until its next pass starts, and starts it then. -/
theorem poll_of_waiting (waits : r.phase = .waiting) (untold : r.signal = none) :
    r.poll = if r.clock < r.next then none else some r.launch := by
  have pass := (h.waiting waits).1
  have freed := h.freed_le
  have due : r.schedule.isDue r.clock = true ↔ ¬ r.clock < r.next := by
    simp only [Schedule.isDue, pass, Option.isNone_none, Bool.true_and, Ticker.isDue, Rounds.next,
      decide_eq_true_iff]
    omega
  by_cases early : r.clock < r.next <;> simp [Rounds.poll, waits, untold, due, early]

theorem tick (quiet : r.poll = none) : Steady { r with clock := r.clock + 1 } where
  ticker := h.ticker
  first := h.first
  chain := h.chain
  began := Nat.le_succ_of_le h.began
  past x mem := by
    obtain ⟨started, finished⟩ := h.past x mem
    exact ⟨Nat.le_succ_of_le started, fun stop same =>
      ⟨(finished stop same).1, Nat.le_succ_of_le (finished stop same).2⟩⟩
  working := h.working
  waiting waits := by
    have waits : r.phase = .waiting := waits
    obtain ⟨pass, ended, -⟩ := h.waiting waits
    refine ⟨pass, ended, Nat.succ_le_of_lt (Nat.lt_of_not_le fun now => ?_)⟩
    have now : r.next ≤ r.clock := now
    rw [h.poll_of_waiting waits (untold_of_quiet quiet (by simp [waits])),
      if_neg (Nat.not_lt.2 now)] at quiet
    cases quiet
  passing passes := by
    have passes : r.phase = .passing := passes
    obtain ⟨x, earlier, job, rounds, pass, stop, failed⟩ := h.passing passes
    have untold := untold_of_quiet quiet (by simp [passes])
    have under : job.isOver = false := Bool.eq_false_iff.2 fun finished => by
      cases quiet.symm.trans (poll_of_over passes untold pass finished)
    rw [under] at stop
    exact ⟨x, earlier, job, rounds, pass, by rw [under]; exact stop, failed⟩
  stopped := h.stopped
  signalled t signal := by
    obtain ⟨past, -, starts⟩ := h.signalled t signal
    refine ⟨Nat.le_succ_of_le past, fun alive => ?_, starts⟩
    cases (untold_of_quiet quiet alive).symm.trans signal
  said := h.said

theorem move {m : Move} (moved : r.move m = some r') : r'.Steady := by
  cases does_of_move moved with
  | halt _ told => exact h.halt told
  | launch waits untold due => exact h.launch waits untold due
  | notice passes untold pass finished => exact h.notice passes untold pass finished
  | finish rests pass finished =>
    obtain ⟨passes, x, earlier, rounds, -⟩ := h.passing_of_act rests pass
    exact h.finish passes rests rounds finished
  | goOn rests pass unfinished =>
    obtain ⟨passes, x, earlier, rounds, under, calm⟩ := h.passing_of_act rests pass
    exact h.goOn passes rounds under calm unfinished
  | suspend works => exact h.suspend works
  | signal untold => exact h.signal untold
  | tick quiet => exact h.tick quiet

theorem play {moves : List Move} (played : r.play moves = some r') : r'.Steady :=
  play_keeps (fun _ _ _ moved steady => steady.move moved) played h

end Steady

theorem steady_play {s : Settings} {now : Nat} {moves : List Move}
    (played : (begin s now).play moves = some r) : r.Steady := (steady_begin s now).play played

/-! ## The next pass -/

/-- No pass is under way. -/
def Idle (r : Rounds) : Prop := ∀ x ∈ r.rounds.head?, x.stop.isSome = true

/-- A start that was noted stays noted. -/
theorem mem_starts_move {m : Move} (moved : r.move m = some r') {p : Nat × Nat}
    (noted : p ∈ r.starts) : p ∈ r'.starts := by
  cases does_of_move moved with
  | launch => exact List.mem_cons_of_mem _ noted
  | finish _ pass =>
    cases rounds : r.rounds with
    | nil => simp [starts, rounds] at noted
    | cons x earlier => simpa [starts, Rounds.finish, rounds] using noted
  | halt | notice | goOn | suspend | signal | tick => exact noted

theorem mem_starts_play {moves : List Move} (played : r.play moves = some r') {p : Nat × Nat}
    (noted : p ∈ r.starts) : p ∈ r'.starts :=
  play_keeps (fun _ _ _ moved => mem_starts_move moved) played noted

/-- The signal is not taken back. -/
theorem told_move {m : Move} (moved : r.move m = some r') (told : r.signal ≠ none) :
    r'.signal ≠ none := by
  cases does_of_move moved with
  | signal untold => exact absurd untold told
  | halt | launch | notice | finish | goOn | suspend | tick => exact told

theorem told_play {moves : List Move} (played : r.play moves = some r') (told : r.signal ≠ none) :
    r'.signal ≠ none :=
  play_keeps (fun _ _ _ moved => told_move moved) played told

namespace Steady

variable (h : r.Steady)

include h

/-- An idle schedule that was not told to stop waits, or is about to. -/
theorem of_idle (idle : r.Idle) (untold : r.signal = none) :
    r.phase = .waiting ∨ r.phase = .passing ∧ r.freed = r.clock ∧
      ∃ job, r.schedule.pass = some job ∧ job.isOver = true := by
  cases phase : r.phase with
  | waiting => exact .inl rfl
  | stopped =>
    have told := (h.stopped phase).1
    rw [untold] at told
    cases told
  | passing =>
    obtain ⟨x, earlier, job, rounds, pass, stop, -⟩ := h.passing phase
    have finished : job.isOver = true := by
      have ended := idle x (by rw [rounds]; rfl)
      rw [stop] at ended
      by_contra under
      rw [if_neg under] at ended
      cases ended
    rw [finished, if_pos rfl] at stop
    exact .inr ⟨rfl, by simp [freed, rounds, stop], job, pass, finished⟩

theorem clock_le_next (idle : r.Idle) (untold : r.signal = none) : r.clock ≤ r.next := by
  rcases h.of_idle idle untold with waits | ⟨-, freed, -⟩
  · exact (h.waiting waits).2.2
  · rw [Rounds.next, freed]
    exact Nat.le_max_left ..

/-- While nothing is under way no pass waits for an answer. -/
theorem pass_ne_act (idle : r.Idle) (untold : r.signal = none) (a : Action)
    (next : Option a.Answer → Job Unit) : r.schedule.pass ≠ some (.act a next) := by
  intro pass
  rcases h.of_idle idle untold with waits | ⟨-, -, job, same, finished⟩
  · cases (h.waiting waits).1.symm.trans pass
  · cases same.symm.trans pass
    cases finished

/-- An idle schedule that is not told to stop stays so until it starts its next pass. -/
theorem starts_next_move {m : Move} (idle : r.Idle) (moved : r.move m = some r')
    (untold : r'.signal = none) :
    r'.rounds = r.rounds ∧ r'.schedule.ticker = r.schedule.ticker ∧ r'.began = r.began ∨
      (r.schedule.ticker.due, r.next) ∈ r'.starts := by
  have untold' : r.signal = none := by
    by_contra told
    exact told_move moved told untold
  cases does_of_move moved with
  | launch waits _ due =>
    have launched : some r.launch = if r.clock < r.next then none else some r.launch :=
      (show r.poll = some r.launch from moved).symm.trans (h.poll_of_waiting waits untold')
    have late : ¬ r.clock < r.next := fun early => by
      rw [if_pos early] at launched
      cases launched
    have now : r.clock = r.next :=
      Nat.le_antisymm (h.clock_le_next idle untold') (Nat.not_lt.1 late)
    exact .inr (now ▸ List.mem_cons_self)
  | finish _ pass | goOn _ pass => exact absurd pass (h.pass_ne_act idle untold' _ _)
  | suspend works =>
    obtain ⟨a, next, pass⟩ := h.working works
    exact absurd pass (h.pass_ne_act idle untold' a next)
  | signal => cases untold
  | halt _ told =>
    rw [untold'] at told
    cases told
  | notice | tick => exact .inl ⟨rfl, rfl, rfl⟩

/-- Once the clock has passed the time of the next pass, that pass has started, and on time. -/
theorem starts_next {moves : List Move} (idle : r.Idle) (played : r.play moves = some r')
    (untold : r'.signal = none) (past : r.next < r'.clock) :
    (r.schedule.ticker.due, r.next) ∈ r'.starts := by
  induction moves generalizing r with
  | nil =>
    cases played
    exact absurd past (Nat.not_lt.2 (h.clock_le_next idle untold))
  | cons m rest ih =>
    obtain ⟨v, moved, played⟩ := Option.bind_eq_some_iff.1 played
    have untoldThen : v.signal = none := by
      by_contra told
      exact told_play played told untold
    rcases h.starts_next_move idle moved untoldThen with ⟨rounds, ticker, began⟩ | started
    · have next : v.next = r.next := by
        rw [Rounds.next, Rounds.next, Rounds.freed, Rounds.freed, rounds, ticker, began]
      rw [← ticker, ← next]
      exact ih (h.move moved) (fun x latest => idle x (rounds ▸ latest)) played (next.symm ▸ past)
    · exact mem_starts_play played started

end Steady

/-! ## Nothing but how long passes take -/

/-- When the passes were due and when they started follows from how long they took. -/
theorem starts_unique {period first : Nat} {l l' : List Round}
    (chain : l.IsChain fun x' x => x.Precedes period x')
    (chain' : l'.IsChain fun x' x => x.Precedes period x')
    (begun : ∀ x ∈ l.getLast?, x.tick = first ∧ x.start = x.tick)
    (begun' : ∀ x ∈ l'.getLast?, x.tick = first ∧ x.start = x.tick)
    (same : l.map Round.took = l'.map Round.took) :
    l.map (fun x => (x.tick, x.start)) = l'.map fun x => (x.tick, x.start) := by
  induction l generalizing l' with
  | nil =>
    obtain rfl : l' = [] := List.map_eq_nil_iff.1 same.symm
    rfl
  | cons x rest ih =>
    cases l' with
    | nil => cases same
    | cons x' rest' =>
      obtain ⟨-, same⟩ := List.cons_eq_cons.1 same
      cases rest with
      | nil =>
        obtain rfl : rest' = [] := List.map_eq_nil_iff.1 same.symm
        obtain ⟨tick, start⟩ := begun x rfl
        obtain ⟨tick', start'⟩ := begun' x' rfl
        simp [start, start', tick, tick']
      | cons y more =>
        cases rest' with
        | nil => cases same
        | cons y' more' =>
          obtain ⟨precedes, chain⟩ := List.isChain_cons_cons.1 chain
          obtain ⟨precedes', chain'⟩ := List.isChain_cons_cons.1 chain'
          have earlier := ih chain chain' begun begun' same
          obtain ⟨pair, -⟩ := List.cons_eq_cons.1 earlier
          obtain ⟨took, -⟩ := List.cons_eq_cons.1 same
          have now := precedes.unique precedes' pair took
          exact List.cons_eq_cons.2 ⟨now, earlier⟩

/-! ## After the signal -/

/-- A schedule that stopped starts nothing, and the pass that it gave up gets no answer. -/
theorem Steady.unanswered (h : r.Steady) (stopped : r.phase = .stopped)
    (reply : (a : Action) → Option a.Answer) : r.move (.answer reply) = none := by
  cases moved : r.move (.answer reply) with
  | none => rfl
  | some v =>
    cases does_of_move moved with
    | finish rests pass | goOn rests pass =>
      cases stopped.symm.trans (h.passing_of_act rests pass).1

theorem Steady.stopped_move (h : r.Steady) (stopped : r.phase = .stopped) {m : Move}
    (moved : r.move m = some r') :
    r'.phase = .stopped ∧ r'.rounds = r.rounds ∧ (r.working = false → r'.working = false) := by
  cases does_of_move moved with
  | halt alive => exact absurd stopped alive
  | launch waits => cases stopped.symm.trans waits
  | notice passes => cases stopped.symm.trans passes
  | finish | goOn => cases (h.unanswered stopped _).symm.trans moved
  | suspend => exact ⟨stopped, rfl, fun _ => rfl⟩
  | signal | tick => exact ⟨stopped, rfl, id⟩

theorem Steady.stopped_play (h : r.Steady) (stopped : r.phase = .stopped) {moves : List Move}
    (played : r.play moves = some r') :
    r'.phase = .stopped ∧ r'.rounds = r.rounds ∧ (r.working = false → r'.working = false) := by
  let I := fun v : Rounds => v.Steady ∧ v.phase = .stopped ∧ v.rounds = r.rounds ∧
    (r.working = false → v.working = false)
  suffices I r' from this.2
  refine play_keeps (I := I) ?_ played ⟨h, stopped, rfl, id⟩
  rintro v v' m moved ⟨steady, stopped, rounds, rests⟩
  obtain ⟨phase', rounds', rests'⟩ := steady.stopped_move stopped moved
  exact ⟨steady.move moved, phase', rounds'.trans rounds, rests' ∘ rests⟩

/-! ## The clock goes on -/

/-- Less is left of a pass. -/
inductive Shrinks : Option (Job Unit) → Option (Job Unit) → Prop
  | dropped (job : Job Unit) : Shrinks none (some job)
  | answered (a : Action) (next : Option a.Answer → Job Unit) (reply : Option a.Answer) :
    Shrinks (some (next reply)) (some (.act a next))

theorem wellFounded_shrinks : WellFounded Shrinks := by
  have none : Acc Shrinks none := ⟨_, fun _ shrinks => nomatch shrinks⟩
  have some : ∀ job, Acc Shrinks (some job) := by
    intro job
    induction job with
    | done | crashed =>
      refine ⟨_, fun o shrinks => ?_⟩
      cases shrinks
      exact none
    | act a next ih =>
      refine ⟨_, fun o shrinks => ?_⟩
      cases shrinks with
      | dropped => exact none
      | answered _ _ reply => exact ih reply
  exact ⟨fun o => o.casesOn none some⟩

/-- How often the schedule can still start a pass now, stop or be told to. -/
def turns (r : Rounds) : Nat :=
  (if r.signal.isSome then 0 else 1) + (if r.phase = .stopped then 0 else 1) +
    r.schedule.ticker.arrears r.clock

/-- Something other than the clock moves. -/
def Stirs (r' r : Rounds) : Prop :=
  0 < r.schedule.ticker.period ∧ ∃ m, m ≠ .tick ∧ r.move m = some r'

/-- What gets less when something other than the clock moves: what is left to do for the schedule,
then for the pass, and then whether the pass works. -/
def left (r : Rounds) : Nat × Option (Job Unit) × Bool := (r.turns, r.schedule.pass, r.working)

/-- The order in which it gets less. -/
def Less : Nat × Option (Job Unit) × Bool → Nat × Option (Job Unit) × Bool → Prop :=
  Prod.Lex (· < ·) (Prod.Lex Shrinks fun b b' => b = false ∧ b' = true)

theorem wellFounded_less : WellFounded Less := by
  have rests : WellFounded fun b b' : Bool => b = false ∧ b' = true := by
    refine ⟨fun b => ⟨_, fun b' less => ⟨_, fun b'' less' => ?_⟩⟩⟩
    cases less.1.symm.trans less'.2
  exact Nat.lt_wfRel.wf.prod_lex (wellFounded_shrinks.prod_lex rests)

theorem less_of_turns (fewer : r'.turns < r.turns) : Less r'.left r.left := .left _ _ fewer

theorem less_of_shrinks (same : r'.turns = r.turns)
    (shrinks : Shrinks r'.schedule.pass r.schedule.pass) : Less r'.left r.left := by
  unfold left
  rw [same]
  exact .right _ (.left _ _ shrinks)

theorem less_of_stirs (stirs : r'.Stirs r) : Less r'.left r.left := by
  obtain ⟨paced, m, notTick, moved⟩ := stirs
  cases does_of_move moved with
  | halt alive told =>
    have ticker : r.halt.schedule.ticker = r.schedule.ticker := by
      show (if r.working then r.schedule else r.schedule.withPass none).ticker = _
      split <;> rfl
    refine less_of_turns ?_
    show (if r.signal.isSome then 0 else 1) + 0 + r.halt.schedule.ticker.arrears r.clock < r.turns
    rw [turns, ticker, if_neg alive]
    omega
  | launch waits untold due =>
    have fewer := r.schedule.ticker.arrears_fire_lt paced (Bool.and_eq_true_iff.1 due).2
    refine less_of_turns ?_
    show (if r.signal.isSome then 0 else 1) + 1 + (r.schedule.ticker.fire r.clock).arrears r.clock <
      r.turns
    rw [turns, waits]
    exact Nat.add_lt_add_left fewer _
  | notice passes untold pass finished =>
    refine less_of_shrinks ?_ (pass ▸ .dropped _)
    rw [turns, turns, passes]
    rfl
  | finish rests pass finished => exact less_of_shrinks rfl (pass ▸ .answered _ _ _)
  | goOn rests pass => exact less_of_shrinks rfl (pass ▸ .answered _ _ _)
  | signal untold =>
    refine less_of_turns ?_
    show 0 + (if r.phase = .stopped then 0 else 1) + r.schedule.ticker.arrears r.clock < r.turns
    rw [turns, untold, if_neg (by simp : ¬ (none : Option Nat).isSome = true)]
    omega
  | suspend works =>
    -- A pass that is given up is gone, and any other does not work any longer.
    by_cases dropped : r.phase = .stopped ∧ r.schedule.pass ≠ none
    · obtain ⟨stopped, under⟩ := dropped
      obtain ⟨job, pass⟩ := Option.ne_none_iff_exists'.1 under
      refine less_of_shrinks ?_ ?_
      · simp only [turns, if_pos stopped]
        rfl
      · simp only [if_pos stopped, pass]
        exact .dropped job
    · have same : (if r.phase = .stopped then r.schedule.withPass none else r.schedule)
          = r.schedule := by
        split
        · next stopped =>
          have none : r.schedule.pass = none := by_contra fun under => dropped ⟨stopped, under⟩
          rw [Schedule.withPass, ← none]
        · rfl
      rw [same]
      exact .right _ (.right _ ⟨rfl, works⟩)
  | tick => exact absurd rfl notTick

theorem wellFounded_stirs : WellFounded Stirs :=
  Subrelation.wf less_of_stirs (InvImage.wf left wellFounded_less)

/-! ## Whole runs -/

theorem constants_move {m : Move} (moved : r.move m = some r') :
    r'.settings = r.settings ∧ r'.began = r.began := by
  cases does_of_move moved <;> exact ⟨rfl, rfl⟩

theorem constants_play {moves : List Move} (played : r.play moves = some r') :
    r'.settings = r.settings ∧ r'.began = r.began := by
  refine play_keeps (I := fun v => v.settings = r.settings ∧ v.began = r.began) ?_ played
    ⟨rfl, rfl⟩
  rintro v v' m moved ⟨settings, began⟩
  obtain ⟨settings', began'⟩ := constants_move moved
  exact ⟨settings'.trans settings, began'.trans began⟩

/-- The clock does not stand still for ever. -/
theorem Steady.not_stirring (h : r.Steady) (paced : 0 < r.settings.period) (f : Nat → Rounds)
    (first : f 0 = r) : ¬ ∀ n, ∃ m, m ≠ .tick ∧ (f n).move m = some (f (n + 1)) := by
  intro stirring
  have kept : ∀ n, (f n).Steady ∧ 0 < (f n).settings.period := by
    intro n
    induction n with
    | zero => exact first ▸ ⟨h, paced⟩
    | succ n ih =>
      obtain ⟨m, -, moved⟩ := stirring n
      exact ⟨ih.1.move moved, (constants_move moved).1 ▸ ih.2⟩
  have descends : ∀ n, Stirs (f (n + 1)) (f n) := fun n =>
    ⟨by rw [(kept n).1.period]; exact (kept n).2, stirring n⟩
  exact (wellFounded_iff_isEmpty_descending_chain.1 wellFounded_stirs).false ⟨f, descends⟩

/-- Whatever passes do, the schedule keeps time: its first pass starts after the initial delay, and
every other when it is due or, if that is later, when the one before it is over. -/
theorem keeps_time {s : Settings} {now : Nat} {moves : List Move}
    (played : (begin s now).play moves = some r) :
    -- When passes start.
    (∀ x ∈ r.rounds.reverse.head?, x.tick = now + s.initialDelay ∧ x.start = x.tick) ∧
    r.rounds.reverse.IsChain (Round.Precedes s.period) ∧
    -- They come neither at once nor in bursts.
    r.rounds.reverse.IsChain (fun x x' =>
      (∃ stop ∈ x.stop, stop ≤ x'.start) ∧ x.start + s.period ≤ x'.start + 5) ∧
    -- The next pass starts and is never late, unless the schedule is told to stop.
    (r.Idle → ∀ later r', r.play later = some r' → r'.signal = none → r.next < r'.clock →
      (r.schedule.ticker.due, r.next) ∈ r'.starts) ∧
    ((∃ r', r.poll = some r') ∨ r.move .tick = some { r with clock := r.clock + 1 }) ∧
    (0 < s.period → ∀ f : Nat → Rounds, f 0 = r →
      ¬ ∀ n, ∃ m, m ≠ .tick ∧ (f n).move m = some (f (n + 1))) ∧
    -- Which passes break down is told, and makes no other difference.
    (r.phase ≠ .stopped → r.lines = List.replicate (r.noticed.countP (·.failed)) .passFailed) ∧
    (∀ moves' r', (begin s now).play moves' = some r' →
      r'.rounds.map Round.took = r.rounds.map Round.took → r'.starts = r.starts) ∧
    -- The schedule stops when it is told to, at once.
    (r.phase = .stopped → r.signal.isSome = true) ∧
    (∀ t ∈ r.signal, (r.phase ≠ .stopped → t = r.clock ∧ r.poll = some r.halt) ∧
      ∀ x ∈ r.rounds, x.start ≤ t) ∧
    -- From then on no pass starts, and the one under way is given up when it has to wait.
    (r.phase = .stopped → ∀ later r', r.play later = some r' →
      r'.phase = .stopped ∧ r'.rounds = r.rounds ∧
        (r.working = false → r'.schedule.pass = none) ∧
        (∀ reply, r'.move (.answer reply) = none) ∧
        ∀ r'', r'.move .suspend = some r'' → r''.schedule.pass = none) := by
  have h := steady_play played
  obtain ⟨settings, began⟩ := constants_play played
  have settings : r.settings = s := settings
  have began : r.began = now := began
  have chain := h.chain
  have first := h.first
  rw [settings] at chain first
  rw [began] at first
  have forward := List.isChain_reverse.2 chain
  refine ⟨?_, forward, forward.imp fun x x' precedes => ⟨?_, precedes.spaced⟩,
    fun idle later r' => h.starts_next idle, ?_, fun paced => h.not_stirring (settings ▸ paced),
    h.said, fun moves' r' played' same => ?_, fun stopped => (h.stopped stopped).1,
    fun t told => ?_, fun stopped later r' played' => ?_⟩
  · rwa [List.head?_reverse]
  · obtain ⟨⟨stop, stopped, -, start⟩, -⟩ := precedes
    exact ⟨stop, stopped, start ▸ Nat.le_max_left ..⟩
  · cases polled : r.poll with
    | some v => exact .inl ⟨v, rfl⟩
    | none => exact .inr (by simp [move, polled])
  · have h' := steady_play played'
    obtain ⟨settings', began'⟩ := constants_play played'
    have settings' : r'.settings = s := settings'
    have began' : r'.began = now := began'
    have chain' := h'.chain
    have first' := h'.first
    rw [settings'] at chain' first'
    rw [began'] at first'
    exact starts_unique chain' chain first' first same
  · obtain ⟨-, now, starts⟩ := h.signalled t told
    exact ⟨fun alive => ⟨now alive, poll_of_told alive (Option.isSome_of_mem told)⟩, starts⟩
  · obtain ⟨phase, rounds, rests⟩ := h.stopped_play stopped played'
    have h' := h.play played'
    refine ⟨phase, rounds, fun idle => (h'.stopped phase).2 (rests idle), h'.unanswered phase,
      fun r'' suspended => ?_⟩
    cases does_of_move suspended with
    | suspend works => simp [phase, Schedule.withPass]

/-- The configuration cannot be read. -/
def unreadable : (a : Action) → Option a.Answer
  | .requestDevices _ => some none
  | .receiveDevices _ appId => some (.error (.unavailable appId))
  | .log _ => some ()
  | _ => none

/-- A pass that takes twenty milliseconds and breaks down, one that takes no time, and one that is
given up. -/
def Move.sample : List Move :=
  List.flatten [.replicate 2 .tick, [.poll], .replicate 20 .tick, [.answer fun _ => none, .poll],
    [.poll, .answer unreadable, .suspend, .answer unreadable, .suspend, .answer unreadable, .poll],
    .replicate 10 .tick, [.poll, .signal, .poll]]

/-- A schedule whose passes are ten milliseconds apart. -/
def brisk : Settings := { Settings.default with initialDelay := 2, period := 10 }

theorem keeps_time_sample :
    ∃ r, (begin brisk 0).play Move.sample = some r ∧
      r.rounds.reverse =
        [⟨2, 2, some 22, true⟩, ⟨12, 22, some 22, false⟩, ⟨32, 32, none, false⟩] ∧
      r.phase = .stopped ∧ r.schedule.pass.isNone = true ∧
      r.rounds.reverse.IsChain (Round.Precedes 10) := by
  have check : ((begin brisk 0).play Move.sample).any (fun r =>
      r.rounds.reverse =
        [⟨2, 2, some 22, true⟩, ⟨12, 22, some 22, false⟩, ⟨32, 32, none, false⟩] ∧
      r.phase = .stopped ∧ r.schedule.pass.isNone = true) = true := by
    decide +kernel
  obtain ⟨r, played, ran⟩ := (Option.any_eq_true _ _).1 check
  obtain ⟨rounds, phase, given⟩ := of_decide_eq_true ran
  exact ⟨r, played, rounds, phase, given, (keeps_time played).2.1⟩

end Rounds

end Southbound
