import Southbound.Proofs.Timeline
import Southbound.Proofs.Workforce

/-!
# Workers on the clock serve first come, first served

A pool whose workers hesitate nowhere treats the jobs that it accepts as `Served` demands, however
the workers take turns.  `Punctual` is what every beat keeps: the jobs have been started and ended
when the timeline of the accepted jobs says, and none of them is late.

While the clock stands still, workers can only do what the timeline foresees for this moment.  The
clock goes on only when nobody can do anything (`Timesheet.isQuiet`).  If then a job is waiting, all
workers have jobs in progress (`Punctual.full`), so that the waiting job could not start at this
moment either.
-/

namespace Southbound

namespace Timesheet

open Workforce

variable {s s' : Timesheet} {n : Nat} {m : Workforce.Move Submission}

/-! ## What can happen -/

theorem of_go (went : s.go m = some s') :
    s.admits m = true ∧ ∃ force, s.force.move (·.job.label) m = some force ∧ s' = s.note force := by
  unfold go at went
  split at went
  · next admits =>
    obtain ⟨force, moved, rfl⟩ := Option.map_eq_some_iff.1 went
    exact ⟨admits, force, moved, rfl⟩
  · cases went

theorem go_eq_none (admits : s.admits m = true) (stuck : s.go m = none) :
    s.force.move (·.job.label) m = none := by
  simpa [go, admits] using stuck

theorem isDue_of_admits {place : Nat} {failed : Bool} {t : Submission}
    (found : s.force.workers[place]? = some (.serving t))
    (admits : s.admits (.work place (.finish failed)) = true) : s.isDue t = true := by
  simp only [Timesheet.admits, found, Bool.and_eq_true] at admits
  exact admits.2

theorem calls_note {force : Workforce Submission}
    (same : force.farewells.length = s.force.farewells.length) :
    (s.note force).calls = s.calls := by
  simp [note, ← same]

/-- The job is submitted. -/
def submit (s : Timesheet) (t : Submission) : Timesheet := s.note (s.force.submit (·.job.label) t)

/-- While the pool is open, the job waits then, and nothing else changes. -/
theorem submit_eq (opened : s.force.accepting = true) (t : Submission) : s.submit t =
    { s with
      force := { s.force with
        queue := s.force.queue ++ [t]
        submitted := s.force.submitted ++ [(t, true)] } } := by
  simp [submit, note, Workforce.submit, opened]

theorem accepted_submit (opened : s.force.accepting = true) (t : Submission) :
    (s.submit t).force.accepted = s.force.accepted ++ [t] := by
  simp [submit_eq opened, Workforce.accepted]

theorem line_submit (opened : s.force.accepting = true) (t : Submission) :
    (s.submit t).line n = (s.line n).enter t := by
  rw [line, accepted_submit opened, List.foldl_append, submit_eq opened]
  rfl

theorem mem_all (deed : Worker.Deed) : deed ∈ Worker.Deed.all := by
  rcases deed with _ | _ | _ | (_ | _) | _ | _ <;> decide

theorem isInner_of_mem_turns (mem : m ∈ s.turns) : m.isInner = true := by
  cases m with
  | submit | close => simp [turns] at mem
  | work | claim | leave => rfl

/-- What workers and shutdowns can do is among what they could think of. -/
theorem mem_turns (inner : m.isInner = true) (went : s.go m = some s') : m ∈ s.turns := by
  obtain ⟨-, force, moved, -⟩ := of_go went
  cases m with
  | submit | close => cases inner
  | work place deed =>
    obtain ⟨worker, found, -⟩ := Option.bind_eq_some_iff.1 moved
    simpa [turns, mem_all] using (List.getElem?_eq_some_iff.1 found).1
  | claim call =>
    simpa [turns] using (List.getElem?_eq_some_iff.1 (of_claim moved).1).1
  | leave call =>
    obtain ⟨_, found, -⟩ := of_leave moved
    simpa [turns] using (List.getElem?_eq_some_iff.1 found).1

/-- The clock goes on only when neither a worker nor a shutdown can do anything. -/
theorem isQuiet_iff : s.isQuiet = true ↔ ∀ m : Workforce.Move Submission,
    m.isInner = true → s.go m = none := by
  rw [isQuiet, List.all_eq_true]
  constructor
  · intro quiet m inner
    refine Option.eq_none_iff_forall_ne_some.2 fun s' went => ?_
    have stuck := quiet m (mem_turns inner went)
    rw [went] at stuck
    cases stuck
  · intro stuck m mem
    rw [stuck m (isInner_of_mem_turns mem)]
    rfl

theorem play_append {before after : List Beat} :
    s.play (before ++ after) = (s.play before).bind fun v => v.play after := by
  induction before generalizing s with
  | nil => rfl
  | cons b rest ih =>
    simp only [List.cons_append, play, Option.bind_assoc]
    exact congrArg _ (funext fun _ => ih)

/-! ## Which workers are busy -/

/-- What a replaced entry selects is new, and all the rest is not. -/
theorem mem_filterMap_set {α β : Type} {f : α → Option β} {l : List α} {i : Nat} {a : α} {b : β}
    (mem : b ∈ (l.set i a).filterMap f) : b ∈ l.filterMap f ∨ f a = some b := by
  obtain ⟨x, held, selects⟩ := List.mem_filterMap.1 mem
  rcases List.mem_or_eq_of_mem_set held with old | rfl
  · exact .inl (List.mem_filterMap.2 ⟨x, old, selects⟩)
  · exact .inr selects

theorem length_busy_le (workers : List (Worker Submission)) :
    (workers.filterMap (·.running?)).length + (workers.filterMap (·.carried?)).length +
      workers.countP (·.isListening) ≤ workers.length := by
  induction workers with
  | nil => exact le_rfl
  | cons worker rest ih =>
    cases worker <;>
      simp [Worker.running?, Worker.carried?, Worker.isListening] at ih ⊢ <;> omega

/-- A worker that listens has no job. -/
theorem length_busy_lt (listening : .listening ∈ s.force.workers) :
    s.force.running.length + s.force.carried.length < s.force.workers.length := by
  have some : 0 < s.force.workers.countP (·.isListening) :=
    List.countP_pos_iff.2 ⟨_, listening, rfl⟩
  have := length_busy_le s.force.workers
  simp only [running, carried] at *
  omega

/-! ## When jobs should run -/

/-- When the accepted jobs should run, the oldest first. -/
def spans (s : Timesheet) (n : Nat) : List Span := (s.line n).spans

/-- When an accepted job should run. -/
def span (s : Timesheet) (n : Nat) (t : Submission) : Span := ((s.spans n)[t.number]?).getD ⟨0, 0⟩

theorem span_congr (same : s'.line n = s.line n) : s'.span n = s.span n := by
  funext t
  rw [span, span, spans, spans, same]

/-- A shutdown that was called at the time has returned or has something to wait for; no job was
accepted after that time. -/
structure Awaited (n : Nat) (s : Timesheet) (farewells : List Farewell) (call time : Nat) :
    Prop where
  last : (s.line n).clock ≤ time
  past : time ≤ s.clock
  waits : farewells[call]? = some .returned ∨
    ∃ ending ∈ endings time (s.spans n), s.clock ≤ ending

/-- Times noted with jobs stay right when they are noted for more jobs at the right moment. -/
theorem stamped_append {noted : List (Submission × Nat)} {jobs more : List Submission}
    {due : Submission → Nat} {now : Nat}
    (h : noted.map (·.1) = jobs ∧ ∀ e ∈ noted, e.2 = due e.1) (right : ∀ t ∈ more, due t = now) :
    (noted ++ more.map (·, now)).map (·.1) = jobs ++ more ∧
      ∀ e ∈ noted ++ more.map (·, now), e.2 = due e.1 := by
  refine ⟨by simp [h.1, Function.comp_def], fun e mem => ?_⟩
  rcases List.mem_append.1 mem with earlier | later
  · exact h.2 e earlier
  · obtain ⟨t, new, rfl⟩ := List.mem_map.1 later
    exact (right t new).symm

/-- Jobs were started and ended when they should be, and no job is late. -/
structure Punctual (n : Nat) (s : Timesheet) : Prop where
  accounted : s.force.Accounted
  attended : s.force.Attended n
  fair : (s.line n).Fair (max n 1) s.force.accepted
  clock : (s.line n).clock ≤ s.clock
  /-- Accepted jobs are numbered in the order in which they were accepted. -/
  numbered : ∀ (i : Nat) (t : Submission), s.force.accepted[i]? = some t → t.number = i
  welcome : s.force.accepting = true → s.force.submitted.length = s.force.accepted.length
  begun : s.begun.map (·.1) = s.force.started ∧ ∀ e ∈ s.begun, e.2 = (s.span n e.1).start
  finished : s.finished.map (·.1) = s.force.ended ∧ ∀ e ∈ s.finished, e.2 = (s.span n e.1).stop
  waiting : ∀ t ∈ s.force.queue, s.clock ≤ (s.span n t).start
  carried : ∀ t ∈ s.force.carried, (s.span n t).start = s.clock
  running : ∀ t ∈ s.force.running, (s.span n t).start ≤ s.clock ∧ s.clock ≤ (s.span n t).stop
  ended : ∀ t ∈ s.force.ended, (s.span n t).stop ≤ s.clock
  calls : s.calls.length = s.force.farewells.length
  called : ∀ (call time : Nat), s.calls[call]? = some time →
    s.Awaited n s.force.farewells call time

namespace Punctual

variable (h : s.Punctual n) {t : Submission}

include h

theorem span_eq {i : Nat} {span : Span} (job : s.force.accepted[i]? = some t)
    (at_i : (s.spans n)[i]? = some span) : s.span n t = span := by
  rw [Timesheet.span, h.numbered i t job, at_i]
  rfl

theorem length_spans : (s.spans n).length = s.force.accepted.length := h.fair.served.length

theorem exists_span {i : Nat} (job : s.force.accepted[i]? = some t) :
    (s.spans n)[i]? = some (s.span n t) := by
  have inside : i < (s.spans n).length := by
    rw [h.length_spans]
    exact (List.getElem?_eq_some_iff.1 job).1
  have at_i := List.getElem?_eq_getElem inside
  rw [h.span_eq job at_i, at_i]

theorem map_span : s.force.accepted.map (s.span n) = s.spans n := by
  refine List.ext_getElem? fun i => ?_
  rw [List.getElem?_map]
  cases job : s.force.accepted[i]? with
  | none =>
    have outside := List.getElem?_eq_none_iff.1 job
    refine (List.getElem?_eq_none ?_).symm
    rwa [h.length_spans]
  | some t => exact (h.exists_span job).symm

theorem span_mem (mem : t ∈ s.force.accepted) : s.span n t ∈ s.spans n :=
  h.map_span ▸ List.mem_map_of_mem mem

theorem stop_eq (mem : t ∈ s.force.accepted) :
    (s.span n t).stop = (s.span n t).start + t.job.duration := by
  obtain ⟨i, job⟩ := List.mem_iff_getElem?.1 mem
  exact h.fair.served.stop i t _ job (h.exists_span job)

/-! ### Where jobs are -/

theorem accepted_of_taken (mem : t ∈ s.force.taken) : t ∈ s.force.accepted := by
  rw [h.accounted.accepted]
  exact List.mem_append_left _ mem

theorem accepted_of_queue (mem : t ∈ s.force.queue) : t ∈ s.force.accepted := by
  rw [h.accounted.accepted]
  exact List.mem_append_right _ mem

theorem taken_of_carried (mem : t ∈ s.force.carried) : t ∈ s.force.taken :=
  h.accounted.taken.mem_iff.2 (List.mem_append_right _ mem)

theorem taken_of_started (mem : t ∈ s.force.started) : t ∈ s.force.taken :=
  h.accounted.taken.mem_iff.2 (List.mem_append_left _ mem)

theorem started_of_running (mem : t ∈ s.force.running) : t ∈ s.force.started :=
  h.accounted.started.mem_iff.2 (List.mem_append_right _ mem)

theorem started_of_ended (mem : t ∈ s.force.ended) : t ∈ s.force.started :=
  h.accounted.started.mem_iff.2 (List.mem_append_left _ mem)

/-- Every job that was taken is with a worker or has ended. -/
theorem taken_perm : s.force.taken.Perm
    (s.force.ended ++ s.force.running ++ s.force.carried) :=
  h.accounted.taken.trans (h.accounted.started.append_right _)

theorem start_le (mem : t ∈ s.force.taken) : (s.span n t).start ≤ s.clock := by
  have stop := h.stop_eq (h.accepted_of_taken mem)
  rcases List.mem_append.1 (h.taken_perm.mem_iff.1 mem) with started | carried
  · rcases List.mem_append.1 started with ended | running
    · have := h.ended t ended
      omega
    · exact (h.running t running).1
  · exact (h.carried t carried).le

/-! ### A job that is taken starts in time -/

theorem take_spans :
    (s.spans n).take s.force.taken.length = s.force.taken.map (s.span n) := by
  rw [← h.map_span, h.accounted.accepted, List.map_append]
  exact List.take_left' (by simp)

/-- The taken jobs that are in progress are with workers. -/
theorem inProgress_le : inProgress (s.force.taken.map (s.span n)) s.clock ≤
    s.force.running.length + s.force.carried.length := by
  have finished : s.force.ended.countP (fun t => (s.span n t).start ≤ s.clock ∧
      s.clock < (s.span n t).stop) = 0 :=
    List.countP_eq_zero.2 fun t mem => by simpa using fun _ => h.ended t mem
  have running := List.countP_le_length (l := s.force.running) (p := fun t =>
    (s.span n t).start ≤ s.clock ∧ s.clock < (s.span n t).stop)
  have carried := List.countP_le_length (l := s.force.carried) (p := fun t =>
    (s.span n t).start ≤ s.clock ∧ s.clock < (s.span n t).stop)
  rw [inProgress, List.countP_map]
  have split := h.taken_perm.countP_eq (fun t =>
    (s.span n t).start ≤ s.clock ∧ s.clock < (s.span n t).stop)
  rw [List.countP_append, List.countP_append, finished] at split
  exact (split.trans_le (by omega))

/-- The first job in the queue is due to start when a worker listens. -/
theorem start_eq_clock {rest : List Submission} (first : s.force.queue = t :: rest)
    (listening : .listening ∈ s.force.workers) : (s.span n t).start = s.clock := by
  have job : s.force.accepted[s.force.taken.length]? = some t := by
    rw [h.accounted.accepted, first]
    simp
  have mem := List.mem_of_getElem? job
  have least := h.fair.served.start _ t _ job (h.exists_span job)
  rw [show (s.line n).spans = s.spans n from rfl, h.take_spans] at least
  refine le_antisymm (least.2 ⟨(h.fair.arrived t mem).trans h.clock, fun last mem => ?_, ?_⟩)
    (h.waiting t (first ▸ List.mem_cons_self))
  · obtain ⟨t', taken, rfl⟩ := List.mem_map.1 (List.mem_of_getLast? mem)
    exact h.start_le taken
  · exact h.inProgress_le.trans_lt (h.attended.staffed ▸ length_busy_lt listening)

/-! ### While nobody can do anything -/

/-- A job that is in progress and not due has something left. -/
theorem lt_stop (mem : t ∈ s.force.running) (early : s.isDue t = false) :
    s.clock < (s.span n t).stop := by
  have started := h.started_of_running mem
  have stop := h.stop_eq (h.accepted_of_taken (h.taken_of_started started))
  rw [← h.begun.1] at started
  obtain ⟨⟨t', time⟩, noted, same⟩ := List.mem_map.1 started
  obtain rfl : t' = t := same
  have start : time = (s.span n t').start := h.begun.2 _ noted
  refine lt_of_le_of_ne (h.running _ mem).2 fun now => ?_
  have due := List.any_eq_false.1 early _ noted
  simp only [beq_self_eq_true, Bool.true_and, beq_iff_eq] at due
  omega

theorem stop_eq_clock (mem : t ∈ s.force.running) (due : s.isDue t = true) :
    (s.span n t).stop = s.clock := by
  obtain ⟨⟨t', time⟩, noted, now⟩ := List.any_eq_true.1 due
  simp only [Bool.and_eq_true, beq_iff_eq] at now
  obtain ⟨rfl, now⟩ := now
  have stop := h.stop_eq (h.accepted_of_taken (h.taken_of_started (h.started_of_running mem)))
  have start : time = (s.span n t').start := h.begun.2 _ noted
  omega

/-- A worker that can do nothing has no job or one that is not due, and stays without one only
because another worker has the queue to itself or because something may still come. -/
theorem of_isQuiet (quiet : s.isQuiet = true) {worker : Worker Submission}
    (mem : worker ∈ s.force.workers) :
    (worker = .idle ∧ s.force.workers.any (·.isListening) = true) ∨
      (worker = .listening ∧ s.force.queue = [] ∧ s.force.accepting = true) ∨ worker = .gone ∨
        ∃ t, worker = .serving t ∧ s.clock < (s.span n t).stop := by
  obtain ⟨place, found⟩ := List.mem_iff_getElem?.1 mem
  have stuck : ∀ deed, s.admits (.work place deed) = true →
      s.force.act (·.job.label) place deed worker = none := by
    intro deed admits
    have none := go_eq_none admits (isQuiet_iff.1 quiet _ rfl)
    simpa [Workforce.move, work, found] using none
  cases worker with
  | idle =>
    refine .inl ⟨rfl, ?_⟩
    simpa [act] using stuck .listen rfl
  | listening =>
    refine .inr (.inl ⟨rfl, ?_⟩)
    have receive := stuck .receive rfl
    have quit := stuck .quit rfl
    cases queue : s.force.queue with
    | nil => simpa [act, queue] using quit
    | cons t rest => simp [act, queue] at receive
  | carrying t => cases stuck .start rfl
  | serving t =>
    refine .inr (.inr (.inr ⟨t, rfl, ?_⟩))
    refine h.lt_stop (List.mem_filterMap.2 ⟨_, mem, rfl⟩) (Bool.eq_false_iff.2 fun due => ?_)
    cases stuck (.finish t.job.failing) (by simp [admits, found, due])
  | served t failed => cases stuck .notice rfl
  | gone => exact .inr (.inr (.inl rfl))

/-- While a job waits and nobody can do anything, every worker has a job that is not due. -/
theorem full (quiet : s.isQuiet = true) (waits : s.force.queue ≠ []) :
    ∀ worker ∈ s.force.workers, ∃ t, worker = .serving t ∧ s.clock < (s.span n t).stop := by
  have unheard : s.force.workers.any (·.isListening) = false := by
    refine List.any_eq_false.2 fun worker mem listens => ?_
    rcases h.of_isQuiet quiet mem with ⟨rfl, -⟩ | ⟨-, empty, -⟩ | rfl | ⟨t, rfl, -⟩
    · cases listens
    · exact waits empty
    · cases listens
    · cases listens
  intro worker mem
  rcases h.of_isQuiet quiet mem with ⟨-, other⟩ | ⟨-, empty, -⟩ | rfl | serves
  · cases unheard.symm.trans other
  · exact absurd empty waits
  · exact absurd (h.attended.drained mem).1 waits
  · exact serves

/-- While a job waits and nobody can do anything, as many jobs are in progress as there are
workers. -/
theorem inProgress_eq (quiet : s.isQuiet = true) (waits : s.force.queue ≠ []) :
    max n 1 ≤ inProgress (s.force.taken.map (s.span n)) s.clock := by
  have full := h.full quiet waits
  have busy : s.force.running.length = s.force.workers.length := by
    refine List.filterMap_length_eq_length.2 fun worker mem => ?_
    obtain ⟨t, rfl, -⟩ := full worker mem
    rfl
  have running : s.force.running.countP (fun t => (s.span n t).start ≤ s.clock ∧
      s.clock < (s.span n t).stop) = s.force.running.length := by
    refine List.countP_eq_length.2 fun t mem => ?_
    obtain ⟨worker, held, serves⟩ := List.mem_filterMap.1 mem
    obtain ⟨t', rfl, left⟩ := full worker held
    obtain rfl : t' = t := Option.some.inj serves
    simpa using ⟨(h.running _ mem).1, left⟩
  have split := h.taken_perm.countP_eq (fun t =>
    (s.span n t).start ≤ s.clock ∧ s.clock < (s.span n t).stop)
  rw [List.countP_append, List.countP_append, running, busy, h.attended.staffed] at split
  rw [inProgress, List.countP_map]
  exact (by omega : max n 1 ≤ _).trans_eq split.symm

/-- A job that waits while nobody can do anything does not start now. -/
theorem lt_start (quiet : s.isQuiet = true) (waits : t ∈ s.force.queue) :
    s.clock < (s.span n t).start := by
  obtain ⟨j, at_j⟩ := List.mem_iff_getElem?.1 waits
  have job : s.force.accepted[s.force.taken.length + j]? = some t := by
    rw [h.accounted.accepted, List.getElem?_append_right (Nat.le_add_right ..),
      Nat.add_sub_cancel_left]
    exact at_j
  have spare := (h.fair.served.start _ t _ job (h.exists_span job)).1.2.2
  refine lt_of_le_of_ne (h.waiting t waits) fun now => ?_
  have full := h.inProgress_eq quiet (List.ne_nil_of_mem waits)
  have earlier : ((s.spans n).take s.force.taken.length).Sublist
      ((s.spans n).take (s.force.taken.length + j)) :=
    (List.take_prefix_take_left (Nat.le_add_right ..)).sublist
  rw [← h.take_spans] at full
  have more := earlier.countP_le (p := fun span =>
    span.start ≤ s.clock ∧ s.clock < span.stop)
  rw [← now] at spare
  exact absurd (full.trans more) (Nat.not_le.2 spare)

/-- A shutdown that still waits while nobody can do anything waits for a job. -/
theorem exists_ending (quiet : s.isQuiet = true) {call time : Nat} {f : Farewell}
    (found : s.force.farewells[call]? = some f) (waits : f ≠ .returned) :
    ∃ ending ∈ endings time (s.spans n), s.clock < ending := by
  have closed := h.attended.closed (List.ne_nil_of_mem (List.mem_of_getElem? found))
  have undeserted : ¬ s.force.isDeserted = true := by
    intro deserted
    have claim := go_eq_none rfl (isQuiet_iff.1 quiet (.claim call) rfl)
    have leave := go_eq_none rfl (isQuiet_iff.1 quiet (.leave call) rfl)
    cases f with
    | closing => simp [Workforce.move, Workforce.claim, found] at claim
    | waiting all => simp [Workforce.move, Workforce.leave, found, deserted] at leave
    | returned => exact waits rfl
  have unheard : s.force.workers.any (·.isListening) = false := by
    refine List.any_eq_false.2 fun worker mem listens => ?_
    rcases h.of_isQuiet quiet mem with ⟨rfl, -⟩ | ⟨-, -, opened⟩ | rfl | ⟨t, rfl, -⟩
    · cases listens
    · cases opened.symm.trans closed
    · cases listens
    · cases listens
  refine Classical.byContradiction fun past => undeserted (isDeserted_iff.2 fun worker mem => ?_)
  rcases h.of_isQuiet quiet mem with ⟨-, other⟩ | ⟨-, -, opened⟩ | gone | ⟨t, rfl, left⟩
  · cases unheard.symm.trans other
  · cases opened.symm.trans closed
  · exact gone
  · have running : t ∈ s.force.running := List.mem_filterMap.2 ⟨_, mem, rfl⟩
    have accepted := h.accepted_of_taken (h.taken_of_started (h.started_of_running running))
    exact absurd ⟨_, .inr ⟨_, h.span_mem accepted, rfl⟩, left⟩ past

theorem tick (quiet : s.isQuiet = true) :
    Punctual n { s with clock := s.clock + 1 } where
  accounted := h.accounted
  attended := h.attended
  fair := h.fair
  clock := h.clock.trans (Nat.le_succ _)
  numbered := h.numbered
  welcome := h.welcome
  begun := h.begun
  finished := h.finished
  waiting t mem := h.lt_start quiet mem
  carried t mem := by
    obtain ⟨worker, held, carries⟩ := List.mem_filterMap.1 mem
    rcases h.of_isQuiet quiet held with ⟨rfl, -⟩ | ⟨rfl, -⟩ | rfl | ⟨t, rfl, -⟩ <;> cases carries
  running t mem := by
    obtain ⟨worker, held, serves⟩ := List.mem_filterMap.1 mem
    rcases h.of_isQuiet quiet held with ⟨rfl, -⟩ | ⟨rfl, -⟩ | rfl | ⟨t, rfl, left⟩ <;> cases serves
    exact ⟨(h.running _ mem).1.trans (Nat.le_succ _), left⟩
  ended t mem := (h.ended t mem).trans (Nat.le_succ _)
  calls := h.calls
  called call time came := by
    have now := h.called call time came
    refine ⟨now.last, now.past.trans (Nat.le_succ _), ?_⟩
    have inside : call < s.force.farewells.length := by
      rw [← h.calls]
      exact (List.getElem?_eq_some_iff.1 came).1
    have found := List.getElem?_eq_getElem inside
    by_cases returned : s.force.farewells[call] = .returned
    · exact .inl (returned ▸ found)
    · exact .inr (h.exists_ending quiet found returned)

/-! ### While the clock stands still -/

section still

variable {force : Workforce Submission}

/-- What happens to the workforce keeps everything in time if the jobs that start and end do so when
they should. -/
theorem note (accounted : force.Accounted) (attended : force.Attended n)
    (name : force.name = s.force.name) (accepted : force.accepted = s.force.accepted)
    (welcome : force.accepting = true → force.submitted.length = force.accepted.length)
    {started ended : List Submission} (starts : force.started = s.force.started ++ started)
    (ends : force.ended = s.force.ended ++ ended)
    (begin : ∀ t ∈ started, (s.span n t).start = s.clock)
    (stop : ∀ t ∈ ended, (s.span n t).stop = s.clock)
    (waiting : ∀ t ∈ force.queue, t ∈ s.force.queue)
    (carried : ∀ t ∈ force.carried, t ∈ s.force.carried ∨ (s.span n t).start = s.clock)
    (running : ∀ t ∈ force.running, t ∈ s.force.running ∨
      (s.span n t).start = s.clock ∧ s.clock ≤ (s.span n t).stop)
    (more : s.force.farewells.length ≤ force.farewells.length)
    (called : ∀ (call time : Nat), (s.note force).calls[call]? = some time →
      s.Awaited n force.farewells call time) :
    Punctual n (s.note force) := by
  have same : (s.note force).line n = s.line n := by
    show force.accepted.foldl _ (Timeline.ofSize force.name n) = _
    rw [accepted, name, line]
  have span : (s.note force).span n = s.span n := span_congr same
  have begun : (s.note force).begun = s.begun ++ started.map (·, s.clock) := by
    simp [Timesheet.note, starts]
  have finished : (s.note force).finished = s.finished ++ ended.map (·, s.clock) := by
    simp [Timesheet.note, ends]
  constructor
  case accounted => exact accounted
  case attended => exact attended
  case fair =>
    rw [same]
    exact accepted ▸ h.fair
  case clock =>
    rw [same]
    exact h.clock
  case numbered =>
    exact accepted ▸ h.numbered
  case welcome => exact welcome
  case begun =>
    rw [begun, span]
    show _ = force.started ∧ _
    rw [starts]
    exact stamped_append h.begun begin
  case finished =>
    rw [finished, span]
    show _ = force.ended ∧ _
    rw [ends]
    exact stamped_append h.finished stop
  case waiting =>
    rw [span]
    exact fun t mem => h.waiting t (waiting t mem)
  case carried =>
    rw [span]
    exact fun t mem => (carried t mem).elim (h.carried t) id
  case running =>
    rw [span]
    exact fun t mem => (running t mem).elim (h.running t) fun now => ⟨now.1.le, now.2⟩
  case ended =>
    rw [span]
    show ∀ t ∈ force.ended, _ ≤ s.clock
    rw [ends]
    exact fun t mem => (List.mem_append.1 mem).elim (h.ended t) fun now => (stop t now).le
  case calls =>
    show (s.note force).calls.length = force.farewells.length
    simp only [Timesheet.note, List.length_append, List.length_map, List.length_drop,
      h.calls]
    omega
  case called =>
    intro call time came
    obtain ⟨last, past, waits⟩ := called call time came
    rw [spans, ← same] at waits
    exact ⟨same ▸ last, past, waits⟩

theorem called_note (same : force.farewells = s.force.farewells) :
    ∀ (call time : Nat), (s.note force).calls[call]? = some time →
      s.Awaited n force.farewells call time := by
  rw [calls_note (congrArg _ same), same]
  exact h.called

/-! ### What a worker does -/

variable {place : Nat} {deed : Worker.Deed}

/-- A worker goes on, and has the only jobs that are with workers only now. -/
theorem proceed (acts : s.force.Acts (·.job.label) place force) {worker : Worker Submission}
    (workers : force.workers = s.force.workers.set place worker) {started ended : List Submission}
    (starts : force.started = s.force.started ++ started)
    (ends : force.ended = s.force.ended ++ ended)
    (begin : ∀ t ∈ started, (s.span n t).start = s.clock)
    (stop : ∀ t ∈ ended, (s.span n t).stop = s.clock)
    (waiting : ∀ t ∈ force.queue, t ∈ s.force.queue)
    (carries : ∀ t, worker.carried? = some t → (s.span n t).start = s.clock)
    (serves : ∀ t, worker.running? = some t →
      (s.span n t).start = s.clock ∧ s.clock ≤ (s.span n t).stop) :
    Punctual n (s.note force) := by
  obtain ⟨name, accepting, submitted, farewells⟩ : force.name = s.force.name ∧
      force.accepting = s.force.accepting ∧ force.submitted = s.force.submitted ∧
        force.farewells = s.force.farewells := by
    cases acts <;> exact ⟨rfl, rfl, rfl, rfl⟩
  have accepted : force.accepted = s.force.accepted := by
    rw [Workforce.accepted, submitted, Workforce.accepted]
  refine h.note (h.accounted.act acts) (h.attended.act acts) name accepted ?_ starts ends begin stop
    waiting (fun t mem => ?_) (fun t mem => ?_) (congrArg _ farewells).ge (h.called_note farewells)
  · rw [accepting, submitted, accepted]
    exact h.welcome
  · rw [Workforce.carried, workers] at mem
    exact (mem_filterMap_set mem).imp_right (carries t)
  · rw [Workforce.running, workers] at mem
    exact (mem_filterMap_set mem).imp_right (serves t)

/-- A worker goes on that has no job then, without starting or ending one. -/
theorem rest (acts : s.force.Acts (·.job.label) place force) {worker : Worker Submission}
    (workers : force.workers = s.force.workers.set place worker)
    (carries : worker.carried? = none) (serves : worker.running? = none)
    (started : force.started = s.force.started) (ended : force.ended = s.force.ended)
    (queue : force.queue = s.force.queue) : Punctual n (s.note force) :=
  h.proceed acts workers (started.trans (List.append_nil _).symm)
    (ended.trans (List.append_nil _).symm) (List.forall_mem_nil _) (List.forall_mem_nil _)
    (fun _ mem => queue ▸ mem) (fun t job => by simp [carries] at job)
    (fun t job => by simp [serves] at job)

theorem work (admits : s.admits (.work place deed) = true)
    (worked : s.force.work (·.job.label) place deed = some force) : Punctual n (s.note force) := by
  have due : ∀ {t}, s.force.workers[place]? = some (.serving t) → s.isDue t = true := by
    intro t found
    cases deed with
    | finish failed => exact isDue_of_admits found admits
    | _ => simp [Workforce.work, found, Workforce.act] at worked
  cases acts_of_work worked with
  | listen found => exact h.rest (.listen found) rfl rfl rfl rfl rfl rfl
  | @receive t rest found first =>
    refine h.proceed (.receive found first) rfl (List.append_nil _).symm (List.append_nil _).symm
      (List.forall_mem_nil _) (List.forall_mem_nil _)
      (fun t' mem => first ▸ List.mem_cons_of_mem _ mem) (fun t' carries => ?_)
      (fun t' serves => by cases serves)
    obtain rfl : t = t' := Option.some.inj carries
    exact h.start_eq_clock first (List.mem_of_getElem? found)
  | @start t found =>
    have mem : t ∈ s.force.carried :=
      List.mem_filterMap.2 ⟨_, List.mem_of_getElem? found, rfl⟩
    have now := h.carried t mem
    have stop := h.stop_eq (h.accepted_of_taken (h.taken_of_carried mem))
    refine h.proceed (.start found) rfl rfl (List.append_nil _).symm
      (fun t' mem => List.mem_singleton.1 mem ▸ now) (List.forall_mem_nil _) (fun _ => id)
      (fun t' carries => by cases carries) (fun t' serves => ?_)
    obtain rfl : t = t' := Option.some.inj serves
    exact ⟨now, by omega⟩
  | @finish t failed found =>
    have mem : t ∈ s.force.running :=
      List.mem_filterMap.2 ⟨_, List.mem_of_getElem? found, rfl⟩
    have now := h.stop_eq_clock mem (due found)
    exact h.proceed (.finish failed found) rfl (List.append_nil _).symm rfl (List.forall_mem_nil _)
      (fun t' mem => List.mem_singleton.1 mem ▸ now) (fun _ => id)
      (fun t' carries => by cases carries) (fun t' serves => by cases serves)
  | notice found => exact h.rest (.notice found) rfl rfl rfl rfl rfl rfl
  | quit found empty closed => exact h.rest (.quit found empty closed) rfl rfl rfl rfl rfl rfl

/-! ### What shutdowns do, and what comes from outside -/

/-- Nothing happens to the jobs that were accepted. -/
theorem aside (accounted : force.Accounted) (attended : force.Attended n)
    (name : force.name = s.force.name) (accepted : force.accepted = s.force.accepted)
    (welcome : force.accepting = true → force.submitted.length = force.accepted.length)
    (queue : force.queue = s.force.queue) (workers : force.workers = s.force.workers)
    (starts : force.started = s.force.started) (ends : force.ended = s.force.ended)
    (more : s.force.farewells.length ≤ force.farewells.length)
    (called : ∀ (call time : Nat), (s.note force).calls[call]? = some time →
      s.Awaited n force.farewells call time) :
    Punctual n (s.note force) := by
  have started : force.started = s.force.started ++ [] := by rw [starts, List.append_nil]
  have ended : force.ended = s.force.ended ++ [] := by rw [ends, List.append_nil]
  refine h.note accounted attended name accepted welcome started ended (List.forall_mem_nil _)
    (List.forall_mem_nil _)
    (fun t mem => queue ▸ mem) (fun t mem => .inl ?_) (fun t mem => .inl ?_) more called
  · rwa [Workforce.carried, workers] at mem
  · rwa [Workforce.running, workers] at mem

theorem refuse (closed : s.force.accepting = false) (t : Submission) :
    Punctual n (s.note (s.force.submit (·.job.label) t)) := by
  have accounted : (s.force.submit (·.job.label) t).Accounted := h.accounted.submit t
  have attended : (s.force.submit (·.job.label) t).Attended n := h.attended.submit t
  rw [Workforce.submit, if_neg (ne_true_of_eq_false closed)] at accounted attended ⊢
  exact h.aside accounted attended rfl (by simp [Workforce.accepted])
    (fun opened => absurd opened (ne_true_of_eq_false closed)) rfl rfl rfl rfl le_rfl
    (h.called_note rfl)

theorem close : Punctual n (s.note s.force.close) := by
  refine h.aside ⟨h.accounted.accepted, h.accounted.taken, h.accounted.started⟩ h.attended.close rfl
    rfl nofun rfl rfl rfl rfl (by simp [Workforce.close]) fun call time came => ?_
  have calls : (s.note s.force.close).calls = s.calls ++ [s.clock] := by
    simp [Timesheet.note, Workforce.close]
  rw [calls] at came
  rcases Nat.lt_or_ge call s.calls.length with earlier | now
  · rw [List.getElem?_append_left earlier] at came
    obtain ⟨last, past, waits⟩ := h.called call time came
    refine ⟨last, past, waits.imp_left fun returned => ?_⟩
    exact (List.getElem?_append_left (h.calls ▸ earlier)).trans returned
  · rw [List.getElem?_append_right now] at came
    obtain rfl : time = s.clock := by simpa using List.mem_of_getElem? came
    exact ⟨h.clock, le_rfl, .inr ⟨_, .inl rfl, le_rfl⟩⟩

/-- A shutdown goes on. -/
theorem set {call : Nat} {f g : Farewell} (found : s.force.farewells[call]? = some f)
    (waits : f ≠ .returned) (farewells : force.farewells = s.force.farewells.set call g) :
    ∀ (call time : Nat), (s.note force).calls[call]? = some time →
      s.Awaited n force.farewells call time := by
  intro call' time came
  rw [calls_note (by rw [farewells, List.length_set])] at came
  obtain ⟨last, past, returned | waiting⟩ := h.called call' time came
  · refine ⟨last, past, .inl ?_⟩
    have apart : call ≠ call' := by
      rintro rfl
      exact waits (Option.some.inj (found.symm.trans returned))
    rwa [farewells, List.getElem?_set_ne apart]
  · exact ⟨last, past, .inr waiting⟩

theorem claim {call : Nat} (claimed : s.force.claim call = some force) :
    Punctual n (s.note force) := by
  have attended := h.attended.claim claimed
  obtain ⟨found, rfl⟩ := of_claim claimed
  exact h.aside ⟨h.accounted.accepted, h.accounted.taken, h.accounted.started⟩ attended rfl rfl
    h.welcome rfl rfl rfl rfl (List.length_set ..).ge (h.set found nofun rfl)

theorem leave {call : Nat} (left : s.force.leave call = some force) :
    Punctual n (s.note force) := by
  have attended := h.attended.leave left
  obtain ⟨all, found, free, rfl⟩ := of_leave left
  exact h.aside ⟨h.accounted.accepted, h.accounted.taken, h.accounted.started⟩ attended rfl rfl
    h.welcome rfl rfl rfl rfl (List.length_set ..).ge (h.set found nofun rfl)

end still

/-! ### A job is accepted -/

section accept

variable (opened : s.force.accepting = true)

include opened

theorem numbered_submit (number : t.number = s.force.submitted.length) (i : Nat)
    (t' : Submission) (job : (s.submit t).force.accepted[i]? = some t') : t'.number = i := by
  rw [accepted_submit opened] at job
  rcases Nat.lt_or_ge i s.force.accepted.length with earlier | now
  · exact h.numbered i t' (List.getElem?_append_left earlier ▸ job)
  · obtain ⟨inside, rfl⟩ := List.getElem?_eq_some_iff.1 job
    obtain rfl : i = s.force.accepted.length := by
      rw [List.length_append, List.length_singleton] at inside
      omega
    simpa using number.trans (h.welcome opened)

variable (time : t.time = s.clock)

include time

theorem fair_submit : ((s.submit t).line n).Fair (max n 1) (s.submit t).force.accepted := by
  rw [line_submit opened, accepted_submit opened]
  exact h.fair.enter (by omega) (h.clock.trans time.ge)

theorem spans_submit : ∃ last, (s.submit t).spans n = s.spans n ++ [last] := by
  rw [Timesheet.spans, line_submit opened,
    Timeline.spans_enter h.fair.accepting (h.clock.trans time.ge)]
  exact ⟨_, rfl⟩

/-- The jobs that were accepted before run when they would have run anyway. -/
theorem span_submit {t' : Submission} (mem : t' ∈ s.force.accepted) :
    (s.submit t).span n t' = s.span n t' := by
  obtain ⟨last, spans⟩ := h.spans_submit opened time
  obtain ⟨i, job⟩ := List.mem_iff_getElem?.1 mem
  have inside := (List.getElem?_eq_some_iff.1 job).1
  rw [← h.length_spans] at inside
  rw [span, span, spans, h.numbered i t' job, List.getElem?_append_left inside]

variable (number : t.number = s.force.submitted.length)

include number

theorem le_start_submit : s.clock ≤ ((s.submit t).span n t).start := by
  obtain ⟨last, spans⟩ := h.spans_submit opened time
  have at_end : ((s.submit t).spans n)[s.force.accepted.length]? = some last := by
    rw [spans, ← h.length_spans, List.getElem?_concat_length]
  have job : (s.submit t).force.accepted[s.force.accepted.length]? = some t := by
    rw [accepted_submit opened, List.getElem?_concat_length]
  have least := (h.fair_submit opened time).served.start _ t last job at_end
  rw [span, number, h.welcome opened, at_end]
  exact time ▸ least.1.1

theorem accept : (s.submit t).Punctual n := by
  have accounted : (s.force.submit (·.job.label) t).Accounted := h.accounted.submit t
  have attended : (s.force.submit (·.job.label) t).Attended n := h.attended.submit t
  have old : ∀ t' ∈ s.force.taken, (s.submit t).span n t' = s.span n t' :=
    fun t' mem => h.span_submit opened time (h.accepted_of_taken mem)
  have same := submit_eq opened t
  refine ⟨accounted, attended, h.fair_submit opened time, ?_,
    h.numbered_submit opened number, fun _ => ?_, ?_, ?_, ?_, ?_, ?_, ?_, ?_, ?_⟩
  · rw [line_submit opened, Timeline.clock_enter h.fair.accepting (h.clock.trans time.ge), same]
    exact time.le
  · rw [accepted_submit opened, same]
    simp [h.welcome opened]
  · rw [same]
    refine ⟨h.begun.1, fun e mem => ?_⟩
    have started : e.1 ∈ s.force.started := h.begun.1 ▸ List.mem_map_of_mem mem
    rw [← same, old _ (h.taken_of_started started)]
    exact h.begun.2 e mem
  · rw [same]
    refine ⟨h.finished.1, fun e mem => ?_⟩
    have ended : e.1 ∈ s.force.ended := h.finished.1 ▸ List.mem_map_of_mem mem
    rw [← same, old _ (h.taken_of_started (h.started_of_ended ended))]
    exact h.finished.2 e mem
  · intro t' mem
    rw [same] at mem
    rcases List.mem_append.1 mem with earlier | now
    · rw [h.span_submit opened time (h.accepted_of_queue earlier), same]
      exact h.waiting t' earlier
    · rw [List.mem_singleton.1 now]
      have late := h.le_start_submit opened time number
      rwa [same] at late ⊢
  · intro t' mem
    rw [same] at mem
    rw [old t' (h.taken_of_carried mem), same]
    exact h.carried t' mem
  · intro t' mem
    rw [same] at mem
    rw [old t' (h.taken_of_started (h.started_of_running mem)), same]
    exact h.running t' mem
  · intro t' mem
    rw [same] at mem
    rw [old t' (h.taken_of_started (h.started_of_ended mem)), same]
    exact h.ended t' mem
  · rw [same]
    exact h.calls
  · intro call _ came
    rw [same] at came
    have inside := h.calls ▸ (List.getElem?_eq_some_iff.1 came).1
    have closed := h.attended.closed (List.ne_nil_of_length_pos (Nat.zero_lt_of_lt inside))
    cases opened.symm.trans closed

end accept

theorem beat {b : Beat} (went : s.beat b = some s') : s'.Punctual n := by
  cases b with
  | tick =>
    rw [Timesheet.beat] at went
    split at went
    · next quiet =>
      cases went
      exact h.tick quiet
    · cases went
  | act m =>
    obtain ⟨admits, force, moved, rfl⟩ := of_go went
    cases m with
    | submit t =>
      cases moved
      simp only [Timesheet.admits, Bool.and_eq_true, beq_iff_eq] at admits
      cases opened : s.force.accepting with
      | true => exact h.accept opened admits.2 admits.1
      | false => exact h.refuse opened t
    | work place deed => exact h.work admits moved
    | close =>
      cases moved
      exact h.close
    | claim call => exact h.claim moved
    | leave call => exact h.leave moved

end Punctual

end Timesheet

end Southbound
