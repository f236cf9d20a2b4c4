import Mathlib.Data.List.Count
import Mathlib.Order.Bounds.Basic
import Southbound.Pool.Timesheet

/-!
# First come, first served

`Served` says how a pool of so many servers has to treat the jobs that it accepts: each starts as
soon as it was submitted, the job before it has started and a server is free, and ends when it has
taken its time.  Nothing in it is about workers.

A `Timeline` keeps for each worker only the time from which on it is free, and gives a job to the
one that is free first.  That treats jobs as it should (`Timeline.Fair`), because the times that lie
ahead are the ends of the jobs that are in progress.
-/

namespace Southbound

/-! ## How jobs have to be treated -/

/-- How many jobs are in progress at a time. -/
def inProgress (spans : List Span) (time : Nat) : Nat :=
  spans.countP fun span => span.start ≤ time ∧ time < span.stop

/-- The times at which a job could start: not before it was submitted, nor before the job before it
started, and only while some server has none of the earlier jobs. -/
def possible (servers : Nat) (earlier : List Span) (submitted : Nat) : Set Nat :=
  {time | submitted ≤ time ∧ (∀ last ∈ earlier.getLast?, last.start ≤ time) ∧
    inProgress earlier time < servers}

/-- The times that a shutdown has to wait for. -/
def endings (called : Nat) (spans : List Span) : Set Nat :=
  {time | time = called ∨ ∃ span ∈ spans, span.stop = time}

/-- Every job starts at the first moment at which it could, and takes its time. -/
structure Served (servers : Nat) (jobs : List Submission) (spans : List Span) : Prop where
  length : spans.length = jobs.length
  start : ∀ (i : Nat) (t : Submission) (span : Span), jobs[i]? = some t → spans[i]? = some span →
    IsLeast (possible servers (spans.take i) t.time) span.start
  stop : ∀ (i : Nat) (t : Submission) (span : Span), jobs[i]? = some t → spans[i]? = some span →
    span.stop = span.start + t.job.duration

theorem served_nil (servers : Nat) : Served servers [] [] := ⟨rfl, nofun, nofun⟩

theorem Served.next {servers start : Nat} {jobs : List Submission} {spans : List Span}
    {t : Submission} (h : Served servers jobs spans)
    (least : IsLeast (possible servers spans t.time) start) :
    Served servers (jobs ++ [t]) (spans ++ [⟨start, start + t.job.duration⟩]) := by
  have each : ∀ (i : Nat) t' span, (jobs ++ [t])[i]? = some t' →
      (spans ++ [⟨start, start + t.job.duration⟩])[i]? = some span →
      (i < jobs.length ∧ jobs[i]? = some t' ∧ spans[i]? = some span) ∨
        (i = jobs.length ∧ t' = t ∧ span = ⟨start, start + t.job.duration⟩) := by
    intro i t' span job at_i
    rcases Nat.lt_trichotomy i jobs.length with before | rfl | after
    · rw [List.getElem?_append_left before] at job
      rw [List.getElem?_append_left (h.length.symm ▸ before)] at at_i
      exact .inl ⟨before, job, at_i⟩
    · rw [List.getElem?_concat_length] at job
      rw [← h.length, List.getElem?_concat_length] at at_i
      exact .inr ⟨rfl, (Option.some.inj job).symm, (Option.some.inj at_i).symm⟩
    · rw [List.getElem?_eq_none (by simpa using Nat.succ_le_of_lt after)] at job
      cases job
  refine ⟨by simp [h.length], fun i t' span job at_i => ?_, fun i t' span job at_i => ?_⟩
  · rcases each i t' span job at_i with ⟨before, job, at_i⟩ | ⟨rfl, rfl, rfl⟩
    · rw [List.take_append_of_le_length (h.length.symm ▸ before.le)]
      exact h.start i t' span job at_i
    · rw [← h.length, List.take_left]
      exact least
  · rcases each i t' span job at_i with ⟨-, job, at_i⟩ | ⟨-, rfl, rfl⟩
    · exact h.stop i t' span job at_i
    · rfl

/-- The job as if it did not break down. -/
def Submission.calm (t : Submission) : Submission :=
  { t with job := { t.job with failing := false } }

/-! ## A timeline treats jobs so -/

namespace Timeline

variable {line : Timeline} {servers : Nat} {jobs : List Submission} {t : Submission}

theorem firstFree_mem (h : line.freeAt ≠ []) : line.firstFree ∈ line.freeAt := by
  obtain ⟨first, found⟩ := Option.isSome_iff_exists.1 (List.isSome_min?_iff.2 h)
  rw [firstFree, found]
  exact List.min?_mem found

theorem lastFree_mem (h : line.freeAt ≠ []) : line.lastFree ∈ line.freeAt := by
  obtain ⟨last, found⟩ := Option.isSome_iff_exists.1 (List.isSome_max?_iff.2 h)
  rw [lastFree, found]
  exact List.max?_mem found

theorem firstFree_le {time : Nat} (h : time ∈ line.freeAt) : line.firstFree ≤ time :=
  List.min?_getD_le_of_mem h

theorem le_lastFree {time : Nat} (h : time ∈ line.freeAt) : time ≤ line.lastFree :=
  List.le_max?_getD_of_mem h

section enter

variable (accepting : line.accepting = true) (later : line.clock ≤ t.time)

include accepting later

/-- A job starts when the first worker is free, but not before it is submitted. -/
theorem enter_eq : line.enter t =
    { line with
      clock := t.time
      freeAt := line.freeAt.erase line.firstFree ++ [max t.time line.firstFree + t.job.duration]
      jobs := line.jobs ++ [(t.job, some ⟨max t.time line.firstFree,
        max t.time line.firstFree + t.job.duration⟩)] } := by
  have clock : line.clock + (t.time - line.clock) = t.time := by omega
  simp [enter, advance, submit, accepting, clock, firstFree]

theorem clock_enter : (line.enter t).clock = t.time := by rw [enter_eq accepting later]

theorem freeAt_enter : (line.enter t).freeAt =
    line.freeAt.erase line.firstFree ++ [max t.time line.firstFree + t.job.duration] := by
  rw [enter_eq accepting later]

theorem spans_enter : (line.enter t).spans = line.spans ++ [⟨max t.time line.firstFree,
    max t.time line.firstFree + t.job.duration⟩] := by
  rw [enter_eq accepting later]
  simp [spans]

end enter

/-- The timeline of the jobs treats them as it should. -/
structure Fair (servers : Nat) (jobs : List Submission) (line : Timeline) : Prop where
  accepting : line.accepting = true
  size : line.freeAt.length = servers
  served : Served servers jobs line.spans
  arrived : ∀ t ∈ jobs, t.time ≤ line.clock
  /-- From the start of the latest job on, the workers that are not free yet have the jobs that are
  in progress. -/
  busy : ∀ time, (∀ last ∈ line.spans.getLast?, last.start ≤ time) →
    line.freeAt.countP (time < ·) = inProgress line.spans time
  /-- The latest job started before the next one could. -/
  started : ∀ last ∈ line.spans.getLast?, last.start ≤ max line.clock line.firstFree
  /-- Some worker is not free before the job ends. -/
  ends : ∀ span ∈ line.spans, ∃ time ∈ line.freeAt, span.stop ≤ time
  /-- A worker becomes free when a job ends. -/
  frees : ∀ time ∈ line.freeAt, time = 0 ∨ ∃ span ∈ line.spans, span.stop = time

theorem fair_ofSize (name : String) (n : Nat) : (ofSize name n).Fair (max n 1) [] where
  accepting := rfl
  size := List.length_replicate
  served := served_nil _
  arrived := nofun
  busy time _ := by
    refine List.countP_eq_zero.2 fun free mem => ?_
    rw [List.eq_of_mem_replicate mem]
    simp
  started := nofun
  ends := nofun
  frees time mem := .inl (List.eq_of_mem_replicate mem)

theorem Fair.firstFree_mem (h : line.Fair servers jobs) (staffed : 0 < servers) :
    line.firstFree ∈ line.freeAt :=
  Timeline.firstFree_mem (List.ne_nil_of_length_pos (h.size.symm ▸ staffed))

/-- The first worker to be free takes the job at the first moment at which it could start. -/
theorem Fair.least (h : line.Fair servers jobs) (staffed : 0 < servers)
    (later : line.clock ≤ t.time) :
    IsLeast (possible servers line.spans t.time) (max t.time line.firstFree) := by
  have after : ∀ last ∈ line.spans.getLast?, last.start ≤ max t.time line.firstFree :=
    fun last mem => (h.started last mem).trans (by omega)
  refine ⟨⟨le_max_left _ _, after, ?_⟩, ?_⟩
  · rw [← h.busy _ after, ← h.size]
    exact List.countP_lt_length_iff.2 ⟨_, h.firstFree_mem staffed, by simp⟩
  · rintro time ⟨submitted, after, spare⟩
    rw [← h.busy _ after, ← h.size] at spare
    obtain ⟨free, mem, reached⟩ := List.countP_lt_length_iff.1 spare
    have reached : free ≤ time := by simpa using reached
    exact max_le submitted ((firstFree_le mem).trans reached)

theorem Fair.enter (h : line.Fair servers jobs) (staffed : 0 < servers)
    (later : line.clock ≤ t.time) : (line.enter t).Fair servers (jobs ++ [t]) := by
  have first := h.firstFree_mem staffed
  have least := h.least staffed later
  have clock := clock_enter h.accepting later
  have freeAt := freeAt_enter h.accepting later
  have spans := spans_enter h.accepting later
  generalize begins : max t.time line.firstFree = start at least freeAt spans
  have free : line.firstFree ≤ start := begins ▸ le_max_right _ _
  constructor
  case accepting =>
    rw [enter_eq h.accepting later]
    exact h.accepting
  case size =>
    rw [freeAt, List.length_append, List.length_erase_of_mem first, h.size, List.length_singleton]
    omega
  case served =>
    rw [spans]
    exact h.served.next least
  case arrived =>
    intro t' mem
    rw [clock]
    rcases List.mem_append.1 mem with earlier | now
    · exact (h.arrived t' earlier).trans later
    · rw [List.mem_singleton.1 now]
  case busy =>
    intro time after
    have now : start ≤ time := after ⟨start, start + t.job.duration⟩ (by simp [spans])
    have earlier := h.busy time fun last mem => (least.1.2.1 last mem).trans now
    have ready : ¬ time < line.firstFree := by omega
    rw [spans, freeAt, inProgress, List.countP_append, List.countP_append, List.countP_erase,
      earlier]
    simp [ready, now, inProgress]
  case started =>
    intro last mem
    obtain rfl : last = ⟨start, start + t.job.duration⟩ := by simpa [spans, eq_comm] using mem
    have next : line.firstFree ≤ (line.enter t).firstFree := by
      have mem : (line.enter t).firstFree ∈ (line.enter t).freeAt :=
        Timeline.firstFree_mem (by simp [freeAt])
      rw [freeAt] at mem
      rcases List.mem_append.1 mem with earlier | now
      · exact firstFree_le (List.mem_of_mem_erase earlier)
      · rw [List.mem_singleton.1 now]
        omega
    show start ≤ max (line.enter t).clock (line.enter t).firstFree
    rw [clock]
    omega
  case ends =>
    intro span mem
    rw [spans, List.mem_append, List.mem_singleton] at mem
    rw [freeAt]
    rcases mem with earlier | rfl
    · obtain ⟨time, mem, ends⟩ := h.ends span earlier
      by_cases same : time = line.firstFree
      · exact ⟨_, List.mem_append_right _ List.mem_cons_self, by omega⟩
      · exact ⟨time, List.mem_append_left _ ((List.mem_erase_of_ne same).2 mem), ends⟩
    · exact ⟨_, List.mem_append_right _ List.mem_cons_self, le_rfl⟩
  case frees =>
    intro time mem
    rw [freeAt] at mem
    rw [spans]
    rcases List.mem_append.1 mem with earlier | now
    · refine (h.frees time (List.mem_of_mem_erase earlier)).imp_right ?_
      rintro ⟨span, mem, ends⟩
      exact ⟨span, List.mem_append_left _ mem, ends⟩
    · exact .inr ⟨_, List.mem_append_right _ List.mem_cons_self, (List.mem_singleton.1 now).symm⟩

/-- A shutdown ends with the last job, or at once if that is over. -/
theorem Fair.isGreatest (h : line.Fair servers jobs) (staffed : 0 < servers) :
    IsGreatest (endings line.clock line.spans) line.shutdown.clock := by
  have last := lastFree_mem (List.ne_nil_of_length_pos (h.size.symm ▸ staffed))
  have clock : line.shutdown.clock = max line.clock line.lastFree := rfl
  rw [clock]
  constructor
  · rcases Nat.lt_or_ge line.clock line.lastFree with ahead | behind
    · rw [max_eq_right ahead.le]
      exact .inr ((h.frees _ last).resolve_left (by omega))
    · exact .inl (max_eq_left behind)
  · rintro time (rfl | ⟨span, mem, rfl⟩)
    · exact le_max_left _ _
    · obtain ⟨free, mem, ends⟩ := h.ends span mem
      exact (ends.trans (le_lastFree mem)).trans (le_max_right _ _)

theorem Fair.advance (h : line.Fair servers jobs) (duration : Nat) :
    (line.advance duration).Fair servers jobs where
  accepting := h.accepting
  size := h.size
  served := h.served
  arrived t mem := (h.arrived t mem).trans (Nat.le_add_right ..)
  busy := h.busy
  started last mem := by
    have := h.started last mem
    exact this.trans (max_le ((Nat.le_add_right ..).trans (le_max_left _ _)) (le_max_right _ _))
  ends := h.ends
  frees := h.frees

/-! ## Breakdowns move nothing -/

/-- The timelines differ in nothing that matters for when jobs run. -/
structure Alike (line line' : Timeline) : Prop where
  clock : line.clock = line'.clock
  accepting : line.accepting = line'.accepting
  freeAt : line.freeAt = line'.freeAt
  spans : line.spans = line'.spans

section

variable {line line' : Timeline} (h : line.Alike line')

include h

theorem Alike.advance (duration : Nat) : (line.advance duration).Alike (line'.advance duration) :=
  ⟨congrArg (· + duration) h.clock, h.accepting, h.freeAt, h.spans⟩

theorem Alike.submit {job job' : TimedJob} (same : job.duration = job'.duration) :
    (line.submit job).Alike (line'.submit job') := by
  have firstFree : line.firstFree = line'.firstFree := by
    rw [Timeline.firstFree, h.freeAt, Timeline.firstFree]
  have spans : line.jobs.filterMap (·.2) = line'.jobs.filterMap (·.2) := h.spans
  rw [Timeline.submit, Timeline.submit, h.accepting]
  split
  · refine ⟨h.clock, rfl, ?_, ?_⟩
    · simp only [h.freeAt, firstFree, h.clock, same]
    · simp only [Timeline.spans, List.filterMap_append, spans, firstFree, h.clock, same]
      rfl
  · refine ⟨h.clock, rfl, h.freeAt, ?_⟩
    simp only [Timeline.spans, List.filterMap_append, spans]
    rfl

theorem Alike.enter {t t' : Submission} (same : t.calm = t'.calm) :
    (line.enter t).Alike (line'.enter t') := by
  have time : t.calm.time = t'.calm.time := congrArg _ same
  have time : t.time = t'.time := time
  have duration : t.calm.job.duration = t'.calm.job.duration := congrArg (·.job.duration) same
  rw [Timeline.enter, Timeline.enter, time, h.clock]
  exact (h.advance _).submit duration

end

theorem Alike.foldl_enter {jobs jobs' : List Submission} {line line' : Timeline}
    (h : line.Alike line') (same : jobs.map (·.calm) = jobs'.map (·.calm)) :
    (jobs.foldl Timeline.enter line).Alike (jobs'.foldl Timeline.enter line') := by
  induction jobs generalizing jobs' line line' with
  | nil =>
    obtain rfl : jobs' = [] := List.map_eq_nil_iff.1 same.symm
    exact h
  | cons t rest ih =>
    cases jobs' with
    | nil => cases same
    | cons t' rest' =>
      obtain ⟨first, others⟩ := List.cons.inj same
      rw [List.foldl_cons, List.foldl_cons]
      exact ih (h.enter first) others

end Timeline

end Southbound
