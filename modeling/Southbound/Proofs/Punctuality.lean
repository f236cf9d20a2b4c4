import Southbound.Proofs.Timesheet

/-!
# First come, first served, and in time

Main statement (`Timesheet.first_come_first_served`): in every run of a pool on the clock the
accepted jobs start and end when `Served` says, which is also what their timeline says, and a
shutdown returns at the end of the last of them.  Which jobs break down makes no difference to any
of this.

The runs cannot get stuck: while the clock stands still only so many moves can be made, and when no
more can, the clock goes on.
-/

namespace Southbound

/-- The move of the workforce, if it is one. -/
def Beat.move? : Beat → Option (Workforce.Move Submission)
  | act m => some m
  | tick => none

namespace Timesheet

open Workforce

variable {s s' : Timesheet} {n : Nat}

/-! ## Whole runs -/

theorem punctual_ofSize (name : String) (n : Nat) : (ofSize name n).Punctual n := by
  have carried : (ofSize name n).force.carried = [] := by
    simp [ofSize, Workforce.ofSize, carried, Worker.carried?]
  have running : (ofSize name n).force.running = [] := by
    simp [ofSize, Workforce.ofSize, running, Worker.running?]
  have none : ∀ {α : Type} {p : α → Prop}, ∀ a ∈ ([] : List α), p a := List.forall_mem_nil _
  refine ⟨accounted_ofSize name, attended_ofSize name, Timeline.fair_ofSize name n, le_rfl, ?_,
    fun _ => rfl, ⟨rfl, none⟩, ⟨rfl, none⟩, none, carried ▸ none, running ▸ none, none, rfl, ?_⟩
  · intro i t found
    cases found
  · intro call time came
    cases came

theorem Punctual.play {beats : List Beat} (h : s.Punctual n) (played : s.play beats = some s') :
    s'.Punctual n := by
  induction beats generalizing s with
  | nil =>
    cases played
    exact h
  | cons b rest ih =>
    obtain ⟨v, went, rest⟩ := Option.bind_eq_some_iff.1 played
    exact ih (h.beat went) rest

theorem punctual_play {name : String} {beats : List Beat}
    (played : (ofSize name n).play beats = some s) : s.Punctual n :=
  (punctual_ofSize name n).play played

/-- The clock aside, the workforce is played as any workforce is. -/
theorem play_force {beats : List Beat} (played : s.play beats = some s') :
    s.force.play (·.job.label) (beats.filterMap (·.move?)) = some s'.force := by
  induction beats generalizing s with
  | nil =>
    cases played
    rfl
  | cons b rest ih =>
    obtain ⟨v, went, played⟩ := Option.bind_eq_some_iff.1 played
    cases b with
    | tick =>
      rw [beat] at went
      split at went
      · cases went
        exact ih (s := { s with clock := s.clock + 1 }) played
      · cases went
    | act m =>
      obtain ⟨-, force, moved, rfl⟩ := of_go went
      exact Option.bind_eq_some_iff.2 ⟨force, moved, ih played⟩

/-- Nothing is accepted once a shutdown was called. -/
theorem accepted_play {beats : List Beat} (closed : s.force.accepting = false)
    (played : s.play beats = some s') : s'.force.accepted = s.force.accepted :=
  accepted_of_refused (refuses_play closed (play_force played))

/-- When jobs should run does not depend on which of them break down. -/
theorem line_alike (same : s'.force.accepted.map (·.calm) = s.force.accepted.map (·.calm)) :
    (s'.line n).Alike (s.line n) := by
  have start : (Timeline.ofSize s'.force.name n).Alike (Timeline.ofSize s.force.name n) :=
    ⟨rfl, rfl, rfl, rfl⟩
  exact start.foldl_enter same

/-! ## What has happened by now -/

namespace Punctual

variable (h : s.Punctual n) {t : Submission}

include h

theorem nodup_accepted : s.force.accepted.Nodup := by
  refine List.pairwise_iff_getElem.2 fun i j hi hj lt same => ?_
  have first := h.numbered i _ (List.getElem?_eq_getElem hi)
  have second := h.numbered j _ (List.getElem?_eq_getElem hj)
  rw [same, second] at first
  omega

/-- Each job starts once. -/
theorem nodup_started : s.force.started.Nodup := by
  have taken : s.force.taken.Nodup :=
    (h.accounted.accepted ▸ h.nodup_accepted).sublist (List.sublist_append_left ..)
  exact (h.accounted.taken.nodup taken).sublist (List.sublist_append_left ..)

theorem nodup_ended : s.force.ended.Nodup :=
  (h.accounted.started.nodup h.nodup_started).sublist (List.sublist_append_left ..)

/-- Once its time has passed, a job has started. -/
theorem started_of_lt (mem : t ∈ s.force.accepted) (past : (s.span n t).start < s.clock) :
    t ∈ s.force.started := by
  rw [h.accounted.accepted] at mem
  rcases List.mem_append.1 mem with taken | waits
  · rcases List.mem_append.1 (h.accounted.taken.mem_iff.1 taken) with started | carried
    · exact started
    · exact absurd (h.carried t carried) past.ne
  · exact absurd (h.waiting t waits) (Nat.not_le.2 past)

/-- Once its time has passed, a job has ended. -/
theorem ended_of_lt (mem : t ∈ s.force.accepted) (past : (s.span n t).stop < s.clock) :
    t ∈ s.force.ended := by
  have stop := h.stop_eq mem
  have started := h.started_of_lt mem (by omega)
  rcases List.mem_append.1 (h.accounted.started.mem_iff.1 started) with ended | running
  · exact ended
  · exact absurd (h.running t running).2 (Nat.not_le.2 past)

theorem mem_begun (started : t ∈ s.force.started) : (t, (s.span n t).start) ∈ s.begun := by
  rw [← h.begun.1] at started
  obtain ⟨⟨t', time⟩, noted, same⟩ := List.mem_map.1 started
  obtain rfl : t' = t := same
  have start : time = (s.span n t').start := h.begun.2 _ noted
  exact start ▸ noted

theorem mem_finished (ended : t ∈ s.force.ended) : (t, (s.span n t).stop) ∈ s.finished := by
  rw [← h.finished.1] at ended
  obtain ⟨⟨t', time⟩, noted, same⟩ := List.mem_map.1 ended
  obtain rfl : t' = t := same
  have stop : time = (s.span n t').stop := h.finished.2 _ noted
  exact stop ▸ noted

/-- When nobody is left to wait for, a shutdown that has not returned was called now, or the last
job ended now. -/
theorem isGreatest {call : Nat} {all : Bool}
    (waits : s.force.farewells[call]? = some (.waiting all))
    (deserted : s.force.isDeserted = true) :
    ∃ called, s.calls[call]? = some called ∧ (s.line n).clock ≤ called ∧
      IsGreatest (endings called (s.spans n)) s.clock := by
  have inside : call < s.calls.length := h.calls ▸ (List.getElem?_eq_some_iff.1 waits).1
  have came := List.getElem?_eq_getElem inside
  obtain ⟨last, past, left⟩ := h.called call _ came
  have latest : ∀ ending ∈ endings s.calls[call] (s.spans n), ending ≤ s.clock := by
    rintro ending (rfl | ⟨span, mem, rfl⟩)
    · exact past
    · obtain ⟨t, accepted, rfl⟩ := List.mem_map.1 (h.map_span ▸ mem)
      exact h.ended t ((ended_of_isDeserted h.accounted h.attended deserted).mem_iff.2 accepted)
  refine ⟨_, came, last, ?_, latest⟩
  obtain ⟨ending, mem, reached⟩ := left.resolve_left fun returned => by
    cases waits.symm.trans returned
  exact le_antisymm reached (latest ending mem) ▸ mem

/-- Nobody is left to wait for when a shutdown returns, unless another one came before it. -/
theorem isDeserted {call : Nat} {force : Workforce Submission}
    (left : s.force.leave call = some force)
    (first : s.force.farewells.length = 1 ∨ s.force.farewells[call]? = some (.waiting true)) :
    s.force.isDeserted = true := by
  obtain ⟨all, found, free, -⟩ := of_leave left
  cases all with
  | true => exact free rfl
  | false =>
    have alone := first.resolve_right fun waits => by cases found.symm.trans waits
    obtain ⟨f, only⟩ := List.length_eq_one_iff.1 alone
    have mem := List.mem_of_getElem? found
    obtain rfl : .waiting false = f := List.mem_singleton.1 (only ▸ mem)
    have taken : s.force.unclaimed = false := Bool.eq_false_iff.2 fun unclaimed => by
      cases h.attended.unclaimed unclaimed _ mem
    refine (h.attended.claimed taken).resolve_left fun waits => ?_
    cases List.mem_singleton.1 (only ▸ waits)

end Punctual

/-- The clock goes on if nobody can do anything. -/
theorem moves_or_tick (s : Timesheet) :
    (∃ m s', m.isInner = true ∧ s.go m = some s') ∨
      s.beat .tick = some { s with clock := s.clock + 1 } := by
  by_cases quiet : s.isQuiet = true
  · exact .inr (if_pos quiet)
  · refine .inl (Classical.byContradiction fun stuck => quiet (isQuiet_iff.2 fun m inner => ?_))
    exact Option.eq_none_iff_forall_ne_some.2 fun s' went => stuck ⟨m, s', inner, went⟩

theorem length_le_load {turns : List (Workforce.Move Submission)}
    (inner : ∀ m ∈ turns, m.isInner = true) (played : s.play (turns.map .act) = some s') :
    turns.length ≤ s.force.load := by
  have moves : (turns.map Beat.act).filterMap (·.move?) = turns :=
    List.filterMap_map.trans List.filterMap_some
  have force := play_force played
  rw [moves] at force
  exact Workforce.length_le_load inner force

/-- However workers take turns, an accepted job starts at the first moment at which some worker has
none of the jobs before it, and a shutdown returns with the last of them. -/
theorem first_come_first_served {name : String} {beats : List Beat}
    (played : (ofSize name n).play beats = some s) :
    -- The timeline of the accepted jobs treats them as it should.
    Served (max n 1) s.force.accepted (s.spans n) ∧
    -- Each of them starts and ends once, at no other time, and has done so when that has passed.
    (s.begun.map (·.1)).Nodup ∧ (s.finished.map (·.1)).Nodup ∧
    s.begun.map (·.1) = s.force.started ∧ s.finished.map (·.1) = s.force.ended ∧
    (∀ (i : Nat) t span, s.force.accepted[i]? = some t → (s.spans n)[i]? = some span →
      (∀ time, (t, time) ∈ s.begun → time = span.start) ∧
      (span.start < s.clock → (t, span.start) ∈ s.begun) ∧
      (∀ time, (t, time) ∈ s.finished → time = span.stop) ∧
      (span.stop < s.clock → (t, span.stop) ∈ s.finished)) ∧
    -- The clock cannot stand still for ever.
    (∀ (turns : List (Workforce.Move Submission)) s', (∀ m ∈ turns, m.isInner = true) →
      s.play (turns.map .act) = some s' → turns.length ≤ s.force.load) ∧
    ((∃ m s', m.isInner = true ∧ s.go m = some s') ∨
      s.beat .tick = some { s with clock := s.clock + 1 }) ∧
    -- The shutdown that waits for the workers returns when the last job has ended.
    (∀ before call after, beats = before ++ .act (.leave call) :: after →
      ∃ v, (ofSize name n).play before = some v ∧
        (v.force.farewells.length = 1 ∨ v.force.farewells[call]? = some (.waiting true) →
          ∃ called, v.calls[call]? = some called ∧
            IsGreatest (endings called (s.spans n)) v.clock ∧
            ((s.line n).advance (called - (s.line n).clock)).shutdown.clock = v.clock)) ∧
    -- Other breakdowns would move nothing.
    (∀ name' beats' s', (ofSize name' n).play beats' = some s' →
      s'.force.accepted.map (·.calm) = s.force.accepted.map (·.calm) →
        s'.spans n = s.spans n) := by
  have h := punctual_play played
  refine ⟨h.fair.served, h.begun.1 ▸ h.nodup_started, h.finished.1 ▸ h.nodup_ended, h.begun.1,
    h.finished.1, fun i t span job at_i => ?_, fun _ _ => length_le_load, moves_or_tick s, ?_,
    fun _ _ _ _ same => (line_alike same).spans⟩
  · have mem := List.mem_of_getElem? job
    obtain rfl := h.span_eq job at_i
    exact ⟨fun time noted => h.begun.2 _ noted, fun past => h.mem_begun (h.started_of_lt mem past),
      fun time noted => h.finished.2 _ noted, fun past => h.mem_finished (h.ended_of_lt mem past)⟩
  · rintro before call after rfl
    rw [play_append] at played
    obtain ⟨v, first, rest⟩ := Option.bind_eq_some_iff.1 played
    refine ⟨v, first, fun alone => ?_⟩
    have hv := punctual_play first
    obtain ⟨_, went, -⟩ := Option.bind_eq_some_iff.1 rest
    obtain ⟨-, force, left, rfl⟩ := of_go went
    obtain ⟨all, found, -⟩ := of_leave left
    obtain ⟨called, came, last, greatest⟩ := hv.isGreatest found (hv.isDeserted left alone)
    have closed := hv.attended.closed (List.ne_nil_of_mem (List.mem_of_getElem? found))
    have alike : (s.line n).Alike (v.line n) := line_alike (congrArg _ (accepted_play closed rest))
    have spans : v.spans n = s.spans n := alike.spans.symm
    rw [spans] at greatest
    refine ⟨called, came, greatest, ?_⟩
    have clock : ((s.line n).advance (called - (s.line n).clock)).clock = called := by
      show (s.line n).clock + _ = _
      have := alike.clock
      omega
    have ends := (h.fair.advance (called - (s.line n).clock)).isGreatest (by omega)
    rw [clock] at ends
    exact ends.unique greatest

end Timesheet

/-- Four jobs for two workers, the first of which breaks down and the third of which takes no time.
The shutdown is called while two of them wait. -/
def Beat.sample : List Beat :=
  [.act (.submit ⟨0, 0, ⟨"boom", 2, true⟩⟩), .act (.submit ⟨1, 0, ⟨"short", 1, false⟩⟩),
    .act (.submit ⟨2, 0, ⟨"nothing", 0, false⟩⟩), .act (.submit ⟨3, 0, ⟨"last", 1, false⟩⟩),
    .act (.work 0 .listen), .act (.work 0 .receive), .act (.work 1 .listen),
    .act (.work 1 .receive), .act (.work 1 .start), .act (.work 0 .start),
    .act .close, .act (.claim 0), .tick,
    .act (.work 1 (.finish false)), .act (.work 1 .notice), .act (.work 1 .listen),
    .act (.work 1 .receive), .act (.work 1 .start), .act (.work 1 (.finish false)),
    .act (.work 1 .notice), .act (.work 1 .listen), .act (.work 1 .receive),
    .act (.work 1 .start), .tick,
    .act (.work 0 (.finish true)), .act (.work 0 .notice), .act (.work 0 .listen),
    .act (.work 0 .quit), .act (.work 1 (.finish false)), .act (.work 1 .notice),
    .act (.work 1 .listen), .act (.work 1 .quit), .act (.leave 0)]

namespace Timesheet

theorem first_come_first_served_sample :
    ∃ s, (ofSize "test" 2).play Beat.sample = some s ∧
      s.spans 2 = [⟨0, 2⟩, ⟨0, 1⟩, ⟨1, 1⟩, ⟨1, 2⟩] ∧ s.finished.map (·.2) = [1, 1, 2, 2] ∧
      Served 2 s.force.accepted (s.spans 2) := by
  have check : ((ofSize "test" 2).play Beat.sample).any (fun s =>
      s.spans 2 = [⟨0, 2⟩, ⟨0, 1⟩, ⟨1, 1⟩, ⟨1, 2⟩] ∧
        s.finished.map (·.2) = [1, 1, 2, 2]) = true := by
    decide +kernel
  obtain ⟨s, played, ran⟩ := (Option.any_eq_true _ _).1 check
  obtain ⟨spans, finished⟩ := of_decide_eq_true ran
  obtain ⟨served, -⟩ := first_come_first_served played
  exact ⟨s, played, spans, finished, served⟩

end Timesheet

end Southbound
