import Mathlib.Data.List.Basic
import Mathlib.Logic.Relation
import Southbound.Proofs.Rounds
import Southbound.Provider
import Southbound.Shift.Load

/-!
# What a provider shows of its schedules

A provider runs the passes of a schedule among everything else that it does, and does all that can
be done at a time before its clock moves on.  Its schedule is what a `Rounds` shows
(`Rounds.Shows`): every turn of a shift is something that rounds can do or is no matter of the
schedule (`Rounds.shows_step`), and when nobody has a turn any more the clock may go on
(`Shift.Attended`).

So a provider that was started, and whose clock goes on millisecond by millisecond, plays the rounds
of its schedule whatever it is told to do meanwhile (`Provider.plays_rounds`), and drops the
schedule as rounds stop that are told to (`Provider.stops_rounds`).  What `Rounds.keeps_time` says
holds of it.
-/

namespace Southbound

open Job

namespace Rounds

variable {r r' r'' : Rounds}

/-! ## From one state to another -/

/-- One thing after the other can lead there. -/
def Leads (r r' : Rounds) : Prop := ∃ moves, r.play moves = some r'

theorem play_append (moves later : List Move) :
    r.play (moves ++ later) = (r.play moves).bind (·.play later) := by
  induction moves generalizing r with
  | nil => rfl
  | cons m rest ih =>
    simp only [List.cons_append, play, Option.bind_assoc]
    exact congrArg _ (funext fun v => ih)

theorem Leads.refl (r : Rounds) : r.Leads r := ⟨[], rfl⟩

theorem Leads.trans (first : r.Leads r') (second : r'.Leads r'') : r.Leads r'' := by
  obtain ⟨moves, played⟩ := first
  obtain ⟨later, playedLater⟩ := second
  exact ⟨moves ++ later, by rw [play_append, played]; exact playedLater⟩

theorem leads_of_move {m : Move} (moved : r.move m = some r') : r.Leads r' :=
  ⟨[m], by simp [play, moved]⟩

/-! ## What a schedule shows -/

/-- A schedule of a provider with these settings, at this time, is what the rounds are at. -/
structure Shows (r : Rounds) (s : Settings) (now : Nat) (shown : Schedule) : Prop where
  settings : r.settings = s
  clock : r.clock = now
  schedule : r.schedule = shown
  phase : r.phase = if shown.pass.isSome then .passing else .waiting
  rests : r.working = false
  untold : r.signal = none

theorem shows_begin (s : Settings) (now : Nat) : (begin s now).Shows s now (.begin s now) :=
  ⟨rfl, rfl, rfl, rfl, rfl, rfl⟩

variable {s : Settings} {now : Nat} {schedule : Schedule}

namespace Shows

/-- A pass that is due is started. -/
theorem startPass (h : r.Shows s now schedule) (due : schedule.isDue now = true) :
    ∃ r', r.Leads r' ∧ r'.Shows s now (schedule.startPass s now) := by
  obtain ⟨rfl, rfl, rfl, phase, rests, untold⟩ := h
  have pass : r.schedule.pass = none :=
    Option.isNone_iff_eq_none.1 (Bool.and_eq_true_iff.1 due).1
  rw [pass] at phase
  have moved : r.move .poll = some r.launch := by
    simp [move, poll, phase, untold, due]
  exact ⟨_, leads_of_move moved, rfl, rfl, rfl, rfl, rests, untold⟩

/-- The schedule takes note of a pass that is over. -/
theorem notice (h : r.Shows s now schedule) {job : Job Unit} (pass : schedule.pass = some job)
    (finished : job.isOver = true) :
    ∃ r', r.Leads r' ∧ r'.Shows s now (schedule.withPass none) := by
  obtain ⟨rfl, rfl, rfl, phase, rests, untold⟩ := h
  rw [pass] at phase
  have polled : r.move .poll = some (r.notice job) := poll_of_over phase untold pass finished
  exact ⟨_, leads_of_move polled, rfl, rfl, rfl, rfl, rests, untold⟩

/-- The pass gets an answer, whatever that is. -/
theorem answer (h : r.Shows s now schedule) {a : Action} {next : Option a.Answer → Job Unit}
    (pass : schedule.pass = some (.act a next)) (reply : (a : Action) → Option a.Answer) :
    ∃ r', r.Leads r' ∧ r'.Shows s now (schedule.withPass (some (next (reply a)))) := by
  obtain ⟨rfl, rfl, rfl, phase, rests, untold⟩ := h
  rw [pass] at phase
  have answered : r.move (.answer reply) = some (r.goOn (next (reply a))) := by
    simp [move, Rounds.answer, rests, pass]
  by_cases finished : (next (reply a)).isOver = true
  · rw [goOn, if_pos finished] at answered
    exact ⟨_, leads_of_move answered, rfl, rfl, rfl, phase, rests, untold⟩
  · rw [goOn, if_neg finished] at answered
    have alive : r.phase ≠ .stopped := by simp [phase]
    refine ⟨_, (leads_of_move answered).trans (leads_of_move (m := .suspend) rfl), rfl, rfl, ?_,
      phase, rfl, untold⟩
    exact if_neg alive

/-- The pass goes on until it is over or has to wait. -/
theorem carryOn {job : Job Unit} {d : Deployment} (h : r.Shows s now schedule)
    (pass : schedule.pass = some job) :
    ∃ r', r.Leads r' ∧ r'.Shows s now (schedule.withPass (job.run d).1.rest?) := by
  induction job generalizing r schedule d with
  | done u => exact h.notice pass rfl
  | crashed => exact h.notice pass rfl
  | act a next ih =>
    by_cases ready : d.isReady a = true
    · obtain ⟨v, leads, shows⟩ := h.answer pass fun b => (d.perform b).1
      obtain ⟨r', leadsThen, showsThen⟩ := ih _ (d := (d.perform a).2) shows rfl
      rw [run_act a next d ready]
      exact ⟨r', leads.trans leadsThen, showsThen⟩
    · have waits : ((Job.act a next).run d).1.rest? = some (.act a next) := by
        simp [Job.run, ready, Progress.rest?]
      rw [waits, Schedule.withPass, ← pass]
      exact ⟨r, .refl r, h⟩

end Shows

end Rounds

/-! ## Shifts -/

namespace Shift

theorem constants_serve (s : Shift) : s.serve.settings = s.settings ∧ s.serve.now = s.now := by
  unfold serve
  split
  · exact ⟨rfl, rfl⟩
  · dsimp only
    split <;> exact ⟨rfl, rfl⟩

theorem constants_lineUp (s : Shift) : s.lineUp.settings = s.settings ∧ s.lineUp.now = s.now := by
  unfold lineUp
  dsimp only
  split
  · exact constants_serve _
  · exact ⟨rfl, rfl⟩

theorem constants_carryOn (s : Shift) :
    s.carryOn.settings = s.settings ∧ s.carryOn.now = s.now := by
  unfold carryOn
  split
  · exact ⟨rfl, rfl⟩
  · split <;> exact ⟨rfl, rfl⟩

theorem constants_tick (s : Shift) (place : Nat) :
    (s.tick place).settings = s.settings ∧ (s.tick place).now = s.now := by
  unfold tick
  split
  · exact ⟨rfl, rfl⟩
  · split <;> exact ⟨rfl, rfl⟩

theorem constants_carryOnPass (s : Shift) (place : Nat) :
    (s.carryOnPass place).settings = s.settings ∧ (s.carryOnPass place).now = s.now := by
  unfold carryOnPass
  split
  · exact ⟨rfl, rfl⟩
  · split
    · exact ⟨rfl, rfl⟩
    · dsimp only
      split <;> exact ⟨rfl, rfl⟩

theorem constants_step (s : Shift) : s.step.settings = s.settings ∧ s.step.now = s.now := by
  unfold step
  split
  · exact ⟨rfl, rfl⟩
  · next t rest _ =>
    cases t with
    | serve => exact constants_serve { s with turns := rest }
    | order => exact constants_carryOn { s with turns := rest }
    | lineUp line => exact constants_lineUp (Shift.say { s with turns := rest } line)
    | tick place line => exact constants_tick (Shift.say { s with turns := rest } line) place
    | pass place => exact constants_carryOnPass { s with turns := rest } place

theorem constants_work (s : Shift) : s.work.settings = s.settings ∧ s.work.now = s.now := by
  refine work_keeps (I := fun v => v.settings = s.settings ∧ v.now = s.now) (fun v h => ?_)
    ⟨rfl, rfl⟩
  obtain ⟨settings, now⟩ := constants_step v
  exact ⟨settings.trans h.1, now.trans h.2⟩

end Shift

namespace Rounds

variable {r r' : Rounds}

/-- The schedule in that place of a shift is what the rounds are at. -/
def ShowsIn (r : Rounds) (s : Shift) (place : Nat) : Prop :=
  ∃ schedule, s.schedules[place]? = some schedule ∧ r.Shows s.settings s.now schedule

variable {s s' : Shift} {place : Nat}

/-- What changes no schedule is no matter of the rounds. -/
theorem ShowsIn.same (h : r.ShowsIn s place) (settings : s'.settings = s.settings)
    (now : s'.now = s.now) (schedules : s'.schedules = s.schedules) : r.ShowsIn s' place := by
  obtain ⟨schedule, found, shows⟩ := h
  exact ⟨schedule, schedules ▸ found, settings ▸ now ▸ shows⟩

/-- A schedule that was replaced, by itself or by what rounds lead to. -/
theorem ShowsIn.set (h : r.ShowsIn s place) {other : Nat} {old new : Schedule}
    (found : s.schedules[other]? = some old)
    (leads : ∀ r : Rounds, r.Shows s.settings s.now old →
      ∃ r', r.Leads r' ∧ r'.Shows s.settings s.now new)
    (settings : s'.settings = s.settings) (now : s'.now = s.now)
    (schedules : s'.schedules = s.schedules.set other new) :
    ∃ r', r.Leads r' ∧ r'.ShowsIn s' place := by
  obtain ⟨schedule, here, shows⟩ := h
  by_cases same : place = other
  · subst same
    cases here.symm.trans found
    obtain ⟨r', led, shows'⟩ := leads r shows
    have inside : place < s.schedules.length := (List.getElem?_eq_some_iff.1 here).1
    refine ⟨r', led, new, ?_, settings ▸ now ▸ shows'⟩
    rw [schedules, List.getElem?_set_self inside]
  · refine ⟨r, .refl r, schedule, ?_, settings ▸ now ▸ shows⟩
    rw [schedules, List.getElem?_set_ne (Ne.symm same), here]

theorem shows_tick (h : r.ShowsIn s place) (other : Nat) :
    ∃ r', r.Leads r' ∧ r'.ShowsIn (s.tick other) place := by
  unfold Shift.tick
  split
  · exact ⟨r, .refl r, h⟩
  · next schedule found =>
    split
    · next due => exact h.set found (fun _ shows => shows.startPass due) rfl rfl rfl
    · exact ⟨r, .refl r, h⟩

theorem shows_carryOnPass (h : r.ShowsIn s place) (other : Nat) :
    ∃ r', r.Leads r' ∧ r'.ShowsIn (s.carryOnPass other) place := by
  unfold Shift.carryOnPass
  split
  · exact ⟨r, .refl r, h⟩
  · next schedule found =>
    split
    · exact ⟨r, .refl r, h⟩
    · next job pass =>
      dsimp only
      split <;> exact h.set found (fun _ shows => shows.carryOn pass) rfl rfl rfl

/-- Each turn of a shift is something that rounds can do, or no matter of the schedule. -/
theorem shows_step (h : r.ShowsIn s place) : ∃ r', r.Leads r' ∧ r'.ShowsIn s.step place := by
  unfold Shift.step
  split
  · exact ⟨r, .refl r, h⟩
  · next t rest _ =>
    have h : r.ShowsIn { s with turns := rest } place := h.same rfl rfl rfl
    cases t with
    | serve =>
      obtain ⟨settings, now⟩ := Shift.constants_serve { s with turns := rest }
      exact ⟨r, .refl r, h.same settings now (Shift.schedules_serve _)⟩
    | order =>
      obtain ⟨settings, now⟩ := Shift.constants_carryOn { s with turns := rest }
      exact ⟨r, .refl r, h.same settings now (Shift.schedules_carryOn _)⟩
    | lineUp line =>
      obtain ⟨settings, now⟩ := Shift.constants_lineUp (Shift.say { s with turns := rest } line)
      exact ⟨r, .refl r, h.same settings now (Shift.schedules_lineUp _)⟩
    | tick other line =>
      exact shows_tick (s := Shift.say { s with turns := rest } line) (h.same rfl rfl rfl) other
    | pass other => exact shows_carryOnPass h other

theorem shows_work (h : r.ShowsIn s place) : ∃ r', r.Leads r' ∧ r'.ShowsIn s.work place := by
  refine Shift.work_keeps (I := fun v => ∃ r', r.Leads r' ∧ r'.ShowsIn v place) ?_ ⟨r, .refl r, h⟩
  rintro v ⟨r₁, leads, shows⟩
  obtain ⟨r', leads', shows'⟩ := shows_step shows
  exact ⟨r', leads.trans leads', shows'⟩

end Rounds

/-! ## When nobody has a turn any more -/

/-- A job that waits is not over. -/
theorem Job.isOver_of_run {α : Type} {job rest : Job α} {d : Deployment}
    (waits : (job.run d).1.rest? = some rest) : rest.isOver = false := by
  induction job generalizing d with
  | done a => cases waits
  | crashed => cases waits
  | act a next ih =>
    by_cases ready : d.isReady a = true
    · rw [run_act a next d ready] at waits
      exact ih _ waits
    · have same : ((Job.act a next).run d).1.rest? = some (.act a next) := by
        simp [Job.run, ready, Progress.rest?]
      cases same.symm.trans waits
      rfl

namespace Schedule

/-- What is left of a pass is not over. -/
def Pending (schedule : Schedule) : Prop := ∀ job ∈ schedule.pass, job.isOver = false

theorem pending_startPass (schedule : Schedule) (s : Settings) (now : Nat) :
    (schedule.startPass s now).Pending := by
  rintro job ⟨⟩
  rfl

theorem pending_carryOn (schedule : Schedule) (job : Job Unit) (d : Deployment) :
    (schedule.withPass (job.run d).1.rest?).Pending := fun _ waits => isOver_of_run waits

end Schedule

namespace Shift

variable {s : Shift}

/-- Schedules that are due have a turn to come. -/
structure Attended (s : Shift) : Prop where
  pending : ∀ schedule ∈ s.schedules, schedule.Pending
  due : ∀ (place : Nat) schedule, s.schedules[place]? = some schedule →
    schedule.isDue s.now = true → ∃ line, .tick place line ∈ s.turns

theorem attended_begin {settings : Settings} {now : Nat} {d : Deployment} {pool : Pool Assignment}
    {schedules : List Schedule} {turns : List Turn}
    (pending : ∀ schedule ∈ schedules, schedule.Pending) :
    (begin settings now d pool schedules turns).Attended where
  pending := pending
  due place schedule found due := by
    refine ⟨none, List.mem_append_right _ (List.mem_append_right _ (List.mem_map.2 ?_))⟩
    refine ⟨(schedule, place), List.mem_mergeSort.2 (List.mem_filter.2 ⟨?_, due⟩), rfl⟩
    exact List.mk_mem_zipIdx_iff_getElem?.2 found

/-- Schedules are attended after a turn if each that is as before did not have the turn, and each
other has one to come if it is due. -/
theorem Attended.next {s' : Shift} {t : Turn} {rest : List Turn} (h : s.Attended)
    (turns : s.turns = t :: rest) (kept : ∀ x ∈ rest, x ∈ s'.turns) (now : s'.now = s.now)
    (each : ∀ (place : Nat) schedule, s'.schedules[place]? = some schedule →
      s.schedules[place]? = some schedule ∧ (∀ line, t ≠ .tick place line) ∨
        schedule.Pending ∧
          (schedule.isDue s.now = true → ∃ line, .tick place line ∈ s'.turns)) :
    s'.Attended where
  pending schedule mem := by
    obtain ⟨place, found⟩ := List.mem_iff_getElem?.1 mem
    rcases each place schedule found with ⟨old, -⟩ | ⟨pending, -⟩
    · exact h.pending schedule (List.mem_of_getElem? old)
    · exact pending
  due place schedule found due := by
    rw [now] at due
    rcases each place schedule found with ⟨old, other⟩ | ⟨-, attended⟩
    · obtain ⟨line, turn⟩ := h.due place schedule old due
      rw [turns] at turn
      exact ⟨line, kept _ ((List.mem_cons.1 turn).resolve_left fun same => other line same.symm)⟩
    · exact attended due

theorem turns_serve (s : Shift) : ∀ t ∈ s.turns, t ∈ s.serve.turns := by
  intro t mem
  unfold serve
  split
  · exact mem
  · dsimp only
    split
    · exact List.mem_append_left _ mem
    · exact List.mem_append_left _ (List.mem_append_left _ mem)

theorem turns_lineUp (s : Shift) : ∀ t ∈ s.turns, t ∈ s.lineUp.turns := by
  intro t mem
  unfold lineUp
  dsimp only
  split
  · exact turns_serve _ t mem
  · exact mem

theorem turns_carryOn (s : Shift) : ∀ t ∈ s.turns, t ∈ s.carryOn.turns := by
  intro t mem
  unfold carryOn
  split
  · exact mem
  · split
    · exact List.mem_append_left _ mem
    · exact List.mem_append_left _ mem
    · exact mem

/-- A schedule that had its turn is not due. -/
theorem attended_tick (h : s.Attended) {place : Nat} {line : Option LogLine} {rest : List Turn}
    (turns : s.turns = .tick place line :: rest) :
    ((Shift.say { s with turns := rest } line).tick place).Attended := by
  have elsewhere : ∀ {other : Nat} {schedule : Schedule}, other ≠ place →
      s.schedules[other]? = some schedule →
      s.schedules[other]? = some schedule ∧ ∀ line', Turn.tick place line ≠ .tick other line' :=
    fun ne found => ⟨found, fun _ same => ne (Turn.tick.inj same).1.symm⟩
  unfold tick
  split
  · next missing =>
    refine h.next turns (fun _ mem => mem) rfl fun other schedule found => .inl ?_
    exact elsewhere (fun same => by cases (same ▸ found).symm.trans missing) found
  · next schedule found =>
    split
    · next due =>
      refine h.next turns (fun _ mem => List.mem_append_left _ mem) rfl
        fun other schedule' found' => ?_
      have inside : place < s.schedules.length := (List.getElem?_eq_some_iff.1 found).1
      by_cases same : other = place
      · subst same
        have started : schedule' = schedule.startPass s.settings s.now :=
          Option.some.inj (found'.symm.trans (List.getElem?_set_self inside))
        subst started
        exact .inr ⟨schedule.pending_startPass s.settings s.now, fun due => by cases due⟩
      · exact .inl (elsewhere same ((List.getElem?_set_ne (Ne.symm same)).symm.trans found'))
    · next early =>
      refine h.next turns (fun _ mem => mem) rfl fun other schedule' found' => ?_
      by_cases same : other = place
      · subst same
        cases found.symm.trans found'
        exact .inr ⟨h.pending _ (List.mem_of_getElem? found), fun due => absurd due early⟩
      · exact .inl (elsewhere same found')

/-- A schedule whose pass is over has another turn. -/
theorem attended_carryOnPass (h : s.Attended) {place : Nat} {rest : List Turn}
    (turns : s.turns = .pass place :: rest) :
    (Shift.carryOnPass { s with turns := rest } place).Attended := by
  have others : ∀ {other : Nat} line, Turn.pass place ≠ .tick other line := fun _ => nofun
  unfold carryOnPass
  split
  · exact h.next turns (fun _ mem => mem) rfl fun _ _ found => .inl ⟨found, others⟩
  · next schedule found =>
    split
    · exact h.next turns (fun _ mem => mem) rfl fun _ _ found => .inl ⟨found, others⟩
    · next job pass =>
      have inside : place < s.schedules.length := (List.getElem?_eq_some_iff.1 found).1
      have replaced : ∀ {other : Nat} {schedule' : Schedule},
          (s.schedules.set place (schedule.withPass (job.run s.deployment).1.rest?))[other]? =
            some schedule' →
          other = place ∧ schedule' = schedule.withPass (job.run s.deployment).1.rest? ∨
            s.schedules[other]? = some schedule' := by
        intro other schedule' found'
        by_cases same : other = place
        · subst same
          rw [List.getElem?_set_self inside] at found'
          exact .inl ⟨rfl, (Option.some.inj found').symm⟩
        · rw [List.getElem?_set_ne (Ne.symm same)] at found'
          exact .inr found'
      dsimp only
      split
      · next ended =>
        refine h.next turns (fun _ mem => List.mem_append_left _ mem) rfl
          fun other schedule' found' => ?_
        rcases replaced found' with ⟨rfl, rfl⟩ | old
        · exact .inr ⟨schedule.pending_carryOn job s.deployment,
            fun _ => ⟨_, List.mem_append_right _ (List.mem_singleton_self _)⟩⟩
        · exact .inl ⟨old, others⟩
      · next waits =>
        refine h.next turns (fun _ mem => mem) rfl fun other schedule' found' => ?_
        rcases replaced found' with ⟨rfl, rfl⟩ | old
        · obtain ⟨left, rest?⟩ := Option.ne_none_iff_exists'.1
            (by simpa [Progress.isEnded] using waits : (job.run s.deployment).1.rest? ≠ none)
          exact .inr ⟨schedule.pending_carryOn job s.deployment,
            fun due => by rw [rest?] at due; cases due⟩
        · exact .inl ⟨old, others⟩

/-- A turn that is no matter of the schedules. -/
theorem Attended.aside {s' : Shift} {t : Turn} {rest : List Turn} (h : s.Attended)
    (turns : s.turns = t :: rest) (other : ∀ place line, t ≠ .tick place line)
    (kept : ∀ x ∈ rest, x ∈ s'.turns) (now : s'.now = s.now)
    (schedules : s'.schedules = s.schedules) : s'.Attended :=
  h.next turns kept now fun place _ found => .inl ⟨schedules ▸ found, other place⟩

theorem attended_step (h : s.Attended) : s.step.Attended := by
  unfold step
  split
  · exact h
  · next t rest turns =>
    cases t with
    | serve =>
      have other : ∀ place line, Turn.serve ≠ .tick place line := fun _ _ => nofun
      exact h.aside turns other (turns_serve { s with turns := rest }) (constants_serve _).2
        (schedules_serve _)
    | order =>
      have other : ∀ place line, Turn.order ≠ .tick place line := fun _ _ => nofun
      exact h.aside turns other (turns_carryOn { s with turns := rest }) (constants_carryOn _).2
        (schedules_carryOn _)
    | lineUp said =>
      have other : ∀ place line, Turn.lineUp said ≠ .tick place line := fun _ _ => nofun
      exact h.aside turns other (turns_lineUp (Shift.say { s with turns := rest } said))
        (constants_lineUp _).2 (schedules_lineUp _)
    | tick place line => exact attended_tick h turns
    | pass place => exact attended_carryOnPass h turns

theorem attended_work (h : s.Attended) : s.work.Attended :=
  work_keeps (I := Attended) (fun _ => attended_step) h

/-- When nobody has a turn any more, no schedule is due. -/
theorem isDue_of_mem_work (h : s.Attended) (paced : s.Paced) {schedule : Schedule}
    (mem : schedule ∈ s.work.schedules) : schedule.isDue s.work.now = false := by
  obtain ⟨place, found⟩ := List.mem_iff_getElem?.1 mem
  refine Bool.eq_false_iff.2 fun due => ?_
  obtain ⟨line, turn⟩ := (attended_work h).due place schedule found due
  rw [turns_work paced] at turn
  cases turn

end Shift

/-! ## The provider -/

/-- The period of a configuration is positive. -/
theorem Config.settings_period_pos (c : Config) : 0 < c.settings.period :=
  Nat.mul_pos (by decide) (Nat.lt_of_lt_of_le Nat.one_pos (Nat.le_max_right ..))

/-- The schedule in that place of a provider is what the rounds are at. -/
def Rounds.ShowsAt (r : Rounds) (p : Provider) (place : Nat) : Prop :=
  r.ShowsIn (p.eventShift []) place

namespace Provider

variable {p p' p'' : Provider}

/-- What can happen to a provider that is not shut down; its clock goes on by a millisecond at a
time. -/
inductive Happens : Provider → Provider → Prop
  | tick (p : Provider) : Happens p (p.advance 1)
  /-- The world around it changes. -/
  | change (p : Provider) (d : Deployment) : Happens p { p with deployment := d }
  | start (p : Provider) : Happens p p.start
  | changeRole (p : Provider) (id : Identity) (role : Role) : Happens p (p.changeRole id role).2
  | triggerProbe (p : Provider) (id : Identity) : Happens p (p.triggerProbe id)
  | isReachable (p : Provider) (id : Identity) : Happens p (p.isReachable id).2
  | release (p : Provider) : Happens p p.release
  | send (p : Provider) (batch : EventBatch) : Happens p (p.send batch).2
  | closeStream (p : Provider) (stream : Stream) : Happens p (p.closeStream stream)

/-- The schedules have periods, and what is left of a pass is not over. -/
structure Scheduled (p : Provider) : Prop where
  positive : 0 < p.settings.period
  paced : ∀ schedule ∈ p.schedules, 0 < schedule.ticker.period
  pending : ∀ schedule ∈ p.schedules, schedule.Pending

/-- No schedule is late. -/
structure InTime (p : Provider) : Prop extends p.Scheduled where
  early : ∀ schedule ∈ p.schedules, schedule.isDue p.now = false

/-- What the schedules do from one state to another is what rounds do. -/
structure Follows (p p' : Provider) : Prop where
  inTime : p'.InTime
  shows : ∀ {r : Rounds} {place : Nat}, r.ShowsAt p place → ∃ r', r.Leads r' ∧ r'.ShowsAt p' place

theorem InTime.follows_self (h : p.InTime) : p.Follows p := ⟨h, fun shows => ⟨_, .refl _, shows⟩⟩

/-! ### What is no matter of the schedules -/

/-- Schedules and clock are the same. -/
structure Alike (p p' : Provider) : Prop where
  settings : p'.settings = p.settings
  now : p'.now = p.now
  schedules : p'.schedules = p.schedules

namespace Alike

theorem trans (first : p.Alike p') (second : p'.Alike p'') : p.Alike p'' where
  settings := second.settings.trans first.settings
  now := second.now.trans first.now
  schedules := second.schedules.trans first.schedules

theorem scheduled (h : p.Alike p') (before : p.Scheduled) : p'.Scheduled where
  positive := h.settings ▸ before.positive
  paced := h.schedules ▸ before.paced
  pending := h.schedules ▸ before.pending

theorem showsAt (h : p.Alike p') {r : Rounds} {place : Nat} (shows : r.ShowsAt p place) :
    r.ShowsAt p' place := shows.same h.settings h.now h.schedules

theorem follows (h : p.Alike p') (before : p.InTime) : p.Follows p' where
  inTime := { h.scheduled before.toScheduled with
    early := by rw [h.schedules, h.now]; exact before.early }
  shows shows := ⟨_, .refl _, h.showsAt shows⟩

theorem submitEvent (p : Provider) (o : Order) : p.Alike (p.submitEvent o) := by
  unfold Provider.submitEvent
  split <;> exact ⟨rfl, rfl, rfl⟩

theorem submitConnection (p : Provider) (o : Order) : p.Alike (p.submitConnection o) := by
  unfold Provider.submitConnection
  split <;> exact ⟨rfl, rfl, rfl⟩

theorem handle {ε : Type} (p : Provider) (stream : Stream)
    (react : ε → List LogLine × Option Order) (sent : List ε) :
    p.Alike (p.handle stream react sent) := by
  unfold Provider.handle
  refine List.foldlRecOn (motive := fun p' => p.Alike p') _ _ ?_ fun q alike e _ => ?_
  · split <;> exact ⟨rfl, rfl, rfl⟩
  · dsimp only
    split
    · exact alike.trans ((show q.Alike (q.say _) from ⟨rfl, rfl, rfl⟩).trans (submitEvent _ _))
    · exact alike.trans ⟨rfl, rfl, rfl⟩

theorem isReachable (p : Provider) (id : Identity) : p.Alike (p.isReachable id).2 := by
  unfold Provider.isReachable
  split <;> exact ⟨rfl, rfl, rfl⟩

theorem closeStream (p : Provider) (stream : Stream) : p.Alike (p.closeStream stream) := by
  unfold Provider.closeStream
  split <;> exact ⟨rfl, rfl, rfl⟩

end Alike

/-! ### Work -/

/-- Once all is done that can be done, no schedule is late. -/
theorem Scheduled.follows_work (h : p.Scheduled) (turns : List Turn) :
    p.Follows (p.afterEvents (p.eventShift turns).work) := by
  have attended : (p.eventShift turns).Attended := Shift.attended_begin h.pending
  have paced : (p.eventShift turns).Paced := h.paced
  obtain ⟨settings, now⟩ := Shift.constants_work (p.eventShift turns)
  refine ⟨⟨⟨h.positive, (Shift.repeat_step paced _).1, (Shift.attended_work attended).pending⟩,
    fun schedule mem => ?_⟩, fun {r place} shows => ?_⟩
  · have early := Shift.isDue_of_mem_work attended paced mem
    rwa [now] at early
  · have before : r.ShowsIn (p.eventShift turns) place := shows.same rfl rfl rfl
    obtain ⟨r', leads, shows'⟩ := Rounds.shows_work before
    exact ⟨r', leads, shows'.same settings.symm now.symm rfl⟩

theorem Scheduled.follows_settle (h : p.Scheduled) : p.Follows p.settle := h.follows_work []

theorem Alike.follows_settle (h : p.Alike p') (before : p.Scheduled) : p.Follows p'.settle where
  inTime := (h.scheduled before).follows_settle.inTime
  shows shows := (h.scheduled before).follows_settle.shows (h.showsAt shows)

/-! ### The clock -/

/-- Rounds that show a schedule that is not late have nothing to do. -/
theorem poll_of_early {r : Rounds} {s : Settings} {now : Nat} {schedule : Schedule}
    (shows : r.Shows s now schedule) (pending : schedule.Pending)
    (early : schedule.isDue now = false) : r.poll = none := by
  obtain ⟨rfl, rfl, rfl, phase, rests, untold⟩ := shows
  cases pass : r.schedule.pass with
  | none =>
    rw [pass] at phase
    simp [Rounds.poll, phase, untold, early]
  | some job =>
    rw [pass] at phase
    simp [Rounds.poll, phase, untold, pass, pending job pass]

theorem InTime.follows_advance (h : p.InTime) : p.Follows (p.advance 1) := by
  let later := { p with now := p.now + 1 }
  have scheduled : later.Scheduled := ⟨h.positive, h.paced, h.pending⟩
  refine ⟨scheduled.follows_settle.inTime, fun {r place} shows => ?_⟩
  obtain ⟨schedule, found, shows⟩ := shows
  have mem : schedule ∈ p.schedules := List.mem_of_getElem? found
  have idle : r.poll = none := poll_of_early shows (h.pending _ mem) (h.early _ mem)
  have moved : r.move .tick = some { r with clock := r.clock + 1 } := by simp [Rounds.move, idle]
  have there : Rounds.ShowsAt { r with clock := r.clock + 1 } later place :=
    ⟨schedule, found, { shows with clock := congrArg (· + 1) shows.clock }⟩
  obtain ⟨r', leads, shows'⟩ := scheduled.follows_settle.shows there
  exact ⟨r', (Rounds.leads_of_move moved).trans leads, shows'⟩

/-! ### The start -/

/-- The provider with a schedule more that begins now. -/
def withSchedule (p : Provider) : Provider :=
  { p with schedules := p.schedules ++ [.begin p.settings p.now] }

theorem Scheduled.withSchedule (h : p.Scheduled) : p.withSchedule.Scheduled where
  positive := h.positive
  paced schedule mem := by
    rcases List.mem_append.1 mem with old | new
    · exact h.paced schedule old
    · cases List.mem_singleton.1 new
      exact h.positive
  pending schedule mem := by
    rcases List.mem_append.1 mem with old | new
    · exact h.pending schedule old
    · cases List.mem_singleton.1 new
      nofun

theorem showsAt_withSchedule {r : Rounds} {place : Nat} (shows : r.ShowsAt p place) :
    r.ShowsAt p.withSchedule place := by
  obtain ⟨schedule, found, shows⟩ := shows
  have inside : place < p.schedules.length := (List.getElem?_eq_some_iff.1 found).1
  exact ⟨schedule, (List.getElem?_append_left inside).trans found, shows⟩

theorem showsAt_begin (p : Provider) :
    (Rounds.begin p.settings p.now).ShowsAt p.withSchedule p.schedules.length :=
  ⟨_, List.getElem?_concat_length, Rounds.shows_begin p.settings p.now⟩

/-- A provider that starts has a schedule more. -/
theorem follows_start (h : p.Scheduled) : p.withSchedule.Follows p.start := by
  let active := { p with deployment := { p.deployment with active := true } }
  have ordered : active.Alike (active.submitEvent .firstPass) := .submitEvent _ _
  have withSchedule : p.withSchedule.Alike (active.submitEvent .firstPass).withSchedule := by
    refine ⟨ordered.settings, ordered.now, ?_⟩
    unfold Provider.withSchedule
    rw [ordered.settings, ordered.now, ordered.schedules]
  unfold start
  refine Alike.follows_settle (withSchedule.trans ?_) h.withSchedule
  exact ⟨rfl, rfl, rfl⟩

/-! ### Whatever happens -/

theorem InTime.follows_changeRole (h : p.InTime) (id : Identity) (role : Role) :
    p.Follows (p.changeRole id role).2 := by
  unfold changeRole
  dsimp only
  split
  · exact Alike.follows ⟨rfl, rfl, rfl⟩ h
  · split
    · exact (Alike.submitConnection p _).follows h
    · have ordered : p.Alike (p.submitConnection (.role id role)) := .submitConnection _ _
      refine Alike.follows_settle (ordered.trans ?_) h.toScheduled
      exact ⟨rfl, rfl, rfl⟩

theorem InTime.follows_release (h : p.InTime) : p.Follows p.release := by
  have released : p.Alike { p with deployment := p.deployment.release } := ⟨rfl, rfl, rfl⟩
  have follows := (released.scheduled h.toScheduled).follows_work
  exact ⟨(follows _).inTime, fun shows => (follows _).shows (released.showsAt shows)⟩

theorem InTime.follows_send (h : p.InTime) (batch : EventBatch) :
    p.Follows (p.send batch).2 := by
  unfold send
  split
  · cases batch <;> exact (Alike.handle p _ _ _).follows_settle h.toScheduled
  · exact h.follows_self

theorem InTime.follows (h : p.InTime) (happens : p.Happens p') : p.Follows p' := by
  cases happens with
  | tick => exact h.follows_advance
  | change d => exact Alike.follows ⟨rfl, rfl, rfl⟩ h
  | start =>
    have start := follows_start h.toScheduled
    exact ⟨start.inTime, fun shows => start.shows (showsAt_withSchedule shows)⟩
  | changeRole id role => exact h.follows_changeRole id role
  | triggerProbe id =>
    exact Alike.follows_settle ((show p.Alike (p.say _) from ⟨rfl, rfl, rfl⟩).trans
      (.submitEvent _ _)) h.toScheduled
  | isReachable id => exact (Alike.isReachable p id).follows h
  | release => exact h.follows_release
  | send batch => exact h.follows_send batch
  | closeStream stream => exact (Alike.closeStream p stream).follows h

/-- What rounds show of a schedule of a provider that was started, whatever happens then. -/
theorem plays_rounds (positive : 0 < p.settings.period) (unscheduled : p.schedules = [])
    (happened : Relation.ReflTransGen Happens p.start p') :
    ∃ r, (Rounds.begin p.settings p.now).Leads r ∧ r.ShowsAt p' 0 := by
  have before : p.Scheduled := ⟨positive, by simp [unscheduled], by simp [unscheduled]⟩
  have start := follows_start before
  have first := showsAt_begin p
  rw [unscheduled] at first
  suffices p'.InTime ∧ ∃ r, (Rounds.begin p.settings p.now).Leads r ∧ r.ShowsAt p' 0 from this.2
  induction happened with
  | refl => exact ⟨start.inTime, start.shows first⟩
  | tail _ happens ih =>
    obtain ⟨inTime, r, leads, shows⟩ := ih
    have follows := inTime.follows happens
    obtain ⟨r', leads', shows'⟩ := follows.shows shows
    exact ⟨follows.inTime, r', leads.trans leads', shows'⟩

/-- The schedule of a provider that is started as its configuration says. -/
theorem plays_rounds_of_fresh (c : Config) (capacity : Nat) (d : Deployment)
    (happened : Relation.ReflTransGen Happens (fresh c.settings capacity d).start p') :
    ∃ r, (Rounds.begin c.settings 0).Leads r ∧ r.ShowsAt p' 0 :=
  plays_rounds c.settings_period_pos rfl happened

/-- A provider that drops its schedules stops them as rounds stop that are told to: what was under
way is given up. -/
theorem stops_rounds {r : Rounds} {place : Nat} (shows : r.ShowsAt p place) :
    p.dropSchedules.schedules = [] ∧
    ∃ r', r.play [.signal, .poll] = some r' ∧ r'.phase = .stopped ∧ r'.schedule.pass = none ∧
      r'.lines = r.lines ++ [.scheduleStopped] := by
  obtain ⟨schedule, -, shows⟩ := shows
  let told := { r with signal := some r.clock }
  have alive : told.phase ≠ .stopped := by
    show r.phase ≠ .stopped
    rw [shows.phase]
    split <;> nofun
  have polled : told.poll = some told.halt := Rounds.poll_of_told alive rfl
  have signalled : r.move .signal = some told := by
    simp [Rounds.move, shows.untold, told]
  refine ⟨rfl, told.halt, ?_, rfl, ?_, rfl⟩
  · simp [Rounds.play, signalled, show told.move .poll = some told.halt from polled]
  · simp [Rounds.halt, told, shows.rests, Schedule.withPass]

end Provider

end Southbound
