import Southbound.Proofs.Glimpses

/-!
# Jobs in surroundings that change

`Job.run` lets nothing happen between two steps of a job.  In a `Job.Course` everything around the
provider may change there: who masters a device, what the store shows, what drivers and probes
answer, what goes wrong.  Only the records stay, because nobody but the provider changes them, and
the provider does one thing at a time here.

So the record of a device is all that a job can rely on.  `j.Tracks E id r? Q` follows the job along
the record of one device and takes every answer into account that the record does not settle and
that `E` does not rule out.  A job is understood by its parts (`Job.tracks_bind`) down to single
actions (`Job.tracks_ofAction`), and `Job.Course.tracked` takes the result back to courses.
-/

namespace Southbound

open Deployment Job

/-! ## What actions have to do with a record -/

namespace Action

/-- What the action makes of the record of a device. -/
def recordAfter (id : Identity) (r? : Option DeviceRecord) : Action → Option DeviceRecord
  | changeRecord id' c => if id' = id then some (c.apply (r?.getD .fresh)) else r?
  | markDesired desired => r?.map fun r => { r with desired := desired.contains id }
  | prune => r?.filter (·.isKept)
  | _ => r?

/-- What is answered about the record of a device is how the record is. -/
def Truthful (id : Identity) (r? : Option DeviceRecord) : (a : Action) → Option a.Answer → Prop
  | readRecord id', reply => id' = id → reply = some (r?.getD .fresh)
  | changeRecord id' c, reply => id' = id → reply = some (c.apply (r?.getD .fresh))
  | _, _ => True

end Action

/-- Only three actions change records. -/
theorem Slice.Follows.record?_eq {v v' : Slice} {id : Identity} {a : Action} (h : v.Follows id a v')
    (unchanging : ∀ id' c, a ≠ .changeRecord id' c)
    (unmarking : ∀ desired, a ≠ .markDesired desired) (unpruning : a ≠ .prune) :
    v'.record? = v.record? := by
  cases h with
  | same => rfl
  | marked desired => exact absurd rfl (unmarking desired)
  | pruned => exact absurd rfl unpruning
  | about _ becomes =>
    cases becomes with
    | changed id' c => exact absurd rfl (unchanging id' c)
    | _ => rfl

namespace Deployment

variable (d : Deployment) (id : Identity)

theorem get?_records_perform (a : Action) :
    (d.perform a).2.records.get? id = a.recordAfter id (d.records.get? id) := by
  have follows := (d.follows_perform a id).record?_eq
  cases a with
  | changeRecord id' c =>
    by_cases own : id' = id
    · subst own
      simp [perform, Action.recordAfter, Records.change, Records.read]
    · simp [perform, Action.recordAfter, Records.change, own,
        SortedMap.get?_insert_of_ne _ _ (Ne.symm own)]
  | markDesired desired =>
    simp [perform, Action.recordAfter, Records.markDesired, SortedMap.get?_map]
  | prune => simp [perform, Action.recordAfter, Records.prune, SortedMap.get?_filter]
  | _ =>
    exact follows (fun _ _ => Action.noConfusion) (fun _ => Action.noConfusion) Action.noConfusion

theorem truthful_perform (a : Action) :
    a.Truthful id (d.records.get? id) (d.perform a).1 := by
  cases a with
  | readRecord id' =>
    rintro rfl
    rfl
  | changeRecord id' c =>
    rintro rfl
    simp [perform, Records.change, Records.read]
  | _ => trivial

end Deployment

/-! ## Courses -/

namespace Job

variable {α β : Type} {id : Identity} {r? : Option DeviceRecord}

/-- The job goes through to its end while everything but the records may change between two of its
steps.  Its result is `none` if it broke down; listed is what a device saw. -/
inductive Course (id : Identity) : Job α → Deployment → List Glimpse → Option α → Deployment → Prop
  | done (a : α) (d : Deployment) : Course id (done a) d [] (some a) d
  | crashed (d : Deployment) : Course id crashed d [] none d
  | act {a : Action} {next : Option a.Answer → Job α} {d d₁ d' : Deployment} {seen : List Glimpse}
    {result : Option α} (around : d₁.records = d.records) (ready : d₁.isReady a = true)
    (rest : Course id (next (d₁.perform a).1) (d₁.perform a).2 seen result d') :
    Course id (act a next) d (⟨d₁.slice id, a, (d₁.perform a).1⟩ :: seen) result d'

/-- A run to the end is a course in which nothing changes meanwhile. -/
theorem course_of_run {j : Job α} {d d' : Deployment} {result : Option α}
    (ran : j.run d = (result.elim .crashed .done, d')) :
    j.Course id d (j.glimpses id d) result d' := by
  induction j generalizing d with
  | done a =>
    cases result with
    | none => cases ran
    | some b =>
      cases ran
      exact .done a _
  | crashed =>
    cases result with
    | none =>
      cases ran
      exact .crashed _
    | some b => cases ran
  | act a next ih =>
    by_cases ready : d.isReady a = true
    · rw [run_act a next d ready] at ran
      rw [glimpses_act a next d ready]
      exact .act rfl ready (ih _ ran)
    · simp only [run, ready] at ran
      cases result <;> cases ran

theorem exists_course_of_ended (id : Identity) {j : Job α} {d : Deployment}
    (ended : (j.run d).1.isEnded = true) :
    ∃ result, j.Course id d (j.glimpses id d) result (j.run d).2 := by
  rcases ran : j.run d with ⟨_ | _ | _, d'⟩
  case done a => exact ⟨some a, course_of_run ran⟩
  case crashed => exact ⟨none, course_of_run ran⟩
  case waiting rest =>
    rw [ran] at ended
    cases ended

/-! ## Along the record of a device -/

/-- What is asked of the end of a job: its result, the record, and what the device saw. -/
abbrev Finding (α : Type) := Option α → Option DeviceRecord → List Glimpse → Prop

variable {E : (a : Action) → Option a.Answer → Prop}

/-- Whatever is answered, within `E`, the job ends as asked, where the device has this record at the
beginning. -/
def Tracks (E : (a : Action) → Option a.Answer → Prop) (id : Identity) :
    Job α → Option DeviceRecord → Finding α → Prop
  | done a, r?, Q => Q (some a) r? []
  | crashed, r?, Q => Q none r? []
  | act a next, r?, Q => ∀ (v : Slice) (reply : Option a.Answer), a.Truthful id r? reply →
    E a reply → Tracks E id (next reply) (a.recordAfter id r?)
      fun result r?' seen => Q result r?' (⟨v, a, reply⟩ :: seen)

theorem Tracks.mono {j : Job α} {Q Q' : Finding α} (h : j.Tracks E id r? Q)
    (weaker : ∀ result r?' seen, Q result r?' seen → Q' result r?' seen) :
    j.Tracks E id r? Q' := by
  induction j generalizing r? Q Q' with
  | done a => exact weaker _ _ _ h
  | crashed => exact weaker _ _ _ h
  | act a next ih =>
    exact fun v reply truthful expected =>
      ih _ (h v reply truthful expected) fun result r?' seen => weaker result r?' _

/-- What holds of every end holds of the end of the job. -/
theorem tracks_of_forall {j : Job α} {Q : Finding α} (h : ∀ result r?' seen, Q result r?' seen) :
    j.Tracks E id r? Q := by
  induction j generalizing r? Q with
  | done a => exact h _ _ _
  | crashed => exact h _ _ _
  | act a next ih => exact fun _ reply _ _ => ih reply fun _ _ _ => h _ _ _

@[simp] theorem tracks_done (a : α) {Q : Finding α} :
    (done a).Tracks E id r? Q ↔ Q (some a) r? [] := Iff.rfl

@[simp] theorem tracks_crashed {Q : Finding α} :
    (crashed : Job α).Tracks E id r? Q ↔ Q none r? [] := Iff.rfl

/-- One job, and another that begins where the first one ends. -/
theorem tracks_bind (j : Job α) (f : α → Job β) {Q : Finding β} :
    (bind j f).Tracks E id r? Q ↔ j.Tracks E id r? fun result r?' seen =>
      match result with
      | some a => (f a).Tracks E id r?' fun result' r?'' later => Q result' r?'' (seen ++ later)
      | none => Q none r?' seen := by
  induction j generalizing r? Q with
  | done a => simp [Tracks]
  | crashed => exact Iff.rfl
  | act a next ih => simp only [act_bind, Tracks, ih, List.cons_append]

theorem tracks_contained (j : Job α) {Q : Finding (Option α)} :
    j.contained.Tracks E id r? Q ↔
      j.Tracks E id r? fun result r?' seen => Q (some result) r?' seen := by
  induction j generalizing r? Q with
  | done a => exact Iff.rfl
  | crashed => exact Iff.rfl
  | act a next ih => simp only [contained, Tracks, ih]

/-- A single action. -/
theorem tracks_ofAction (a : Action) {Q : Finding a.Answer} :
    (ofAction a).Tracks E id r? Q ↔ ∀ (v : Slice) (reply : Option a.Answer),
      a.Truthful id r? reply → E a reply → Q reply (a.recordAfter id r?) [⟨v, a, reply⟩] := by
  refine forall_congr' fun v => forall_congr' fun reply => imp_congr_right fun _ =>
    imp_congr_right fun _ => ?_
  cases reply <;> exact Iff.rfl

variable (id) in
/-- A single action, whatever is answered. -/
theorem tracks_action (a : Action) {Q : Finding a.Answer}
    (h : ∀ v reply, Q reply (a.recordAfter id r?) [⟨v, a, reply⟩]) :
    (ofAction a).Tracks E id r? Q :=
  (tracks_ofAction a).2 fun v reply _ _ => h v reply

variable (id) in
/-- What is read is the record. -/
theorem tracks_readRecord {Q : Finding DeviceRecord}
    (h : ∀ v, Q (some (r?.getD .fresh)) r? [⟨v, .readRecord id, some (r?.getD .fresh)⟩]) :
    (readRecord id).Tracks E id r? Q :=
  (tracks_ofAction (.readRecord id)).2 fun v reply truthful _ => by
    rw [truthful rfl]
    exact h v

variable (id) in
/-- What is answered is the record after the change. -/
theorem tracks_changeRecord (c : RecordChange) {Q : Finding DeviceRecord}
    (h : ∀ v, Q (some (c.apply (r?.getD .fresh))) (some (c.apply (r?.getD .fresh)))
      [⟨v, .changeRecord id c, some (c.apply (r?.getD .fresh))⟩]) :
    (changeRecord id c).Tracks E id r? Q :=
  (tracks_ofAction (.changeRecord id c)).2 fun v reply truthful _ => by
    rw [truthful rfl, Action.recordAfter, if_pos rfl]
    exact h v

/-- Two findings may be shown one after the other. -/
theorem Tracks.and {j : Job α} {Q Q' : Finding α} (h : j.Tracks E id r? Q)
    (h' : j.Tracks E id r? Q') :
    j.Tracks E id r? fun result r?' seen => Q result r?' seen ∧ Q' result r?' seen := by
  induction j generalizing r? Q Q' with
  | done a => exact ⟨h, h'⟩
  | crashed => exact ⟨h, h'⟩
  | act a next ih =>
    exact fun v reply truthful expected =>
      ih _ (h v reply truthful expected) (h' v reply truthful expected)

/-- The device sees the actions of the footprint only. -/
theorem Only.tracks {ok : Action → Prop} {j : Job α} (only : j.Only ok) :
    j.Tracks E id r? fun _ _ seen => ∀ g ∈ seen, ok g.action := by
  induction j generalizing r? with
  | done a => exact fun _ h => nomatch h
  | crashed => exact fun _ h => nomatch h
  | act a next ih =>
    exact fun v reply _ _ => (ih _ (only.2 reply)).mono fun _ _ _ rest =>
      List.forall_mem_cons.2 ⟨only.1, rest⟩

/-- What is tracked of a job is so in all its courses in which nothing else is answered. -/
theorem Course.tracked {j : Job α} {d d' : Deployment} {seen : List Glimpse} {result : Option α}
    {Q : Finding α} (course : j.Course id d seen result d')
    (expected : ∀ g ∈ seen, E g.action g.reply) (h : j.Tracks E id (d.records.get? id) Q) :
    Q result (d'.records.get? id) seen := by
  induction course generalizing Q with
  | done a d => exact h
  | crashed d => exact h
  | @act a next d d₁ d' seen result around ready rest ih =>
    obtain ⟨first, later⟩ := List.forall_mem_cons.1 expected
    have truthful := d₁.truthful_perform id a
    rw [around] at truthful
    have tracked := h (d₁.slice id) _ truthful first
    rw [← around, ← get?_records_perform] at tracked
    exact ih later tracked

end Job

end Southbound
