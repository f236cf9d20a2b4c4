import Southbound.Pool.Workforce
import Southbound.Shift.Load

/-!
# A pool neither loses nor repeats a job

However submissions, the steps of the workers and the calls of the shutdown follow each other, every
accepted job is in exactly one place: in the queue, with a worker that took it, in progress, or
ended (`Workforce.Accounted`).  Jobs are taken in the order in which they were accepted, and there
are never more in progress than there are workers.  As a worker leaves only when the queue is closed
and empty, everything has ended once all workers are gone (`Workforce.Attended`).

A shutdown waits for that if it is the first to take the workers.  A shutdown that comes while the
first one waits finds no workers to wait for and returns at once, with jobs still in progress
(`Workforce.shutdowns_overlap`).

Left alone, workers and shutdowns come to rest, since each of their moves makes `Workforce.load`
smaller; and they rest only when everything accepted has ended and every shutdown has returned.
Whether jobs break down makes no difference but to what the operator is told
(`Workforce.move_calm`).  `Workforce.jobs_kept` says all of this about the runs of a new pool.
-/

namespace Southbound

namespace Workforce

variable {τ : Type} {label : τ → String} {w w' : Workforce τ} {n : Nat}

/-! ## What workers do -/

/-- What a worker can do, and what comes of it. -/
inductive Acts (label : τ → String) (w : Workforce τ) (place : Nat) : Workforce τ → Prop
  | listen (found : w.workers[place]? = some .idle) : Acts label w place (w.assign place .listening)
  | receive {t : τ} {rest : List τ} (found : w.workers[place]? = some .listening)
    (first : w.queue = t :: rest) :
    Acts label w place
      { w.assign place (.carrying t) with queue := rest, taken := w.taken ++ [t] }
  | start {t : τ} (found : w.workers[place]? = some (.carrying t)) :
    Acts label w place { w.assign place (.serving t) with started := w.started ++ [t] }
  | finish {t : τ} (failed : Bool) (found : w.workers[place]? = some (.serving t)) :
    Acts label w place { w.assign place (.served t failed) with ended := w.ended ++ [t] }
  | notice {t : τ} {failed : Bool} (found : w.workers[place]? = some (.served t failed)) :
    Acts label w place
      { w.assign place .idle with
        lines := w.lines ++ if failed then [.jobFailed w.name (label t)] else [] }
  | quit (found : w.workers[place]? = some .listening) (empty : w.queue = [])
    (closed : w.accepting = false) : Acts label w place (w.assign place .gone)

theorem acts_of_work {place : Nat} {deed : Worker.Deed}
    (worked : w.work label place deed = some w') : w.Acts label place w' := by
  obtain ⟨worker, found, acted⟩ := Option.bind_eq_some_iff.1 worked
  unfold act at acted
  split at acted
  · split at acted
    · cases acted
    · cases acted
      exact .listen found
  · split at acted
    · cases acted
    · next first =>
      cases acted
      exact .receive found first
  · cases acted
    exact .start found
  · cases acted
    exact .finish _ found
  · cases acted
    exact .notice found
  · split at acted
    · next done =>
      cases acted
      simp only [Bool.and_eq_true, List.isEmpty_iff, Bool.not_eq_true'] at done
      exact .quit found done.1 done.2
    · cases acted
  · cases acted

/-- A shutdown takes the workers, or finds them taken. -/
theorem of_claim {call : Nat} (claimed : w.claim call = some w') :
    w.farewells[call]? = some .closing ∧
      w' = { w with
        unclaimed := false
        farewells := w.farewells.set call (.waiting w.unclaimed) } := by
  unfold claim at claimed
  split at claimed
  · next found => exact ⟨found, (Option.some.inj claimed).symm⟩
  · cases claimed

/-- A shutdown returns when those it waited for are gone. -/
theorem of_leave {call : Nat} (left : w.leave call = some w') :
    ∃ all, w.farewells[call]? = some (.waiting all) ∧
      (all = true → w.isDeserted = true) ∧
      w' = { w with
        farewells := w.farewells.set call .returned
        lines := w.lines ++ [.poolStopped w.name] } := by
  unfold leave at left
  split at left
  · next all found =>
    split at left
    · cases left
    · next free =>
      refine ⟨all, found, ?_, (Option.some.inj left).symm⟩
      rintro rfl
      simpa using free
  · cases left

/-! ## Every job is in one place -/

/-- A replaced entry leaves the selected ones as they are but for itself. -/
theorem perm_filterMap_set {α β : Type} (f : α → Option β) {l : List α} {i : Nat} {a b : α}
    (found : l[i]? = some a) :
    ((f a).toList ++ (l.set i b).filterMap f).Perm ((f b).toList ++ l.filterMap f) := by
  induction l generalizing i with
  | nil => cases found
  | cons x rest ih =>
    cases i with
    | zero =>
      obtain rfl : x = a := by simpa using found
      have split : ∀ y : α, (y :: rest).filterMap f = (f y).toList ++ rest.filterMap f := by
        intro y
        cases h : f y <;> simp [h]
      rw [List.set_cons_zero, split, split]
      exact List.perm_append_comm_assoc ..
    | succ i =>
      have split : ∀ l, (x :: l).filterMap f = (f x).toList ++ l.filterMap f := by
        intro l
        cases h : f x <;> simp [h]
      rw [List.set_cons_succ, split, split]
      refine (List.perm_append_comm_assoc ..).trans ?_
      exact (List.Perm.append_left _ (ih (by simpa using found))).trans
        (List.perm_append_comm_assoc ..)

/-- Every job that was accepted is in the queue or was taken; what was taken is still carried or
started; and what started is in progress or ended. -/
structure Accounted (w : Workforce τ) : Prop where
  accepted : w.accepted = w.taken ++ w.queue
  taken : w.taken.Perm (w.started ++ w.carried)
  started : w.started.Perm (w.ended ++ w.running)

namespace Accounted

/-- A worker that holds no other job than before changes nothing. -/
theorem assign {place : Nat} {a b : Worker τ} (h : w.Accounted)
    (found : w.workers[place]? = some a) (carried : b.carried? = a.carried?)
    (running : b.running? = a.running?) : (w.assign place b).Accounted := by
  have carry := perm_filterMap_set (b := b) Worker.carried? found
  have run := perm_filterMap_set (b := b) Worker.running? found
  rw [carried, List.perm_append_left_iff] at carry
  rw [running, List.perm_append_left_iff] at run
  exact ⟨h.accepted, h.taken.trans (carry.symm.append_left _),
    h.started.trans (run.symm.append_left _)⟩

/-- A job is moved on, from the queue to a worker, and from there to its start and its end. -/
theorem act {place : Nat} (h : w.Accounted) (acts : w.Acts label place w') : w'.Accounted := by
  have carry := fun {a b} (found : w.workers[place]? = some a) =>
    perm_filterMap_set (b := b) Worker.carried? found
  have run := fun {a b} (found : w.workers[place]? = some a) =>
    perm_filterMap_set (b := b) Worker.running? found
  cases acts with
  | listen found => exact h.assign found rfl rfl
  | @receive t rest found first =>
    have carried : (w.assign place (.carrying t)).carried.Perm ([t] ++ w.carried) := carry found
    have running : (w.assign place (.carrying t)).running.Perm w.running := run found
    refine ⟨?_, ?_, h.started.trans (running.symm.append_left _)⟩
    · calc
        w.accepted = w.taken ++ w.queue := h.accepted
        _ = w.taken ++ [t] ++ rest := by rw [first, List.append_assoc, List.singleton_append]
    · calc
        (w.taken ++ [t]).Perm (w.started ++ w.carried ++ [t]) := h.taken.append_right _
        _ = w.started ++ (w.carried ++ [t]) := List.append_assoc ..
        List.Perm _ (w.started ++ (w.assign place (.carrying t)).carried) :=
          (List.perm_append_comm.trans carried.symm).append_left _
  | @start t found =>
    have carried : ([t] ++ (w.assign place (.serving t)).carried).Perm w.carried := carry found
    have running : (w.assign place (.serving t)).running.Perm ([t] ++ w.running) := run found
    refine ⟨h.accepted, ?_, ?_⟩
    · calc
        w.taken.Perm (w.started ++ w.carried) := h.taken
        List.Perm _ (w.started ++ ([t] ++ (w.assign place (.serving t)).carried)) :=
          carried.symm.append_left _
        _ = w.started ++ [t] ++ (w.assign place (.serving t)).carried :=
          (List.append_assoc ..).symm
    · calc
        (w.started ++ [t]).Perm (w.ended ++ w.running ++ [t]) := h.started.append_right _
        _ = w.ended ++ (w.running ++ [t]) := List.append_assoc ..
        List.Perm _ (w.ended ++ (w.assign place (.serving t)).running) :=
          (List.perm_append_comm.trans running.symm).append_left _
  | @finish t failed found =>
    have carried : (w.assign place (.served t failed)).carried.Perm w.carried := carry found
    have running : ([t] ++ (w.assign place (.served t failed)).running).Perm w.running := run found
    refine ⟨h.accepted, h.taken.trans (carried.symm.append_left _), ?_⟩
    calc
      w.started.Perm (w.ended ++ w.running) := h.started
      List.Perm _ (w.ended ++ ([t] ++ (w.assign place (.served t failed)).running)) :=
        running.symm.append_left _
      _ = w.ended ++ [t] ++ (w.assign place (.served t failed)).running :=
        (List.append_assoc ..).symm
  | notice found =>
    have same : (w.assign place .idle).Accounted := h.assign found rfl rfl
    exact ⟨same.accepted, same.taken, same.started⟩
  | quit found => exact h.assign found rfl rfl

theorem submit (h : w.Accounted) (t : τ) : (w.submit label t).Accounted := by
  unfold Workforce.submit
  split
  · have accepted := congrArg (· ++ [t]) h.accepted
    refine ⟨?_, h.taken, h.started⟩
    simpa [Workforce.accepted] using accepted
  · refine ⟨?_, h.taken, h.started⟩
    simpa [Workforce.accepted] using h.accepted

theorem move {m : Move τ} (h : w.Accounted) (moved : w.move label m = some w') :
    w'.Accounted := by
  cases m with
  | submit t =>
    cases moved
    exact h.submit t
  | work place deed => exact h.act (acts_of_work moved)
  | close =>
    cases moved
    exact ⟨h.accepted, h.taken, h.started⟩
  | claim call =>
    obtain ⟨-, rfl⟩ := of_claim moved
    exact ⟨h.accepted, h.taken, h.started⟩
  | leave call =>
    obtain ⟨_, -, -, rfl⟩ := of_leave moved
    exact ⟨h.accepted, h.taken, h.started⟩

end Accounted

/-! ## Who waits for the workers -/

/-- There are as many workers as ever.  They leave when nothing more can come, and the first call of
the shutdown waits for that. -/
structure Attended (n : Nat) (w : Workforce τ) : Prop where
  staffed : w.workers.length = max n 1
  drained : .gone ∈ w.workers → w.queue = [] ∧ w.accepting = false
  closed : w.farewells ≠ [] → w.accepting = false
  unclaimed : w.unclaimed = true → ∀ f ∈ w.farewells, f = .closing
  claimed : w.unclaimed = false → .waiting true ∈ w.farewells ∨ w.isDeserted = true

theorem isDeserted_iff : w.isDeserted = true ↔ ∀ worker ∈ w.workers, worker = .gone := by
  rw [isDeserted, List.all_eq_true]
  refine forall₂_congr fun worker _ => ?_
  cases worker <;> simp [Worker.isGone]

/-- A worker that stays leaves the queue and the calls as they are, or takes from the queue. -/
theorem Attended.assign (h : w.Attended n) {place : Nat} {a b : Worker τ}
    (found : w.workers[place]? = some a) (stays : a ≠ .gone) (remains : b ≠ .gone) :
    (w.assign place b).Attended n where
  staffed := (List.length_set ..).trans h.staffed
  drained gone := by
    rcases List.mem_or_eq_of_mem_set gone with mem | same
    · exact h.drained mem
    · exact absurd same.symm remains
  closed := h.closed
  unclaimed := h.unclaimed
  claimed taken := by
    rcases h.claimed taken with waits | deserted
    · exact .inl waits
    · exact absurd (isDeserted_iff.1 deserted a (List.mem_of_getElem? found)) stays

theorem Attended.act (h : w.Attended n) {place : Nat} (acts : w.Acts label place w') :
    w'.Attended n := by
  cases acts with
  | listen found => exact h.assign found nofun nofun
  | @receive t rest found first =>
    have stays := h.assign (b := .carrying t) found nofun nofun
    refine { stays with drained := fun gone => ?_ }
    have empty := (stays.drained gone).1
    cases first.symm.trans empty
  | @start t found =>
    have stays := h.assign (b := .serving t) found nofun nofun
    exact { stays with }
  | @finish t failed found =>
    have stays := h.assign (b := .served t failed) found nofun nofun
    exact { stays with }
  | notice found =>
    have stays := h.assign (b := .idle) found nofun nofun
    exact { stays with }
  | quit found empty closed =>
    refine ⟨(List.length_set ..).trans h.staffed, fun _ => ⟨empty, closed⟩, h.closed, h.unclaimed,
      fun taken => ?_⟩
    rcases h.claimed taken with waits | deserted
    · exact .inl waits
    · cases isDeserted_iff.1 deserted _ (List.mem_of_getElem? found)

theorem Attended.submit (h : w.Attended n) (t : τ) : (w.submit label t).Attended n := by
  unfold Workforce.submit
  split
  · next accepting =>
    refine { h with drained := fun gone => ?_ }
    exact absurd accepting (by simp [(h.drained gone).2])
  · exact { h with }

theorem Attended.close (h : w.Attended n) : w.close.Attended n where
  staffed := h.staffed
  drained gone := ⟨(h.drained gone).1, rfl⟩
  closed _ := rfl
  unclaimed free f mem := by
    rcases List.mem_append.1 mem with earlier | now
    · exact h.unclaimed free f earlier
    · exact List.mem_singleton.1 now
  claimed taken := (h.claimed taken).imp_left (List.mem_append_left _)

/-- What a call came to is not forgotten when another call goes on. -/
theorem mem_farewells_set {call : Nat} {f g f' : Farewell} (mem : f ∈ w.farewells)
    (found : w.farewells[call]? = some g) (other : f ≠ g) : f ∈ w.farewells.set call f' := by
  obtain ⟨i, at_i⟩ := List.mem_iff_getElem?.1 mem
  have apart : call ≠ i := by
    rintro rfl
    exact other (Option.some.inj (at_i.symm.trans found))
  exact List.mem_iff_getElem?.2 ⟨i, (List.getElem?_set_ne apart).trans at_i⟩

theorem Attended.claim (h : w.Attended n) {call : Nat} (claimed : w.claim call = some w') :
    w'.Attended n := by
  obtain ⟨found, rfl⟩ := of_claim claimed
  have mem := List.mem_of_getElem? found
  refine ⟨h.staffed, h.drained, fun _ => h.closed (List.ne_nil_of_mem mem), nofun, fun _ => ?_⟩
  cases free : w.unclaimed with
  | true =>
    have inside : call < w.farewells.length := (List.getElem?_eq_some_iff.1 found).1
    exact .inl (List.mem_set inside _)
  | false =>
    exact (h.claimed free).imp_left fun waits => mem_farewells_set waits found nofun

theorem Attended.leave (h : w.Attended n) {call : Nat} (left : w.leave call = some w') :
    w'.Attended n := by
  obtain ⟨all, found, free, rfl⟩ := of_leave left
  have mem := List.mem_of_getElem? found
  refine ⟨h.staffed, h.drained, fun _ => h.closed (List.ne_nil_of_mem mem), fun unclaimed => ?_,
    fun taken => ?_⟩
  · cases h.unclaimed unclaimed _ mem
  · cases all with
    | true => exact .inr (free rfl)
    | false => exact (h.claimed taken).imp_left fun waits => mem_farewells_set waits found nofun

theorem Attended.move (h : w.Attended n) {m : Move τ} (moved : w.move label m = some w') :
    w'.Attended n := by
  cases m with
  | submit t =>
    cases moved
    exact h.submit t
  | work place deed => exact h.act (acts_of_work moved)
  | close =>
    cases moved
    exact h.close
  | claim call => exact h.claim moved
  | leave call => exact h.leave moved

/-! ## Whole runs -/

/-- What every move keeps is kept by every run. -/
theorem play_induction {P : Workforce τ → Prop}
    (step : ∀ {w w' : Workforce τ} {m : Move τ}, P w → w.move label m = some w' → P w')
    {moves : List (Move τ)} (first : P w) (played : w.play label moves = some w') : P w' := by
  induction moves generalizing w with
  | nil =>
    cases played
    exact first
  | cons m rest ih =>
    obtain ⟨v, moved, rest⟩ := Option.bind_eq_some_iff.1 played
    exact ih (step first moved) rest

theorem play_append {before after : List (Move τ)} :
    w.play label (before ++ after) =
      (w.play label before).bind fun v => v.play label after := by
  induction before generalizing w with
  | nil => rfl
  | cons m rest ih =>
    simp only [List.cons_append, play, Option.bind_assoc]
    exact congrArg _ (funext fun _ => ih)

theorem accounted_ofSize (name : String) : (ofSize name n : Workforce τ).Accounted := by
  have carried : (ofSize name n : Workforce τ).carried = [] := by
    simp [ofSize, carried, Worker.carried?]
  have running : (ofSize name n : Workforce τ).running = [] := by
    simp [ofSize, running, Worker.running?]
  exact ⟨rfl, by rw [carried]; rfl, by rw [running]; rfl⟩

theorem attended_ofSize (name : String) : (ofSize name n : Workforce τ).Attended n where
  staffed := List.length_replicate
  drained gone := by cases List.eq_of_mem_replicate gone
  closed some := absurd rfl some
  unclaimed _ _ mem := by cases mem
  claimed taken := by cases taken

/-- Workers hold a job each. -/
theorem Attended.running_le (h : w.Attended n) : w.running.length ≤ max n 1 :=
  h.staffed ▸ List.length_filterMap_le ..

/-- When nothing is left to take, and no worker holds a job that did not end, everything accepted
has ended. -/
theorem Accounted.ended (h : w.Accounted) (queue : w.queue = [])
    (vacant : ∀ worker ∈ w.workers, worker.carried? = none ∧ worker.running? = none) :
    w.ended.Perm w.accepted := by
  have carried : w.carried = [] := List.filterMap_eq_nil_iff.2 fun _ mem => (vacant _ mem).1
  have running : w.running = [] := List.filterMap_eq_nil_iff.2 fun _ mem => (vacant _ mem).2
  have started : w.started.Perm w.ended := by simpa [running] using h.started
  have taken : w.taken.Perm w.started := by simpa [carried] using h.taken
  have accepted : w.accepted = w.taken := by simpa [queue] using h.accepted
  rw [accepted]
  exact (taken.trans started).symm

/-- Once all workers are gone everything accepted has ended. -/
theorem ended_of_isDeserted (accounted : w.Accounted) (attended : w.Attended n)
    (deserted : w.isDeserted = true) : w.ended.Perm w.accepted := by
  have gone := isDeserted_iff.1 deserted
  have some : .gone ∈ w.workers := by
    have staffed := attended.staffed
    cases workers : w.workers with
    | nil =>
      rw [workers, List.length_nil] at staffed
      omega
    | cons worker rest =>
      have first : worker ∈ w.workers := by simp [workers]
      rw [← workers, ← gone worker first]
      exact first
  refine accounted.ended (attended.drained some).1 fun worker mem => ?_
  rw [gone worker mem]
  exact ⟨rfl, rfl⟩

/-! ## A closed pool refuses everything -/

/-- The job that is submitted, if one is. -/
def Move.submission? : Move τ → Option τ
  | submit t => some t
  | _ => none

theorem refuses_act {place : Nat} (acts : w.Acts label place w') :
    w'.accepting = w.accepting ∧ w'.submitted = w.submitted := by
  cases acts <;> exact ⟨rfl, rfl⟩

theorem refuses_move {m : Move τ} (closed : w.accepting = false)
    (moved : w.move label m = some w') :
    w'.accepting = false ∧
      w'.submitted = w.submitted ++ m.submission?.toList.map fun t => (t, false) := by
  cases m with
  | submit t =>
    cases moved
    simp [Workforce.submit, closed, Move.submission?]
  | work place deed =>
    obtain ⟨accepting, submitted⟩ := refuses_act (acts_of_work moved)
    exact ⟨accepting.trans closed, submitted.trans (List.append_nil _).symm⟩
  | close =>
    cases moved
    exact ⟨rfl, (List.append_nil _).symm⟩
  | claim call =>
    obtain ⟨-, rfl⟩ := of_claim moved
    exact ⟨closed, (List.append_nil _).symm⟩
  | leave call =>
    obtain ⟨_, -, -, rfl⟩ := of_leave moved
    exact ⟨closed, (List.append_nil _).symm⟩

theorem refuses_play {moves : List (Move τ)} (closed : w.accepting = false)
    (played : w.play label moves = some w') :
    w'.submitted = w.submitted ++ (moves.filterMap (·.submission?)).map fun t => (t, false) := by
  induction moves generalizing w with
  | nil =>
    cases played
    exact (List.append_nil _).symm
  | cons m rest ih =>
    obtain ⟨v, moved, played⟩ := Option.bind_eq_some_iff.1 played
    obtain ⟨closed, submitted⟩ := refuses_move closed moved
    rw [ih closed played, submitted, List.append_assoc, ← List.map_append]
    cases submission : m.submission? <;> simp [submission]

/-- What is refused is not among what was accepted. -/
theorem accepted_of_refused {refused : List τ}
    (submitted : w'.submitted = w.submitted ++ refused.map fun t => (t, false)) :
    w'.accepted = w.accepted := by
  simp [accepted, submitted]

/-! ## Workers and shutdowns come to rest -/

end Workforce

/-- How many things a worker can do before it needs another job. -/
def Worker.load {τ : Type} : Worker τ → Nat
  | carrying _ => 5
  | serving _ => 4
  | served _ _ => 3
  | idle => 2
  | listening => 1
  | gone => 0

/-- How many things a call of the shutdown still does. -/
def Farewell.load : Farewell → Nat
  | closing => 2
  | waiting _ => 1
  | returned => 0

namespace Workforce

variable {τ : Type} {label : τ → String} {w w' : Workforce τ} {n : Nat}

/-- How many moves workers and shutdowns can make at most. -/
def load (w : Workforce τ) : Nat :=
  5 * w.queue.length + Shift.total Worker.load w.workers + Shift.total Farewell.load w.farewells

/-- The move is made by a worker or by a shutdown that was called. -/
def Move.isInner : Move τ → Bool
  | submit _ | close => false
  | work _ _ | claim _ | leave _ => true

/-- Neither a worker nor a shutdown can go on. -/
def Rests (label : τ → String) (w : Workforce τ) : Prop :=
  ∀ m : Move τ, m.isInner = true → w.move label m = none

theorem load_act_lt {place : Nat} (acts : w.Acts label place w') : w'.load < w.load := by
  have weigh := fun {a} (b : Worker τ) (found : w.workers[place]? = some a) =>
    Shift.total_set Worker.load b a w.workers place found
  cases acts with
  | listen found =>
    have := weigh .listening found
    simp only [load, assign, Worker.load] at this ⊢
    omega
  | @receive t rest found first =>
    have := weigh (.carrying t) found
    simp only [load, assign, Worker.load, first, List.length_cons] at this ⊢
    omega
  | @start t found =>
    have := weigh (.serving t) found
    simp only [load, assign, Worker.load] at this ⊢
    omega
  | @finish t failed found =>
    have := weigh (.served t failed) found
    simp only [load, assign, Worker.load] at this ⊢
    omega
  | notice found =>
    have := weigh .idle found
    simp only [load, assign, Worker.load] at this ⊢
    omega
  | quit found =>
    have := weigh .gone found
    simp only [load, assign, Worker.load] at this ⊢
    omega

/-- Whatever workers and shutdowns do, less is left to do for them. -/
theorem load_move_lt {m : Move τ} (inner : m.isInner = true)
    (moved : w.move label m = some w') : w'.load < w.load := by
  cases m with
  | submit t => cases inner
  | close => cases inner
  | work place deed => exact load_act_lt (acts_of_work moved)
  | claim call =>
    obtain ⟨found, rfl⟩ := of_claim moved
    have := Shift.total_set Farewell.load (.waiting w.unclaimed) .closing w.farewells call found
    simp only [load, Farewell.load] at this ⊢
    omega
  | leave call =>
    obtain ⟨all, found, -, rfl⟩ := of_leave moved
    have := Shift.total_set Farewell.load .returned (.waiting all) w.farewells call found
    simp only [load, Farewell.load] at this ⊢
    omega

theorem length_le_load {moves : List (Move τ)} (inner : ∀ m ∈ moves, m.isInner = true)
    (played : w.play label moves = some w') : moves.length ≤ w.load := by
  induction moves generalizing w with
  | nil => exact Nat.zero_le _
  | cons m rest ih =>
    obtain ⟨v, moved, played⟩ := Option.bind_eq_some_iff.1 played
    have first := load_move_lt (inner m List.mem_cons_self) moved
    have others := ih (fun m mem => inner m (List.mem_cons_of_mem _ mem)) played
    rw [List.length_cons]
    omega

/-- A worker that can do nothing has no job, and stays only because another one has the queue to
itself or because something may still come. -/
theorem Rests.worker (rests : w.Rests label) {worker : Worker τ} (mem : worker ∈ w.workers) :
    (worker = .idle ∧ w.workers.any (·.isListening) = true) ∨
      (worker = .listening ∧ w.queue = [] ∧ w.accepting = true) ∨ worker = .gone := by
  obtain ⟨place, found⟩ := List.mem_iff_getElem?.1 mem
  have stuck : ∀ deed, w.act label place deed worker = none := by
    intro deed
    have none := rests (.work place deed) rfl
    simpa [Workforce.move, work, found] using none
  cases worker with
  | idle =>
    refine .inl ⟨rfl, ?_⟩
    simpa [act] using stuck .listen
  | listening =>
    refine .inr (.inl ⟨rfl, ?_⟩)
    have receive := stuck .receive
    have quit := stuck .quit
    cases queue : w.queue with
    | nil => simpa [act, queue] using quit
    | cons t rest => simp [act, queue] at receive
  | carrying t => cases stuck .start
  | serving t => cases stuck (.finish false)
  | served t failed => cases stuck .notice
  | gone => exact .inr (.inr rfl)

/-- The worker that has the queue to itself waits for more to come. -/
theorem Rests.listening (rests : w.Rests label)
    (listens : w.workers.any (·.isListening) = true) : w.queue = [] ∧ w.accepting = true := by
  obtain ⟨worker, mem, isListening⟩ := List.any_eq_true.1 listens
  rcases rests.worker mem with ⟨rfl, -⟩ | ⟨-, waits⟩ | rfl
  · cases isListening
  · exact waits
  · cases isListening

/-- If nobody has the queue to itself, nobody is left who could want it. -/
theorem Rests.isDeserted (rests : w.Rests label)
    (unheard : w.workers.any (·.isListening) = false) : w.isDeserted = true := by
  refine isDeserted_iff.2 fun worker mem => ?_
  rcases rests.worker mem with ⟨-, other⟩ | ⟨rfl, -⟩ | gone
  · cases unheard.symm.trans other
  · exact absurd rfl (List.any_eq_false.1 unheard _ mem)
  · exact gone

/-- Workers rest when everything accepted has ended. -/
theorem Rests.ended (rests : w.Rests label) (accounted : w.Accounted) (attended : w.Attended n) :
    w.ended.Perm w.accepted := by
  cases listens : w.workers.any (·.isListening) with
  | true =>
    refine accounted.ended (rests.listening listens).1 fun worker mem => ?_
    rcases rests.worker mem with ⟨rfl, -⟩ | ⟨rfl, -⟩ | rfl <;> exact ⟨rfl, rfl⟩
  | false => exact ended_of_isDeserted accounted attended (rests.isDeserted listens)

/-- Shutdowns rest when they have returned. -/
theorem Rests.returned (rests : w.Rests label) (attended : w.Attended n) :
    ∀ f ∈ w.farewells, f = .returned := by
  intro f mem
  obtain ⟨call, inside, rfl⟩ := List.mem_iff_getElem.1 mem
  have found := List.getElem?_eq_getElem inside
  have closed := attended.closed (List.ne_nil_of_mem mem)
  have deserted : w.isDeserted = true := by
    refine rests.isDeserted (Bool.eq_false_iff.2 fun listens => ?_)
    cases closed.symm.trans (rests.listening listens).2
  have claim := rests (.claim call) rfl
  have leave := rests (.leave call) rfl
  cases at_call : w.farewells[call] with
  | closing => simp [Workforce.move, Workforce.claim, found, at_call] at claim
  | waiting all => simp [Workforce.move, Workforce.leave, found, at_call, deserted] at leave
  | returned => rfl

end Workforce

/-! ## Breakdowns make no difference -/

/-- What the worker would be at if no job broke down. -/
def Worker.calm {τ : Type} : Worker τ → Worker τ
  | served t _ => served t false
  | worker => worker

/-- What the worker would do if no job broke down. -/
def Worker.Deed.calm : Deed → Deed
  | finish _ => finish false
  | deed => deed

/-- Whether the line reports that a job broke down. -/
def LogLine.reportsBreakdown : LogLine → Bool
  | jobFailed _ _ => true
  | _ => false

namespace Workforce

variable {τ : Type} {label : τ → String} {w w' : Workforce τ} {n : Nat}

/-- The workforce as if no job had broken down. -/
def calm (w : Workforce τ) : Workforce τ :=
  { w with
    workers := w.workers.map Worker.calm
    lines := w.lines.filter (!·.reportsBreakdown) }

/-- The move as if no job broke down. -/
def Move.calm : Move τ → Move τ
  | work place deed => work place deed.calm
  | m => m

theorem calm_assign (place : Nat) (worker : Worker τ) :
    (w.assign place worker).calm = w.calm.assign place worker.calm := by
  simp [Workforce.calm, assign, List.map_set]

theorem isDeserted_calm : w.calm.isDeserted = w.isDeserted := by
  have same : ∀ worker : Worker τ, worker.calm.isGone = worker.isGone := by
    intro worker
    cases worker <;> rfl
  simp [isDeserted, Workforce.calm, List.all_map, Function.comp_def, same]

theorem any_isListening_calm :
    w.calm.workers.any (·.isListening) = w.workers.any (·.isListening) := by
  have same : ∀ worker : Worker τ, worker.calm.isListening = worker.isListening := by
    intro worker
    cases worker <;> rfl
  simp [Workforce.calm, List.any_map, Function.comp_def, same]

/-- A worker does the same, whether or not jobs break down. -/
theorem act_calm (place : Nat) (deed : Worker.Deed) (worker : Worker τ) :
    (w.act label place deed worker).map calm =
      w.calm.act label place deed.calm worker.calm := by
  cases deed with
  | listen =>
    cases worker <;> try rfl
    simp only [act, Worker.Deed.calm, Worker.calm, any_isListening_calm]
    split
    · rfl
    · exact congrArg some (calm_assign place .listening)
  | receive =>
    cases worker <;> try rfl
    cases queue : w.queue with
    | nil => simp [act, Worker.Deed.calm, Worker.calm, Workforce.calm, queue]
    | cons t rest =>
      simp [act, Worker.Deed.calm, Worker.calm, Workforce.calm, queue, assign, List.map_set]
  | start =>
    cases worker <;> try rfl
    simp [act, Worker.Deed.calm, Worker.calm, Workforce.calm, assign, List.map_set]
  | finish failed =>
    cases worker <;> try rfl
    simp [act, Worker.Deed.calm, Worker.calm, Workforce.calm, assign, List.map_set]
  | notice =>
    cases worker <;> try rfl
    next t failed =>
      cases failed <;>
        simp [act, Worker.Deed.calm, Worker.calm, Workforce.calm, assign, List.map_set,
          LogLine.reportsBreakdown]
  | quit =>
    cases worker <;> try rfl
    cases queue : w.queue <;> cases closed : w.accepting <;>
      simp [act, Worker.Deed.calm, Worker.calm, Workforce.calm, assign, List.map_set, queue, closed]

/-- Every move comes to the same, whether or not jobs break down. -/
theorem move_calm (m : Move τ) : (w.move label m).map calm = w.calm.move label m.calm := by
  cases m with
  | submit t =>
    by_cases accepting : w.accepting = true <;>
      simp [Workforce.move, Workforce.submit, Move.calm, Workforce.calm, accepting,
        LogLine.reportsBreakdown]
  | work place deed =>
    have found : w.calm.workers[place]? = w.workers[place]?.map Worker.calm := List.getElem?_map ..
    simp only [Workforce.move, Move.calm, work, found]
    cases w.workers[place]? with
    | none => rfl
    | some worker => exact act_calm place deed worker
  | close => rfl
  | claim call =>
    simp only [Workforce.move, Move.calm, Workforce.claim]
    cases found : w.farewells[call]? with
    | none => simp [Workforce.calm, found]
    | some f => cases f <;> simp [Workforce.calm, found]
  | leave call =>
    simp only [Workforce.move, Move.calm, Workforce.leave, isDeserted_calm]
    cases found : w.farewells[call]? with
    | none => simp [Workforce.calm, found]
    | some f =>
      cases f with
      | waiting all =>
        by_cases free : (all && !w.isDeserted) = true <;>
          simp [Workforce.calm, found, free, LogLine.reportsBreakdown]
      | closing | returned => simp [Workforce.calm, found]

theorem play_calm (moves : List (Move τ)) :
    (w.play label moves).map calm = w.calm.play label (moves.map (·.calm)) := by
  induction moves generalizing w with
  | nil => rfl
  | cons m rest ih =>
    simp only [List.map_cons, play, ← move_calm m]
    cases w.move label m with
    | none => rfl
    | some v => exact ih

theorem calm_ofSize (name : String) : (ofSize name n : Workforce τ).calm = ofSize name n := by
  simp [Workforce.calm, ofSize, Worker.calm]

/-! ## All of it -/

/-- Whether a shutdown has taken the workers is whether one was to take them. -/
theorem unclaimed_move {m : Move τ} (moved : w.move label m = some w') :
    w'.unclaimed = true ↔ w.unclaimed = true ∧ ∀ call, m ≠ .claim call := by
  cases m with
  | submit t =>
    cases moved
    unfold Workforce.submit
    split <;> simp
  | work place deed => cases acts_of_work moved <;> simp [assign]
  | close =>
    cases moved
    simp [Workforce.close]
  | claim call =>
    obtain ⟨-, rfl⟩ := of_claim moved
    simp
  | leave call =>
    obtain ⟨_, -, -, rfl⟩ := of_leave moved
    simp

theorem unclaimed_play {moves : List (Move τ)} (played : w.play label moves = some w') :
    w'.unclaimed = true ↔ w.unclaimed = true ∧ ∀ call, .claim call ∉ moves := by
  induction moves generalizing w with
  | nil =>
    cases played
    simp
  | cons m rest ih =>
    obtain ⟨v, moved, played⟩ := Option.bind_eq_some_iff.1 played
    rw [ih played, unclaimed_move moved]
    simp only [List.mem_cons, not_or, forall_and, and_assoc]
    grind

/-- At the moment when a shutdown returns everything accepted has ended, if it waited for the
workers or no other shutdown is waiting for them. -/
theorem ended_of_leave (accounted : w.Accounted) (attended : w.Attended n) {call : Nat}
    (left : w.leave call = some w') (alone : w.farewells[call]? = some (.waiting true) ∨
      ∀ other : Nat, w.farewells[other]? ≠ some (.waiting true)) : w.ended.Perm w.accepted := by
  obtain ⟨all, found, free, -⟩ := of_leave left
  cases all with
  | true => exact ended_of_isDeserted accounted attended (free rfl)
  | false =>
    have nobody := alone.resolve_left (by simp [found])
    have taken : w.unclaimed = false := by
      cases unclaimed : w.unclaimed with
      | false => rfl
      | true => cases attended.unclaimed unclaimed _ (List.mem_of_getElem? found)
    rcases attended.claimed taken with waits | deserted
    · obtain ⟨other, waits⟩ := List.mem_iff_getElem?.1 waits
      exact absurd waits (nobody other)
    · exact ended_of_isDeserted accounted attended deserted

/-- However submissions, workers and shutdowns take turns, a pool loses no job and repeats none.
The first shutdown to take the workers returns when everything accepted has ended; so does any other
that no waiting shutdown overlaps. -/
theorem jobs_kept {name : String} {moves : List (Move τ)}
    (played : (ofSize name n).play label moves = some w) :
    -- Jobs are taken in the order in which they were accepted.
    w.accepted = w.taken ++ w.queue ∧
    -- Each of them starts once, and what started is in progress or ended.
    w.taken.Perm (w.started ++ w.carried) ∧
    w.started.Perm (w.ended ++ w.running) ∧
    w.running.length ≤ max n 1 ∧
    -- If no job broke down, everything else would be the same.
    (ofSize name n).play label (moves.map (·.calm)) = some w.calm ∧
    -- Nothing is accepted after the first call of the shutdown.
    (∀ before after, moves = before ++ .close :: after →
      ∃ v, (ofSize name n).play label before = some v ∧ w.accepted = v.accepted ∧
        w.submitted = v.submitted ++ (after.filterMap (·.submission?)).map fun t => (t, false)) ∧
    -- The first shutdown to take the workers waits for all of them, and no other one does.
    (∀ before call after, moves = before ++ .claim call :: after →
      ∃ v, (ofSize name n).play label (before ++ [.claim call]) = some v ∧
        (v.farewells[call]? = some (.waiting true) ↔ ∀ other, .claim other ∉ before)) ∧
    -- When that one returns, everything accepted has ended, and so it has when another one returns
    -- while none is waiting for the workers.
    (∀ before call after, moves = before ++ .leave call :: after →
      ∃ v, (ofSize name n).play label before = some v ∧
        (v.farewells[call]? = some (.waiting true) ∨
          (∀ other : Nat, v.farewells[other]? ≠ some (.waiting true)) → v.ended.Perm v.accepted)) ∧
    -- Workers and shutdowns come to rest, and by then everything accepted has ended.
    (∀ turns w', (∀ m ∈ turns, m.isInner = true) → w.play label turns = some w' →
      turns.length ≤ w.load) ∧
    (w.Rests label → w.ended.Perm w.accepted ∧ ∀ f ∈ w.farewells, f = .returned) := by
  have accounted : ∀ {moves v}, (ofSize name n).play label moves = some v → v.Accounted :=
    fun played => play_induction .move (accounted_ofSize name) played
  have attended : ∀ {moves v}, (ofSize name n).play label moves = some v → v.Attended n :=
    fun played =>
      play_induction (fun h moved => Attended.move h moved) (attended_ofSize name) played
  have sound := accounted played
  refine ⟨sound.accepted, sound.taken, sound.started, (attended played).running_le, ?_, ?_, ?_, ?_,
    fun _ _ inner played => length_le_load inner played,
    fun rests => ⟨rests.ended sound (attended played), rests.returned (attended played)⟩⟩
  · have same : ((ofSize name n).play label moves).map calm =
        (ofSize name n).calm.play label (moves.map (·.calm)) := play_calm moves
    rw [played, calm_ofSize] at same
    exact same.symm
  · rintro before after rfl
    rw [play_append] at played
    obtain ⟨v, first, rest⟩ := Option.bind_eq_some_iff.1 played
    have submitted := refuses_play (w := v.close) rfl rest
    exact ⟨v, first, accepted_of_refused submitted, submitted⟩
  · rintro before call after rfl
    rw [play_append] at played
    obtain ⟨v, first, rest⟩ := Option.bind_eq_some_iff.1 played
    obtain ⟨v', claimed, -⟩ := Option.bind_eq_some_iff.1 rest
    refine ⟨v', by rw [play_append, first]; simp [play, claimed], ?_⟩
    obtain ⟨found, rfl⟩ := of_claim claimed
    have fresh := unclaimed_play first
    have inside := (List.getElem?_eq_some_iff.1 found).1
    simpa [List.getElem?_set_self inside, ofSize] using fresh
  · rintro before call after rfl
    rw [play_append] at played
    obtain ⟨v, first, rest⟩ := Option.bind_eq_some_iff.1 played
    obtain ⟨_, left, -⟩ := Option.bind_eq_some_iff.1 rest
    exact ⟨v, first, ended_of_leave (accounted first) (attended first) left⟩

/-- One worker; a job that breaks down, one that does not, and one that comes after the shutdown was
called. -/
def Move.sample : List (Move String) :=
  [.submit "boom", .work 0 .listen, .submit "after", .work 0 .receive, .work 0 .start, .close,
    .submit "late", .claim 0, .work 0 (.finish true), .work 0 .notice, .work 0 .listen,
    .work 0 .receive, .work 0 .start, .work 0 (.finish false), .work 0 .notice, .work 0 .listen,
    .work 0 .quit, .leave 0]

/-- What the sample comes to. -/
def sample : Workforce String where
  name := "test"
  accepting := false
  queue := []
  workers := [.gone]
  unclaimed := false
  farewells := [.returned]
  submitted := [("boom", true), ("after", true), ("late", false)]
  taken := ["boom", "after"]
  started := ["boom", "after"]
  ended := ["boom", "after"]
  lines := [.jobDropped "test" "late", .jobFailed "test" "boom", .poolStopped "test"]

theorem jobs_kept_sample :
    (ofSize "test" 0).play id Move.sample = some sample ∧
      sample.accepted = sample.taken ++ sample.queue ∧
      sample.taken.Perm (sample.started ++ sample.carried) ∧
      (ofSize "test" 0).play id (Move.sample.map (·.calm)) = some sample.calm ∧
      ∃ v, (ofSize "test" 0).play id Move.sample.dropLast = some v ∧
        v.ended.Perm v.accepted := by
  have played : (ofSize "test" 0).play id Move.sample = some sample := rfl
  obtain ⟨accepted, taken, -, -, calm, -, -, returns, -⟩ := jobs_kept played
  obtain ⟨v, first, ended⟩ := returns Move.sample.dropLast 0 [] rfl
  have waits : v.farewells = [.waiting true] := by
    have shown : ((ofSize "test" 0).play id Move.sample.dropLast).map (·.farewells) =
        some [.waiting true] := rfl
    rw [first] at shown
    exact Option.some.inj shown
  exact ⟨played, accepted, taken, calm, v, first, ended (.inl (by rw [waits]; rfl))⟩

/-- A job is in progress when a second shutdown comes while the first one waits. -/
def Move.overlap : List (Move String) :=
  [.submit "job", .work 0 .listen, .work 0 .receive, .work 0 .start, .close, .claim 0, .close,
    .claim 1, .leave 1]

/-- A shutdown that overlaps another one returns while the job that was accepted is in progress. -/
theorem shutdowns_overlap :
    ∃ w, (ofSize "test" 1).play id Move.overlap = some w ∧ w.farewells[1]? = some .returned ∧
      w.accepted = ["job"] ∧ w.running = ["job"] ∧ w.ended = [] :=
  ⟨_, rfl, rfl, rfl, rfl, rfl⟩

end Workforce

end Southbound
