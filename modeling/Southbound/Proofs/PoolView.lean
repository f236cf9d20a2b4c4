import Mathlib.Data.List.Perm.Basic
import Mathlib.Logic.Relation
import Southbound.Pool
import Southbound.Proofs.Workforce

/-!
# What a pool shows of its workers

Seen from outside a `Workforce` is a `Pool` (`Workforce.Shows`): whatever keeps a worker from the
queue is running.  Every run of the workforce shows as a run of the pool (`Workforce.shows_play`),
and whatever the pool can do the workforce can bring about (`Workforce.canShow_of_steps`).  So the
pool says no more and no less about its jobs than its workers do.
-/

namespace Southbound

/-- What can happen to a pool. -/
inductive Pool.Steps {τ : Type} : Pool τ → Pool τ → Prop
  | submit (p : Pool τ) (t : τ) : Steps p (p.submit t)
  | start {p q : Pool τ} {t : τ} (started : p.start? = some (t, q)) : Steps p q
  | finish (p : Pool τ) {place : Nat} (inside : place < p.running.length) :
    Steps p (p.finish place)
  | close (p : Pool τ) : Steps p p.close

namespace Workforce

variable {τ : Type} {label : τ → String} {w w' : Workforce τ} {n : Nat} {p p' : Pool τ}

/-- From outside the workforce is the pool; whatever keeps a worker from the queue is running. -/
structure Shows (w : Workforce τ) (p : Pool τ) : Prop where
  name : p.name = w.name
  size : p.size = w.workers.length
  accepting : p.accepting = w.accepting
  queue : p.queue = w.queue
  running : p.running.Perm w.held

namespace Shows

theorem ofSize (name : String) : (ofSize name n : Workforce τ).Shows (.ofSize name n) where
  name := rfl
  size := List.length_replicate.symm
  accepting := rfl
  queue := rfl
  running := by simp [Workforce.ofSize, Pool.ofSize, held, Worker.held?]

/-- A worker that holds the same as before is no matter of the pool. -/
theorem assign (h : w.Shows p) {place : Nat} {a b : Worker τ}
    (found : w.workers[place]? = some a) (same : b.held? = a.held?) :
    (w.assign place b).Shows p := by
  have held := perm_filterMap_set (b := b) Worker.held? found
  rw [same, List.perm_append_left_iff] at held
  exact ⟨h.name, h.size.trans (List.length_set ..).symm, h.accepting, h.queue,
    h.running.trans held.symm⟩

/-- A worker that holds nothing is free. -/
theorem start (h : w.Shows p) {t : τ} {rest : List τ} (first : w.queue = t :: rest)
    (free : ∃ worker ∈ w.workers, worker.held? = none) :
    p.start? = some (t, { p with queue := rest, running := p.running ++ [t] }) := by
  obtain ⟨worker, mem, none⟩ := free
  have fewer : w.held.length < w.workers.length :=
    List.length_filterMap_lt_length_iff_exists.2 ⟨worker, mem, none⟩
  have free : p.free ≠ 0 := by
    have size := h.size
    have running := h.running.length_eq
    unfold Pool.free
    omega
  simp [Pool.start?, free, h.queue, first]

/-- A worker takes the first job. -/
theorem receive (h : w.Shows p) {place : Nat} {t : τ} {rest : List τ}
    (found : w.workers[place]? = some .listening) :
    Shows { w.assign place (.carrying t) with queue := rest, taken := w.taken ++ [t] }
      { p with queue := rest, running := p.running ++ [t] } := by
  have held : (w.assign place (.carrying t)).held.Perm ([t] ++ w.held) :=
    perm_filterMap_set Worker.held? found
  exact ⟨h.name, h.size.trans (List.length_set ..).symm, h.accepting, rfl,
    ((h.running.append_right [t]).trans List.perm_append_comm).trans held.symm⟩

/-- Who is free holds nothing, and there is somebody who is free. -/
theorem exists_free (h : w.Shows p) (free : p.free ≠ 0) :
    ∃ worker ∈ w.workers, worker.held? = none := by
  have fewer : w.held.length < w.workers.length := by
    have size := h.size
    have running := h.running.length_eq
    unfold Pool.free at free
    omega
  obtain ⟨worker, mem, none⟩ := List.length_filterMap_lt_length_iff_exists.1 fewer
  exact ⟨worker, mem, none⟩

/-- The worker of a running job is done with it. -/
theorem finish (h : w.Shows p) {place i : Nat} {t : τ} {a : Worker τ}
    (found : w.workers[place]? = some a) (holds : a.held? = some t) (inside : i < p.running.length)
    (same : p.running[i] = t) : (w.assign place .idle).Shows (p.finish i) := by
  have held : ([t] ++ (w.assign place .idle).held).Perm w.held := by
    have moved := perm_filterMap_set (b := .idle) Worker.held? found
    rwa [holds] at moved
  have erased : ([t] ++ p.running.eraseIdx i).Perm p.running := by
    rw [← same]
    exact List.getElem_cons_eraseIdx_perm inside
  exact ⟨h.name, h.size.trans (List.length_set ..).symm, h.accepting, h.queue,
    (List.perm_append_left_iff _).1 ((erased.trans h.running).trans held.symm)⟩

/-- What workers do shows as a step of the pool, or does not show. -/
theorem act (h : w.Shows p) {place : Nat} (acts : w.Acts label place w') :
    ∃ p', (p' = p ∨ p.Steps p') ∧ w'.Shows p' := by
  cases acts with
  | listen found => exact ⟨p, .inl rfl, h.assign found rfl⟩
  | @receive t rest found first =>
    have started := h.start first ⟨.listening, List.mem_of_getElem? found, rfl⟩
    exact ⟨_, .inr (.start started), h.receive found⟩
  | @start t found =>
    have same := h.assign (b := .serving t) found rfl
    exact ⟨p, .inl rfl, { same with }⟩
  | @finish t failed found =>
    have same := h.assign (b := .served t failed) found rfl
    exact ⟨p, .inl rfl, { same with }⟩
  | @notice t failed found =>
    have mem : t ∈ p.running :=
      h.running.mem_iff.2 (List.mem_filterMap.2 ⟨_, List.mem_of_getElem? found, rfl⟩)
    obtain ⟨i, inside, same⟩ := List.mem_iff_getElem.1 mem
    have finished := h.finish found rfl inside same
    exact ⟨_, .inr (.finish p inside), { finished with }⟩
  | quit found => exact ⟨p, .inl rfl, h.assign found rfl⟩

theorem submit (h : w.Shows p) (t : τ) : (w.submit label t).Shows (p.submit t) := by
  unfold Workforce.submit Pool.submit
  rw [h.accepting]
  split
  · exact ⟨h.name, h.size, rfl, congrArg (· ++ [t]) h.queue, h.running⟩
  · exact { h with }

theorem close (h : w.Shows p) : w.close.Shows p.close :=
  ⟨h.name, h.size, rfl, h.queue, h.running⟩

/-- What happens to the workforce shows as a step of the pool, or does not show. -/
theorem move (h : w.Shows p) {m : Move τ} (moved : w.move label m = some w') :
    ∃ p', (p' = p ∨ p.Steps p') ∧ w'.Shows p' := by
  cases m with
  | submit t =>
    cases moved
    exact ⟨_, .inr (.submit p t), h.submit t⟩
  | work place deed => exact h.act (acts_of_work moved)
  | close =>
    cases moved
    exact ⟨_, .inr (.close p), h.close⟩
  | claim call =>
    obtain ⟨-, rfl⟩ := of_claim moved
    exact ⟨p, .inl rfl, { h with }⟩
  | leave call =>
    obtain ⟨_, -, -, rfl⟩ := of_leave moved
    exact ⟨p, .inl rfl, { h with }⟩

end Shows

/-- Workers, calls and those who submit can bring the pool about. -/
def CanShow (label : τ → String) (w : Workforce τ) (p : Pool τ) : Prop :=
  ∃ moves w', w.play label moves = some w' ∧ w'.Shows p

theorem CanShow.of_shows (h : w.Shows p) : w.CanShow label p := ⟨[], w, rfl, h⟩

theorem CanShow.cons {m : Move τ} (moved : w.move label m = some w')
    (h : w'.CanShow label p) : w.CanShow label p := by
  obtain ⟨moves, v, played, shows⟩ := h
  exact ⟨m :: moves, v, by rw [play, moved]; exact played, shows⟩

theorem getElem?_assign {place : Nat} {a b : Worker τ} (found : w.workers[place]? = some a) :
    (w.assign place b).workers[place]? = some b :=
  List.getElem?_set_self (List.getElem?_eq_some_iff.1 found).1

theorem work_of_found (deed : Worker.Deed) {place : Nat} {a : Worker τ}
    (found : w.workers[place]? = some a) :
    w.move label (.work place deed) = w.act label place deed a := by
  simp [Workforce.move, work, found]

namespace Shows

/-- A worker that holds a job can be done with it: the job starts, ends, and the worker notices. -/
theorem canFinish (h : w.Shows p) {place i : Nat} {t : τ} {a : Worker τ}
    (found : w.workers[place]? = some a) (holds : a.held? = some t)
    (inside : i < p.running.length) (same : p.running[i] = t) :
    w.CanShow label (p.finish i) := by
  have served : ∀ (v : Workforce τ) failed, v.Shows p →
      v.workers[place]? = some (.served t failed) → v.CanShow label (p.finish i) := by
    intro v failed shows found
    exact .cons (work_of_found .notice found)
      (.of_shows { shows.finish found rfl inside same with })
  have serving : ∀ v : Workforce τ, v.Shows p → v.workers[place]? = some (.serving t) →
      v.CanShow label (p.finish i) := by
    intro v shows found
    exact .cons (work_of_found (.finish false) found)
      (served _ false { shows.assign (b := .served t false) found rfl with }
        (getElem?_assign found))
  cases a with
  | carrying t' =>
    cases holds
    exact .cons (work_of_found .start found)
      (serving _ { h.assign (b := .serving t) found rfl with } (getElem?_assign found))
  | serving t' =>
    cases holds
    exact serving w h found
  | served t' failed =>
    cases holds
    exact served w failed h found
  | idle | listening | gone => cases holds

/-- A worker at the queue can take the first job. -/
theorem canReceive (h : w.Shows p) {place : Nat} (found : w.workers[place]? = some .listening)
    {t : τ} {q : Pool τ} (started : p.start? = some (t, q)) : w.CanShow label q := by
  have first : w.queue = t :: q.queue := h.queue.symm.trans (Pool.queue_start started)
  have starts := h.start first ⟨.listening, List.mem_of_getElem? found, rfl⟩
  have same := (Prod.mk.inj (Option.some.inj (started.symm.trans starts))).2
  have received : w.move label (.work place .receive) =
      some { w.assign place (.carrying t) with queue := q.queue, taken := w.taken ++ [t] } := by
    rw [work_of_found _ found, Workforce.act, first]
  rw [same]
  exact .cons received (.of_shows (h.receive found))

/-- Some worker can take the first job, if one is free. -/
theorem canStart (h : w.Shows p) (attended : w.Attended n) {t : τ} {q : Pool τ}
    (started : p.start? = some (t, q)) : w.CanShow label q := by
  have first : w.queue = t :: q.queue := h.queue.symm.trans (Pool.queue_start started)
  cases listens : w.workers.any (·.isListening) with
  | true =>
    obtain ⟨worker, mem, isListening⟩ := List.any_eq_true.1 listens
    obtain ⟨place, found⟩ := List.mem_iff_getElem?.1 mem
    obtain rfl : worker = .listening := by cases worker <;> first | rfl | cases isListening
    exact h.canReceive found started
  | false =>
    -- Whoever is free waits for the queue, as nobody leaves while there is work.
    have free : p.free ≠ 0 := by
      intro none
      simp [Pool.start?, none] at started
    obtain ⟨worker, mem, none⟩ := h.exists_free free
    obtain ⟨place, found⟩ := List.mem_iff_getElem?.1 mem
    cases worker with
    | carrying t | serving t | served t failed => cases none
    | listening => exact absurd rfl (List.any_eq_false.1 listens _ mem)
    | gone => cases first.symm.trans (attended.drained mem).1
    | idle =>
      have listened : w.move label (.work place .listen) = some (w.assign place .listening) := by
        rw [work_of_found _ found, Workforce.act, listens, if_neg Bool.false_ne_true]
      have shows := h.assign (b := .listening) found rfl
      exact .cons listened (shows.canReceive (getElem?_assign found) started)

/-- Whatever the pool can do the workforce can bring about. -/
theorem canStep (h : w.Shows p) (attended : w.Attended n) (steps : p.Steps p') :
    w.CanShow label p' := by
  cases steps with
  | submit t => exact .cons (m := .submit t) rfl (.of_shows (h.submit t))
  | start started => exact h.canStart attended started
  | finish inside =>
    have mem := h.running.mem_iff.1 (List.getElem_mem inside)
    obtain ⟨worker, mem, holds⟩ := List.mem_filterMap.1 mem
    obtain ⟨place, found⟩ := List.mem_iff_getElem?.1 mem
    exact h.canFinish found holds inside rfl
  | close => exact .cons (m := .close) rfl (.of_shows h.close)

end Shows

theorem CanShow.trans {moves : List (Move τ)} (played : w.play label moves = some w')
    (h : w'.CanShow label p) : w.CanShow label p := by
  obtain ⟨rest, v, went, shows⟩ := h
  exact ⟨moves ++ rest, v, by rw [play_append, played]; exact went, shows⟩

/-- Whatever the workforce does, a pool does as well. -/
theorem shows_play {moves : List (Move τ)} (h : w.Shows p)
    (played : w.play label moves = some w') :
    ∃ p', Relation.ReflTransGen Pool.Steps p p' ∧ w'.Shows p' := by
  induction moves generalizing w p with
  | nil =>
    cases played
    exact ⟨p, .refl, h⟩
  | cons m rest ih =>
    obtain ⟨v, moved, rest⟩ := Option.bind_eq_some_iff.1 played
    obtain ⟨p₁, same | steps, shows⟩ := h.move moved
    · exact ih (same ▸ shows) rest
    · obtain ⟨p', reached, shows'⟩ := ih shows rest
      exact ⟨p', .head steps reached, shows'⟩

/-- Whatever a new pool can come to, new workers can bring about. -/
theorem canShow_of_steps {name : String}
    (reached : Relation.ReflTransGen Pool.Steps (.ofSize name n) p) :
    (Workforce.ofSize name n : Workforce τ).CanShow label p := by
  induction reached with
  | refl => exact .of_shows (.ofSize name)
  | tail _ steps ih =>
    obtain ⟨moves, v, played, shows⟩ := ih
    have attended : v.Attended n :=
      play_induction (fun h moved => Attended.move h moved) (attended_ofSize name) played
    exact .trans played (shows.canStep attended steps)

end Workforce

end Southbound
