import Southbound.Closing
import Southbound.Proofs.Drain
import Southbound.Proofs.Interleaving

/-!
# What a provider that is being stopped can do

A `Scene` is what the parties to a shutdown share: the deployment, and what was done so far.
`Closing.Next` says what a move can come to in terms of the scene, of the orders that are pending
and of the stage; `Closing.next_of_move` is the only place where moves are taken apart.  What is
called is told by the deeds alone (`Closing.calls_play`), and a shutdown that returned leaves the
provider with nothing to do (`Closing.stopped_play`).

`Provider.shutdown`, where every pool does its work in one go, is one of the interleavings
(`Provider.play_shutdown`).
-/

namespace Southbound

open Job

/-! ## Scenes -/

/-- A deployment, and what was done so far. -/
structure Scene where
  deployment : Deployment
  deeds : List Deed

/-- Somebody does an action. -/
def Scene.perform (s : Scene) (party : Party) (a : Action) : Scene :=
  ⟨(s.deployment.perform a).2, s.deeds ++ [⟨party, s.deployment, a⟩]⟩

/-- Nothing is done but that the operator is told something, and that role changes may be refused
from now on. -/
structure Scene.Unmoved (s s' : Scene) : Prop where
  slices : ∀ id, s'.deployment.slice id = s.deployment.slice id
  records : s'.deployment.records = s.deployment.records
  faults : s'.deployment.faults = s.deployment.faults
  calls : s'.deployment.calls = s.deployment.calls
  inactive : s.deployment.active = false → s'.deployment.active = false
  deeds : s'.deeds = s.deeds

namespace Scene.Unmoved

variable {s s' s'' : Scene}

theorem refl (s : Scene) : s.Unmoved s := ⟨fun _ => rfl, rfl, rfl, rfl, id, rfl⟩

theorem trans (h : s.Unmoved s') (h' : s'.Unmoved s'') : s.Unmoved s'' where
  slices id := (h'.slices id).trans (h.slices id)
  records := h'.records.trans h.records
  faults := h'.faults.trans h.faults
  calls := h'.calls.trans h.calls
  inactive inactive := h'.inactive (h.inactive inactive)
  deeds := h'.deeds.trans h.deeds

theorem sayAll (d : Deployment) (deeds : List Deed) (lines : List LogLine) :
    Scene.Unmoved ⟨d, deeds⟩ ⟨d.sayAll lines, deeds⟩ :=
  ⟨fun _ => rfl, rfl, rfl, d.calls_sayAll lines, id, rfl⟩

end Scene.Unmoved

namespace Pool

variable {τ : Type} {p q : Pool τ} {t : τ}

theorem finish_update (p : Pool τ) (place : Nat) (t : τ) :
    (p.update place t).finish place = p.finish place := by
  simp [update, finish, List.eraseIdx_set_eq]

theorem isIdle_iff : p.isIdle = true ↔ p.pending = [] := by
  simp [isIdle, pending, and_comm]

end Pool

/-! ## What a move does -/

namespace Stage

/-- Whether the event pool is finished. -/
def isDrained : Stage → Bool
  | serving | draining => false
  | tearing _ | finishing | stopped => true

/-- Whether the devices are torn down. -/
def isTorn : Stage → Bool
  | serving | draining | tearing _ => false
  | finishing | stopped => true

end Stage

namespace Closing

/-- What the parties share. -/
def scene (c : Closing) : Scene := ⟨c.deployment, c.deeds⟩

/-- The orders of a pool that were accepted and have not ended. -/
def pending (c : Closing) (b : Branch) : List Assignment := (c.pool b).pending

/-- What a move can come to. -/
inductive Next (c c' : Closing) : Prop
  /-- An order was taken, or something was said. -/
  | unmoved (pending : c'.pending = c.pending) (stage : c'.stage = c.stage)
      (scene : c.scene.Unmoved c'.scene)
  /-- A worker did an action. -/
  | went {b : Branch} {before after : List Assignment} {o : Order} {a : Action}
      {next : Option a.Answer → Job (Except RoleError Unit)}
      (pending : c.pending b = before ++ ⟨o, .act a next⟩ :: after)
      (pending' : c'.pending b = before ++ ⟨o, next (c.deployment.perform a).1⟩ :: after)
      (others : ∀ b', b' ≠ b → c'.pending b' = c.pending b') (stage : c'.stage = c.stage)
      (scene : c'.scene = c.scene.perform (.worker b) a)
  /-- A worker is done with its order. -/
  | left {b : Branch} {before after : List Assignment} {e : Assignment}
      (pending : c.pending b = before ++ e :: after)
      (ended : e.rest = .crashed ∨ ∃ result, e.rest = .done result)
      (pending' : c'.pending b = before ++ after)
      (others : ∀ b', b' ≠ b → c'.pending b' = c.pending b') (stage : c'.stage = c.stage)
      (scene : c.scene.Unmoved c'.scene)
  /-- The shutdown was called. -/
  | began (stage : c.stage = .serving) (stage' : c'.stage = .draining)
      (pending : c'.pending = c.pending) (scene : c.scene.Unmoved c'.scene)
  /-- The event pool was finished and the devices were listed. -/
  | listed {ids : List Identity} {s : Scene} (stage : c.stage = .draining)
      (idle : c.pending .events = []) (ids_perm : ids.Perm c.deployment.records.registered)
      (stage' : c'.stage = .tearing (Connection.tearDownEach ids))
      (pending : c'.pending = c.pending)
      (said : c.scene.Unmoved s) (scene : c'.scene = s.perform .shutdown .registered)
  /-- The shutdown did an action of the teardown. -/
  | tore {a : Action} {next : Option a.Answer → Job Unit} (stage : c.stage = .tearing (.act a next))
      (stage' : c'.stage = .tearing (next (c.deployment.perform a).1))
      (pending : c'.pending = c.pending) (scene : c'.scene = c.scene.perform .shutdown a)
  /-- The devices were torn down. -/
  | finished (stage : c.stage = .tearing (.done ())) (stage' : c'.stage = .finishing)
      (pending : c'.pending = c.pending) (scene : c.scene.Unmoved c'.scene)
  /-- The shutdown returned. -/
  | stopped (stage : c.stage = .finishing) (stage' : c'.stage = .stopped)
      (idle : c.pending .connections = []) (pending : c'.pending = c.pending)
      (scene : c.scene.Unmoved c'.scene)

/-! ### The pools -/

section pools

variable (c : Closing) (b : Branch)

theorem pending_withPool (pool : Pool Assignment) :
    (c.withPool b pool).pending b = pool.pending ∧
      ∀ b', b' ≠ b → (c.withPool b pool).pending b' = c.pending b' := by
  cases b <;> refine ⟨rfl, fun b' other => ?_⟩ <;> cases b' <;> first | rfl | exact absurd rfl other

theorem stage_withPool (pool : Pool Assignment) : (c.withPool b pool).stage = c.stage := by
  cases b <;> rfl

theorem scene_withPool (pool : Pool Assignment) : (c.withPool b pool).scene = c.scene := by
  cases b <;> rfl

theorem pending_after (w : Crew) :
    (c.after b w).pending b = w.pool.pending ∧
      ∀ b', b' ≠ b → (c.after b w).pending b' = c.pending b' := by
  cases b <;> refine ⟨rfl, fun b' other => ?_⟩ <;> cases b' <;> first | rfl | exact absurd rfl other

theorem stage_after (w : Crew) : (c.after b w).stage = c.stage := by
  cases b <;> rfl

theorem scene_after (w : Crew) : (c.after b w).scene =
    ⟨w.deployment, c.deeds ++ w.deeds.map fun a => ⟨.worker b, c.deployment, a⟩⟩ := by
  cases b <;> rfl

end pools

/-! ### Moves -/

theorem next_of_take {c c' : Closing} {b : Branch}
    (h : (c.crew b).take.map (c.after b) = some c') : c.Next c' := by
  obtain ⟨w, took, rfl⟩ := Option.map_eq_some_iff.1 h
  simp only [crew, Crew.take] at took
  cases started : (c.pool b).start? with
  | none => simp [started] at took
  | some entry =>
    obtain ⟨t, pool⟩ := entry
    simp only [started, Option.some.injEq] at took
    subst took
    obtain ⟨own, others⟩ := c.pending_after b ⟨pool, c.deployment, []⟩
    refine .unmoved ?_ (c.stage_after b _) ?_
    · funext b'
      by_cases same : b' = b
      · rw [same, own, (Pool.pending_start started).1, pending]
      · exact others b' same
    · rw [scene_after, List.map_nil, List.append_nil]
      exact .refl _

theorem next_of_go {c c' : Closing} {b : Branch} {place : Nat}
    (h : ((c.crew b).go place).map (c.after b) = some c') : c.Next c' := by
  obtain ⟨w, went, rfl⟩ := Option.map_eq_some_iff.1 h
  simp only [crew, Crew.go] at went
  cases running : (c.pool b).running[place]? with
  | none => simp [running] at went
  | some entry =>
    obtain ⟨before, after, pending, updated, _⟩ := Pool.pending_at running
    obtain ⟨o, rest⟩ := entry
    cases rest with
    | done | crashed => simp [running] at went
    | act a next =>
      by_cases ready : c.deployment.isReady a = true
      · simp only [running, ready, if_true, Option.some.injEq] at went
        subst went
        obtain ⟨own, others⟩ := c.pending_after b _
        exact .went pending (own.trans (updated _)) others (c.stage_after b _)
          (c.scene_after b _)
      · simp [running, ready] at went

theorem next_of_leave {c c' : Closing} {b : Branch} {place : Nat}
    (h : c.leave b place = some c') : c.Next c' := by
  simp only [leave] at h
  cases running : (c.pool b).running[place]? with
  | none => simp [running] at h
  | some entry =>
    obtain ⟨before, after, pending, _, finished⟩ := Pool.pending_at running
    obtain ⟨o, rest⟩ := entry
    obtain ⟨own, others⟩ := c.pending_withPool b ((c.pool b).finish place)
    have stage := c.stage_withPool b ((c.pool b).finish place)
    have scene : c.scene.Unmoved (c.withPool b ((c.pool b).finish place)).scene :=
      c.scene_withPool b _ ▸ .refl _
    cases rest with
    | done result =>
      simp only [running, Option.some.injEq] at h
      subst h
      exact .left pending (.inr ⟨result, rfl⟩) (own.trans finished) others stage scene
    | crashed =>
      simp only [running, Option.some.injEq] at h
      subst h
      exact .left pending (.inl rfl) (own.trans finished) others stage scene
    | act => simp [running] at h

theorem unmoved_speak (c : Closing) (lines : List LogLine) :
    c.scene.Unmoved (c.speak lines).scene :=
  .sayAll c.deployment c.deeds lines

theorem next_of_begin {c c' : Closing} (h : c.begin = some c') : c.Next c' := by
  unfold begin at h
  cases stage : c.stage with
  | serving =>
    simp only [stage, Option.some.injEq] at h
    subst h
    refine .began stage rfl ?_ ?_
    · funext b
      cases b <;> rfl
    · have inactive : c.scene.Unmoved ⟨{ c.deployment with active := false }, c.deeds⟩ :=
        ⟨fun _ => rfl, rfl, rfl, rfl, fun _ => rfl, rfl⟩
      exact (inactive.trans (.sayAll _ _ _)).trans (.sayAll _ _ _)
  | _ => simp [stage] at h

theorem next_of_list {c c' : Closing} {ids : List Identity} (h : c.list ids = some c') :
    c.Next c' := by
  unfold list at h
  cases stage : c.stage with
  | draining =>
    simp only [stage, Option.ite_none_right_eq_some, Option.some.injEq, Bool.and_eq_true,
      List.isPerm_iff] at h
    obtain ⟨⟨idle, perm⟩, rfl⟩ := h
    refine .listed (s := (c.speak [.poolStopped c.provider.events.name]).scene) stage
      (Pool.isIdle_iff.1 idle) perm rfl ?_ (c.unmoved_speak _) rfl
    funext b
    cases b <;> rfl
  | _ => simp [stage] at h

theorem next_of_tear {c c' : Closing} (h : c.tear = some c') : c.Next c' := by
  unfold tear at h
  cases stage : c.stage with
  | tearing rest =>
    cases rest with
    | act a next =>
      simp only [stage, Option.ite_none_right_eq_some, Option.some.injEq] at h
      obtain ⟨_, rfl⟩ := h
      refine .tore stage rfl ?_ rfl
      funext b
      cases b <;> rfl
    | done | crashed => simp [stage] at h
  | _ => simp [stage] at h

theorem next_of_finish {c c' : Closing} (h : c.finish = some c') : c.Next c' := by
  unfold finish at h
  cases stage : c.stage with
  | tearing rest =>
    cases rest with
    | done =>
      simp only [stage, Option.some.injEq] at h
      subst h
      refine .finished stage rfl ?_ (.refl _)
      funext b
      cases b <;> rfl
    | act | crashed => simp [stage] at h
  | _ => simp [stage] at h

theorem next_of_stop {c c' : Closing} (h : c.stop = some c') : c.Next c' := by
  unfold stop at h
  cases stage : c.stage with
  | finishing =>
    simp only [stage, Option.ite_none_right_eq_some, Option.some.injEq] at h
    obtain ⟨idle, rfl⟩ := h
    refine .stopped stage rfl (Pool.isIdle_iff.1 idle) ?_ (c.unmoved_speak _)
    funext b
    cases b <;> rfl
  | _ => simp [stage] at h

theorem next_of_move {c c' : Closing} {m : Move} (h : c.move m = some c') : c.Next c' := by
  cases m with
  | take b => exact next_of_take h
  | go b place => exact next_of_go h
  | leave b place => exact next_of_leave h
  | say =>
    simp only [move, say] at h
    cases unsaid : c.unsaid with
    | nil => simp [unsaid] at h
    | cons l rest =>
      simp only [unsaid, Option.some.injEq] at h
      subst h
      refine .unmoved ?_ rfl (c.unmoved_speak [l])
      funext b
      cases b <;> rfl
  | begin => exact next_of_begin h
  | list ids => exact next_of_list h
  | tear => exact next_of_tear h
  | finish => exact next_of_finish h
  | stop => exact next_of_stop h

/-- What every move keeps is kept by a play. -/
theorem play_keeps {I : Closing → Prop} (step : ∀ c c', c.Next c' → I c → I c') {c c' : Closing}
    {moves : List Move} (played : c.play moves = some c') (h : I c) : I c' := by
  induction moves generalizing c with
  | nil =>
    cases played
    exact h
  | cons m rest ih =>
    obtain ⟨c₁, moved, played⟩ := Option.bind_eq_some_iff.1 played
    exact ih played (step c c₁ (next_of_move moved) h)

/-- A statement about scenes that every action keeps is kept by a play. -/
theorem play_scene {I : Scene → Prop} (unmoved : ∀ s s' : Scene, s.Unmoved s' → I s → I s')
    (perform : ∀ (s : Scene) party a, I s → I (s.perform party a)) {c c' : Closing}
    {moves : List Move} (played : c.play moves = some c') (h : I c.scene) : I c'.scene := by
  refine play_keeps (I := fun c => I c.scene) (fun c₁ c₂ step h => ?_) played h
  cases step with
  | unmoved _ _ scene | left _ _ _ _ _ scene | began _ _ _ scene | finished _ _ _ scene
  | stopped _ _ _ _ scene => exact unmoved _ _ scene h
  | went _ _ _ _ scene | tore _ _ _ scene => exact scene ▸ perform _ _ _ h
  | listed _ _ _ _ _ said scene => exact scene ▸ perform _ _ _ (unmoved _ _ said h)

/-- What is called is told by what was done. -/
theorem calls_play {c c' : Closing} {moves : List Move} (played : c.play moves = some c') :
    ∃ later, c'.deeds = c.deeds ++ later ∧
      c'.deployment.calls = c.deployment.calls ++ later.filterMap (·.action.call?) := by
  refine play_scene (I := fun s => ∃ later, s.deeds = c.deeds ++ later ∧
    s.deployment.calls = c.deployment.calls ++ later.filterMap (·.action.call?)) ?_ ?_ played
    ⟨[], (List.append_nil _).symm, (List.append_nil _).symm⟩
  · rintro s s' unmoved ⟨later, deeds, calls⟩
    exact ⟨later, unmoved.deeds.trans deeds, unmoved.calls.trans calls⟩
  · rintro s party a ⟨later, deeds, calls⟩
    refine ⟨later ++ [⟨party, s.deployment, a⟩], ?_, ?_⟩
    · rw [Scene.perform, deeds, List.append_assoc]
    · rw [Scene.perform, s.deployment.calls_perform, calls, List.filterMap_append,
        List.append_assoc]
      cases h : a.call? <;> simp [h]

/-! ### What is closed -/

/-- What the provider no longer does, by how far the shutdown has come. -/
structure Shutting (c : Closing) : Prop where
  deaf : c.stage ≠ .serving → c.provider.events.accepting = false ∧ c.provider.schedules = [] ∧
    c.provider.listening = []
  drained : c.stage.isDrained = true → c.pending .events = []
  refusing : c.stage.isTorn = true → c.provider.connections.accepting = false
  finished : c.stage = .stopped → c.pending .connections = []

/-- What is closed or has stopped. -/
def flags (c : Closing) : Bool × Bool × List Schedule × List Stream :=
  (c.provider.events.accepting, c.provider.connections.accepting, c.provider.schedules,
    c.provider.listening)

theorem Shutting.of_same {c c' : Closing} (h : c.Shutting) (stage : c'.stage = c.stage)
    (flags : c'.flags = c.flags) (idle : ∀ b, c.pending b = [] → c'.pending b = []) :
    c'.Shutting := by
  simp only [Closing.flags, Prod.mk.injEq] at flags
  obtain ⟨events, connections, schedules, listening⟩ := flags
  constructor
  · rw [stage, events, schedules, listening]
    exact h.deaf
  · rw [stage]
    exact fun drained => idle _ (h.drained drained)
  · rw [stage, connections]
    exact h.refusing
  · rw [stage]
    exact fun returned => idle _ (h.finished returned)

theorem Next.idle {c c' : Closing} (h : c.Next c') (b : Branch) (idle : c.pending b = []) :
    c'.pending b = [] := by
  cases h with
  | unmoved pending | began _ _ pending | listed _ _ _ _ pending | tore _ _ pending
  | finished _ _ pending | stopped _ _ _ pending => exact pending ▸ idle
  | @went b' _ _ _ _ _ pending _ others | @left b' _ _ _ pending _ _ others =>
    by_cases own : b = b'
    · subst own
      simp [pending] at idle
    · exact (others b own).trans idle

theorem flags_withPool (c : Closing) (b : Branch) {pool : Pool Assignment}
    (same : pool.accepting = (c.pool b).accepting) : (c.withPool b pool).flags = c.flags := by
  cases b <;> simpa [flags, withPool, Closing.pool] using same

theorem flags_after (c : Closing) (b : Branch) {w : Crew}
    (same : w.pool.accepting = (c.pool b).accepting) : (c.after b w).flags = c.flags := by
  cases b <;> simpa [flags, after, withPool, Closing.pool] using same

theorem flags_of_crew {c : Closing} {b : Branch} {w : Crew}
    (h : (c.crew b).take = some w ∨ ∃ place, (c.crew b).go place = some w) :
    w.pool.accepting = (c.pool b).accepting := by
  rcases h with took | ⟨place, went⟩
  · simp only [crew, Crew.take] at took
    cases started : (c.pool b).start? with
    | none => simp [started] at took
    | some entry =>
      simp only [started, Option.some.injEq] at took
      subst took
      exact (Pool.size_start started).2
  · simp only [crew, Crew.go] at went
    split at went
    · obtain ⟨_, went⟩ := Option.ite_none_right_eq_some.1 went
      cases went
      rfl
    · cases went

theorem flags_leave {c c' : Closing} {b : Branch} {place : Nat} (h : c.leave b place = some c') :
    c'.flags = c.flags ∧ c'.stage = c.stage := by
  unfold leave at h
  split at h
  · cases h
    exact ⟨c.flags_withPool b rfl, c.stage_withPool b _⟩
  · cases h
    exact ⟨c.flags_withPool b rfl, c.stage_withPool b _⟩
  · cases h

theorem Shutting.move {c c' : Closing} {m : Move} (moved : c.move m = some c') (h : c.Shutting) :
    c'.Shutting := by
  have next := next_of_move moved
  have same : c'.stage = c.stage → c'.flags = c.flags → c'.Shutting := fun stage flags =>
    h.of_same stage flags next.idle
  cases m with
  | take b =>
    obtain ⟨w, took, rfl⟩ := Option.map_eq_some_iff.1 moved
    exact same (c.stage_after b w) (c.flags_after b (flags_of_crew (.inl took)))
  | go b place =>
    obtain ⟨w, went, rfl⟩ := Option.map_eq_some_iff.1 moved
    exact same (c.stage_after b w) (c.flags_after b (flags_of_crew (.inr ⟨place, went⟩)))
  | leave b place =>
    obtain ⟨flags, stage⟩ := flags_leave moved
    exact same stage flags
  | say =>
    simp only [Closing.move, say] at moved
    split at moved
    · cases moved
    · cases moved
      exact same rfl rfl
  | begin =>
    simp only [Closing.move, begin] at moved
    split at moved
    · cases moved
      exact ⟨fun _ => ⟨rfl, rfl, rfl⟩, nofun, nofun, nofun⟩
    · cases moved
  | list ids =>
    simp only [Closing.move, list] at moved
    split at moved
    · next stage =>
      obtain ⟨idle, moved⟩ := Option.ite_none_right_eq_some.1 moved
      cases moved
      rw [Bool.and_eq_true] at idle
      exact ⟨fun _ => h.deaf (by simp [stage]), fun _ => Pool.isIdle_iff.1 idle.1, nofun, nofun⟩
    · cases moved
  | tear =>
    simp only [Closing.move, tear] at moved
    split at moved
    · next stage =>
      obtain ⟨_, moved⟩ := Option.ite_none_right_eq_some.1 moved
      cases moved
      have drained := h.drained (by simp [stage, Stage.isDrained])
      exact ⟨fun _ => h.deaf (by simp [stage]), fun _ => drained, nofun, nofun⟩
    · cases moved
  | finish =>
    simp only [Closing.move, finish] at moved
    split at moved
    · next stage =>
      cases moved
      exact ⟨fun _ => h.deaf (by simp [stage]),
        fun _ => h.drained (by simp [stage, Stage.isDrained]), fun _ => rfl, nofun⟩
    · cases moved
  | stop =>
    simp only [Closing.move, stop] at moved
    split at moved
    · next stage =>
      obtain ⟨idle, moved⟩ := Option.ite_none_right_eq_some.1 moved
      cases moved
      exact ⟨fun _ => h.deaf (by simp [stage]),
        fun _ => h.drained (by simp [stage, Stage.isDrained]),
        fun _ => h.refusing (by simp [stage, Stage.isTorn]), fun _ => Pool.isIdle_iff.1 idle⟩
    · cases moved

/-- A shutdown that returned leaves the provider with nothing to do. -/
theorem stopped_play {c c' : Closing} {moves : List Move} (played : c.play moves = some c')
    (serving : c.stage = .serving) (returned : c'.stage = .stopped) : c'.provider.Stopped := by
  have shutting : c'.Shutting := by
    have start : c.Shutting := by
      constructor <;> simp [serving, Stage.isDrained, Stage.isTorn]
    clear serving returned
    induction moves generalizing c with
    | nil =>
      cases played
      exact start
    | cons m rest ih =>
      obtain ⟨c₁, moved, played⟩ := Option.bind_eq_some_iff.1 played
      exact ih played (start.move moved)
  obtain ⟨closed, unscheduled, deaf⟩ := shutting.deaf (by simp [returned])
  exact ⟨Pool.isIdle_iff.2 (shutting.drained (by simp [returned, Stage.isDrained])), closed,
    Pool.isIdle_iff.2 (shutting.finished returned),
    shutting.refusing (by simp [returned, Stage.isTorn]), unscheduled, deaf⟩

theorem play_append (c : Closing) (moves later : List Move) :
    c.play (moves ++ later) = (c.play moves).bind (·.play later) := by
  induction moves generalizing c with
  | nil => rfl
  | cons m rest ih => simp [play, ih, Option.bind_assoc]

end Closing

/-! ## Every pool in one go -/

/-- What somebody is about to say. -/
def Turn.line? : Turn → Option LogLine
  | lineUp line | tick _ line => line
  | serve | order | pass _ => none

/-- What is about to be said in a shift, the next line first. -/
def Shift.unsaid (s : Shift) : List LogLine := s.turns.filterMap Turn.line?

namespace Closing

/-- The workers of a pool are in the middle of a shift. -/
def during (c : Closing) (b : Branch) (s : Shift) (deeds : List Deed) : Closing :=
  let c' := c.withPool b s.pool
  { c' with
    provider := { c'.provider with deployment := s.deployment }
    unsaid := s.unsaid
    deeds := deeds }

section shifts

variable (c : Closing) (b : Branch) (s : Shift) (deeds : List Deed)

theorem pool_during : (c.during b s deeds).pool b = s.pool := by
  cases b <;> rfl

theorem deployment_during : (c.during b s deeds).deployment = s.deployment := by
  cases b <;> rfl

theorem crew_during : (c.during b s deeds).crew b = ⟨s.pool, s.deployment, []⟩ := by
  rw [crew, pool_during, deployment_during]

theorem after_during (w : Crew) : ∃ deeds', (c.during b s deeds).after b w =
    c.during b { s with pool := w.pool, deployment := w.deployment } deeds' := by
  cases b <;> exact ⟨_, rfl⟩

theorem play_serve : ∃ moves deeds',
    (c.during b s deeds).play moves = some (c.during b s.serve deeds') := by
  unfold Shift.serve
  cases started : s.pool.start? with
  | none => exact ⟨[], deeds, rfl⟩
  | some entry =>
    obtain ⟨t, pool⟩ := entry
    obtain ⟨deeds', after⟩ := c.after_during b s deeds ⟨pool, s.deployment, []⟩
    have took : (c.during b s deeds).move (.take b) =
        some (c.during b { s with pool := pool } deeds') := by
      simp [move, crew_during, Crew.take, started, after]
    refine ⟨[.take b], deeds', ?_⟩
    rw [play, took]
    dsimp only
    split <;> simp [play, during, Shift.give, Shift.unsaid, Turn.line?]

theorem play_say (line : Option LogLine) (rest : List Turn) (turn : Turn)
    (turns : s.turns = turn :: rest) (spoken : turn.line? = line) : ∃ moves,
      (c.during b s deeds).play moves =
        some (c.during b (Shift.say { s with turns := rest } line) deeds) := by
  subst spoken
  cases said : turn.line? with
  | none =>
    refine ⟨[], ?_⟩
    simp [play, during, Shift.say, Shift.unsaid, turns, said, Deployment.sayAll, Deployment.note]
  | some l =>
    refine ⟨[.say], ?_⟩
    have unsaid : (c.during b s deeds).unsaid = l :: rest.filterMap Turn.line? := by
      simp [during, Shift.unsaid, turns, said]
    simp only [play, move, say, unsaid]
    cases b <;> rfl

/-- A worker may carry out its order in one go, as far as the order gets. -/
theorem play_run {place : Nat} {o : Order} {j : Job (Except RoleError Unit)}
    (running : s.pool.running[place]? = some ⟨o, j⟩) : ∃ moves deeds',
      (c.during b s deeds).play moves = some (c.during b
        { s with
          pool := s.pool.update place ⟨o, (j.run s.deployment).1.job⟩
          deployment := (j.run s.deployment).2 } deeds') := by
  induction j generalizing s deeds with
  | done r => exact ⟨[], deeds, by simp [play, Job.run, Progress.job, Pool.update_self running]⟩
  | crashed => exact ⟨[], deeds, by simp [play, Job.run, Progress.job, Pool.update_self running]⟩
  | act a next ih =>
    by_cases ready : s.deployment.isReady a = true
    · let s₁ : Shift :=
        { s with
          pool := s.pool.update place ⟨o, next (s.deployment.perform a).1⟩
          deployment := (s.deployment.perform a).2 }
      obtain ⟨deeds₁, after⟩ := c.after_during b s deeds ⟨s₁.pool, s₁.deployment, [a]⟩
      have moved : (c.during b s deeds).move (.go b place) = some (c.during b s₁ deeds₁) := by
        simpa [move, crew_during, Crew.go, running, ready] using after
      obtain ⟨moves, deeds', played⟩ := ih (s.deployment.perform a).1 s₁ deeds₁
        (Pool.running_update running _)
      refine ⟨.go b place :: moves, deeds', ?_⟩
      rw [play, moved, Option.bind_some, played, run_act a next _ ready]
      simp [s₁, Pool.update_update]
    · have same := Pool.update_self running
      exact ⟨[], deeds, by simp [play, Job.run, ready, Progress.job, same]⟩

theorem play_leave {place : Nat} {e : Assignment} (result : Option (Except RoleError Unit))
    {line : Option LogLine} (running : s.pool.running[place]? = some e)
    (ended : (∃ r, e.rest = .done r ∧ line = none) ∨
      e.rest = .crashed ∧ line = some (.jobFailed s.pool.name e.order.label)) :
    (c.during b s deeds).play [.leave b place] =
      some (c.during b (s.finish place e result line) deeds) := by
  obtain ⟨o, rest⟩ := e
  rcases ended with ⟨r, rfl, rfl⟩ | ⟨rfl, rfl⟩
  · simp only [play, move, leave, pool_during, running]
    cases b <;> simp [during, withPool, Shift.finish, Shift.give, Shift.unsaid, Turn.line?]
  · simp only [play, move, leave, pool_during, running]
    cases b <;> simp [during, withPool, Shift.finish, Shift.give, Shift.unsaid, Turn.line?]

theorem play_carryOn : ∃ moves deeds',
    (c.during b s deeds).play moves = some (c.during b s.carryOn deeds') := by
  unfold Shift.carryOn
  cases found : s.ready? with
  | none => exact ⟨[], deeds, rfl⟩
  | some entry =>
    obtain ⟨⟨o, j⟩, place⟩ := entry
    have running : s.pool.running[place]? = some ⟨o, j⟩ :=
      List.mem_zipIdx_iff_getElem?.1 (List.mem_of_find?_eq_some found)
    obtain ⟨moves, deeds', played⟩ := c.play_run b s deeds running
    have there := Pool.running_update running ⟨o, (j.run s.deployment).1.job⟩
    have gone := s.pool.finish_update place ⟨o, (j.run s.deployment).1.job⟩
    dsimp only
    generalize j.run s.deployment = r at played there gone ⊢
    obtain ⟨progress, d⟩ := r
    cases progress with
    | waiting rest => exact ⟨moves, deeds', played⟩
    | done result =>
      refine ⟨moves ++ [.leave b place], deeds', ?_⟩
      rw [play_append, played, Option.bind_some,
        c.play_leave b _ deeds' (some result) there (.inl ⟨result, rfl, rfl⟩)]
      simp only [Shift.finish, gone]
    | crashed =>
      refine ⟨moves ++ [.leave b place], deeds', ?_⟩
      rw [play_append, played, Option.bind_some,
        c.play_leave b _ deeds' none there (.inr ⟨rfl, rfl⟩)]
      simp only [Shift.finish, gone]
      rfl

theorem play_step (unscheduled : s.schedules = []) : ∃ moves deeds',
    (c.during b s deeds).play moves = some (c.during b s.step deeds') := by
  have nobody : ∀ place : Nat, s.schedules[place]? = none := by simp [unscheduled]
  unfold Shift.step
  cases turns : s.turns with
  | nil => exact ⟨[], deeds, rfl⟩
  | cons t rest =>
    obtain ⟨said, played⟩ := c.play_say b s deeds t.line? rest t turns rfl
    have silent : t.line? = none →
        Shift.say { s with turns := rest } t.line? = { s with turns := rest } := by
      intro none
      simp [none, Shift.say, Deployment.sayAll, Deployment.note]
    have further : ∀ s', (∃ moves deeds',
        (c.during b (Shift.say { s with turns := rest } t.line?) deeds).play moves =
          some (c.during b s' deeds')) →
        ∃ moves deeds', (c.during b s deeds).play moves = some (c.during b s' deeds') := by
      rintro s' ⟨moves, deeds', later⟩
      exact ⟨said ++ moves, deeds', by rw [play_append, played, Option.bind_some, later]⟩
    refine further _ ?_
    cases t with
    | serve =>
      rw [silent rfl]
      exact c.play_serve b _ deeds
    | order =>
      rw [silent rfl]
      exact c.play_carryOn b _ deeds
    | lineUp line =>
      simp only [Turn.line?, Shift.take, Shift.lineUp_eq]
      split
      · obtain ⟨moves, deeds', served⟩ := c.play_serve b
          { Shift.say { s with turns := rest } line with line := 1 } deeds
        exact ⟨moves, deeds', served⟩
      · exact ⟨[], deeds, rfl⟩
    | tick place line =>
      simp only [Turn.line?, Shift.take, Shift.tick, Shift.say, nobody]
      exact ⟨[], deeds, rfl⟩
    | pass place =>
      rw [silent rfl]
      simp only [Shift.take, Shift.carryOnPass, nobody]
      exact ⟨[], deeds, rfl⟩

theorem unscheduled_step {s : Shift} (unscheduled : s.schedules = []) : s.step.schedules = [] := by
  have nobody : ∀ place : Nat, s.schedules[place]? = none := by simp [unscheduled]
  unfold Shift.step
  cases turns : s.turns with
  | nil => exact unscheduled
  | cons t rest =>
    cases t with
    | serve => exact (Shift.schedules_serve _).trans unscheduled
    | order => exact (Shift.schedules_carryOn _).trans unscheduled
    | lineUp line => exact (Shift.schedules_lineUp _).trans unscheduled
    | tick place line => simpa [Shift.take, Shift.tick, Shift.say, nobody] using unscheduled
    | pass place => simpa [Shift.take, Shift.carryOnPass, nobody] using unscheduled

theorem play_work (unscheduled : s.schedules = []) : ∃ moves deeds',
    (c.during b s deeds).play moves = some (c.during b s.work deeds') ∧ s.work.schedules = [] := by
  unfold Shift.work
  generalize s.load = count
  induction count with
  | zero => exact ⟨[], deeds, rfl, unscheduled⟩
  | succ count ih =>
    obtain ⟨moves, deeds₁, played, unscheduled⟩ := ih
    obtain ⟨more, deeds', stepped⟩ :=
      c.play_step b (Nat.repeat Shift.step count s) deeds₁ unscheduled
    refine ⟨moves ++ more, deeds', ?_, unscheduled_step unscheduled⟩
    rw [play_append, played, Option.bind_some, stepped]
    rfl

/-- The teardown may be carried out in one go. -/
theorem play_tear (c : Closing) {j : Job Unit} (tearing : c.stage = .tearing j) :
    ∃ moves deeds', c.play moves = some
      { c with
        provider := { c.provider with deployment := (j.run c.deployment).2 }
        stage := .tearing (j.run c.deployment).1.job
        deeds := deeds' } := by
  induction j generalizing c with
  | done | crashed => exact ⟨[], c.deeds, by rw [Job.run, Progress.job, ← tearing]; rfl⟩
  | act a next ih =>
    by_cases ready : c.deployment.isReady a = true
    · have moved : c.move .tear = some
          { c.act a with stage := .tearing (next (c.deployment.perform a).1) } := by
        simp [move, tear, tearing, ready]
      obtain ⟨moves, deeds', played⟩ := ih _
        { c.act a with stage := .tearing (next (c.deployment.perform a).1) } rfl
      refine ⟨.tear :: moves, deeds', ?_⟩
      rw [play, moved, Option.bind_some, played, run_act a next _ ready]
      rfl
    · refine ⟨[], c.deeds, ?_⟩
      simp only [Job.run, ready, Bool.false_eq_true, if_false, Progress.job, ← tearing]
      rfl

end shifts

end Closing

namespace Shift

variable {s : Settings} {now : Nat} {d : Deployment} {pool : Pool Assignment}

theorem unsaid_begin : (Shift.begin s now d pool [] []).unsaid = [] := by
  cases started : pool.start?.isSome <;>
    simp [Shift.begin, unsaid, firstTurns, started, Turn.line?]

/-- When a shift without schedules is over nothing is left to be said. -/
theorem unsaid_work {s : Shift} (unscheduled : s.schedules = []) : s.work.unsaid = [] := by
  have paced : s.Paced := by
    intro schedule mem
    rw [unscheduled] at mem
    cases mem
  simp [unsaid, turns_work paced]

end Shift

namespace Provider

variable {p : Provider}

/-- The event pool may be finished in one go. -/
theorem play_drained (p : Provider) : ∃ moves deeds,
    p.closing.play (.begin :: moves) = some ⟨p.drained, .draining, [], deeds⟩ := by
  let q := Provider.dropListeners
    (dropSchedules { p with deployment := { p.deployment with active := false } })
  let c : Closing := ⟨{ q with events := q.events.close }, .draining, [], []⟩
  let s := c.provider.eventShift []
  obtain ⟨moves, deeds, played, unscheduled⟩ := c.play_work .events s [] rfl
  have start : c.during .events s [] = c := by
    have unsaid : s.unsaid = [] := Shift.unsaid_begin
    simp only [Closing.during, unsaid]
    rfl
  have stop : c.during .events s.work deeds = ⟨p.drained, .draining, [], deeds⟩ := by
    have unsaid : s.work.unsaid = [] := Shift.unsaid_work rfl
    have drained : p.drained = c.provider.afterEvents s.work := rfl
    rw [drained]
    simp only [Closing.during, unsaid, afterEvents, unscheduled]
    rfl
  rw [start, stop] at played
  exact ⟨moves, deeds, played⟩

/-- The connection pool may be finished in one go. -/
theorem play_returned {d : Deployment} (idle : (p.returned d).connections.isIdle = true)
    (deeds : List Deed) : ∃ moves deeds',
    Closing.play ⟨{ p.drained with deployment := d }, .tearing (.done ()), [], deeds⟩
      (.finish :: moves) = some ⟨p.returned d, .stopped, [], deeds'⟩ := by
  let q : Provider := { p.drained with deployment := d }
  let c : Closing := ⟨{ q with connections := q.connections.close }, .finishing, [], deeds⟩
  let s := c.provider.connectionShift
  obtain ⟨moves, deeds', played, _⟩ := c.play_work .connections s deeds rfl
  have start : c.during .connections s deeds = c := by
    have unsaid : s.unsaid = [] := Shift.unsaid_begin
    simp only [Closing.during, unsaid]
    rfl
  have stop : (c.during .connections s.work deeds').move .stop =
      some ⟨p.returned d, .stopped, [], deeds'⟩ := by
    have unsaid : s.work.unsaid = [] := Shift.unsaid_work rfl
    have idle : s.work.pool.isIdle = true := idle
    simp only [Closing.move, Closing.stop, Closing.during, unsaid, Closing.withPool, idle, if_true]
    rfl
  refine ⟨moves ++ [.stop], deeds', ?_⟩
  have finished : Closing.move ⟨q, .tearing (.done ()), [], deeds⟩ .finish = some c := rfl
  rw [Closing.play, finished, Option.bind_some, Closing.play_append, ← start, played,
    Option.bind_some, Closing.play, stop]
  rfl

/-- A shutdown that lets every pool do its work in one go is one of the interleavings. -/
theorem play_shutdown {p' : Provider} (complete : p.shutdown = (.complete, p'))
    (idle : p'.connections.isIdle = true) :
    ∃ moves deeds, p.closing.play (.begin :: moves) = some ⟨p', .stopped, [], deeds⟩ := by
  obtain ⟨drained, d, torn, rfl⟩ := shutdown_eq_complete.1 complete
  obtain ⟨first, deeds₁, played₁⟩ := p.play_drained
  let c : Closing := ⟨p.drained, .draining, [], deeds₁⟩
  let ids := p.drained.deployment.records.registered
  let c' : Closing :=
    { (c.speak [.poolStopped p.drained.events.name]).act .registered with
      stage := .tearing (Connection.tearDownEach ids) }
  have listed : c.move (.list ids) = some c' := by
    have perm : ids.isPerm ids = true := List.isPerm_iff.2 (.refl ids)
    have ready : (c.provider.events.isIdle && ids.isPerm c.deployment.records.registered) =
        true := by
      rw [Bool.and_eq_true]
      exact ⟨drained, perm⟩
    simp only [Closing.move, Closing.list, c, c'] at ready ⊢
    rw [if_pos ready]
  have ran : (Connection.tearDownEach ids).run c'.deployment = (.done (), d) := torn
  obtain ⟨second, deeds₂, played₂⟩ := c'.play_tear rfl
  rw [ran] at played₂
  obtain ⟨third, deeds₃, played₃⟩ := play_returned idle deeds₂
  refine ⟨first ++ .list ids :: (second ++ .finish :: third), deeds₃, ?_⟩
  have split : .begin :: (first ++ .list ids :: (second ++ .finish :: third)) =
      (.begin :: first) ++ .list ids :: (second ++ .finish :: third) := rfl
  rw [split, Closing.play_append, played₁, Option.bind_some, Closing.play, listed, Option.bind_some,
    Closing.play_append, played₂]
  exact played₃

end Provider

end Southbound
