import Southbound.Proofs.Footprint
import Southbound.Proofs.StoreJobs

/-!
# What a device sees of a job

`Job.Ensures` says how a job ends.  Where it matters what holds in the middle of a job, at the
moment of a certain call, the job is followed step by step: `Job.glimpses` lists what one device
sees of a run, that is, for each action the slice in which it was done and what was answered.

`j.Observes p id v Q` is to glimpses what `Ensures` is to calls.  A single action observes what it
ensures, with itself for the only glimpse (`Job.observes_ofAction`), so the rules of `Ensures` serve
here as well.
-/

namespace Southbound

open Connection Job

/-- One step of a job as one device sees it. -/
structure Glimpse where
  /-- What was held about the device when the step was made. -/
  slice : Slice
  action : Action
  /-- What was answered; `none` if the action broke down. -/
  reply : Option action.Answer

namespace Glimpse

/-- The calls that were made. -/
def calls (seen : List Glimpse) : List Call := seen.filterMap (·.action.call?)

/-- The action was done, and this was the answer. -/
def Answered (seen : List Glimpse) (a : Action) (answer : a.Answer) : Prop :=
  ∃ v, ⟨v, a, some answer⟩ ∈ seen

@[simp] theorem calls_nil : calls [] = [] := rfl

@[simp] theorem calls_cons (g : Glimpse) (seen : List Glimpse) :
    calls (g :: seen) = g.action.call?.toList ++ calls seen := by
  unfold calls
  cases h : g.action.call? <;> simp [h]

@[simp] theorem calls_append (seen later : List Glimpse) :
    calls (seen ++ later) = calls seen ++ calls later :=
  List.filterMap_append

@[simp] theorem not_answered_nil (a : Action) (answer : a.Answer) : ¬ Answered [] a answer := by
  rintro ⟨_, h⟩
  cases h

@[simp] theorem answered_cons {g : Glimpse} {seen : List Glimpse} {a : Action} {answer : a.Answer} :
    Answered (g :: seen) a answer ↔ (∃ v, ⟨v, a, some answer⟩ = g) ∨ Answered seen a answer := by
  simp [Answered, exists_or]

@[simp] theorem answered_append {seen later : List Glimpse} {a : Action} {answer : a.Answer} :
    Answered (seen ++ later) a answer ↔ Answered seen a answer ∨ Answered later a answer := by
  simp [Answered, exists_or]

/-- Every action that is a call is among the calls. -/
theorem mem_calls {g : Glimpse} {seen : List Glimpse} {c : Call} (h : g ∈ seen)
    (call : g.action.call? = some c) : c ∈ calls seen :=
  List.mem_filterMap.2 ⟨g, h, call⟩

theorem Answered.mem_calls {seen : List Glimpse} {a : Action} {answer : a.Answer} {c : Call}
    (h : Answered seen a answer) (call : a.call? = some c) : c ∈ calls seen := by
  obtain ⟨_, h⟩ := h
  exact Glimpse.mem_calls h call

theorem not_answered_of_calls {seen : List Glimpse} {a : Action} {c : Call}
    (call : a.call? = some c) (uncalled : c ∉ calls seen) (answer : a.Answer) :
    ¬ Answered seen a answer :=
  fun answered => uncalled (answered.mem_calls call)

end Glimpse

/-- What is asked of the end of a job: its result, the slice, and what the device saw. -/
abbrev Sight (α : Type) := Option α → Slice → List Glimpse → Prop

namespace Job

variable {α β : Type} {p : Hazards} {id : Identity} {v : Slice}

/-- What a device sees of a run of the job. -/
def glimpses (id : Identity) : Job α → Deployment → List Glimpse
  | done _, _ | crashed, _ => []
  | act a next, d =>
    if d.isReady a then
      let (reply, d') := d.perform a
      ⟨d.slice id, a, reply⟩ :: glimpses id (next reply) d'
    else []

theorem glimpses_act (a : Action) (next : Option a.Answer → Job α) (d : Deployment)
    (ready : d.isReady a = true) :
    (act a next).glimpses id d = ⟨d.slice id, a, (d.perform a).1⟩ ::
      (next (d.perform a).1).glimpses id (d.perform a).2 := by
  simp [glimpses, ready]

/-- Whatever goes wrong within the hazards, the job concerns one device only, and this device sees
it end as asked. -/
def Observes (p : Hazards) (id : Identity) : Job α → Slice → Sight α → Prop
  | done a, v, Q => Q (some a) v []
  | crashed, v, Q => Q none v []
  | act a next, v, Q => a.Concerns id ∧ ∀ fault, a.Admits p fault →
    Observes p id (next (v.perform fault a).1) (v.perform fault a).2
      fun reply v' seen => Q reply v' (⟨v, a, (v.perform fault a).1⟩ :: seen)

theorem Observes.mono {j : Job α} {Q Q' : Sight α} (h : j.Observes p id v Q)
    (weaker : ∀ reply v' seen, Q reply v' seen → Q' reply v' seen) : j.Observes p id v Q' := by
  induction j generalizing v Q Q' with
  | done a => exact weaker _ _ _ h
  | crashed => exact weaker _ _ _ h
  | act a next ih =>
    exact ⟨h.1, fun fault admitted =>
      ih _ (h.2 fault admitted) fun reply v' seen => weaker reply v' _⟩

/-- Of a job about the device nothing else need be said. -/
theorem Only.observes {j : Job α} (only : j.Only (Action.Concerns id)) :
    j.Observes p id v fun _ _ _ => True := by
  induction j generalizing v with
  | done a => trivial
  | crashed => trivial
  | act a next ih => exact ⟨only.1, fun _ _ => ih _ (only.2 _)⟩

/-! ## Jobs that are put together -/

section composition

variable {Q : Sight α}

@[simp] theorem observes_done (a : α) : (done a).Observes p id v Q ↔ Q (some a) v [] := Iff.rfl

@[simp] theorem observes_bind (j : Job α) (f : α → Job β) {Q : Sight β} :
    (bind j f).Observes p id v Q ↔ j.Observes p id v fun reply v' seen =>
      match reply with
      | some a => (f a).Observes p id v' fun reply' v'' later => Q reply' v'' (seen ++ later)
      | none => Q none v' seen := by
  induction j generalizing v Q with
  | done a => simp
  | crashed => exact Iff.rfl
  | act a next ih => simp only [act_bind, Observes, ih, List.cons_append]

@[simp] theorem observes_ite (c : Prop) [Decidable c] (j k : Job α) :
    (if c then j else k).Observes p id v Q ↔
      (c → j.Observes p id v Q) ∧ (¬c → k.Observes p id v Q) := by
  by_cases h : c <;> simp [h]

end composition

/-! ## Single actions -/

/-- A single action is the only thing that is seen of it. -/
theorem observes_ofAction (a : Action) {Q : Sight a.Answer} :
    (ofAction a).Observes p id v Q ↔
      (ofAction a).Ensures p id v fun reply v' _ => Q reply v' [⟨v, a, reply⟩] := by
  rw [ensures_ofAction]
  refine and_congr_right fun _ => forall_congr' fun fault => imp_congr_right fun _ => ?_
  cases (v.perform fault a).1 <;> exact Iff.rfl

section actions

variable {Q : Sight Unit} {E : Sight (Except CollaboratorError Unit)}

@[simp] theorem observes_log (l : LogLine) :
    (log l).Observes p id v Q ↔
      (log l).Ensures p id v fun reply v' _ => Q reply v' [⟨v, .log l, reply⟩] :=
  observes_ofAction (.log l)

variable (id)

@[simp] theorem observes_readRecord {Q : Sight DeviceRecord} :
    (readRecord id).Observes p id v Q ↔
      (readRecord id).Ensures p id v fun reply v' _ => Q reply v' [⟨v, .readRecord id, reply⟩] :=
  observes_ofAction (.readRecord id)

@[simp] theorem observes_changeRecord (c : RecordChange) {Q : Sight DeviceRecord} :
    (changeRecord id c).Observes p id v Q ↔
      (changeRecord id c).Ensures p id v fun reply v' _ =>
        Q reply v' [⟨v, .changeRecord id c, reply⟩] :=
  observes_ofAction (.changeRecord id c)

@[simp] theorem observes_probe {Q : Sight Bool} :
    (probe id).Observes p id v Q ↔
      (probe id).Ensures p id v fun reply v' _ => Q reply v' [⟨v, .probe id, reply⟩] :=
  observes_ofAction (.probe id)

@[simp] theorem observes_isAvailable {Q : Sight Bool} :
    (isAvailable id).Observes p id v Q ↔
      (isAvailable id).Ensures p id v fun reply v' _ => Q reply v' [⟨v, .isAvailable id, reply⟩] :=
  observes_ofAction (.isAvailable id)

@[simp] theorem observes_isLocalMaster {Q : Sight Bool} :
    (isLocalMaster id).Observes p id v Q ↔
      (isLocalMaster id).Ensures p id v fun reply v' _ =>
        Q reply v' [⟨v, .isLocalMaster id, reply⟩] :=
  observes_ofAction (.isLocalMaster id)

@[simp] theorem observes_storeKey (c : Credentials) :
    (storeKey id c).Observes p id v E ↔
      (storeKey id c).Ensures p id v fun reply v' _ => E reply v' [⟨v, .storeKey id c, reply⟩] :=
  observes_ofAction (.storeKey id c)

@[simp] theorem observes_removeKey :
    (removeKey id).Observes p id v E ↔
      (removeKey id).Ensures p id v fun reply v' _ => E reply v' [⟨v, .removeKey id, reply⟩] :=
  observes_ofAction (.removeKey id)

@[simp] theorem observes_openSession :
    (openSession id).Observes p id v E ↔
      (openSession id).Ensures p id v fun reply v' _ =>
        E reply v' [⟨v, .openSession id, reply⟩] :=
  observes_ofAction (.openSession id)

@[simp] theorem observes_closeSession (force : Bool) :
    (closeSession id force).Observes p id v E ↔
      (closeSession id force).Ensures p id v fun reply v' _ =>
        E reply v' [⟨v, .closeSession id force, reply⟩] :=
  observes_ofAction (.closeSession id force)

@[simp] theorem observes_writeStore (w : StoreWrite) :
    (writeStore w).Observes p id v E ↔
      (writeStore w).Ensures p id v fun reply v' _ => E reply v' [⟨v, .writeStore w, reply⟩] :=
  observes_ofAction (.writeStore w)

@[simp] theorem observes_lookUp {Q : Sight (Option FoundDevice)} :
    (lookUp id).Observes p id v Q ↔
      (lookUp id).Ensures p id v fun reply v' _ => Q reply v' [⟨v, .lookUp id, reply⟩] :=
  observes_ofAction (.lookUp id)

@[simp] theorem observes_reportRole (requested accepted : Role) :
    (reportRole id requested accepted).Observes p id v Q ↔
      (reportRole id requested accepted).Ensures p id v fun reply v' _ =>
        Q reply v' [⟨v, .reportRole id requested accepted, reply⟩] :=
  observes_ofAction (.reportRole id requested accepted)

end actions

/-! ## Runs -/

theorem glimpses_bind (j : Job α) (f : α → Job β) (d : Deployment) :
    (bind j f).glimpses id d = j.glimpses id d ++
      match j.run d with
      | (.done a, d') => (f a).glimpses id d'
      | (.crashed, _) | (.waiting _, _) => [] := by
  induction j generalizing d with
  | done a => rfl
  | crashed => rfl
  | act a next ih =>
    by_cases ready : d.isReady a = true
    · rw [act_bind, glimpses_act _ _ _ ready, glimpses_act _ _ _ ready, run_act _ _ _ ready, ih,
        List.cons_append]
    · simp [glimpses, run, ready]

theorem glimpses_contained (j : Job α) (d : Deployment) :
    j.contained.glimpses id d = j.glimpses id d := by
  induction j generalizing d with
  | done a => rfl
  | crashed => rfl
  | act a next ih =>
    by_cases ready : d.isReady a = true
    · rw [contained, glimpses_act _ _ _ ready, glimpses_act _ _ _ ready, ih]
    · simp [contained, glimpses, ready]

/-- The calls of a run are those that a device sees. -/
theorem calls_run (j : Job α) (id : Identity) (d : Deployment) :
    (j.run d).2.calls = d.calls ++ Glimpse.calls (j.glimpses id d) := by
  induction j generalizing d with
  | done a => simp [run, glimpses]
  | crashed => simp [run, glimpses]
  | act a next ih =>
    by_cases ready : d.isReady a = true
    · rw [run_act _ _ _ ready, glimpses_act _ _ _ ready, ih, Deployment.calls_perform,
        Glimpse.calls_cons, List.append_assoc]
    · simp [run, glimpses, ready]

/-- Whatever device looks on, it sees the actions of the footprint only. -/
theorem Only.glimpses {ok : Action → Prop} {j : Job α} (only : j.Only ok) (id : Identity)
    (d : Deployment) : ∀ g ∈ j.glimpses id d, ok g.action := by
  induction j generalizing d with
  | done a => exact fun _ h => nomatch h
  | crashed => exact fun _ h => nomatch h
  | act a next ih =>
    by_cases ready : d.isReady a = true
    · rw [glimpses_act _ _ _ ready]
      exact List.forall_mem_cons.2 ⟨only.1, ih _ (only.2 _) _⟩
    · simp [Job.glimpses, ready]

/-- What is observed of a job is seen of its run on a deployment. -/
theorem run_of_observes {j : Job α} {d : Deployment} {Q : Sight α}
    (h : j.Observes p id (d.slice id) Q) (within : d.faults.Within p) :
    ∃ reply v d', j.run d = (reply.elim .crashed .done, d') ∧
      d.Moves id v (Glimpse.calls (j.glimpses id d)) d' ∧ Q reply v (j.glimpses id d) := by
  induction j generalizing d Q with
  | done a => exact ⟨some a, _, d, rfl, .refl d id, h⟩
  | crashed => exact ⟨none, _, d, rfl, .refl d id, h⟩
  | act a next ih =>
    obtain ⟨concerns, observed⟩ := h
    obtain ⟨answered, moved⟩ := d.perform_slice concerns
    have ready := d.isReady_of_concerns concerns
    have later := observed _ (admits_faultOf within a)
    rw [← answered, ← moved.own] at later
    obtain ⟨reply, v, d', ran, moved', seen⟩ := ih _ later (moved.within p within)
    rw [glimpses_act a next d ready]
    refine ⟨reply, v, d', by rw [run_act a next d ready, ran], ?_, seen⟩
    rw [Glimpse.calls_cons]
    exact moved.trans moved'

end Job

end Southbound
