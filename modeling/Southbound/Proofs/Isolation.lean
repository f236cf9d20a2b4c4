import Southbound.Proofs.Aspect
import Southbound.Proofs.Footprint
import Southbound.Proofs.Pass

/-!
# Devices do not affect one another

A job about one device does the same wherever things look alike to the device
(`Job.alike_run`), and a job about another device does nothing that the device could see
(`Job.alike_run_other`).  A pass works on all devices, and does to each what a pass over the entries
of that device alone does (`Job.alike_passOver`): a breakdown at one entry is contained, and what
the pass does at its end depends for each device on whether that device was named.

So a run looks to a device like the run that is left when the entries of other devices and all
operations on them are deleted (`Deployment.slice_after_about`).
-/

namespace Southbound

open Connection Deployment Discovery Job Reconciliation

/-! ## Jobs about one device -/

namespace Job

variable {α : Type} {s : Settings} {id id' : Identity} {d d' : Deployment}

/-- A job about the device does the same in both deployments. -/
theorem alike_run {j : Job α} (only : j.Only (Action.Concerns id)) (h : d.Alike s id d') :
    (j.run d).1 = (j.run d').1 ∧ (j.run d).2.Alike s id (j.run d').2 := by
  induction j generalizing d d' with
  | done a => exact ⟨rfl, h⟩
  | crashed => exact ⟨rfl, h⟩
  | act a next ih =>
    have ready : ∀ d : Deployment, d.isReady a = true := fun d => d.isReady_of_concerns only.1
    have both : ((d.perform a).1, (d.perform a).2.aspect s id) =
        ((d'.perform a).1, (d'.perform a).2.aspect s id) := by
      rw [aspect_perform d s only.1, aspect_perform d' s only.1, h.same]
    rw [run_act a next d (ready d), run_act a next d' (ready d'), (Prod.mk.inj both).1]
    exact ih _ (only.2 _) ⟨(Prod.mk.inj both).2, steady_perform only.1 h.steady⟩

/-- A job about another device does nothing that the device could see. -/
theorem alike_run_other {j : Job α} (only : j.Only (Action.Concerns id')) (ne : id' ≠ id)
    (h : d.Alike s id d') : (j.run d).2.Alike s id d' := by
  refine only.run (P := fun d => d.Alike s id d') (fun d a concerns h => ?_) h
  exact ⟨(aspect_perform_other d s concerns ne).trans h.same, steady_perform concerns h.steady⟩

end Job

/-! ## Reading the configuration -/

/-- The desired devices if asking for them goes on as it did: they can be read, or cannot be, or
asking breaks down. -/
def Deployment.reading (d : Deployment) (appId : String) :
    Progress (Option (List DesiredDevice)) :=
  if (d.faults .desiredDevices).rest = some .crash then .crashed
  else .done (d.config.desiredDevices appId).toOption

/-- Reads the desired devices and goes on if they can be read. -/
def Reconciliation.withDevices (s : Settings) (f : List DesiredDevice → Job Unit) : Job Unit := do
  match ← readDevices s.appId with
  | none => return
  | some devices => f devices

namespace Job

variable (s : Settings) (id : Identity) {d : Deployment}

theorem run_bind_crash {β : Type} {a : Action} {f : a.Answer → Job β} {d d' : Deployment}
    (ready : d.isReady a = true) (performed : d.perform a = (none, d')) :
    (Job.bind (ofAction a) f).run d = (.crashed, d') := by
  simp [ofAction, run, ready, performed]

theorem run_readDevices_steady (steady : d.faults.Steady) :
    ∃ d₁, (readDevices s.appId).run d = (d.reading s.appId, d₁) ∧ d.Alike s id d₁ := by
  let d₁ := d.meet (.desiredDevices s.appId) .desiredDevices
  have kept : d₁.faults = d.faults := by
    funext point
    show d.faults.plan .desiredDevices (d.faults .desiredDevices).next.2 point = _
    rw [steady.next]
    unfold Faults.plan
    split <;> simp_all
  have asked : d.Alike s id d₁ := by
    refine ⟨?_, steady⟩
    have calls : d₁.callsAbout id = d.callsAbout id := by
      have seen : d₁.calls = d.calls ++ [.desiredDevices s.appId] :=
        (moves_meet d id (.desiredDevices s.appId) .desiredDevices).calls
      simp [callsAbout, seen, Call.identity?]
    simp only [aspect, kept, calls]
    rfl
  have drawn : (d.faults .desiredDevices).next.1 = (d.faults .desiredDevices).rest :=
    congrArg Prod.fst steady.next
  by_cases crashes : (d.faults .desiredDevices).rest = some .crash
  · have performed : d.perform (.requestDevices s.appId) = (none, d₁) := by
      rw [requestDevices_eq, drawn, crashes]
    have broken : (Job.desiredDevices s.appId).run d = (.crashed, d₁) :=
      run_bind_crash rfl performed
    refine ⟨d₁, ?_, asked⟩
    unfold readDevices reading
    rw [bind_eq, run_bind, broken, if_pos crashes]
  · have performed : d.perform (.requestDevices s.appId) = (some none, d₁) := by
      rw [requestDevices_eq, drawn]
      rcases h : (d.faults .desiredDevices).rest with _ | _ | _ | _ | _
      · rfl
      · rfl
      · exact absurd h crashes
      · rfl
      · exact absurd h steady.2
    have read : (Job.desiredDevices s.appId).run d =
        (.done (d.config.desiredDevices s.appId), d₁) := run_bind_ofAction rfl performed
    unfold readDevices reading
    rw [bind_eq, run_bind, read, if_neg crashes]
    cases d.config.desiredDevices s.appId with
    | ok devices => exact ⟨d₁, rfl, asked⟩
    | error e => exact ⟨d₁.say (.configUnreadable e), rfl, asked.trans (.say asked.symm.steady _)⟩

variable {s : Settings} {id : Identity} {d d' : Deployment} {f : List DesiredDevice → Job Unit}

theorem run_withDevices (s : Settings) (id : Identity) (f : List DesiredDevice → Job Unit)
    (steady : d.faults.Steady) :
    ∃ d₁, d.Alike s id d₁ ∧ ((withDevices s f).run d).2 =
      match d.reading s.appId with
      | .done (some entries) => ((f entries).run d₁).2
      | _ => d₁ := by
  obtain ⟨d₁, read, alike⟩ := run_readDevices_steady s id steady
  refine ⟨d₁, alike, ?_⟩
  unfold withDevices
  rw [bind_eq, run_bind, read]
  rcases d.reading s.appId with (_ | entries) | _ | rest <;> rfl

theorem alike_withDevices
    (hf : ∀ entries entries' d d', entries.filter (names s.scheme id) =
      entries'.filter (names s.scheme id) → d.Alike s id d' →
        ((f entries).run d).2.Alike s id ((f entries').run d').2)
    (h : d.Alike s id d') :
    ((withDevices s f).run d).2.Alike s id ((withDevices s f).run d').2 := by
  obtain ⟨d₁, h₁, ran⟩ := run_withDevices s id f h.steady
  obtain ⟨d₁', h₁', ran'⟩ := run_withDevices s id f h.symm.steady
  have alike := (h₁.symm.trans h).trans h₁'
  have points : d.faults .desiredDevices = d'.faults .desiredDevices :=
    congrFun h.faults .desiredDevices
  have devices := h.devices
  rw [ran, ran']
  unfold Deployment.reading
  rw [← points]
  by_cases crashes : (d.faults .desiredDevices).rest = some .crash
  · simpa only [if_pos crashes] using alike
  · simp only [if_neg crashes]
    cases hd : (d.config.desiredDevices s.appId).toOption with
    | none =>
      have unread : (d'.config.desiredDevices s.appId).toOption = none := by
        simpa [hd] using devices.symm
      rw [unread]
      exact alike
    | some entries =>
      rw [hd, Option.map_some] at devices
      obtain ⟨entries', hd', same⟩ := Option.map_eq_some_iff.1 devices.symm
      rw [hd']
      exact hf _ _ _ _ same.symm alike

theorem alike_withDevices_other
    (hf : ∀ entries d, d.Alike s id d' → ((f entries).run d).2.Alike s id d')
    (h : d.Alike s id d') : ((withDevices s f).run d).2.Alike s id d' := by
  obtain ⟨d₁, h₁, ran⟩ := run_withDevices s id f h.steady
  have alike := h₁.symm.trans h
  rw [ran]
  rcases d.reading s.appId with (_ | entries) | _ | rest
  · exact alike
  · exact hf entries d₁ alike
  · exact alike
  · exact alike

end Job

/-! ## Passes -/

namespace Reconciliation

/-- What a pass does once the desired devices are known. -/
def passOver (s : Settings) (devices : List DesiredDevice) : Job Unit := do
  log (.passStarted devices.length)
  let desired ← reconcileEach s.scheme devices
  markDesired desired
  sayDropped (← prune)

/-- What a pass for one device does once the desired devices are known. -/
def passOverOne (s : Settings) (id : Identity) (devices : List DesiredDevice) : Job Unit :=
  match devices.find? (names s.scheme id) with
  | some device => reconcileDevice id device
  | none => log (.notConfigured id)

theorem only_reconcileSafely (id : Identity) (device : DesiredDevice) :
    (reconcileSafely id device).Only (Action.Concerns id) := by
  have handled := (only_reconcileDevice id device).mono fun _ h => h.1
  refine handled.contained.bind fun outcome => ?_
  exact Only.ite (fun _ => by simp [Action.Concerns]) fun _ => trivial

/-- Whatever goes wrong with one device, the pass goes on. -/
theorem run_reconcileSafely (id : Identity) (device : DesiredDevice) (d : Deployment) :
    ∃ d', (reconcileSafely id device).run d = (.done (), d') := by
  have handled := (only_reconcileDevice id device).mono fun _ h => h.1
  obtain ⟨reply, d₁, ran⟩ := handled.ends d
  simp only [reconcileSafely, bind_eq, run_bind, run_contained, ran]
  cases reply with
  | some _ => exact ⟨d₁, rfl⟩
  | none => exact ⟨d₁.say (.deviceFailed id), rfl⟩

theorem contains_named_filter (scheme : String) (devices : List DesiredDevice) (id : Identity) :
    (named scheme (devices.filter (names scheme id))).contains id =
      (named scheme devices).contains id := by
  rw [Bool.eq_iff_iff, contains_named_iff, contains_named_iff]
  simp [wanted]

end Reconciliation

namespace Job

variable {s : Settings} {id : Identity} {d d' : Deployment}

/-- The entries take their turns.  The device sees those that name it and no others. -/
theorem alike_reconcileEach (devices : List DesiredDevice) (h : d.Alike s id d') :
    ∃ d₁ d₁', (reconcileEach s.scheme devices).run d = (.done (named s.scheme devices), d₁) ∧
      (reconcileEach s.scheme (devices.filter (names s.scheme id))).run d' =
        (.done (named s.scheme (devices.filter (names s.scheme id))), d₁') ∧
      d₁.Alike s id d₁' := by
  induction devices generalizing d d' with
  | nil => exact ⟨d, d', rfl, rfl, h⟩
  | cons device rest ih =>
    cases hi : identify s.scheme device with
    | error e =>
      have unnamed : names s.scheme id device = false := by simp [names, hi]
      have skipped : d.Alike s id (d.say (.entrySkipped e)) := .say h.steady _
      obtain ⟨d₁, d₁', ran, ran', alike⟩ := ih (skipped.symm.trans h)
      refine ⟨d₁, d₁', ?_, ?_, alike⟩
      · exact run_reconcileEach_of_error hi ran
      · rwa [List.filter_cons_of_neg (by simp [unnamed])]
    | ok id' =>
      obtain ⟨d₁, handled⟩ := run_reconcileSafely id' device d
      have only := only_reconcileSafely id' device
      by_cases own : id' = id
      · subst own
        obtain ⟨d₁', handled'⟩ := run_reconcileSafely id' device d'
        have alike := (alike_run only h).2
        rw [handled, handled'] at alike
        obtain ⟨d₂, d₂', ran, ran', alike⟩ := ih alike
        rw [List.filter_cons_of_pos (names_iff.2 hi)]
        exact ⟨d₂, d₂', run_reconcileEach_of_ok hi handled ran,
          run_reconcileEach_of_ok hi handled' ran', alike⟩
      · have unnamed : names s.scheme id device = false := by simp [names, hi, own]
        have alike := alike_run_other only own h
        rw [handled] at alike
        obtain ⟨d₂, d₂', ran, ran', alike⟩ := ih alike
        refine ⟨d₂, d₂', run_reconcileEach_of_ok hi handled ran, ?_, alike⟩
        rwa [List.filter_cons_of_neg (by simp [unnamed])]

/-- The device sees of the end of a pass whether it was named. -/
theorem alike_settle {desired desired' : List Identity}
    (same : desired.contains id = desired'.contains id) (h : d.Alike s id d') :
    Deployment.Alike s id { d with records := (d.records.markDesired desired).prune }
      { d' with records := (d'.records.markDesired desired').prune } := by
  have settled : ∀ (d : Deployment) (desired : List Identity),
      Deployment.aspect { d with records := (d.records.markDesired desired).prune } s id =
        { d.aspect s id with slice := (d.slice id).marked (desired.contains id) } := by
    intro d desired
    simp [aspect, Deployment.slice, Slice.marked, Records.markDesired, Records.prune,
      SortedMap.get?_filter, SortedMap.get?_map]
    rfl
  refine ⟨?_, h.steady⟩
  rw [settled, settled, h.same, h.slice, same]

theorem alike_passOver (devices : List DesiredDevice) (h : d.Alike s id d') :
    ((passOver s devices).run d).2.Alike s id
      ((passOver s (devices.filter (names s.scheme id))).run d').2 := by
  have started : ∀ {d : Deployment} (n : Nat), d.faults.Steady →
      d.Alike s id (d.say (.passStarted n)) := fun n steady => .say steady _
  have h₀ := ((started devices.length h.steady).symm.trans h).trans
    (started (devices.filter (names s.scheme id)).length h.symm.steady)
  obtain ⟨d₁, d₁', ran, ran', h₁⟩ := alike_reconcileEach devices h₀
  have h₂ := alike_settle (contains_named_filter s.scheme devices id).symm h₁
  have ends : ∀ {d d₁ : Deployment} {devices : List DesiredDevice},
      (reconcileEach s.scheme devices).run (d.say (.passStarted devices.length)) =
        (.done (named s.scheme devices), d₁) →
      ((passOver s devices).run d).2 = Deployment.sayAll
        { d₁ with records := (d₁.records.markDesired (named s.scheme devices)).prune }
        ((d₁.records.markDesired (named s.scheme devices)).prunable.map .recordDropped) := by
    intro d d₁ devices ran
    have start : (passOver s devices).run d = (Job.bind (reconcileEach s.scheme devices)
        fun desired => Job.bind (markDesired desired) fun _ => Job.bind prune sayDropped).run
          (d.say (.passStarted devices.length)) := rfl
    rw [start, run_bind, ran]
    exact congrArg Prod.snd (run_markDesired _ _)
  rw [ends ran, ends ran']
  exact ((Alike.sayAll h₂.steady _).symm.trans h₂).trans (.sayAll h₂.symm.steady _)

/-- A pass does to the device what a pass over the entries of the device does. -/
theorem alike_reconcileAll (h : d.Alike s id d') :
    ((reconcileAll s).run d).2.Alike s id ((reconcileAll s).run d').2 := by
  refine alike_withDevices (f := passOver s) (fun entries entries' d d' same h => ?_) h
  have first := alike_passOver entries h
  have unchanged : d'.Alike s id d' := .refl h.symm.steady
  have second := alike_passOver entries' unchanged
  rw [← same] at second
  exact first.trans second.symm

/-- A pass for the device depends on the entries that name it. -/
theorem alike_reconcileOne (h : d.Alike s id d') :
    ((reconcileOne s id).run d).2.Alike s id ((reconcileOne s id).run d').2 := by
  have first : ∀ entries : List DesiredDevice, entries.find? (names s.scheme id) =
      (entries.filter (names s.scheme id)).find? (names s.scheme id) := by
    intro entries
    simp [List.find?_filter]
  refine alike_withDevices (f := passOverOne s id) (fun entries entries' d d' same h => ?_) h
  unfold passOverOne
  rw [first entries, first entries', same]
  cases (entries'.filter (names s.scheme id)).find? (names s.scheme id) with
  | none => exact (alike_run (by simp [Action.Concerns]) h).2
  | some device => exact (alike_run ((only_reconcileDevice id device).mono fun _ h => h.1) h).2

/-- A pass for another device does nothing that the device could see. -/
theorem alike_reconcileOne_other {id' : Identity} (ne : id' ≠ id) (h : d.Alike s id d') :
    ((reconcileOne s id').run d).2.Alike s id d' := by
  refine alike_withDevices_other (f := passOverOne s id') (fun entries d h => ?_) h
  have only : (passOverOne s id' entries).Only (Action.Concerns id') := by
    unfold passOverOne
    cases entries.find? (names s.scheme id') with
    | none => simp [Action.Concerns]
    | some device => exact (only_reconcileDevice id' device).mono fun _ h => h.1
  exact alike_run_other only ne h

end Job

/-! ## Operations -/

/-- The device that an order is about; a pass is about all. -/
def Order.identity? : Order → Option Identity
  | firstPass | pass => none
  | probe id | sessionLost id | role id _ => some id
  | storeChanged e => some e.identity

/-- The device that an operation is about, unless it is about all. -/
def Operation.identity? : Operation → Option Identity
  | order o => o.identity?
  | deviceRemoved id | tearDown id | discoverPorts id => some id
  | tearDownAll => none

/-- How a role is answered, once it is known whether role changes are accepted. -/
def Connection.answerRole (id : Identity) (role : Role) (active : Bool) :
    Job (Except RoleError Unit) :=
  if active then
    match role with
    | .master => connect id
    | .standby | .unassigned => do
      release id role
      return .ok ()
  else do
    log (.roleIgnored role id)
    return .ok ()

namespace Job

variable {s : Settings} {id id' : Identity} {d d' : Deployment}

theorem run_changeRole (id : Identity) (role : Role) (d : Deployment) :
    (changeRole id role).run d = (answerRole id role d.active).run d := by
  cases role <;> rfl

theorem only_answerRole (id : Identity) (role : Role) (active : Bool) :
    (answerRole id role active).Only (Action.Concerns id) := by
  have released : (Job.bind (release id role) fun _ => done (.ok () : Except RoleError Unit)).Only
      (Action.Concerns id) :=
    ((only_release id role).mono fun _ h => h.1).bind fun _ => trivial
  refine Only.ite (fun _ => ?_) fun _ => by simp [Action.Concerns]
  cases role with
  | master => exact (only_connect id).mono fun _ h => h.1
  | standby | unassigned => exact released

theorem run_silently (j : Job Unit) (d : Deployment) :
    ((Order.silently j).run d).2 = (j.run d).2 := by
  unfold Order.silently
  rw [bind_eq, run_bind]
  rcases j.run d with ⟨_ | _ | _, _⟩ <;> rfl

/-- An operation on the device does the same in both deployments. -/
theorem alike_operation {o : Operation} (own : o.identity? = some id) (h : d.Alike s id d') :
    ((o.job s).run d).2.Alike s id ((o.job s).run d').2 := by
  have handled : ∀ {j : Job Unit}, j.Only (Action.Unopening id) →
      ((Order.silently j).run d).2.Alike s id ((Order.silently j).run d').2 := by
    intro j only
    rw [run_silently, run_silently]
    exact (alike_run (only.mono fun _ h => h.1) h).2
  cases o with
  | order o =>
    cases o with
    | firstPass | pass => cases own
    | probe id' =>
      cases own
      simp only [Operation.job, Order.job, run_silently]
      exact alike_reconcileOne h
    | sessionLost id' => cases own; exact handled (only_sessionLost id)
    | storeChanged e => cases own; exact handled (only_reactToStore s e)
    | role id' role =>
      cases own
      simp only [Operation.job, Order.job, run_changeRole, h.active]
      exact (alike_run (only_answerRole id role d'.active) h).2
  | deviceRemoved id' => cases own; exact handled (only_deviceRemoved id)
  | tearDown id' => cases own; exact handled (only_tearDown id)
  | discoverPorts id' => cases own; exact handled (only_discoverPorts id)
  | tearDownAll => cases own

/-- An operation on another device does nothing that the device could see. -/
theorem alike_operation_other {o : Operation} (other : o.identity? = some id') (ne : id' ≠ id)
    (h : d.Alike s id d') : ((o.job s).run d).2.Alike s id d' := by
  have handled : ∀ {j : Job Unit}, j.Only (Action.Unopening id') →
      ((Order.silently j).run d).2.Alike s id d' := by
    intro j only
    rw [run_silently]
    exact alike_run_other (only.mono fun _ h => h.1) ne h
  cases o with
  | order o =>
    cases o with
    | firstPass | pass => cases other
    | probe id'' =>
      cases other
      simp only [Operation.job, Order.job, run_silently]
      exact alike_reconcileOne_other ne h
    | sessionLost id'' => cases other; exact handled (only_sessionLost id')
    | storeChanged e => cases other; exact handled (only_reactToStore s e)
    | role id'' role =>
      cases other
      simp only [Operation.job, Order.job, run_changeRole]
      exact alike_run_other (only_answerRole id' role d.active) ne h
  | deviceRemoved id'' => cases other; exact handled (only_deviceRemoved id')
  | tearDown id'' => cases other; exact handled (only_tearDown id')
  | discoverPorts id'' => cases other; exact handled (only_discoverPorts id')
  | tearDownAll => cases other

end Job

/-! ## Runs -/

namespace Change

/-- What a change makes of the slice of a device, on this node. -/
def effect (c : Change) (node : NodeId) (id : Identity) (v : Slice) : Slice :=
  match c with
  | activate _ | configure _ | plan _ => v
  | reach devices => { v with answers := devices.contains id }
  | equip id' driver => if id = id' then { v with driver := driver } else v
  | claim id' => if id = id' then { v with master? := some node, isMaster := true } else v
  | yield id' => if id = id' then { v with master? := none, isMaster := false } else v
  | lose id' other =>
    if id = id' then { v with master? := some other, isMaster := some other == some node } else v
  | remove id' => if id = id' then { v with stored? := none } else v

theorem slice_apply (c : Change) (d : Deployment) (id : Identity) :
    (c.apply d).slice id = c.effect d.mastership.node id (d.slice id) := by
  cases c with
  | activate | configure | plan | reach => rfl
  | equip id' driver =>
    by_cases own : id = id' <;>
      simp [apply, effect, Deployment.slice, SortedMap.get?_insert, own]
  | claim id' =>
    by_cases own : id = id' <;>
      simp [apply, effect, Deployment.slice, Mastership.claim, Mastership.masterOf,
        Mastership.isLocalMaster, SortedMap.get?_insert, SortedMap.get?_erase, own]
  | yield id' =>
    by_cases own : id = id' <;>
      simp [apply, effect, Deployment.slice, Mastership.release, Mastership.masterOf,
        Mastership.isLocalMaster, SortedMap.get?_erase, own]
  | lose id' other =>
    by_cases own : id = id' <;>
      simp [apply, effect, Deployment.slice, Mastership.lose, Mastership.masterOf,
        Mastership.isLocalMaster, SortedMap.get?_insert, own]
  | remove id' =>
    by_cases own : id = id' <;> cases known : d.store.get? id' <;>
      simp [apply, effect, Deployment.slice, Deployment.removeDevice, Deployment.note,
        DeviceStore.remove, known, SortedMap.get?_erase, own]

end Change

namespace Step

/-- The step as far as it concerns one device: operations on other devices are left out, and so are
the entries of other devices from a new configuration. -/
def about (s : Settings) (id : Identity) : Step → Option Step
  | operation o => if o.identity?.all (· == id) then some (.operation o) else none
  | change (.configure c) => some (.change (.configure (c.about s id)))
  | change c => some (.change c)

/-- Steps in which devices are looked after one by one.  To end the management of all of them is
given up where it breaks down, so it is no such step. -/
def Separate : Step → Prop
  | operation .tearDownAll => False
  | change (.plan f) => f.Steady
  | _ => True

end Step

namespace Deployment

variable {s : Settings} {id : Identity} {d d' : Deployment}

/-- The configuration of the second deployment may leave out what does not concern the device. -/
theorem Alike.about (h : d.Alike s id d') : d.Alike s id (d'.about s id) :=
  h.trans (alike_about h.symm.steady)

theorem callsAbout_apply (c : Change) (d : Deployment) (id : Identity) :
    (c.apply d).callsAbout id = d.callsAbout id := by
  rw [callsAbout, calls_change, callsAbout]

/-- What changes around the provider changes alike. -/
theorem alike_change {c : Change} (separate : Step.Separate (.change c)) (h : d.Alike s id d') :
    (c.apply d).Alike s id (c.apply d') := by
  have slice : (c.apply d).slice id = (c.apply d').slice id := by
    rw [Change.slice_apply, Change.slice_apply, h.slice, h.node]
  have calls : (c.apply d).callsAbout id = (c.apply d').callsAbout id := by
    rw [callsAbout_apply, callsAbout_apply, h.callsAbout]
  cases c with
  | activate active => exact .of_parts slice h.node rfl h.config h.faults calls h.steady
  | configure c => exact .of_parts slice h.node h.active rfl h.faults calls h.steady
  | plan f => exact .of_parts slice h.node h.active h.config rfl calls separate
  | reach | equip | claim | yield | lose | remove =>
    exact .of_parts slice h.node h.active h.config h.faults calls h.steady

/-- A step looks to the device like what the step is about it. -/
theorem alike_step {step : Step} (separate : step.Separate) (h : d.Alike s id d') :
    (step.apply s d).Alike s id ((step.about s id).elim d' (·.apply s d')) := by
  cases step with
  | operation o =>
    simp only [Step.about]
    cases about : o.identity? with
    | none =>
      cases o with
      | order o =>
        cases o with
        | firstPass | pass =>
          have passed := alike_reconcileAll h
          rw [← run_silently, ← run_silently] at passed
          exact passed
        | probe | sessionLost | storeChanged | role => cases about
      | tearDownAll => exact separate.elim
      | deviceRemoved | tearDown | discoverPorts => cases about
    | some id' =>
      by_cases own : id' = id
      · subst own
        simpa [Step.apply] using alike_operation about h
      · simpa [Step.apply, own] using alike_operation_other about own h
  | change c =>
    have changed := alike_change separate h
    cases c with
    | configure c => exact changed.about
    | activate | reach | equip | claim | yield | lose | remove | plan => exact changed

/-- A run looks to the device like the run that is about it alone. -/
theorem alike_after {steps : List Step} (separate : ∀ step ∈ steps, step.Separate)
    (h : d.Alike s id d') :
    (d.after s steps).Alike s id (d'.after s (steps.filterMap (Step.about s id))) := by
  induction steps generalizing d d' with
  | nil => exact h
  | cons step rest ih =>
    have stepped := alike_step (separate step (.head _)) h
    have later := ih (fun step mem => separate step (.tail _ mem)) stepped
    rw [List.filterMap_cons]
    cases about : step.about s id with
    | none =>
      rw [about] at later
      exact later
    | some step' =>
      rw [about] at later
      exact later

/-- Devices do not affect one another: what is held about a device after a run, and the calls that
name it, are what they are after the run without the entries of other devices and without all
operations on them, whatever goes wrong with the other devices. -/
theorem slice_after_about (s : Settings) (id : Identity) {d : Deployment} {steps : List Step}
    (steady : d.faults.Steady) (separate : ∀ step ∈ steps, step.Separate) :
    let alone := (d.about s id).after s (steps.filterMap (Step.about s id))
    (d.after s steps).slice id = alone.slice id ∧
      (d.after s steps).callsAbout id = alone.callsAbout id := by
  intro alone
  have alike : (d.after s steps).Alike s id alone := alike_after separate (alike_about steady)
  exact ⟨alike.slice, alike.callsAbout⟩

/-! ### A troublesome neighbour -/

end Deployment

/-- A second device. -/
def Identity.neighbour : Identity := { Identity.sample with address := .v4 #v[10, 0, 0, 2] }

/-- A second device is configured, listed first, whose key cannot be stored without a breakdown. -/
def Deployment.neighbourhood : Deployment :=
  { Deployment.sample with
    config := .listed [⟨"10.0.0.2", 830, "admin", "secret", none⟩,
      ⟨"10.0.0.1", 830, "admin", "secret", none⟩]
    faults := Faults.none.plan (.storeKey .neighbour) ⟨[], some .crash⟩ }

/-- Both devices are promoted after a pass, and the second one is looked after again. -/
def Step.mixed : List Step :=
  [.operation (.order .pass), .operation (.order (.role .neighbour .master)),
    .operation (.order (.role .sample .master)), .operation (.order (.probe .neighbour))]

namespace Deployment

/-- The breakdown at its neighbour does not keep a device from being connected. -/
theorem slice_after_about_neighbour :
    (.logged (.deviceFailed .neighbour) ∈ (neighbourhood.after .default Step.mixed).history ∧
      ((neighbourhood.after .default Step.mixed).slice .sample).isOpen = true) ∧
    (neighbourhood.after .default Step.mixed).slice .sample =
      ((neighbourhood.about .default .sample).after .default
        (Step.mixed.filterMap (Step.about .default .sample))).slice .sample ∧
    (neighbourhood.after .default Step.mixed).callsAbout .sample =
      ((neighbourhood.about .default .sample).after .default
        (Step.mixed.filterMap (Step.about .default .sample))).callsAbout .sample := by
  have steady : neighbourhood.faults.Steady := by
    constructor <;> decide
  have separate : ∀ step ∈ Step.mixed, step.Separate := by
    simp [Step.mixed, Step.Separate]
  exact ⟨by decide +kernel, slice_after_about .default .sample steady separate⟩

end Deployment

end Southbound
