import Southbound.Order
import Southbound.Proofs.Ensures

/-!
# Runs of whole operations

A run alternates between operations of the provider, each carried out to its end, and changes of
what is around it.  `Deployment.Reaches` collects the deployments that such runs lead to.

Most of what holds throughout a run is a statement about every device alone.  `Invariant p calm I`
says that each thing the provider does to a device keeps the statement `I` about its slice, whatever
goes wrong within the hazards `p`; a lost session may be reported only where `calm` holds.  From
that `Invariant.operation` derives, once for all statements, that whole operations keep `I` for all
devices, and `Invariant.reaches` that runs do.
-/

namespace Southbound

open Job

/-! ## Operations and changes -/

/-- What the provider can be told to do as a whole. -/
inductive Operation
  | order (o : Order)
  | deviceRemoved (id : Identity)
  | tearDown (id : Identity)
  | tearDownAll
  | discoverPorts (id : Identity)

/-- How an operation is carried out. -/
def Operation.job (s : Settings) : Operation → Job (Except RoleError Unit)
  | order o => o.job s
  | deviceRemoved id => Order.silently (Connection.deviceRemoved id)
  | tearDown id => Order.silently (Connection.tearDown id)
  | tearDownAll => Order.silently Connection.tearDownAll
  | discoverPorts id => Order.silently (Discovery.discoverPorts id)

/-- What can change around the provider between two operations. -/
inductive Change
  /-- Role changes are accepted, or no longer. -/
  | activate (active : Bool)
  | configure (c : ConfigSource)
  /-- Other devices answer probes. -/
  | reach (devices : SortedSet Identity)
  | equip (id : Identity) (driver : Driver)
  /-- This node claims the device. -/
  | claim (id : Identity)
  /-- Nobody masters the device. -/
  | yield (id : Identity)
  /-- Another node masters the device. -/
  | lose (id : Identity) (other : NodeId)
  /-- The device is removed from the store. -/
  | remove (id : Identity)
  /-- Other things go wrong. -/
  | plan (f : Faults)

/-- The deployment after the change. -/
def Change.apply (d : Deployment) : Change → Deployment
  | activate active => { d with active := active }
  | configure c => { d with config := c }
  | reach devices => { d with reachable := devices }
  | equip id driver => { d with drivers := d.drivers.insert id driver }
  | claim id => { d with mastership := d.mastership.claim id }
  | yield id => { d with mastership := d.mastership.release id }
  | lose id other => { d with mastership := d.mastership.lose id other }
  | remove id => d.removeDevice id
  | plan f => { d with faults := f }

/-- A step of a run. -/
inductive Step
  | operation (o : Operation)
  | change (c : Change)

/-- The deployment after the step. -/
def Step.apply (s : Settings) (d : Deployment) : Step → Deployment
  | operation o => ((o.job s).run d).2
  | change c => c.apply d

namespace Deployment

/-- A run of steps, each of which is admitted where it is taken, leads to the deployment. -/
inductive Reaches (s : Settings) (admits : Deployment → Step → Prop) (start : Deployment) :
    Deployment → Prop
  | refl : Reaches s admits start start
  | step {d : Deployment} (before : Reaches s admits start d) (step : Step)
      (admitted : admits d step) : Reaches s admits start (step.apply s d)

/-- The deployment after some steps. -/
def after (s : Settings) (d : Deployment) (steps : List Step) : Deployment :=
  steps.foldl (fun d step => step.apply s d) d

/-- Each of the steps is admitted where it is taken. -/
def AdmitsAll (s : Settings) (admits : Deployment → Step → Prop) (d : Deployment) :
    List Step → Prop
  | [] => True
  | step :: rest => admits d step ∧ AdmitsAll s admits (step.apply s d) rest

theorem Reaches.mono {s : Settings} {admits admits' : Deployment → Step → Prop}
    {start d : Deployment} (reached : start.Reaches s admits d)
    (weaker : ∀ d step, admits d step → admits' d step) : start.Reaches s admits' d := by
  induction reached with
  | refl => exact .refl
  | step _ step admitted ih => exact ih.step step (weaker _ step admitted)

theorem Reaches.after {s : Settings} {admits : Deployment → Step → Prop} {start d : Deployment}
    {steps : List Step} (reached : start.Reaches s admits d)
    (admitted : AdmitsAll s admits d steps) : start.Reaches s admits (d.after s steps) := by
  induction steps generalizing d with
  | nil => exact reached
  | cons step rest ih => exact ih (reached.step step admitted.1) admitted.2

/-- The provider makes no calls between two operations. -/
theorem calls_change (c : Change) (d : Deployment) : (c.apply d).calls = d.calls := by
  cases c with
  | remove id =>
    show ({ d with store := _ }.note _).calls = d.calls
    rw [calls_note]
    simp [calls, Occurrence.call?]
  | _ => rfl

/-- The statement holds for every device, and nothing goes wrong but the hazards. -/
structure Holds (p : Hazards) (I : Slice → Prop) (d : Deployment) : Prop where
  within : d.faults.Within p
  every : ∀ id, I (d.slice id)

end Deployment

/-! ## A device to try things on -/

/-- The identity of the only device of `Deployment.sample`. -/
def Identity.sample : Identity where
  scheme := ⟨"netconf", by decide, by decide⟩
  address := .v4 #v[10, 0, 0, 1]
  port := 830
  port_ne_zero := by decide

/-- A device is configured that answers, that has one port and that this node masters. -/
def Deployment.sample : Deployment :=
  { Deployment.fresh (.ofSmall 1) [⟨"10.0.0.1", 830, "admin", "secret", none⟩] with
    active := true
    drivers := (∅ : SortedMap Identity Driver).insert .sample
      (CapabilitySet.empty.insert (.ports (.answer [⟨1, "uplink", true, 1000⟩])))
    reachable := (∅ : SortedSet Identity).insert .sample ()
    mastership := (Mastership.unclaimed (.ofSmall 1)).claim .sample }

/-- The device is brought into the store and promoted. -/
def Step.promotion : List Step :=
  [.operation (.order .pass), .operation (.order (.role .sample .master))]

/-- The device is promoted, and then no longer answers. -/
def Step.outage : List Step := Step.promotion ++ [.change (.reach ∅), .change (.plan .none)]

/-! ## Jobs that keep a statement about every device -/

namespace Job

variable {α β : Type} {p : Hazards} {I : Slice → Prop}

/-- A run of the job keeps the statement for every device. -/
def Keeps (p : Hazards) (I : Slice → Prop) (j : Job α) : Prop :=
  ∀ d : Deployment, d.Holds p I → (j.run d).2.Holds p I

theorem holds_of_ensures {j : Job α} {id : Identity} {d : Deployment} (h : d.Holds p I)
    (ensured : j.Ensures p id (d.slice id) fun _ v _ => I v) : (j.run d).2.Holds p I := by
  obtain ⟨_, v, _, d', ran, moved, kept⟩ := run_of_ensures ensured h.within
  rw [ran]
  refine ⟨moved.within p h.within, fun id' => ?_⟩
  by_cases same : id' = id
  · rw [same, moved.own]
    exact kept
  · rw [moved.others id' same]
    exact h.every id'

theorem keeps_of_ensures {j : Job α} {id : Identity}
    (ensured : ∀ v, I v → j.Ensures p id v fun _ v' _ => I v') : j.Keeps p I :=
  fun _ h => holds_of_ensures h (ensured _ (h.every id))

theorem keeps_done (a : α) : (done a).Keeps p I := fun _ h => h

theorem Keeps.bind {j : Job α} {f : α → Job β} (hj : j.Keeps p I) (hf : ∀ a, (f a).Keeps p I) :
    (bind j f).Keeps p I := by
  intro d h
  have kept := hj d h
  rw [run_bind]
  generalize j.run d = r at kept ⊢
  obtain ⟨progress, d'⟩ := r
  cases progress with
  | done a => exact hf a d' kept
  | crashed => exact kept
  | waiting rest => exact kept

theorem Keeps.contained {j : Job α} (hj : j.Keeps p I) : j.contained.Keeps p I := by
  intro d h
  have kept := hj d h
  rw [run_contained]
  generalize j.run d = r at kept ⊢
  obtain ⟨progress, d'⟩ := r
  cases progress <;> exact kept

theorem keeps_ofAction {a : Action}
    (ha : ∀ d : Deployment, d.Holds p I → (d.perform a).2.Holds p I) : (ofAction a).Keeps p I := by
  intro d h
  by_cases ready : d.isReady a = true
  · have ran : ((ofAction a).run d).2 = (d.perform a).2 := by
      rw [ofAction, run_act _ _ _ ready]
      cases (d.perform a).1 <;> rfl
    rw [ran]
    exact ha d h
  · simpa [ofAction, run, ready] using h

theorem keeps_log (l : LogLine) : (log l).Keeps p I :=
  keeps_ofAction fun _ h => ⟨h.within, h.every⟩

theorem keeps_sayDropped (ids : List Identity) : (Reconciliation.sayDropped ids).Keeps p I := by
  induction ids with
  | nil => exact keeps_done ()
  | cons id rest ih => exact (keeps_log _).bind fun _ => ih

theorem keeps_requestDevices (appId : String) :
    (ofAction (.requestDevices appId)).Keeps p I := by
  refine keeps_ofAction fun d h => ?_
  have met : (d.meet (.desiredDevices appId) .desiredDevices).Holds p I :=
    ⟨h.within.draw .desiredDevices, h.every⟩
  rw [Deployment.requestDevices_eq]
  rcases (d.faults .desiredDevices).next.1 with _ | _ | _ | _ | _ <;>
    exact ⟨met.within, met.every⟩

theorem keeps_readDevices (appId : String) : (Reconciliation.readDevices appId).Keeps p I := by
  have asked : (Job.desiredDevices appId).Keeps p I :=
    (keeps_requestDevices appId).bind fun _ =>
      keeps_ofAction fun _ h => ⟨h.within, h.every⟩
  refine asked.bind fun answer => ?_
  cases answer with
  | ok devices => exact keeps_done _
  | error e => exact (keeps_log _).bind fun _ => keeps_done _

theorem Ensures.andThen {j : Job α} {f : α → Job β} {id : Identity} {v : Slice}
    (hj : j.Ensures p id v fun _ v' _ => I v')
    (hf : ∀ a v', I v' → (f a).Ensures p id v' fun _ v'' _ => I v'') :
    (Job.bind j f).Ensures p id v fun _ v' _ => I v' := by
  rw [ensures_bind]
  refine hj.mono fun reply v' _ h => ?_
  cases reply with
  | some a => exact hf a v' h
  | none => exact h

end Job

/-! ## Invariants -/

/-- The statement about a slice is kept by what discovery does to a device, and by what a pass does
besides. -/
structure KeptByDiscovery (p : Hazards) (I : Slice → Prop) : Prop where
  desired : ∀ {v}, I v → I (v.change .desired)
  shown : ∀ {v}, I v → I (v.change (.shown v.available))
  /-- Configuration was read, and lists the device or does not. -/
  marked : ∀ {v r} (b : Bool), v.record? = some r → I v →
    I { v with record? := some { r with desired := b } }
  addIfMissing : ∀ id {v}, I v →
    (Reconciliation.addIfMissing id).Ensures p id v fun _ v' _ => I v'
  announceAvailable : ∀ id placeholder {v}, I v →
    (Discovery.announceAvailable id placeholder).Ensures p id v fun _ v' _ => I v'
  discoverPorts : ∀ id {v}, I v → (Discovery.discoverPorts id).Ensures p id v fun _ v' _ => I v'

/-- The statement about a slice is kept by everything that the provider does to one device.  It may
fail where a session is reported lost unless things are calm. -/
structure Invariant (p : Hazards) (calm I : Slice → Prop) : Prop extends KeptByDiscovery p I where
  /-- The record is dropped. -/
  dropped : ∀ {v r}, v.record? = some r → r.isKept = false → I v → I { v with record? := none }
  registerCredentials : ∀ id c {v}, I v →
    (Connection.registerCredentials id c).Ensures p id v fun _ v' _ => I v'
  markUnreachable : ∀ id {v}, I v →
    (Connection.markUnreachable id).Ensures p id v fun _ v' _ => I v'
  connect : ∀ id {v}, I v → (Connection.connect id).Ensures p id v fun _ v' _ => I v'
  release : ∀ id role {v}, I v → (Connection.release id role).Ensures p id v fun _ v' _ => I v'
  sessionLost : ∀ id {v}, calm v → I v →
    (Connection.sessionLost id).Ensures p id v fun _ v' _ => I v'
  deviceRemoved : ∀ id {v}, I v →
    (Connection.deviceRemoved id).Ensures p id v fun _ v' _ => I v'
  tearDown : ∀ id {v}, I v → (Connection.tearDown id).Ensures p id v fun _ v' _ => I v'

namespace Invariant

variable {p : Hazards} {calm I : Slice → Prop} (inv : Invariant p calm I)

include inv

theorem discoverUnlessKnown (id : Identity) {v : Slice} (h : I v) :
    (Reconciliation.discoverUnlessKnown id).Ensures p id v fun _ v' _ => I v' := by
  simp [Reconciliation.discoverUnlessKnown, h, inv.discoverPorts id h]

theorem converge (id : Identity) (placeholder : Description) {v : Slice} (h : I v) :
    (Reconciliation.converge id placeholder).Ensures p id v fun _ v' _ => I v' := by
  have shown := inv.shown h
  simp only [Reconciliation.converge, bind_eq, pure_eq, ensures_bind, ensures_lookUp, ensures_ite,
    ensures_probe, ensures_isAvailable, ensures_changeRecord, ensures_log, h, implies_true,
    true_and]
  refine ⟨by simp, fun _ => ?_⟩
  generalize v.available = available at shown ⊢
  cases v.answers <;> cases available
  case false.false => exact shown
  case false.true => exact (inv.markUnreachable id shown).mono fun _ _ _ kept => kept
  case true.true => exact (inv.discoverUnlessKnown id shown).mono fun _ _ _ kept => kept
  case true.false =>
    simp only [ensures_bind, ensures_isLocalMaster, ensures_ite, ensures_log, shown]
    refine ⟨by simp, fun _ => ?_, by simp⟩
    refine (inv.announceAvailable id placeholder shown).mono fun reply v' _ h' => ?_
    cases reply with
    | none => exact h'
    | some _ => exact inv.discoverUnlessKnown id h'

theorem reconcileDevice (id : Identity) (device : DesiredDevice) {v : Slice} (h : I v) :
    (Reconciliation.reconcileDevice id device).Ensures p id v fun _ v' _ => I v' := by
  simp only [Reconciliation.reconcileDevice, bind_eq]
  have desired : (changeRecord id .desired).Ensures p id v fun _ v' _ => I v' := by
    simpa using inv.desired h
  refine desired.andThen fun _ _ h₁ => ?_
  refine (inv.registerCredentials id device.credentials h₁).andThen fun _ _ h₂ => ?_
  refine (inv.addIfMissing id h₂).andThen fun _ _ h₃ => ?_
  exact inv.converge id _ h₃

theorem reactToStore (s : Settings) (e : StoreEvent) {v : Slice} (h : I v) :
    (Order.reactToStore s e).Ensures p e.identity v fun _ v' _ => I v' := by
  have discovered := inv.discoverPorts e.identity h
  have removed := inv.deviceRemoved e.identity h
  cases change : e.change <;> simp [Order.reactToStore, change, h, discovered, removed]

/-! ### From one device to all -/

theorem keeps_reconcileEach (scheme : String) (devices : List DesiredDevice) :
    (Reconciliation.reconcileEach scheme devices).Keeps p I := by
  induction devices with
  | nil => exact keeps_done []
  | cons device rest ih =>
    unfold Reconciliation.reconcileEach
    cases Reconciliation.identify scheme device with
    | error e => exact (keeps_log _).bind fun _ => ih
    | ok id =>
      have handled : (Reconciliation.reconcileDevice id device).Keeps p I :=
        keeps_of_ensures fun _ h => inv.reconcileDevice id device h
      refine handled.contained.bind fun outcome => ?_
      have collected : (Job.bind (Reconciliation.reconcileEach scheme rest)
          fun ids => done (id :: ids)).Keeps p I := ih.bind fun _ => keeps_done _
      cases outcome with
      | none => exact (keeps_log _).bind fun _ => collected
      | some _ => exact (keeps_done ()).bind fun _ => collected

theorem keeps_markDesired (desired : List Identity) : (markDesired desired).Keeps p I := by
  refine keeps_ofAction fun d h => ⟨h.within, fun id => ?_⟩
  have slice_eq : (d.perform (.markDesired desired)).2.slice id =
      { d.slice id with record? := (d.records.get? id).map fun r =>
        { r with desired := desired.contains id } } := by
    simp [Deployment.perform, Deployment.slice, Records.markDesired, SortedMap.get?_map]
  rw [slice_eq]
  cases hr : d.records.get? id with
  | none => simpa [Deployment.slice, hr] using h.every id
  | some r => exact inv.marked _ hr (h.every id)

theorem keeps_prune : prune.Keeps p I := by
  refine keeps_ofAction fun d h => ⟨h.within, fun id => ?_⟩
  have slice_eq : (d.perform .prune).2.slice id =
      { d.slice id with record? := (d.records.get? id).filter (·.isKept) } := by
    simp [Deployment.perform, Deployment.slice, Records.prune, SortedMap.get?_filter]
  rw [slice_eq]
  cases hr : d.records.get? id with
  | none => simpa [Deployment.slice, hr] using h.every id
  | some r =>
    cases kept : r.isKept with
    | true => simpa [Deployment.slice, hr, Option.filter, kept] using h.every id
    | false => simpa [Option.filter, kept] using inv.dropped hr kept (h.every id)

theorem keeps_reconcileAll (s : Settings) : (Reconciliation.reconcileAll s).Keeps p I := by
  refine (keeps_readDevices s.appId).bind fun devices => ?_
  cases devices with
  | none => exact keeps_done ()
  | some devices =>
    refine (keeps_log _).bind fun _ => ?_
    refine (inv.keeps_reconcileEach s.scheme devices).bind fun desired => ?_
    refine (inv.keeps_markDesired desired).bind fun _ => ?_
    exact inv.keeps_prune.bind fun ids => keeps_sayDropped ids

theorem keeps_reconcileOne (s : Settings) (id : Identity) :
    (Reconciliation.reconcileOne s id).Keeps p I := by
  refine (keeps_readDevices s.appId).bind fun devices => ?_
  cases devices with
  | none => exact keeps_done ()
  | some devices =>
    cases found : devices.find? (Reconciliation.names s.scheme id) with
    | some device =>
      have handled : (Reconciliation.reconcileDevice id device).Keeps p I :=
        keeps_of_ensures fun _ h => inv.reconcileDevice id device h
      simpa only [found] using handled
    | none =>
      have logged : (log (.notConfigured id)).Keeps p I := keeps_log _
      simpa only [found] using logged

theorem keeps_changeRole (id : Identity) (role : Role) :
    (Connection.changeRole id role).Keeps p I := by
  have active : isActive.Keeps p I := keeps_ofAction fun _ h => h
  refine active.bind fun active => ?_
  have released : (Job.bind (Connection.release id role)
      fun _ => done (.ok () : Except RoleError Unit)).Keeps p I :=
    (keeps_of_ensures fun _ h => inv.release id role h).bind fun _ => keeps_done _
  cases active with
  | false => exact (keeps_log _).bind fun _ => keeps_done _
  | true =>
    cases role with
    | master => exact keeps_of_ensures fun _ h => inv.connect id h
    | standby | unassigned => exact released

theorem keeps_tearDownAll : Connection.tearDownAll.Keeps p I := by
  have each : ∀ ids, (Connection.tearDownEach ids).Keeps p I := by
    intro ids
    induction ids with
    | nil => exact keeps_done ()
    | cons id rest ih => exact (keeps_of_ensures fun _ h => inv.tearDown id h).bind fun _ => ih
  exact (keeps_ofAction (a := .registered) fun _ h => h).bind each

/-- A whole operation keeps the statement for every device; a session may be reported lost only
where this is harmless. -/
theorem operation (s : Settings) (o : Operation) {d : Deployment} (h : d.Holds p I)
    (harmless : ∀ id, o = .order (.sessionLost id) → calm (d.slice id)) :
    ((o.job s).run d).2.Holds p I := by
  have silent : ∀ {j : Job Unit}, j.Keeps p I → (Order.silently j).Keeps p I :=
    fun kept => kept.bind fun _ => keeps_done _
  cases o with
  | order o =>
    cases o with
    | firstPass => exact silent (inv.keeps_reconcileAll s) d h
    | pass => exact silent (inv.keeps_reconcileAll s) d h
    | probe id => exact silent (inv.keeps_reconcileOne s id) d h
    | sessionLost id =>
      exact holds_of_ensures h
        ((inv.sessionLost id (harmless id rfl) (h.every id)).andThen fun _ _ kept => kept)
    | storeChanged e => exact silent (keeps_of_ensures fun _ h => inv.reactToStore s e h) d h
    | role id role => exact inv.keeps_changeRole id role d h
  | deviceRemoved id => exact silent (keeps_of_ensures fun _ h => inv.deviceRemoved id h) d h
  | tearDown id => exact silent (keeps_of_ensures fun _ h => inv.tearDown id h) d h
  | tearDownAll => exact silent inv.keeps_tearDownAll d h
  | discoverPorts id => exact silent (keeps_of_ensures fun _ h => inv.discoverPorts id h) d h

end Invariant

/-- What is kept by operations and by the changes that a run admits holds throughout the run. -/
theorem Invariant.reaches {p : Hazards} {calm I : Slice → Prop} (inv : Invariant p calm I)
    {s : Settings} {admits : Deployment → Step → Prop} {start d : Deployment}
    (harmless : ∀ d id, admits d (.operation (.order (.sessionLost id))) → calm (d.slice id))
    (change : ∀ d c, admits d (.change c) → d.Holds p I → (c.apply d).Holds p I)
    (first : start.Holds p I) (reached : start.Reaches s admits d) : d.Holds p I := by
  induction reached with
  | refl => exact first
  | step _ step admitted ih =>
    cases step with
    | operation o => exact inv.operation s o ih fun id same => harmless _ id (same ▸ admitted)
    | change c => exact change _ c admitted ih

end Southbound
