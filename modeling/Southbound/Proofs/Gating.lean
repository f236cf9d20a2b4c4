import Southbound.Proofs.Idempotence
import Southbound.Proofs.LateEvents
import Southbound.Proofs.RoleProtocol

/-!
# Who may ask a device

A node that does not master a device leaves its driver and its ports alone, and a session is opened
on promotion only, to a device that answers.  `Call.Allowed` says what has to hold of a device at
the moment of each call about it.

Discovery checks this once and asks several times.  `j.Heeds id v Q` follows a job and what was
found out on the way: it says that every call about the device is allowed when it is made, and that
the job ends as `Q` asks.  Jobs that do so wherever they are begun are a kind (`Job.Kind.heedful`),
so that passes and reactions to events are taken apart by the rules for kinds.

The main statement, `Deployment.gated_after`, is about runs of operations.
-/

namespace Southbound

open Connection Deployment Discovery Glimpse Job Reconciliation

/-! ## Calls that are allowed -/

namespace Slice

variable {v v' : Slice} {id : Identity}

/-- This node masters the device, and the store shows it available. -/
structure InCharge (v : Slice) : Prop where
  master : v.isMaster = true
  available : v.available = true

/-- Beyond that, the ports of the device are known. -/
structure Surveyed (v : Slice) : Prop extends InCharge v where
  ports : v.record.portsDiscovered = true

theorem write_ports {list : List Port} (h : v.write (.ports id list) = .ok v') :
    v' = v.bring list := by
  cases stored : v.stored? <;> simp_all [write, StoreWrite.entry, Except.map, bring]

theorem write_statistics {list : List PortStatistics}
    (h : v.write (.statistics id list) = .ok v') : v' = v.count list := by
  cases stored : v.stored? <;> simp_all [write, StoreWrite.entry, Except.map, count]

/-- A look that was answered tells what there was to see. -/
theorem of_unlessCrash {α : Type} {fault : Option Fault} {a b : α}
    (h : unlessCrash fault a = some b) : b = a := by
  by_cases crashed : fault = some .crash <;> simp_all [unlessCrash]

end Slice

/-- What has to hold of a device when a call about it is made. -/
def Call.Allowed (v : Slice) : Call → Prop
  | discoverDetails _ => v.isMaster = true
  | discoverPortDetails _ | listPorts _ | discoverStatistics _ | updatePorts _ _ => v.InCharge
  | updateStatistics _ _ => v.Surveyed
  | desiredDevices _ | probe _ | storeKey _ _ | removeKey _ | openSession _ | closeSession _ _
  | deviceConnected _ _ | deviceDisconnected _ | reportRole _ _ _ => True

/-- If a call about the device was made then it was allowed. -/
def Glimpse.Allowed (id : Identity) (g : Glimpse) : Prop :=
  ∀ c, g.action.call? = some c → c.identity? = some id → c.Allowed g.slice

namespace Action

/-- The call may be made in any case. -/
def Free (a : Action) : Prop := ∀ v c, a.call? = some c → c.Allowed v

theorem free_of_uncalled {a : Action} (uncalled : a.call? = none) : a.Free :=
  fun _ _ called => nomatch uncalled.symm.trans called

/-- Wherever the device is as the statement says, the action makes no call that is not allowed, and
leaves the device so. -/
structure Safe (I : Slice → Prop) (id : Identity) (a : Action) : Prop where
  concerns : a.Concerns id
  allowed : ∀ v c, I v → a.call? = some c → c.Allowed v
  kept : ∀ v fault, I v → I (v.perform fault a).2

section safe

variable {I : Slice → Prop} {id : Identity}

/-- No call is made. -/
theorem Safe.of_uncalled {a : Action} (concerns : a.Concerns id) (uncalled : a.call? = none)
    (kept : ∀ v fault, I v → I (v.perform fault a).2) : a.Safe I id :=
  ⟨concerns, fun v c _ => free_of_uncalled uncalled v c, kept⟩

@[simp] theorem safe_log (l : LogLine) : (log l).Safe I id :=
  .of_uncalled trivial rfl fun _ _ h => h

/-- An inquiry leaves everything alone. -/
theorem Safe.inquiry {a : Action} {c : Call} (concerns : a.Concerns id) (called : a.call? = some c)
    (still : ∀ v fault, (Slice.perform v fault a).2 = v) (allowed : ∀ v, I v → c.Allowed v) :
    a.Safe I id where
  concerns := concerns
  allowed v _ h called' := Option.some.inj (called.symm.trans called') ▸ allowed v h
  kept v fault h := (still v fault).symm ▸ h

/-- A write to the store takes effect or none. -/
theorem Safe.write {w : StoreWrite} (own : w.identity = id)
    (allowed : ∀ v, I v → (storeCall w).1.Allowed v)
    (kept : ∀ v v', I v → v.write w = .ok v' → I v') : (writeStore w).Safe I id where
  concerns := own
  allowed v c h called := Option.some.inj called ▸ allowed v h
  kept v fault h := by
    show I (v.attempt fault (v.write w)).2
    cases written : v.write w with
    | ok v' =>
      rcases fault with _ | _ | _ | _ | _ <;> first | exact h | exact kept v v' h written
    | error e => rcases fault with _ | _ | _ | _ | _ <;> exact h

end safe

end Action

/-! ## Jobs that heed what is allowed -/

namespace Job

section heeds

variable {α β : Type} {id : Identity} {v : Slice} {P Q : Option α → Slice → Prop}

/-- Whatever goes wrong, the job concerns one device only, makes no call that is not allowed when it
is made, and ends as asked. -/
def Heeds (id : Identity) (j : Job α) (v : Slice) (Q : Option α → Slice → Prop) : Prop :=
  j.Observes (fun _ _ => True) id v fun reply v' seen => Q reply v' ∧ ∀ g ∈ seen, g.Allowed id

/-- Nothing is asked of the end. -/
abbrev Heedful (id : Identity) (j : Job α) (v : Slice) : Prop := j.Heeds id v fun _ _ => True

theorem Heeds.heedful {j : Job α} (h : j.Heeds id v Q) : j.Heedful id v :=
  Observes.mono h fun _ _ _ ends => ⟨trivial, ends.2⟩

/-- One job, and another that begins where the first one ends. -/
theorem Heeds.bind {j : Job α} {f : α → Job β} (hj : j.Heeds id v P)
    (hf : ∀ a v', P (some a) v' → (f a).Heedful id v') : (Job.bind j f).Heedful id v := by
  rw [Heedful, Heeds, observes_bind]
  refine Observes.mono hj fun reply v' seen ⟨post, allowed⟩ => ?_
  cases reply with
  | none => exact ⟨trivial, allowed⟩
  | some a =>
    exact (hf a v' post).mono fun _ _ later ends =>
      ⟨trivial, List.forall_mem_append.2 ⟨allowed, ends.2⟩⟩

theorem Heeds.ite {c : Prop} [Decidable c] {j k : Job α} (hj : c → j.Heedful id v)
    (hk : ¬c → k.Heedful id v) : (if c then j else k).Heedful id v :=
  (observes_ite c j k).2 ⟨hj, hk⟩

/-- A look leaves the device alone and tells how it is. -/
theorem heeds_look {a : Action} {answer : a.Answer} (concerns : a.Concerns id)
    (uncalled : a.call? = none) (still : ∀ fault, (v.perform fault a).2 = v)
    (answered : ∀ fault b, (v.perform fault a).1 = some b → b = answer) :
    (ofAction a).Heeds id v fun reply v' => v' = v ∧ ∀ b, reply = some b → b = answer := by
  refine (observes_ofAction a).2 ((ensures_ofAction a).2 ⟨concerns, fun fault _ => ?_⟩)
  refine ⟨⟨still fault, answered fault⟩, List.forall_mem_singleton.2 fun c called => ?_⟩
  exact nomatch uncalled.symm.trans called

/-- A job whose actions are safe. -/
theorem heeds_of_safe {I : Slice → Prop} {j : Job α} (safe : j.Only (Action.Safe I id)) (h : I v) :
    j.Heeds id v fun _ v' => I v' := by
  induction j generalizing v with
  | done a => exact ⟨h, fun _ h => nomatch h⟩
  | crashed => exact ⟨h, fun _ h => nomatch h⟩
  | act a next ih =>
    obtain ⟨safe, later⟩ := safe
    refine ⟨safe.concerns, fun fault _ => ?_⟩
    refine (ih _ (later _) (safe.kept v fault h)).mono fun reply v' seen ⟨kept, allowed⟩ => ?_
    exact ⟨kept, List.forall_mem_cons.2 ⟨fun c called _ => safe.allowed v c h called, allowed⟩⟩

theorem heedful_done (a : α) : (done a).Heedful id v := ⟨trivial, fun _ h => nomatch h⟩

theorem heedful_log (l : LogLine) : (log l).Heedful id v :=
  (heeds_of_safe (I := fun _ => True) (by simp) trivial).heedful

end heeds

/-! ### Discovery -/

section discovery

variable {id : Identity} {v : Slice}

/-- Only the master asks what a device is. -/
theorem safe_announceAvailable (placeholder : Description) :
    (announceAvailable id placeholder).Only (Action.Safe (fun v => v.isMaster = true) id) := by
  have asked : ∀ driver, (askDetails id driver).Only
      (Action.Safe (fun v => v.isMaster = true) id) := by
    intro driver
    have details : ∀ reply, (Action.discoverDetails id reply).Safe
        (fun v => v.isMaster = true) id :=
      fun _ => .inquiry rfl rfl (fun _ _ => rfl) fun _ h => h
    unfold askDetails
    cases driver.description <;> simp [forall_except, Option.forall, details]
  have described : (describe id placeholder).Only
      (Action.Safe (fun v => v.isMaster = true) id) := by
    refine Only.bind (only_ofAction (.of_uncalled rfl rfl fun _ _ h => h)) fun device? => ?_
    cases device? with
    | none => trivial
    | some device => exact (asked device.driver).bind fun found? => by cases found? <;> trivial
  have written : ∀ d, (Action.writeStore (.connect id d)).Safe (fun v => v.isMaster = true) id := by
    refine fun d => .write rfl (fun _ _ => trivial) fun v v' h written => ?_
    cases written
    exact h
  have noted : ∀ d, (Action.changeRecord id (.announced d)).Safe (fun v => v.isMaster = true) id :=
    fun _ => .of_uncalled rfl rfl fun _ _ h => h
  exact described.bind fun d => by simp [forall_except, written, noted]

theorem safe_bringPorts (driver : Driver) :
    (bringPorts id driver).Only (Action.Safe Slice.InCharge id) := by
  have details : ∀ reply, (Action.discoverPortDetails id reply).Safe Slice.InCharge id :=
    fun _ => .inquiry rfl rfl (fun _ _ => rfl) fun _ h => h
  have listed : ∀ reply, (Action.listPorts id reply).Safe Slice.InCharge id :=
    fun _ => .inquiry rfl rfl (fun _ _ => rfl) fun _ h => h
  have asked : (askPorts id driver).Only (Action.Safe Slice.InCharge id) := by
    unfold askPorts
    cases driver.description <;> cases driver.ports <;>
      simp [portsOf, forall_except, details, listed]
  have written : ∀ list, (Action.writeStore (.ports id list)).Safe Slice.InCharge id := by
    refine fun list => .write rfl (fun _ h => h) fun v v' h written => ?_
    rw [Slice.write_ports written]
    exact ⟨h.master, (Slice.available_bring v list).trans h.available⟩
  have known : (Action.changeRecord id .portsDiscovered).Safe Slice.InCharge id :=
    .of_uncalled rfl rfl fun _ _ h => ⟨h.master, h.available⟩
  exact asked.bind fun list => by simp [forall_except, written, known]

/-- Counters are brought where the ports are known, which was looked up just before. -/
theorem heedful_bringStatistics (driver : Driver) (h : v.InCharge) :
    (bringStatistics id driver).Heedful id v := by
  have read : (readRecord id).Heeds id v fun reply v' =>
      v' = v ∧ ∀ r, reply = some r → r = v.record :=
    heeds_look rfl rfl (fun _ => rfl) fun _ _ answered => (Option.some.inj answered).symm
  refine read.bind fun r v' ⟨same, record⟩ => ?_
  rw [same, record r rfl]
  refine Heeds.ite (fun ports => ?_) fun _ => heedful_log _
  have surveyed : v.Surveyed := ⟨h, ports⟩
  refine (heeds_of_safe (I := Slice.Surveyed) ?_ surveyed).heedful
  have asked : ∀ reply, (Action.discoverStatistics id reply).Safe Slice.Surveyed id :=
    fun _ => .inquiry rfl rfl (fun _ _ => rfl) fun _ h => h.toInCharge
  have written : ∀ list, (Action.writeStore (.statistics id list)).Safe Slice.Surveyed id := by
    refine fun list => .write rfl (fun _ h => h) fun v v' h written => ?_
    rw [Slice.write_statistics written]
    exact ⟨⟨h.master, (Slice.available_count v list).trans h.available⟩, h.ports⟩
  cases driver.portStatistics <;> simp [warnOnRefusal, forall_except, asked, written]

theorem heeds_isLocalMaster :
    (isLocalMaster id).Heeds id v fun reply v' => v' = v ∧ ∀ b, reply = some b → b = v.isMaster :=
  heeds_look rfl rfl (fun _ => rfl) fun _ _ => Slice.of_unlessCrash

/-- Discovery looks who masters the device and whether it is available before it asks. -/
theorem heedful_discoverPorts : (discoverPorts id).Heedful id v := by
  refine heeds_isLocalMaster.bind fun mastered v' ⟨same, master⟩ => ?_
  refine Heeds.ite (fun mastered => ?_) fun _ => heedful_log _
  have look : (isAvailable id).Heeds id v fun reply v' =>
      v' = v ∧ ∀ b, reply = some b → b = v.available :=
    heeds_look rfl rfl (fun _ => rfl) fun _ _ => Slice.of_unlessCrash
  rw [same]
  refine look.bind fun shown v' ⟨same, available⟩ => ?_
  refine Heeds.ite (fun shown => ?_) fun _ => heedful_log _
  have charge : v'.InCharge := by
    rw [same]
    exact ⟨(master _ rfl).symm.trans mastered, (available _ rfl).symm.trans shown⟩
  have found : (lookUp id).Heeds id v' fun _ v'' => v''.InCharge :=
    heeds_of_safe (only_ofAction (.of_uncalled rfl rfl fun _ _ h => h)) charge
  refine found.bind fun device? v'' charge => ?_
  cases device? with
  | none => exact heedful_log _
  | some device =>
    exact (heeds_of_safe (safe_bringPorts device.driver) charge).bind fun _ _ charge =>
      heedful_bringStatistics device.driver charge

theorem heedful_discoverUnlessKnown : (discoverUnlessKnown id).Heedful id v := by
  have read : (readRecord id).Heeds id v fun _ _ => True :=
    heeds_of_safe (I := fun _ => True)
      (only_ofAction (.of_uncalled rfl rfl fun _ _ h => h)) trivial
  exact read.bind fun _ _ _ => Heeds.ite (fun _ => heedful_discoverPorts) fun _ => heedful_done ()

/-- Only the master announces a device that answers. -/
theorem heedful_appeared (placeholder : Description) :
    (Job.bind (isLocalMaster id) fun mastered =>
      if mastered then Job.bind (announceAvailable id placeholder) fun _ => discoverUnlessKnown id
      else log (.masteredElsewhere id)).Heedful id v := by
  refine heeds_isLocalMaster.bind fun mastered v' ⟨same, master⟩ => ?_
  refine Heeds.ite (fun mastered => ?_) fun _ => heedful_log _
  have mastered : v'.isMaster = true := by
    rw [same]
    exact (master _ rfl).symm.trans mastered
  exact (heeds_of_safe (safe_announceAvailable placeholder) mastered).bind fun _ _ _ =>
    heedful_discoverUnlessKnown

end discovery

/-! ### Whole operations -/

variable {α : Type} {id : Identity}

/-- The jobs in which every device sees allowed calls only. -/
def Kind.heedful : Kind where
  ok := Action.Free
  mem j := ∀ id d, ∀ g ∈ j.glimpses id d, g.Allowed id
  mem_done _ _ _ _ seen := nomatch seen
  mem_crashed _ _ _ seen := nomatch seen
  mem_act {_ a next} free later id d := by
    by_cases ready : d.isReady a = true
    · rw [glimpses_act _ _ _ ready]
      exact List.forall_mem_cons.2 ⟨fun c called _ => free _ c called, later _ id _⟩
    · simp [glimpses, ready]
  mem_bind {_ _ j f} hj hf id d := by
    rw [glimpses_bind]
    refine List.forall_mem_append.2 ⟨hj id d, ?_⟩
    rcases j.run d with ⟨a | _ | rest, d'⟩
    · exact hf a id d'
    · exact fun _ h => nomatch h
    · exact fun _ h => nomatch h
  mem_contained {_ j} h id d := by
    rw [glimpses_contained]
    exact h id d

/-- Other devices see no call about themselves. -/
theorem mem_heedful {j : Job α} (only : j.Only (Action.Concerns id))
    (heedful : ∀ v, j.Heedful id v) : Kind.heedful.mem j := by
  intro id' d
  by_cases own : id' = id
  · subst own
    obtain ⟨_, _, _, _, _, _, allowed⟩ :=
      run_of_observes (heedful (d.slice id')) fun _ _ _ => trivial
    exact allowed
  · intro g seen c called about
    have concerned := Action.identity_call (only.glimpses id' d g seen) called
    exact absurd (Option.some.inj (about.symm.trans concerned)) own

section free

variable (id)

theorem free_registerCredentials (c : Credentials) :
    (registerCredentials id c).Only Action.Free := by
  simp [registerCredentials, forall_except, Action.Free, Action.call?, Call.Allowed]

theorem free_addIfMissing : (addIfMissing id).Only Action.Free := by
  simp [addIfMissing, warnOnRefusal, forall_except, Action.Free, Action.call?, Call.Allowed,
    storeCall]

theorem free_markUnreachable : (markUnreachable id).Only Action.Free := by
  simp [markUnreachable, warnOnRefusal, forall_except, Action.Free, Action.call?, Call.Allowed,
    storeCall]

theorem free_connect : (connect id).Only Action.Free := by
  simp [connect, abandon, disconnectIfStored, announceIfMissing, warnOnRefusal, forall_except,
    Action.Free, Action.call?, Call.Allowed, storeCall]

theorem free_release (role : Role) : (Connection.release id role).Only Action.Free := by
  simp [Connection.release, disconnectIfStored, warnOnRefusal, forall_except, Action.Free,
    Action.call?, Call.Allowed, storeCall]

theorem free_sessionLost : (sessionLost id).Only Action.Free := by
  simp [sessionLost, forall_except, Action.Free, Action.call?, Call.Allowed, storeCall]

theorem free_deviceRemoved : (deviceRemoved id).Only Action.Free := by
  simp [deviceRemoved, warnOnRefusal, forall_except, Action.Free, Action.call?, Call.Allowed]

theorem free_tearDown : (tearDown id).Only Action.Free := by
  simp [tearDown, warnOnRefusal, forall_except, Action.Free, Action.call?, Call.Allowed]

end free

theorem heedful_reconcileDevice (id : Identity) (device : DesiredDevice) :
    Kind.heedful.mem (reconcileDevice id device) := by
  have discovered : Kind.heedful.mem (discoverUnlessKnown id) :=
    mem_heedful ((aside_discoverUnlessKnown id).mono fun _ h => h.1) fun _ =>
      heedful_discoverUnlessKnown
  refine Kind.mem_reconcileDevice_of (Action.free_of_uncalled rfl)
    (Kind.mem_of_only (free_registerCredentials id device.credentials))
    (Kind.mem_of_only (free_addIfMissing id)) ?_
  refine Kind.mem_converge_of (fun _ looks => Action.free_of_uncalled looks.uncalled)
    (fun _ _ h => Kind.mem_bind _ (Kind.mem_ofAction (Action.free_of_uncalled rfl)) fun _ => h) ?_
    (.placeholder id) ?_ discovered (Kind.mem_of_only (free_markUnreachable id))
  · rintro v _ ⟨⟩
    trivial
  · refine mem_heedful ?_ fun _ => heedful_appeared (.placeholder id)
    refine Only.bind (only_ofAction rfl) fun mastered => ?_
    refine Only.ite (fun _ => ?_) fun _ => only_ofAction trivial
    exact ((aside_announceAvailable id (.placeholder id)).mono fun _ h => h.1).bind fun _ =>
      (aside_discoverUnlessKnown id).mono fun _ h => h.1

theorem heedful_desiredDevices (appId : String) : Kind.heedful.mem (desiredDevices appId) := by
  refine Kind.mem_bind _ (Kind.mem_ofAction ?_) fun ticket => Kind.mem_ofAction ?_
  · rintro v _ ⟨⟩
    trivial
  · exact Action.free_of_uncalled rfl

/-- Whatever operation is carried out, every device sees allowed calls only. -/
theorem heedful_operation (s : Settings) (o : Operation) : Kind.heedful.mem (o.job s) := by
  have free : ∀ {j : Job Unit}, j.Only Action.Free → Kind.heedful.mem j := fun only =>
    Kind.mem_of_only only
  have silent : ∀ {a : Action}, a.call? = none → a.Free := Action.free_of_uncalled
  have logs : ∀ l, Kind.heedful.ok (.log l) := fun _ => silent rfl
  have discovered : ∀ id, Kind.heedful.mem (discoverPorts id) := fun id =>
    mem_heedful ((aside_discoverPorts id).mono fun _ h => h.1) fun _ => heedful_discoverPorts
  have removed : ∀ id, Kind.heedful.mem (deviceRemoved id) := fun id => free (free_deviceRemoved id)
  have torn : ∀ id, Kind.heedful.mem (tearDown id) := fun id => free (free_tearDown id)
  refine Kind.mem_operation s ?_
    (Kind.mem_reconcileOne logs heedful_desiredDevices heedful_reconcileDevice s)
    (fun id => free (free_sessionLost id)) (fun e => ?_) (fun id role _ => ?_) removed torn
    (Kind.mem_tearDownAll (silent rfl) torn) discovered
  · exact Kind.mem_reconcileAll logs heedful_desiredDevices heedful_reconcileDevice
      (fun _ => silent rfl) (silent rfl) s
  · exact Kind.mem_reactToStore_of s (fun _ looks => silent looks.uncalled)
      (discovered e.identity) (removed e.identity)
  · exact Kind.mem_changeRole (silent rfl) logs (fun _ => Kind.mem_of_only (free_connect id))
      fun _ => free (free_release id role)

end Job

/-! ## Sessions that are opened -/

/-- Before the session of the device was opened the device answered a probe. -/
def Glimpse.Probed (id : Identity) (seen : List Glimpse) : Prop :=
  ∀ before g after, seen = before ++ g :: after → g.action = .openSession id →
    Answered before (.probe id) true

namespace Glimpse

variable {id : Identity} {g : Glimpse} {seen : List Glimpse}

theorem probed_nil : Probed id [] := by
  intro before g after parts
  simp at parts

theorem Probed.cons (h : Probed id seen) (unopening : g.action ≠ .openSession id) :
    Probed id (g :: seen) := by
  intro before g' after parts opens
  rcases before with _ | ⟨g₁, before⟩
  · obtain ⟨rfl, -⟩ := List.cons.inj parts
    exact absurd opens unopening
  · obtain ⟨-, parts⟩ := List.cons.inj parts
    exact answered_cons.2 (.inr (h before g' after parts opens))

/-- Once the device answered, nothing more is asked for. -/
theorem probed_of_answer (v : Slice) (seen : List Glimpse) :
    Probed id (⟨v, .probe id, some true⟩ :: seen) := by
  intro before g after parts opens
  rcases before with _ | ⟨g₁, before⟩
  · obtain ⟨rfl, -⟩ := List.cons.inj parts
    cases opens
  · obtain ⟨rfl, -⟩ := List.cons.inj parts
    exact answered_cons.2 (.inl ⟨v, rfl⟩)

end Glimpse

namespace Job

variable {α β : Type} {p : Hazards} {id : Identity} {v : Slice}

/-- A job that does not open the session, and another one. -/
theorem probed_bind {j : Job α} {f : α → Job β} (only : j.Only (Action.Unopening id))
    (later : ∀ a v, (f a).Observes p id v fun _ _ seen => Probed id seen) :
    (Job.bind j f).Observes p id v fun _ _ seen => Probed id seen := by
  induction j generalizing v with
  | done a => exact later a v
  | crashed => exact probed_nil
  | act a next ih =>
    exact ⟨only.1.1, fun _ _ => (ih _ (only.2 _)).mono fun _ _ _ probed => probed.cons only.1.2⟩

theorem probed_of_unopening {j : Job α} (only : j.Only (Action.Unopening id)) :
    j.Observes p id v fun _ _ seen => Probed id seen := by
  rw [← bind_done j]
  exact probed_bind only fun _ _ => probed_nil

/-- A session is opened only to a device that answered in the same attempt. -/
theorem probed_connect : (connect id).Observes p id v fun _ _ seen => Probed id seen := by
  have read : (readRecord id).Only (Action.Unopening id) := only_ofAction ⟨rfl, by simp⟩
  refine probed_bind read fun record v => (observes_ite _ _ _).2 ⟨fun _ => ?confirmed, fun _ => ?_⟩
  case confirmed =>
    refine probed_of_unopening ?_
    simp [Action.Unopening, Action.Concerns]
  rw [bind_eq, observes_bind, observes_probe, ensures_probe]
  refine ⟨fun _ => probed_nil.cons (by simp), (observes_ite _ _ _).2 ⟨fun answers => ?answered,
    fun _ => ?silent⟩⟩
  case silent =>
    refine (probed_of_unopening ?_).mono fun _ _ _ probed => probed.cons (by simp)
    simp [Action.Unopening, Action.Concerns]
  case answered =>
    rw [answers]
    refine (Only.observes ?_).mono fun _ _ seen _ => probed_of_answer v seen
    simp [abandon, disconnectIfStored, announceIfMissing, warnOnRefusal, forall_except,
      Action.Concerns, StoreWrite.identity]

end Job

/-! ## Runs -/

/-- What the device sees of the operation is gated: every call about it is allowed when it is made,
and its session is opened only where it is promoted, while role changes are accepted, and after it
answered a probe. -/
structure Operation.Gated (o : Operation) (id : Identity) (seen : List Glimpse) : Prop where
  allowed : ∀ g ∈ seen, g.Allowed id
  opened : ∀ before g after, seen = before ++ g :: after → g.action = .openSession id →
    o = .order (.role id .master) ∧ Answered before .isActive true ∧
      Answered before (.probe id) true

namespace Deployment

variable (s : Settings) (id : Identity)

/-- A promotion opens no session of another device. -/
theorem unopening_promotion {id id' : Identity} (ne : id' ≠ id) :
    (changeRole id' .master).Only fun a => a ≠ .openSession id := by
  have other : ∀ a : Action, a.Concerns id' → a ≠ .openSession id := by
    rintro _ concerns rfl
    exact ne concerns.symm
  exact Kind.mem_changeRole (K := .only fun a => a ≠ .openSession id) (by simp [Kind.only])
    (by simp [Kind.only]) (fun _ => (only_connect id').mono fun a h => other a h.1)
    fun _ => (only_release id' .master).mono fun a h => other a h.1

/-- A promotion is attempted only while role changes are accepted, which is asked first. -/
theorem opened_of_promotion (d : Deployment) {before after : List Glimpse} {g : Glimpse}
    (seen : (changeRole id .master).glimpses id d = before ++ g :: after)
    (opens : g.action = .openSession id) :
    Answered before .isActive true ∧ Answered before (.probe id) true := by
  rw [glimpses_changeRole] at seen
  rcases before with _ | ⟨asked, before⟩
  · obtain ⟨rfl, -⟩ := List.cons.inj seen
    cases opens
  obtain ⟨rfl, later⟩ := List.cons.inj seen
  cases active : d.active with
  | false =>
    have ignored : (answerRole id .master false).Only fun a => a ≠ .openSession id := by
      simp [answerRole]
    rw [active] at later
    exact absurd opens (ignored.glimpses id d g (by simp [later]))
  | true =>
    have within : d.faults.Within fun _ _ => True := fun _ _ _ => trivial
    obtain ⟨_, _, _, _, _, probed⟩ := run_of_observes (probed_connect (v := d.slice id)) within
    rw [active] at later
    exact ⟨answered_cons.2 (.inl ⟨_, rfl⟩), answered_cons.2 (.inr (probed _ g after later opens))⟩

theorem gated_operation (o : Operation) (d : Deployment) :
    o.Gated id ((o.job s).glimpses id d) where
  allowed := heedful_operation s o id d
  opened before g after seen opens := by
    have here : g ∈ (o.job s).glimpses id d := by simp [seen]
    by_cases promoted : ∃ id', o = .order (.role id' .master)
    · obtain ⟨id', rfl⟩ := promoted
      by_cases own : id' = id
      · subst own
        exact ⟨rfl, opened_of_promotion id' d seen opens⟩
      · exact absurd opens ((unopening_promotion own).glimpses id d g here)
    · have unopening := unopening_operation s (not_exists.1 promoted)
      exact absurd opens (unopening.glimpses id d g here id)

/-- What the device sees of the operations of a run, one after the other. -/
def sights (d : Deployment) : List Step → List (Operation × List Glimpse)
  | [] => []
  | .operation o :: rest => (o, (o.job s).glimpses id d) :: sights ((o.job s).run d).2 rest
  | .change c :: rest => sights (c.apply d) rest

/-- In every run the calls are made in the course of operations, and what the device sees of each
operation is gated, whatever goes wrong. -/
theorem gated_after (d : Deployment) (steps : List Step) :
    (d.after s steps).calls =
      d.calls ++ (d.sights s id steps).flatMap (fun sight => Glimpse.calls sight.2) ∧
    ∀ sight ∈ d.sights s id steps, sight.1.Gated id sight.2 := by
  induction steps generalizing d with
  | nil => exact ⟨by simp [after, sights], fun _ h => nomatch h⟩
  | cons step rest ih =>
    obtain ⟨seen, gated⟩ := ih (step.apply s d)
    cases step with
    | operation o =>
      refine ⟨?_, List.forall_mem_cons.2 ⟨gated_operation s id o d, gated⟩⟩
      have ran : (Step.apply s d (.operation o)).calls = _ := calls_run (o.job s) id d
      rw [ran, List.append_assoc] at seen
      exact seen
    | change c =>
      rw [Step.apply, calls_change] at seen
      exact ⟨seen, gated⟩

end Deployment

end Southbound
