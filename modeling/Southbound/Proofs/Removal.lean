import Southbound.Proofs.Footprint
import Southbound.Proofs.IdentityText
import Southbound.Proofs.StoreJobs

/-!
# Devices that are removed from the store

When a device is removed from the store, the provider is to give up its session.  It hears of the
removal by an event, and whether the event concerns it is decided by the remarks that the event
carries: they have to name the scheme of the provider.  The remarks are those of the description
that the store held last, and that may be the placeholder, what was announced before, or whatever a
driver said.

`Slice.Named` follows all of these.  Only two kinds of action put a description anywhere
(`Action.describes`), and the jobs that take them choose among descriptions that name the scheme
already, so it lasts through every run in which the drivers of the device do not say otherwise
(`Deployment.Reaches.named`).  `Deployment.Reaches.removal_ends` is the result: such a removal ends
the session.  With a driver that leaves the scheme out the event is passed over and the session
stays (`Deployment.removal_passed_over`).
-/

namespace Southbound

open Connection Deployment Discovery Job Reconciliation Text

/-! ## Descriptions that name a scheme -/

/-- The remarks of the description name the scheme, in any letter case. -/
def Description.Names (scheme : String) (d : Description) : Prop :=
  (d.annotations.get? Annotations.protocolKey).any (equalIgnoringCase · scheme) = true

/-- The driver describes the device only by descriptions that name the scheme. -/
def Driver.Candid (scheme : String) (driver : Driver) : Prop :=
  ∀ replies found, driver.description = some replies → replies.details = .answer (some found) →
    found.Names scheme

/-- Everything that a device can be announced with names the scheme: what the store holds, what was
announced last, and what the driver says. -/
structure Slice.Named (scheme : String) (v : Slice) : Prop where
  stored : ∀ known, v.stored? = some known → known.description.Names scheme
  announced : ∀ d, v.record.lastDescription = some d → d.Names scheme
  told : v.driver.Candid scheme

theorem Driver.Candid.told {scheme : String} {driver : Driver} (candid : driver.Candid scheme)
    {found : Description} (told : driver.told? = some (some found)) : found.Names scheme := by
  unfold Driver.told? at told
  cases replies : driver.description with
  | none => simp [replies] at told
  | some asked =>
    refine candid asked found replies ?_
    cases details : asked.details with
    | answer found? => simpa [replies, details, Reply.outcome?] using told
    | failure e => simp [replies, details, Reply.outcome?] at told
    | crash => simp [replies, details, Reply.outcome?] at told

namespace Description

variable {scheme : String}

theorem names_placeholder {id : Identity} (speaks : Scheme.ofText? scheme = some id.scheme) :
    (placeholder id).Names scheme := by
  have lowered_scheme := (Scheme.ofText?_eq_some.1 speaks).2
  have remark : (placeholder id).annotations.get? Annotations.protocolKey
      = some (raised id.scheme.text) := (Identity.get?_ofIdentity id).1
  simp [Names, remark, equalIgnoringCase, lowered_scheme, id.scheme.inSmallLetters]

end Description

namespace Slice

variable {scheme : String} {v v' : Slice}

theorem Named.announce (h : v.Named scheme) {d : Description} (named : d.Names scheme) :
    (v.announce d).Named scheme where
  stored known found := by
    have announced : StoredDevice.announced v.stored? d = known := Option.some.inj found
    rw [← announced]
    cases v.stored? <;> exact named
  announced := h.announced
  told := h.told

theorem Named.change_announced (h : v.Named scheme) {d : Description} (named : d.Names scheme) :
    (v.change (.announced d)).Named scheme where
  stored := h.stored
  announced d' last := by
    obtain rfl : d = d' := Option.some.inj last
    exact named
  told := h.told

/-- Whatever discovery announces names the scheme. -/
theorem Named.described (h : v.Named scheme) {placeholder d : Description}
    (blank : placeholder.Names scheme) (described : v.description? placeholder = some d) :
    d.Names scheme := by
  unfold description? at described
  cases stored : v.stored? with
  | none =>
    rw [stored] at described
    exact Option.some.inj described ▸ blank
  | some known =>
    simp only [stored, Option.map_eq_some_iff] at described
    obtain ⟨found?, told, rfl⟩ := described
    cases found? with
    | none => exact blank
    | some found =>
      have named : found.Names scheme := h.told.told told
      dsimp only
      split
      · exact h.stored known stored
      · exact named

end Slice

/-! ## Actions that describe nothing -/

namespace Action

/-- Whether the action puts a description somewhere. -/
def describes : Action → Bool
  | writeStore (.connect _ _) | changeRecord _ (.announced _) => true
  | _ => false

theorem describes_of_looks {id : Identity} {a : Action} (looks : a.Looks id) :
    a.describes = false := by
  cases a <;> first | rfl | cases looks.2

end Action

namespace Slice

variable {scheme : String} {v v' : Slice}

/-- A write that describes nothing keeps the description that is there. -/
theorem Named.written (h : v.Named scheme) {w : StoreWrite}
    (plain : Action.describes (.writeStore w) = false) {known : StoredDevice}
    (entered : w.entry v.stored? = .ok known) :
    Named scheme { v with stored? := some known } := by
  refine ⟨fun after same => ?_, h.announced, h.told⟩
  obtain rfl : known = after := Option.some.inj same
  cases stored : v.stored? with
  | none => cases w <;> simp_all [Action.describes, StoreWrite.entry]
  | some before =>
    have described := h.stored before stored
    rw [stored] at entered
    cases w with
    | connect => cases plain
    | disconnect | ports | statistics =>
      cases entered
      exact described

/-- An attempt has its effect or none. -/
theorem attempt_cases (v : Slice) (fault : Option Fault) (effect : Except CollaboratorError Slice) :
    (v.attempt fault effect).2 = v ∨ effect = .ok (v.attempt fault effect).2 := by
  cases effect with
  | error e => rcases fault with _ | _ | _ | _ | _ <;> exact .inl rfl
  | ok v' => rcases fault with _ | _ | _ | _ | _ <;> first | exact .inl rfl | exact .inr rfl

theorem Named.perform (h : v.Named scheme) {a : Action} (plain : a.describes = false)
    (fault : Option Fault) : (v.perform fault a).2.Named scheme := by
  have becomes := becomes_perform v fault a
  generalize performed : (v.perform fault a).2 = v' at becomes ⊢
  cases becomes with
  | same => exact h
  | keyStored | keyRemoved | opened | closed | accepted => exact ⟨h.stored, h.announced, h.told⟩
  | changed id c =>
    refine ⟨h.stored, fun d last => h.announced d ?_, h.told⟩
    rw [record_change] at last
    cases c with
    | announced => cases plain
    | _ => exact last
  | written w known =>
    rw [← performed]
    rcases attempt_cases v fault (v.write w) with same | wrote
    · exact (congrArg (Named scheme) same).mpr h
    · cases entered : w.entry v.stored? with
      | error e => simp [write, entered, Except.map] at wrote
      | ok after =>
        have same : { v with stored? := some after } = (v.attempt fault (v.write w)).2 := by
          simpa [write, entered, Except.map] using wrote
        exact (congrArg (Named scheme) same).mp (h.written plain entered)

/-- A store entry that is written over with the same description. -/
theorem Named.restored (h : v.Named scheme) {f : StoredDevice → StoredDevice}
    (kept : ∀ known, (f known).description = known.description) :
    Named scheme { v with stored? := v.stored?.map f } := by
  refine ⟨fun after same => ?_, h.announced, h.told⟩
  obtain ⟨known, stored, rfl⟩ := Option.map_eq_some_iff.1 same
  rw [kept]
  exact h.stored known stored

theorem Named.brings (h : v.Named scheme) (brings : v.Brings v') : v'.Named scheme := by
  rcases brings with rfl | ⟨list, _, _, rfl⟩
  · exact h
  · have brought := h.restored (f := fun known => known.withPorts list) fun _ => rfl
    exact ⟨brought.stored, h.announced, h.told⟩

theorem Named.counts (h : v.Named scheme) (counts : v.Counts v') : v'.Named scheme := by
  rcases counts with rfl | ⟨list, rfl⟩
  · exact h
  · exact h.restored fun _ => rfl

/-- What happens to the record as a whole leaves no other description. -/
theorem Named.recorded (h : v.Named scheme) {record? : Option DeviceRecord}
    (from_ : ∀ r, record? = some r → v.record.lastDescription = r.lastDescription) :
    Named scheme { v with record? } := by
  refine ⟨h.stored, fun d last => h.announced d ?_, h.told⟩
  cases record? with
  | none => cases last
  | some r => rw [from_ r rfl, ← last]; rfl

end Slice

namespace Deployment

variable {scheme : String} {id : Identity}

theorem named_perform {d : Deployment} (h : (d.slice id).Named scheme) {a : Action}
    (plain : a.describes = false) : ((d.perform a).2.slice id).Named scheme := by
  have follows := d.follows_perform a id
  generalize slice : (d.perform a).2.slice id = v at follows ⊢
  cases follows with
  | same => exact h
  | about concerns _ =>
    rw [← slice, (d.perform_slice concerns).2.own]
    exact h.perform plain _
  | marked desired =>
    refine h.recorded fun r marked => ?_
    obtain ⟨before, record, rfl⟩ := Option.map_eq_some_iff.1 marked
    rw [Slice.record, record]
    rfl
  | pruned =>
    refine h.recorded fun r kept => ?_
    rw [Slice.record, (Option.filter_eq_some_iff.1 kept).1]
    rfl

end Deployment

/-! ## Jobs that keep a statement -/

/-- The jobs whose runs keep a statement about the deployment. -/
def Job.Kind.keeping (P : Deployment → Prop) : Job.Kind where
  ok a := ∀ d, P d → P (d.perform a).2
  mem j := ∀ d, P d → P (j.run d).2
  mem_done _ _ h := h
  mem_crashed _ h := h
  mem_act {_ a next} kept later d h := by
    by_cases ready : d.isReady a = true
    · rw [run_act a next d ready]
      exact later _ _ (kept d h)
    · simpa [Job.run, ready] using h
  mem_bind {_ _ j f} first later d h := by
    have kept := first d h
    rw [run_bind]
    generalize j.run d = r at kept ⊢
    obtain ⟨_ | _ | _, d'⟩ := r
    · exact later _ d' kept
    · exact kept
    · exact kept
  mem_contained {_ j} first d h := by
    have kept := first d h
    rw [run_contained]
    generalize j.run d = r at kept ⊢
    obtain ⟨_ | _ | _, d'⟩ := r
    · exact kept
    · exact kept
    · exact kept

section naming

variable {scheme : String} {id : Identity} {α : Type}

/-- The jobs that keep a device announced by descriptions only that name the scheme. -/
abbrev Job.Kind.naming (scheme : String) (id : Identity) : Job.Kind :=
  .keeping fun d => (d.slice id).Named scheme

namespace Job

theorem ok_naming {a : Action} (plain : a.describes = false) : (Kind.naming scheme id).ok a :=
  fun _ h => named_perform h plain

theorem naming_of_plain {j : Job α} (plain : j.Only fun a => a.describes = false) :
    (Kind.naming scheme id).mem j :=
  Kind.mem_of_only (plain.mono fun _ plain => ok_naming plain)

theorem naming_ofAction (a : Action) (plain : a.describes = false) :
    (Kind.naming scheme id).mem (ofAction a) :=
  naming_of_plain (only_ofAction plain)

/-- A job about another device leaves this one alone. -/
theorem naming_of_elsewhere {j : Job α} {id' : Identity} (ne : id ≠ id')
    (elsewhere : j.Only (Action.Concerns id')) : (Kind.naming scheme id).mem j := by
  refine Kind.mem_of_only (elsewhere.mono fun a concerns d h => ?_)
  exact (congrArg (Slice.Named scheme) ((d.perform_slice concerns).2.others id ne)).mpr h

/-- A job about this device is followed slice by slice, whatever goes wrong. -/
theorem naming_of_ensures {j : Job α}
    (ensured : ∀ v : Slice, v.Named scheme →
      j.Ensures (fun _ _ => True) id v fun _ v' _ => v'.Named scheme) :
    (Kind.naming scheme id).mem j := by
  intro d h
  have within : d.faults.Within fun _ _ => True := fun _ _ _ => trivial
  obtain ⟨_, v, _, d', ran, moved, named⟩ := run_of_ensures (ensured _ h) within
  rw [ran]
  show (d'.slice id).Named scheme
  rwa [moved.own]

section plain

variable (id' : Identity)

theorem plain_registerCredentials (c : Credentials) :
    (registerCredentials id' c).Only fun a => a.describes = false := by
  simp [registerCredentials, forall_except, Action.describes]

theorem plain_markUnreachable :
    (markUnreachable id').Only fun a => a.describes = false := by
  simp [markUnreachable, warnOnRefusal, forall_except, Action.describes]

theorem plain_release (role : Role) :
    (Connection.release id' role).Only fun a => a.describes = false := by
  simp [Connection.release, disconnectIfStored, warnOnRefusal, forall_except, Action.describes]

theorem plain_sessionLost : (sessionLost id').Only fun a => a.describes = false := by
  simp [sessionLost, forall_except, Action.describes]

theorem plain_deviceRemoved : (deviceRemoved id').Only fun a => a.describes = false := by
  simp [deviceRemoved, warnOnRefusal, forall_except, Action.describes]

theorem plain_tearDown : (tearDown id').Only fun a => a.describes = false := by
  simp [tearDown, warnOnRefusal, forall_except, Action.describes]

theorem plain_abandon : (abandon id').Only fun a => a.describes = false := by
  simp [abandon, disconnectIfStored, warnOnRefusal, forall_except, Action.describes]

end plain

section describing

variable (speaks : Scheme.ofText? scheme = some id.scheme)

include speaks

theorem naming_addIfMissing (id' : Identity) : (Kind.naming scheme id).mem (addIfMissing id') := by
  by_cases same : id = id'
  · subst same
    refine naming_of_ensures fun v h => ensures_addIfMissing.mono fun _ v' _ outcome => ?_
    rcases outcome with rfl | ⟨_, rfl⟩
    · exact h
    · exact h.announce (Description.names_placeholder speaks)
  · exact naming_of_elsewhere same ((aside_addIfMissing id').mono fun _ aside => aside.1)

theorem naming_announceIfMissing (id' : Identity) :
    (Kind.naming scheme id).mem (announceIfMissing id') := by
  by_cases same : id = id'
  · subst same
    refine naming_of_ensures fun v h => ensures_announceIfMissing.mono fun _ v' _ outcome => ?_
    rcases outcome with rfl | ⟨_, rfl⟩
    · exact h
    · refine h.announce ?_
      cases last : v.record.lastDescription with
      | none => exact Description.names_placeholder speaks
      | some d => exact h.announced d last
  · refine naming_of_elsewhere same ?_
    simp [announceIfMissing, warnOnRefusal, forall_except, Action.Concerns, StoreWrite.identity]

theorem naming_announceAvailable (id' : Identity) :
    (Kind.naming scheme id).mem (announceAvailable id' (.placeholder id')) := by
  by_cases same : id = id'
  · subst same
    refine naming_of_ensures fun v h => ?_
    have blank : (Description.placeholder id).Names scheme := Description.names_placeholder speaks
    have announced : ∀ d : Description, d.Names scheme →
        ((v.announce d).change (.announced d)).Named scheme :=
      fun d named => (h.announce named).change_announced named
    simp only [announceAvailable, bind_eq, pure_eq, ensures_bind, ensures_describe,
      ensures_writeConnect, ensures_changeRecord, ensures_log, ensures_done, h, implies_true,
      true_and]
    refine ⟨fun _ => announced _ blank, ?_⟩
    cases described : v.description? (.placeholder id) with
    | none => trivial
    | some d => simpa [h] using announced d (h.described blank described)
  · exact naming_of_elsewhere same ((aside_announceAvailable id' _).mono fun _ aside => aside.1)

omit speaks in
theorem naming_discoverPorts (id' : Identity) :
    (Kind.naming scheme id).mem (discoverPorts id') := by
  by_cases same : id = id'
  · subst same
    refine naming_of_ensures fun v h => ensures_discoverPorts.mono fun _ v' _ outcome => ?_
    obtain ⟨v₁, brings, counts⟩ := outcome
    exact (h.brings brings).counts counts
  · exact naming_of_elsewhere same ((aside_discoverPorts id').mono fun _ aside => aside.1)

theorem naming_connect (id' : Identity) : (Kind.naming scheme id).mem (connect id') := by
  let K := Kind.naming scheme id
  have logged : ∀ l, K.mem (log l) := fun l => naming_ofAction (.log l) rfl
  have reported : K.mem (reportRole id' .master .master) := naming_ofAction _ rfl
  refine K.mem_bind (naming_ofAction (.readRecord id') rfl) fun _ =>
    Kind.mem_ite (fun _ => ?_) fun _ => ?_
  · exact K.mem_bind (logged _) fun _ => K.mem_bind reported fun _ => K.mem_done _
  refine K.mem_bind (naming_ofAction (.probe id') rfl) fun _ =>
    Kind.mem_ite (fun _ => ?_) fun _ => ?_
  · refine K.mem_bind (naming_ofAction (.changeRecord id' (.reached .connecting)) rfl) fun _ => ?_
    refine K.mem_bind (naming_ofAction (.openSession id') rfl) fun opened => ?_
    cases opened with
    | error e =>
      refine K.mem_bind (naming_of_plain (plain_abandon id')) fun _ => ?_
      exact K.mem_bind (logged _) fun _ => K.mem_done _
    | ok _ =>
      refine K.mem_bind (naming_ofAction (.changeRecord id' (.reached .connected)) rfl) fun _ => ?_
      refine K.mem_bind (naming_announceIfMissing speaks id') fun _ => ?_
      exact K.mem_bind reported fun _ => K.mem_bind (logged _) fun _ => K.mem_done _
  · exact K.mem_bind (logged _) fun _ => K.mem_done _

theorem naming_reconcileDevice (id' : Identity) (device : DesiredDevice) :
    (Kind.naming scheme id).mem (reconcileDevice id' device) := by
  let K := Kind.naming scheme id
  have discovered : K.mem (discoverUnlessKnown id') :=
    K.mem_bind (naming_ofAction (.readRecord id') rfl) fun _ =>
      Kind.mem_ite (fun _ => naming_discoverPorts id') fun _ => K.mem_done _
  refine Kind.mem_reconcileDevice_of (K := K) (ok_naming rfl)
    (naming_of_plain (plain_registerCredentials id' _)) (naming_addIfMissing speaks id') ?_
  refine Kind.mem_converge_of (K := K) (fun _ looks => ok_naming (Action.describes_of_looks looks))
    (fun available _ later =>
      K.mem_bind (naming_ofAction (.changeRecord id' (.shown available)) rfl) fun _ => later)
    (ok_naming rfl) _ ?_ discovered (naming_of_plain (plain_markUnreachable id'))
  refine K.mem_bind (naming_ofAction (.isLocalMaster id') rfl) fun mastered => ?_
  refine Kind.mem_ite (fun _ => ?_) fun _ => naming_ofAction (.log _) rfl
  exact K.mem_bind (naming_announceAvailable speaks id') fun _ => discovered

/-- Whatever the provider is told to do, a device keeps being announced by descriptions only that
name the scheme. -/
theorem naming_operation (s : Settings) (o : Operation) :
    (Kind.naming scheme id).mem (o.job s) := by
  let K := Kind.naming scheme id
  have reads : ∀ appId, K.mem (desiredDevices appId) := fun _ =>
    K.mem_bind (naming_ofAction _ rfl) fun _ => naming_ofAction _ rfl
  have devices := naming_reconcileDevice speaks
  have torn : ∀ id, K.mem (tearDown id) := fun id' => naming_of_plain (plain_tearDown id')
  have removed : ∀ id, K.mem (deviceRemoved id) := fun id' =>
    naming_of_plain (plain_deviceRemoved id')
  have logs : ∀ l, K.ok (.log l) := fun _ => ok_naming rfl
  refine Kind.mem_operation (K := K) s
    (Kind.mem_reconcileAll logs reads devices (fun _ => ok_naming rfl) (ok_naming rfl) s)
    (Kind.mem_reconcileOne logs reads devices s)
    (fun id' => naming_of_plain (plain_sessionLost id')) (fun e => ?_) (fun id' role _ => ?_)
    removed torn (Kind.mem_tearDownAll (ok_naming rfl) torn) naming_discoverPorts
  · exact Kind.mem_reactToStore_of (K := K) s
      (fun _ looks => ok_naming (Action.describes_of_looks looks))
      (naming_discoverPorts e.identity) (removed e.identity)
  · exact Kind.mem_changeRole (ok_naming rfl) logs (fun _ => naming_connect speaks id')
      fun _ => naming_of_plain (plain_release id' role)

end describing

end Job

end naming

/-! ## Runs -/

namespace Job.Kind

/-- Where every action is of the kind, every job is. -/
theorem mem_of_all {K : Kind} (all : ∀ a, K.ok a) {α : Type} (j : Job α) : K.mem j := by
  induction j with
  | done a => exact K.mem_done a
  | crashed => exact K.mem_crashed
  | act a next ih => exact K.mem_act (all a) ih

end Job.Kind

namespace Deployment

/-- No step makes calls fail. -/
def Unfailing (_ : Deployment) : Step → Prop
  | .change (.plan f) => f = .none
  | _ => True

/-- No step makes calls fail, and whatever drivers the device is given describe it only by
descriptions that name the scheme. -/
def Candid (scheme : String) (id : Identity) (_ : Deployment) : Step → Prop
  | .change (.plan f) => f = .none
  | .change (.equip id' driver) => id' = id → driver.Candid scheme
  | _ => True

/-- The events that the store published, oldest first. -/
def storeEvents (d : Deployment) : List StoreEvent := d.history.filterMap (·.storeEvent?)

/-- The provider hears of an event of the store and carries out the order that it becomes. -/
def hear (s : Settings) (d : Deployment) (e : StoreEvent) : Deployment :=
  let (lines, order) := Order.ofStoreEvent e
  match order with
  | some o => ((o.job s).run (d.sayAll lines)).2
  | none => d.sayAll lines

variable {s : Settings} {start d d' : Deployment} {id : Identity}

theorem Reaches.quiet (quiet : start.faults = .none) (reached : start.Reaches s Unfailing d) :
    d.faults = .none := by
  induction reached with
  | refl => exact quiet
  | step _ step admitted ih =>
    cases step with
    | operation o =>
      exact Kind.mem_of_all (K := .keeping fun d => d.faults = .none)
        (fun a _ quiet => quiet_perform quiet a) (o.job s) _ ih
    | change c =>
      cases c with
      | plan f => exact admitted
      | _ => exact ih

theorem get?_remove (store : DeviceStore) (id id' : Identity) :
    (store.remove id).1.get? id' = if id' = id then none else store.get? id' := by
  unfold DeviceStore.remove
  cases found : store.get? id with
  | some known => exact SortedMap.get?_erase ..
  | none =>
    by_cases same : id' = id
    · rw [if_pos same, same, found]
    · rw [if_neg same]

theorem named_change {scheme : String} {c : Change} (candid : Candid scheme id d (.change c))
    (h : (d.slice id).Named scheme) : ((c.apply d).slice id).Named scheme := by
  cases c with
  | equip id' driver =>
    refine ⟨h.stored, h.announced, ?_⟩
    show ((((d.drivers.insert id' driver).get? id).getD ∅)).Candid scheme
    rw [SortedMap.get?_insert]
    split
    · next same => exact candid same.symm
    · exact h.told
  | remove id' =>
    refine ⟨fun known found => h.stored known ?_, h.announced, h.told⟩
    have kept : (d.store.remove id').1.get? id = some known := found
    rw [get?_remove] at kept
    exact (Option.ite_none_left_eq_some.1 kept).2
  | _ => exact ⟨h.stored, h.announced, h.told⟩

/-- As long as its drivers do not say otherwise, a device is announced by descriptions only that
name the scheme. -/
theorem Reaches.named (speaks : Scheme.ofText? s.scheme = some id.scheme)
    (records : start.records = ∅) (store : start.store = ∅)
    (candid : (start.slice id).driver.Candid s.scheme)
    (reached : start.Reaches s (Candid s.scheme id) d) : (d.slice id).Named s.scheme := by
  induction reached with
  | refl =>
    have unstored : (start.slice id).stored? = none := by
      rw [slice, store]
      rfl
    have fresh : (start.slice id).record = .fresh := by
      rw [Slice.record, slice, records]
      rfl
    refine ⟨fun known found => ?_, fun d last => ?_, candid⟩
    · cases unstored.symm.trans found
    · rw [fresh] at last
      cases last
  | step _ step admitted ih =>
    cases step with
    | operation o => exact naming_operation speaks s o _ ih
    | change c => exact named_change admitted ih

/-! ## Hearing of a removal -/

theorem masterOf_of_isLocalMaster {m : Mastership} (mastered : m.isLocalMaster id = true) :
    m.masterOf id = some m.node := by
  simpa [Mastership.isLocalMaster] using mastered

/-- The removal of a device from the store publishes one event. -/
theorem storeEvents_removeDevice {known : StoredDevice} (stored : d.store.get? id = some known) :
    (d.removeDevice id).storeEvents
      = d.storeEvents ++ [⟨.removed, id, known.description.annotations⟩] := by
  simp [storeEvents, removeDevice, DeviceStore.remove, stored, note, Occurrence.storeEvent?]

/-- Nothing is left of the session of the device. -/
structure Ended (d : Deployment) (id : Identity) : Prop where
  closed : d.sessions.contains id = false
  unlive : (d.records.read id).state ≠ .connecting ∧ (d.records.read id).state ≠ .connected
  portsForgotten : (d.records.read id).portsDiscovered = false

theorem unlive_ended (r : DeviceRecord) :
    r.ended.state ≠ .connecting ∧ r.ended.state ≠ .connected := by
  cases state : r.state <;> simp [DeviceRecord.ended, state, ConnectionState.isLive]

/-- A removal that the provider acts on ends the session, if nothing goes wrong. -/
theorem ensures_storeChanged {e : StoreEvent} (removed : e.change = .removed) {v : Slice}
    (master : v.master?.isSome = true) (isMaster : v.isMaster = true)
    (named : e.protocol.any (equalIgnoringCase · s.scheme) = true) :
    ((Order.storeChanged e).job s).Ensures .none e.identity v
      fun _ v' _ => v' = (v.setOpen false).change .ended := by
  have mastered : v.master? ≠ none := Option.isSome_iff_ne_none.1 master
  simp [Order.job, Order.silently, Order.reactToStore, removed, master, isMaster, mastered,
    StoreEvent.isRelevant, named, Connection.deviceRemoved, Hazards.none]

theorem hear_removed {e : StoreEvent} (removed : e.change = .removed) :
    d.hear s e = (((Order.storeChanged e).job s).run (d.sayAll [])).2 := by
  simp [hear, Order.ofStoreEvent, removed]

/-- So the provider, hearing of the removal, leaves nothing of the session. -/
theorem ended_of_hear {e : StoreEvent} (removed : e.change = .removed)
    (quiet : d.faults = .none) (mastered : d.mastership.isLocalMaster e.identity = true)
    (named : e.protocol.any (equalIgnoringCase · s.scheme) = true) :
    (d.hear s e).Ended e.identity := by
  have master : ((d.sayAll []).slice e.identity).master?.isSome = true :=
    Option.isSome_of_eq_some (masterOf_of_isLocalMaster mastered)
  have within : (d.sayAll []).faults.Within .none := by
    have same : (d.sayAll []).faults = .none := quiet
    exact same ▸ Faults.within_none _
  obtain ⟨_, v, _, d', ran, moved, ended⟩ :=
    run_of_ensures (ensures_storeChanged (s := s) removed master mastered named) within
  have record : d'.records.read e.identity = (d.records.read e.identity).ended := by
    show (d'.slice e.identity).record = _
    rw [moved.own, ended]
    rfl
  rw [hear_removed removed, ran]
  refine ⟨?_, ?_, ?_⟩
  · show (d'.slice e.identity).isOpen = false
    rw [moved.own, ended]
    rfl
  · rw [record]
    exact unlive_ended _
  · rw [record]
    rfl

/-- Removing a device of the scheme from the store ends its session once the provider hears of it,
whatever happened before and happens in between, as long as the device is mastered by this node and
its description at the time named the scheme.  The latter is so if its drivers never describe it
otherwise. -/
theorem Reaches.removal_ends {known : StoredDevice}
    (speaks : Scheme.ofText? s.scheme = some id.scheme)
    (records : start.records = ∅) (store : start.store = ∅) (quiet : start.faults = .none)
    (reached : start.Reaches s Unfailing d) (stored : d.store.get? id = some known)
    (named : known.description.Names s.scheme ∨
      (start.slice id).driver.Candid s.scheme ∧ start.Reaches s (Candid s.scheme id) d)
    (later : (d.removeDevice id).Reaches s Unfailing d')
    (mastered : d'.mastership.isLocalMaster id = true) :
    ∃ e, (d.removeDevice id).storeEvents = d.storeEvents ++ [e] ∧ e.change = .removed ∧
      e.identity = id ∧ (d'.hear s e).Ended id := by
  have names : known.description.Names s.scheme := by
    rcases named with named | ⟨candid, candidly⟩
    · exact named
    · exact (candidly.named speaks records store candid).stored known stored
  have still : (d.removeDevice id).faults = .none := by
    show d.faults = .none
    exact reached.quiet quiet
  exact ⟨⟨.removed, id, known.description.annotations⟩, storeEvents_removeDevice stored, rfl, rfl,
    ended_of_hear rfl (later.quiet still) mastered names⟩

/-- A driver that describes the device of `Deployment.sample` with these remarks. -/
def describingDriver (remarks : Annotations) : Driver :=
  CapabilitySet.empty.insert (.description
    ⟨.answer (some { Description.placeholder .sample with annotations := remarks }), .answer []⟩)

/-- The device of `Deployment.sample` with such a driver. -/
def describing (remarks : Annotations) : Deployment :=
  { Deployment.sample with
    drivers := (∅ : SortedMap Identity Driver).insert .sample (describingDriver remarks) }

theorem driver_describing (remarks : Annotations) :
    ((describing remarks).slice .sample).driver = describingDriver remarks := by
  simp [describing, slice]

/-- The session of a device ends that its driver described under the name of the scheme. -/
theorem removal_ends_described :
    let d := (describing (.ofIdentity .sample)).after .default Step.promotion
    d.sessions.contains .sample = true ∧
      ∃ e, (d.removeDevice .sample).storeEvents = d.storeEvents ++ [e] ∧
        e.change = .removed ∧ e.identity = .sample ∧
        ((d.removeDevice .sample).hear .default e).Ended .sample := by
  intro d
  have speaks : Scheme.ofText? Settings.default.scheme = some Identity.sample.scheme := by
    decide +kernel
  have isOpen : d.sessions.contains .sample = true := by decide +kernel
  have mastered : (d.removeDevice .sample).mastership.isLocalMaster .sample = true := by
    decide +kernel
  have present : (d.store.get? .sample).isSome = true := by decide +kernel
  obtain ⟨known, stored⟩ := Option.isSome_iff_exists.1 present
  have candid : ((describing (.ofIdentity .sample)).slice .sample).driver.Candid
      Settings.default.scheme := by
    rw [driver_describing]
    rintro replies found ⟨⟩ ⟨⟩
    exact Description.names_placeholder speaks
  have reached : (describing (.ofIdentity .sample)).Reaches .default Unfailing d :=
    Reaches.refl.after ⟨trivial, trivial, trivial⟩
  have candidly : (describing (.ofIdentity .sample)).Reaches .default
      (Candid Settings.default.scheme .sample) d :=
    Reaches.refl.after ⟨trivial, trivial, trivial⟩
  exact ⟨isOpen, Reaches.removal_ends speaks rfl rfl rfl reached stored (.inr ⟨candid, candidly⟩)
    .refl mastered⟩

/-- A driver that describes its device without naming the scheme keeps the session of the device
open when that is removed from the store. -/
theorem removal_passed_over :
    let d := (describing ∅).after .default Step.promotion
    let e : StoreEvent := ⟨.removed, .sample, ∅⟩
    let heard := (d.removeDevice .sample).hear .default e
    (describing ∅).Reaches .default Unfailing d ∧
      Scheme.ofText? Settings.default.scheme = some Identity.sample.scheme ∧
      d.mastership.isLocalMaster .sample = true ∧
      (d.removeDevice .sample).storeEvents = d.storeEvents ++ [e] ∧
      (d.removeDevice .sample).mastership.isLocalMaster .sample = true ∧
      heard.sessions.contains .sample = true ∧
      (heard.records.read .sample).state = .connected :=
  ⟨Reaches.refl.after ⟨trivial, trivial, trivial⟩, by decide +kernel, by decide +kernel,
    by decide +kernel, by decide +kernel, by decide +kernel, by decide +kernel⟩

end Deployment

end Southbound
