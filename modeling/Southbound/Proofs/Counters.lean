import Southbound.Proofs.Backing
import Southbound.Proofs.Idempotence
import Southbound.Proofs.Removal

/-!
# Ports and counters that the store shows

The store shows ports and counters of a device, and both belong to a session.  Ports go with it: a
device that is shown unavailable has none (`Slice.Shut`).  Counters do not: a disconnection empties
the list of ports and leaves the counters as they are, so that those of an ended session are shown
until the next ones are collected (`Deployment.counters_outlive_ports`).

Nothing else leaves counters without ports.  Counters are written only while the record says that
ports were discovered, and then there are some; this is `Slice.Tallied`, which every action keeps
but those by which discovery fills the store, and discovery keeps it as a whole.  The main statement
is `Deployment.Reaches.counters_with_ports`: a device whose counters went with its ports is shown
with counters and without ports only if the store was told since that it is disconnected.
-/

namespace Southbound

open Connection Deployment Discovery Job Reconciliation

/-! ## Ports of unavailable devices -/

namespace Slice

/-- A device that is shown unavailable has no ports. -/
def Shut (v : Slice) : Prop :=
  ∀ known, v.stored? = some known → known.available = false → known.ports = []

section

variable (v : Slice)

@[simp] theorem shut_setKey (key? : Option Credentials) : (v.setKey key?).Shut ↔ v.Shut := Iff.rfl

@[simp] theorem shut_setOpen (isOpen : Bool) : (v.setOpen isOpen).Shut ↔ v.Shut := Iff.rfl

@[simp] theorem shut_accept (role : Role) : (v.accept role).Shut ↔ v.Shut := Iff.rfl

@[simp] theorem shut_change (c : RecordChange) : (v.change c).Shut ↔ v.Shut := Iff.rfl

/-- A disconnected device has no ports. -/
@[simp] theorem shut_disconnect : v.disconnect.Shut := by
  intro after stored _
  obtain ⟨before, -, rfl⟩ := Option.map_eq_some_iff.1 stored
  rfl

end

variable {v v' : Slice}

theorem shut_of_available (available : v.available = true) : v.Shut := by
  intro known stored unavailable
  rw [Slice.available, stored, Option.any_some, unavailable] at available
  cases available

/-- A device that is not stored has no ports, however it is announced. -/
theorem shut_announce_missing (missing : v.stored? = none) (d : Description) :
    (v.announce d).Shut := by
  intro known stored _
  rw [announce, missing] at stored
  cases stored
  rfl

theorem Shut.counts (h : v.Shut) (counted : v.Counts v') : v'.Shut := by
  rcases counted with rfl | ⟨list, rfl⟩
  · exact h
  · intro after stored unavailable
    obtain ⟨before, known, rfl⟩ := Option.map_eq_some_iff.1 stored
    exact h before known unavailable

end Slice

namespace Job

section shut

variable (id : Identity) {v : Slice}

theorem shut_addIfMissing (h : v.Shut) :
    (addIfMissing id).Ensures .honest id v fun _ v' _ => v'.Shut := by
  refine ensures_addIfMissing.mono fun _ v' _ outcome => ?_
  rcases outcome with rfl | ⟨missing | absent, rfl⟩
  · exact h
  · exact Slice.shut_announce_missing missing _
  · exact absurd rfl absent

theorem shut_announceIfMissing (h : v.Shut) :
    (announceIfMissing id).Ensures .honest id v fun _ v' _ => v'.Shut := by
  refine ensures_announceIfMissing.mono fun _ v' _ outcome => ?_
  rcases outcome with rfl | ⟨missing | absent, rfl⟩
  · exact h
  · exact Slice.shut_announce_missing missing _
  · exact absurd rfl absent

/-- Ports are brought to available devices only. -/
theorem shut_discoverPorts {p : Hazards} (h : v.Shut) :
    (discoverPorts id).Ensures p id v fun _ v' _ => v'.Shut := by
  by_cases available : v.available = true
  · refine ensures_discoverPorts.mono fun _ v' _ ⟨v₁, brought, counted⟩ => ?_
    refine (?_ : v₁.Shut).counts counted
    rcases brought with rfl | ⟨list, -, -, rfl⟩
    · exact h
    · exact Slice.shut_of_available ((Slice.available_bring v list).trans available)
  · simp [discoverPorts, available, h]

theorem shut_abandon {p : Hazards} (h : v.Shut) :
    (abandon id).Ensures p id v fun _ v' _ => v'.Shut := by
  refine ensures_abandon.mono fun _ v' _ ⟨w, outcome, kept⟩ => ?_
  have left : w.Shut := by
    rcases outcome with rfl | rfl
    · exact h
    · exact Slice.shut_disconnect _
  rcases kept with rfl | rfl <;> exact left

theorem shut_connect (h : v.Shut) :
    (connect id).Ensures .honest id v fun _ v' _ => v'.Shut := by
  have abandoned : (abandon id).Ensures .honest id (v.change (.reached .connecting))
      fun _ v' _ => v'.Shut := shut_abandon id h
  have announced : (announceIfMissing id).Ensures .honest id
      (((v.change (.reached .connecting)).setOpen true).change (.reached .connected))
      fun _ v' _ => v'.Shut := shut_announceIfMissing id h
  simp only [connect, pure_eq, bind_eq, ensures_bind, ensures_ite, ensures_done, ensures_reportRole,
    Hazards.honest, forall_const, Slice.shut_accept, and_self, ensures_log, ensures_openSession,
    ensures_changeRecord, Slice.shut_change, Bool.not_eq_true, ensures_probe, ensures_readRecord, h,
    implies_true, true_and, and_true]
  exact fun _ _ => ⟨fun _ => abandoned.regardless, fun _ _ => announced.regardless,
    fun _ => abandoned.regardless⟩

end shut

/-- Whatever the provider does to a device, it is not shown unavailable with ports. -/
theorem shut_invariant (calm : Slice → Prop) : Invariant .honest calm Slice.Shut where
  desired h := h
  shown h := h
  marked _ _ h := h
  addIfMissing := shut_addIfMissing
  announceAvailable _ placeholder _ h :=
    (ensures_announceAvailable placeholder).mono fun _ v' _ outcome => by
      rcases outcome with rfl | ⟨d, byDefault, rfl⟩
      · exact h
      · exact Slice.shut_of_available ((Slice.available_announce ..).trans byDefault)
  discoverPorts id _ h := shut_discoverPorts id h
  dropped _ _ h := h
  registerCredentials id c _ h := by simp [registerCredentials, h]
  markUnreachable id _ h := by simp [markUnreachable, h]
  connect := shut_connect
  release id role _ h := by simp [Connection.release, disconnectIfStored, h]
  sessionLost id _ _ h := by simp [sessionLost, h]
  deviceRemoved id _ h := by simp [deviceRemoved, h]
  tearDown id _ h := by simp [tearDown, h]

end Job

/-! ## Counters without ports -/

/-- Whether the action is one of those by which discovery fills the store. -/
def Action.fills : Action → Bool
  | writeStore (.ports _ _) | writeStore (.statistics _ _) | changeRecord _ .portsDiscovered => true
  | _ => false

theorem Action.fills_of_looks {id : Identity} {a : Action} (looks : a.Looks id) :
    a.fills = false := by
  cases a <;> first | rfl | cases looks.2

namespace Slice

variable {v v' : Slice}

/-- Ports that count as discovered are stored, and counters are stored with ports only. -/
structure Tallied (v : Slice) : Prop where
  listed : v.record.portsDiscovered = true → ∃ known, v.stored? = some known ∧ known.ports ≠ []
  counted : ∀ known, v.stored? = some known → known.ports = [] → known.statistics = []

namespace Tallied

/-- What happens to the record alone discovers nothing. -/
theorem recorded (h : v.Tallied) {record? : Option DeviceRecord}
    (undiscovered : (record?.getD .fresh).portsDiscovered = true →
      v.record.portsDiscovered = true) :
    Tallied { v with record? } :=
  ⟨fun discovered => h.listed (undiscovered discovered), h.counted⟩

theorem change (h : v.Tallied) {id : Identity} {c : RecordChange}
    (plain : Action.fills (.changeRecord id c) = false) : (v.change c).Tallied := by
  refine h.recorded fun discovered => ?_
  cases c with
  | portsDiscovered => cases plain
  | ended => cases discovered
  | _ => exact discovered

/-- A device keeps its ports and counters when it is announced anew. -/
theorem announce (h : v.Tallied) (d : Description) : (v.announce d).Tallied where
  listed discovered := by
    obtain ⟨known, stored, ports⟩ := h.listed discovered
    exact ⟨_, rfl, by simpa [StoredDevice.announced, stored] using ports⟩
  counted after same := by
    obtain rfl : StoredDevice.announced v.stored? d = after := Option.some.inj same
    cases stored : v.stored? with
    | none => exact fun _ => rfl
    | some known => exact h.counted known stored

/-- There are ports when they are brought. -/
theorem brings (h : v.Tallied) (brought : v.Brings v') : v'.Tallied := by
  rcases brought with rfl | ⟨list, ports, stored, rfl⟩
  · exact h
  · obtain ⟨known, found⟩ := Option.isSome_iff_exists.1 stored
    have filled : (v.bring list).stored? = some (known.withPorts list) := by simp [bring, found]
    refine ⟨fun _ => ⟨_, filled, ports⟩, fun after same empty => ?_⟩
    obtain rfl : known.withPorts list = after := Option.some.inj (filled.symm.trans same)
    exact absurd empty ports

/-- There are ports when counters are brought. -/
theorem count (h : v.Tallied) (discovered : v.record.portsDiscovered = true)
    (list : List PortStatistics) : (v.count list).Tallied := by
  obtain ⟨known, found, ports⟩ := h.listed discovered
  have filled : (v.count list).stored? = some (known.withStatistics list) := by
    simp [Slice.count, found]
  refine ⟨fun _ => ⟨_, filled, ports⟩, fun after same empty => ?_⟩
  obtain rfl : known.withStatistics list = after := Option.some.inj (filled.symm.trans same)
  exact absurd empty ports

/-- An action that neither fills the store nor disconnects the device leaves it tallied. -/
theorem perform (h : v.Tallied) {a : Action} (plain : a.fills = false)
    (connected : ∀ id, a ≠ .writeStore (.disconnect id)) (fault : Option Fault) :
    (v.perform fault a).2.Tallied := by
  have becomes := becomes_perform v fault a
  generalize performed : (v.perform fault a).2 = v' at becomes ⊢
  cases becomes with
  | same => exact h
  | keyStored | keyRemoved | opened | closed | accepted => exact ⟨h.listed, h.counted⟩
  | changed id c => exact h.change plain
  | written w known =>
    cases w with
    | disconnect id => exact absurd rfl (connected id)
    | ports | statistics => cases plain
    | connect id d =>
      rw [← performed]
      rcases attempt_cases v fault (v.write (.connect id d)) with same | wrote
      · exact (congrArg Tallied same).mpr h
      · have announced : v.announce d = (v.attempt fault (v.write (.connect id d))).2 :=
          Except.ok.inj wrote
        exact (congrArg Tallied announced).mp (h.announce d)

end Tallied

end Slice

namespace Job

/-- Counters are brought only to a device whose ports count as discovered. -/
theorem tallied_bringStatistics {p : Hazards} (id : Identity) {v : Slice} (driver : Driver)
    (h : v.Tallied) : (bringStatistics id driver).Ensures p id v fun _ v' _ => v'.Tallied := by
  simp only [bringStatistics, bind_eq, ensures_bind, ensures_readRecord, ensures_ite, ensures_log,
    h, implies_true, and_true]
  intro discovered
  cases driver.portStatistics with
  | none => simpa using h
  | some reply =>
    cases reply with
    | answer list => simp [h, h.count discovered list]
    | failure e => simpa using h
    | crash => simpa using h

theorem tallied_discoverPorts {p : Hazards} (id : Identity) {v : Slice} (h : v.Tallied) :
    (discoverPorts id).Ensures p id v fun _ v' _ => v'.Tallied := by
  simp only [discoverPorts, bind_eq, ensures_bind, ensures_isLocalMaster, ensures_isAvailable,
    ensures_lookUp, ensures_ite, ensures_log, h, implies_true, true_and, and_true]
  intro _ _
  cases v.found? with
  | none => simpa using h
  | some device =>
    refine ((ensures_bringPorts device.driver).mono fun _ _ _ => h.brings).andThen fun _ v₁ h₁ => ?_
    exact tallied_bringStatistics id device.driver h₁

end Job

/-! ## Since some point of a run -/

namespace Deployment

variable {before : List Call} {id : Identity} {d : Deployment}

/-- Since the calls before, the store was told that the device is disconnected, or the device is
tallied. -/
def TalliedSince (before : List Call) (id : Identity) (d : Deployment) : Prop :=
  ∃ cs, d.calls = before ++ cs ∧ (.deviceDisconnected id ∈ cs ∨ (d.slice id).Tallied)

/-- What was told stays told. -/
theorem TalliedSince.extend {d' : Deployment} {cs : List Call} (h : d.TalliedSince before id)
    (calls : d'.calls = d.calls ++ cs)
    (tallied : (d.slice id).Tallied → .deviceDisconnected id ∈ cs ∨ (d'.slice id).Tallied) :
    d'.TalliedSince before id := by
  obtain ⟨since, seen, told | kept⟩ := h
  · exact ⟨since ++ cs, by rw [calls, seen, List.append_assoc],
      .inl (List.mem_append_left _ told)⟩
  · exact ⟨since ++ cs, by rw [calls, seen, List.append_assoc],
      (tallied kept).imp_left (List.mem_append_right _)⟩

theorem TalliedSince.perform (h : d.TalliedSince before id) {a : Action} (plain : a.fills = false) :
    (d.perform a).2.TalliedSince before id := by
  refine h.extend (d.calls_perform a) fun tallied => ?_
  have follows := d.follows_perform a id
  generalize slice : (d.perform a).2.slice id = v at follows ⊢
  cases follows with
  | same => exact .inr tallied
  | marked desired =>
    refine .inr (tallied.recorded fun discovered => ?_)
    cases record : (d.slice id).record? with
    | none => simp [record, DeviceRecord.fresh] at discovered
    | some r => simpa [Slice.record, record] using discovered
  | pruned =>
    refine .inr (tallied.recorded fun discovered => ?_)
    cases kept : (d.slice id).record?.filter (·.isKept) with
    | none => simp [kept, DeviceRecord.fresh] at discovered
    | some r =>
      rw [Slice.record, (Option.filter_eq_some_iff.1 kept).1]
      simpa [kept] using discovered
  | about concerns _ =>
    by_cases connected : ∀ id', a ≠ .writeStore (.disconnect id')
    · rw [← slice, (d.perform_slice concerns).2.own]
      exact .inr (tallied.perform plain connected _)
    · obtain ⟨id', disconnects⟩ := not_forall_not.1 connected
      subst disconnects
      obtain rfl : id' = id := concerns
      exact .inl (List.mem_singleton_self _)

end Deployment

/-- The jobs that leave a device tallied unless they disconnect it. -/
abbrev Job.Kind.tallying (before : List Call) (id : Identity) : Job.Kind :=
  .keeping fun d => d.TalliedSince before id

namespace Job

variable {before : List Call} {id : Identity} {α : Type}

theorem ok_tallying {a : Action} (plain : a.fills = false) : (Kind.tallying before id).ok a :=
  fun _ h => h.perform plain

theorem tallying_of_plain {j : Job α} (plain : j.Only fun a => a.fills = false) :
    (Kind.tallying before id).mem j :=
  Kind.mem_of_only (plain.mono fun _ plain => ok_tallying plain)

theorem tallying_ofAction (a : Action) (plain : a.fills = false) :
    (Kind.tallying before id).mem (ofAction a) :=
  tallying_of_plain (only_ofAction plain)

/-- A job about one device is followed slice by slice, whatever goes wrong. -/
theorem tallying_of_ensures {j : Job α} {id' : Identity} (only : j.Only (Action.Concerns id'))
    (ensured : ∀ v : Slice, v.Tallied →
      j.Ensures (fun _ _ => True) id' v fun _ v' _ => v'.Tallied) :
    (Kind.tallying before id).mem j := by
  intro d h
  obtain ⟨cs, seen, told | tallied⟩ := h
  · have extend : ∀ (d : Deployment) (a : Action), a.Concerns id' →
        (∃ cs, d.calls = before ++ cs ∧ .deviceDisconnected id ∈ cs) →
        ∃ cs, (d.perform a).2.calls = before ++ cs ∧ .deviceDisconnected id ∈ cs := by
      rintro d a - ⟨cs, seen, told⟩
      exact ⟨cs ++ a.call?.toList, by rw [d.calls_perform, seen, List.append_assoc],
        List.mem_append_left _ told⟩
    obtain ⟨cs, seen, told⟩ := only.run extend ⟨cs, seen, told⟩
    exact ⟨cs, seen, .inl told⟩
  · by_cases same : id = id'
    · subst same
      obtain ⟨_, v, cs', d', ran, moved, kept⟩ :=
        run_of_ensures (ensured _ tallied) fun _ _ _ => trivial
      rw [ran]
      exact ⟨cs ++ cs', by rw [moved.calls, seen, List.append_assoc], .inr (moved.own ▸ kept)⟩
    · have elsewhere : (Kind.tallying before id).mem j :=
        Kind.mem_of_only (only.mono fun a concerns d h =>
          have moved := (d.perform_slice concerns).2
          h.extend moved.calls fun tallied => .inr (moved.others id same ▸ tallied))
      exact elsewhere d ⟨cs, seen, .inr tallied⟩

theorem tallying_discoverPorts (id' : Identity) :
    (Kind.tallying before id).mem (discoverPorts id') :=
  tallying_of_ensures ((aside_discoverPorts id').mono fun _ aside => aside.1)
    fun _ h => tallied_discoverPorts id' h

theorem tallying_announceAvailable (id' : Identity) (placeholder : Description) :
    (Kind.tallying before id).mem (announceAvailable id' placeholder) := by
  refine tallying_of_ensures ((aside_announceAvailable id' _).mono fun _ aside => aside.1)
    fun v h => (ensures_announceAvailable placeholder).mono fun _ v' _ outcome => ?_
  rcases outcome with rfl | ⟨d, -, rfl⟩
  · exact h
  · have plain : Action.fills (.changeRecord id' (.announced d)) = false := rfl
    exact (h.announce d).change plain

/-- What the provider does to a device fills the store by discovery only. -/
theorem plain_connect (id : Identity) : (connect id).Only fun a => a.fills = false := by
  simp [connect, abandon, disconnectIfStored, announceIfMissing, warnOnRefusal, forall_except,
    Action.fills]

theorem tallying_reconcileDevice (id' : Identity) (device : DesiredDevice) :
    (Kind.tallying before id).mem (reconcileDevice id' device) := by
  let K := Kind.tallying before id
  have discovered : K.mem (discoverUnlessKnown id') :=
    K.mem_bind (tallying_ofAction (.readRecord id') rfl) fun _ =>
      Kind.mem_ite (fun _ => tallying_discoverPorts id') fun _ => K.mem_done _
  have registered : (registerCredentials id' device.credentials).Only fun a => a.fills = false := by
    simp [registerCredentials, forall_except, Action.fills]
  have added : (addIfMissing id').Only fun a => a.fills = false := by
    simp [addIfMissing, warnOnRefusal, forall_except, Action.fills]
  have vanished : (markUnreachable id').Only fun a => a.fills = false := by
    simp [markUnreachable, warnOnRefusal, forall_except, Action.fills]
  refine Kind.mem_reconcileDevice_of (K := K) (ok_tallying rfl) (tallying_of_plain registered)
    (tallying_of_plain added) ?_
  refine Kind.mem_converge_of (K := K)
    (fun _ looks => ok_tallying (Action.fills_of_looks looks))
    (fun available _ later =>
      K.mem_bind (tallying_ofAction (.changeRecord id' (.shown available)) rfl) fun _ => later)
    (ok_tallying rfl) _ ?_ discovered (tallying_of_plain vanished)
  refine K.mem_bind (tallying_ofAction (.isLocalMaster id') rfl) fun mastered => ?_
  refine Kind.mem_ite (fun _ => ?_) fun _ => tallying_ofAction (.log _) rfl
  exact K.mem_bind (tallying_announceAvailable id' _) fun _ => discovered

/-- Whatever the provider is told to do, a device is left tallied unless it is disconnected. -/
theorem tallying_operation (s : Settings) (o : Operation) :
    (Kind.tallying before id).mem (o.job s) := by
  let K := Kind.tallying before id
  have reads : ∀ appId, K.mem (desiredDevices appId) := fun _ =>
    K.mem_bind (tallying_ofAction _ rfl) fun _ => tallying_ofAction _ rfl
  have logs : ∀ l, K.ok (.log l) := fun _ => ok_tallying rfl
  have torn : ∀ id, K.mem (tearDown id) := fun id' => tallying_of_plain (by
    simp [tearDown, warnOnRefusal, forall_except, Action.fills])
  have removed : ∀ id, K.mem (deviceRemoved id) := fun id' => tallying_of_plain (by
    simp [deviceRemoved, warnOnRefusal, forall_except, Action.fills])
  have lost : ∀ id, K.mem (sessionLost id) := fun id' => tallying_of_plain (by
    simp [sessionLost, forall_except, Action.fills])
  have released : ∀ id role, K.mem (Connection.release id role) := fun id' role =>
    tallying_of_plain (by
      simp [Connection.release, disconnectIfStored, warnOnRefusal, forall_except, Action.fills])
  refine Kind.mem_operation (K := K) s
    (Kind.mem_reconcileAll logs reads tallying_reconcileDevice (fun _ => ok_tallying rfl)
      (ok_tallying rfl) s)
    (Kind.mem_reconcileOne logs reads tallying_reconcileDevice s) lost (fun e => ?_)
    (fun id' role _ => ?_) removed torn (Kind.mem_tearDownAll (ok_tallying rfl) torn)
    tallying_discoverPorts
  · exact Kind.mem_reactToStore_of (K := K) s
      (fun _ looks => ok_tallying (Action.fills_of_looks looks))
      (tallying_discoverPorts e.identity) (removed e.identity)
  · exact Kind.mem_changeRole (ok_tallying rfl) logs
      (fun _ => tallying_of_plain (plain_connect id')) fun _ => released id' role

end Job

/-! ## Throughout a run -/

namespace Deployment

variable {s : Settings} {start d d' : Deployment} {id : Identity}

theorem TalliedSince.change {before : List Call} {c : Change} (h : d.TalliedSince before id)
    (undisturbed : d.Undisturbed (.change c)) : (c.apply d).TalliedSince before id := by
  have calls : (c.apply d).calls = d.calls ++ [] := by rw [calls_change, List.append_nil]
  refine h.extend calls fun tallied => .inr ?_
  cases c with
  | remove id' => exact undisturbed.elim
  | _ => exact ⟨tallied.listed, tallied.counted⟩

theorem TalliedSince.reaches {before : List Call} (h : d.TalliedSince before id)
    (later : d.Reaches s Undisturbed d') : d'.TalliedSince before id := by
  induction later with
  | refl => exact h
  | step _ step admitted ih =>
    cases step with
    | operation o => exact tallying_operation s o _ ih
    | change c => exact ih.change admitted

theorem Reaches.shut (later : d.Reaches s Undisturbed d') (h : d.Holds .honest Slice.Shut) :
    d'.Holds .honest Slice.Shut :=
  (shut_invariant fun _ => True).reaches (fun _ _ _ => trivial)
    (fun _ _ => holds_of_undisturbed (P := fun t => ∀ known, t.stored? = some known →
      known.available = false → known.ports = [])) h later

theorem shut_of_empty (store : d.store = ∅) (id : Identity) : (d.slice id).Shut := by
  intro known stored
  have unstored : (d.slice id).stored? = none := by
    rw [slice, store]
    rfl
  cases unstored.symm.trans stored

/-- While only the provider writes to the store, a device that is shown unavailable has no ports.
One whose counters went with its ports is shown with counters and without ports only if the store
was told since that it is disconnected. -/
theorem Reaches.counters_with_ports {known : StoredDevice} (records : start.records = ∅)
    (store : start.store = ∅) (within : start.faults.Within .honest)
    (reached : start.Reaches s Undisturbed d) (later : d.Reaches s Undisturbed d')
    (stored : d'.store.get? id = some known) :
    (known.available = false → known.ports = []) ∧
      ((∀ earlier, d.store.get? id = some earlier → earlier.ports = [] → earlier.statistics = []) →
        known.ports = [] →
        known.statistics = [] ∨
          ∃ cs, d'.calls = d.calls ++ cs ∧ .deviceDisconnected id ∈ cs) := by
  have shut := later.shut (reached.shut ⟨within, shut_of_empty store⟩)
  refine ⟨shut.every id known stored, fun counted unported => ?_⟩
  have first : d.TalliedSince d.calls id :=
    ⟨[], (List.append_nil _).symm, .inr ⟨((reached.backed records within).every id).ports, counted⟩⟩
  obtain ⟨cs, calls, told | tallied⟩ := first.reaches later
  · exact .inr ⟨cs, calls, told⟩
  · exact .inl (tallied.counted known stored unported)

/-- The device of `Deployment.sample` with a driver that lists a port and its counters. -/
def metered : Deployment :=
  { Deployment.sample with
    drivers := (∅ : SortedMap Identity Driver).insert .sample
      ((CapabilitySet.empty.insert (.ports (.answer [⟨1, "uplink", true, 1000⟩]))).insert
        (.portStatistics (.answer [⟨1, 10, 20, 1000, 2000, 0, 0⟩]))) }

/-- The device is found by a pass. -/
def found : Deployment := metered.after .default [.operation (.order .pass)]

/-- A pass finds that the device no longer answers. -/
def vanished : Deployment :=
  found.after .default [.change (.reach ∅), .operation (.order .pass)]

/-- The counters that are shown after an outage come from before the disconnection. -/
theorem counters_with_ports_vanished :
    (∃ earlier, found.store.get? .sample = some earlier ∧ earlier.available = true ∧
      earlier.ports ≠ []) ∧
    ∃ known, vanished.store.get? .sample = some known ∧ known.available = false ∧
      known.ports = [] ∧
      ∃ cs, vanished.calls = found.calls ++ cs ∧ .deviceDisconnected .sample ∈ cs := by
  have before : (found.store.get? .sample).any (fun earlier =>
      earlier.available ∧ earlier.ports ≠ []) = true := by
    decide +kernel
  have after : (vanished.store.get? .sample).any (fun known =>
      known.available = false ∧ known.ports = [] ∧ known.statistics ≠ []) = true := by
    decide +kernel
  obtain ⟨earlier, held, shown⟩ := (Option.any_eq_true _ _).1 before
  obtain ⟨known, stored, left⟩ := (Option.any_eq_true _ _).1 after
  obtain ⟨available, ports⟩ := of_decide_eq_true shown
  obtain ⟨unavailable, -, statistics⟩ := of_decide_eq_true left
  have reached : metered.Reaches .default Undisturbed found := Reaches.refl.after ⟨trivial, trivial⟩
  have later : found.Reaches .default Undisturbed vanished :=
    Reaches.refl.after ⟨trivial, trivial, trivial⟩
  have law := Reaches.counters_with_ports rfl rfl (Faults.within_none _) reached later stored
  have counted : ∀ earlier', found.store.get? .sample = some earlier' → earlier'.ports = [] →
      earlier'.statistics = [] := by
    intro earlier' same empty
    cases held.symm.trans same
    exact absurd empty ports
  have unported := law.1 unavailable
  exact ⟨⟨earlier, held, available, ports⟩, known, stored, unavailable, unported,
    (law.2 counted unported).resolve_left statistics⟩

/-- Nothing goes wrong, and the device is shown with counters and without ports. -/
theorem counters_outlive_ports :
    metered.Reaches .default Undisturbed vanished ∧
      ∃ known, vanished.store.get? .sample = some known ∧ known.ports = [] ∧
        known.statistics ≠ [] := by
  have reached : metered.Reaches .default Undisturbed found := Reaches.refl.after ⟨trivial, trivial⟩
  have shown : (vanished.store.get? .sample).any (fun known =>
      known.ports = [] ∧ known.statistics ≠ []) = true := by
    decide +kernel
  obtain ⟨known, stored, left⟩ := (Option.any_eq_true _ _).1 shown
  exact ⟨reached.after ⟨trivial, trivial, trivial⟩, known, stored, of_decide_eq_true left⟩

end Deployment

end Southbound
