import Southbound.Deployment

/-!
# Slices of a deployment

Nearly everything that the provider does is about one device: a job that connects, converges or
tears down a device looks at and changes what is held about that device and nothing else.  A
`Slice` is what a deployment holds about one device, in the provider's memory and in the systems
around it.  What is seen of the provider (`Deployment.calls`) is kept apart from it.

`Slice.perform` says what an action does to the slice of its device, given what goes wrong.  By the
main statement, `Deployment.perform_slice`, a deployment does to the slice of the device just that
and nothing to the others; `Deployment.Moves` says what else stays.  After it nobody needs to look
at the maps of a deployment when a job is about one device.
-/

namespace Southbound

/-- What a deployment holds about one device. -/
structure Slice where
  record? : Option DeviceRecord
  stored? : Option StoredDevice
  driver : Driver
  key? : Option Credentials
  /-- Whether a session is open. -/
  isOpen : Bool
  /-- The node that masters the device. -/
  master? : Option NodeId
  /-- Whether this node masters the device. -/
  isMaster : Bool
  /-- The role that was accepted last. -/
  accepted? : Option Role
  /-- Whether the device answers probes. -/
  answers : Bool

namespace Deployment

/-- The slice of one device. -/
def slice (d : Deployment) (id : Identity) : Slice where
  record? := d.records.get? id
  stored? := d.store.get? id
  driver := (d.drivers.get? id).getD ∅
  key? := d.keys.get? id
  isOpen := d.sessions.contains id
  master? := d.mastership.masterOf id
  isMaster := d.mastership.isLocalMaster id
  accepted? := d.mastership.accepted.get? id
  answers := d.reachable.contains id

/-- The calls that were seen, oldest first. -/
def calls (d : Deployment) : List Call := d.history.filterMap (·.call?)

end Deployment

/-! ## What an action is about -/

namespace Action

/-- Whether the action has to do with no device but this one, and with nothing that devices
share. -/
def Concerns (id : Identity) : Action → Prop
  | log _ => True
  | readRecord id' | changeRecord id' _ | probe id' | storeKey id' _ | removeKey id'
  | openSession id' | closeSession id' _ | lookUp id' | isAvailable id' | isLocalMaster id'
  | masterOf id' | reportRole id' _ _ | discoverDetails id' _ | discoverPortDetails id' _
  | listPorts id' _ | discoverStatistics id' _ => id' = id
  | writeStore w => w.identity = id
  | isActive | setActive _ | markDesired _ | prune | registered | requestDevices _
  | receiveDevices _ _ => False

/-- Where the action can go wrong. -/
def faultPoint? : Action → Option FaultPoint
  | requestDevices _ => some .desiredDevices
  | probe id => some (.probe id)
  | storeKey id _ => some (.storeKey id)
  | removeKey id => some (.removeKey id)
  | openSession id => some (.openSession id)
  | closeSession id _ => some (.closeSession id)
  | writeStore w => some (Deployment.storeCall w).2
  | lookUp id => some (.lookUp id)
  | isAvailable id => some (.isAvailable id)
  | isLocalMaster id => some (.isLocalMaster id)
  | masterOf id => some (.masterOf id)
  | reportRole id _ _ => some (.reportRole id)
  | log _ | isActive | setActive _ | readRecord _ | changeRecord _ _ | markDesired _ | prune
  | registered | receiveDevices _ _ | discoverDetails _ _ | discoverPortDetails _ _
  | listPorts _ _ | discoverStatistics _ _ => none

/-- The call that is seen of the action. -/
def call? : Action → Option Call
  | requestDevices appId => some (.desiredDevices appId)
  | probe id => some (.probe id)
  | storeKey id c => some (.storeKey id c)
  | removeKey id => some (.removeKey id)
  | openSession id => some (.openSession id)
  | closeSession id force => some (.closeSession id force)
  | writeStore w => some (Deployment.storeCall w).1
  | reportRole id requested accepted => some (.reportRole id requested accepted)
  | discoverDetails id _ => some (.discoverDetails id)
  | discoverPortDetails id _ => some (.discoverPortDetails id)
  | listPorts id _ => some (.listPorts id)
  | discoverStatistics id _ => some (.discoverStatistics id)
  | log _ | isActive | setActive _ | readRecord _ | changeRecord _ _ | markDesired _ | prune
  | registered | receiveDevices _ _ | lookUp _ | isAvailable _ | isLocalMaster _ | masterOf _ =>
    none

end Action

/-! ## What an action does to a slice -/

/-- The store entry of a device that is described anew. -/
def StoredDevice.announced (stored? : Option StoredDevice) (d : Description) : StoredDevice :=
  match stored? with
  | some known => { known with description := d, available := d.availableByDefault }
  | none => ⟨d, d.availableByDefault, [], []⟩

/-- The store entry of a device that is no longer available. -/
def StoredDevice.gone (known : StoredDevice) : StoredDevice :=
  { known with available := false, ports := [] }

/-- The store entry with these ports. -/
def StoredDevice.withPorts (known : StoredDevice) (list : List Port) : StoredDevice :=
  { known with ports := list }

/-- The store entry with these counters. -/
def StoredDevice.withStatistics (known : StoredDevice) (list : List PortStatistics) :
    StoredDevice :=
  { known with statistics := list }

namespace StoreWrite

/-- What a write makes of the store entry of its device. -/
def entry (w : StoreWrite) (stored? : Option StoredDevice) :
    Except CollaboratorError StoredDevice :=
  match w, stored? with
  | .connect _ d, _ => .ok (.announced stored? d)
  | .disconnect _, some known => .ok known.gone
  | .ports _ list, some known => .ok (known.withPorts list)
  | .statistics _ list, some known => .ok (known.withStatistics list)
  | .disconnect id, none | .ports id _, none | .statistics id _, none =>
    .error (.store s!"unknown device {id}")

end StoreWrite

/-- The store changes in the entry of one device, as the write asks for. -/
theorem DeviceStore.write_eq (s : DeviceStore) (w : StoreWrite) :
    ∃ events, s.write w = (w.entry (s.get? w.identity)).map fun known =>
      (s.insert w.identity known, events) := by
  cases w with
  | connect id d =>
    cases h : s.get? id with
    | none => exact ⟨_, by simp only [write, connect, StoreWrite.identity, h]; rfl⟩
    | some known => exact ⟨_, by simp only [write, connect, StoreWrite.identity, h]; rfl⟩
  | disconnect id | ports id _ | statistics id _ =>
    cases h : s.get? id with
    | none =>
      exact ⟨[], by simp only [write, present, StoreWrite.entry, StoreWrite.identity, h]; rfl⟩
    | some known =>
      exact ⟨_, by simp only [write, present, StoreWrite.entry, StoreWrite.identity, h]; rfl⟩

namespace Slice

/-- The record, a fresh one if there is none. -/
def record (v : Slice) : DeviceRecord := v.record?.getD .fresh

/-- The record changes. -/
def change (v : Slice) (c : RecordChange) : Slice := { v with record? := some (c.apply v.record) }

@[simp] theorem record_change (v : Slice) (c : RecordChange) :
    (v.change c).record = c.apply v.record := rfl

/-- The credential store holds this key, or none. -/
def setKey (v : Slice) (key? : Option Credentials) : Slice := { v with key? := key? }

/-- The session is open, or closed. -/
def setOpen (v : Slice) (isOpen : Bool) : Slice := { v with isOpen := isOpen }

/-- The role was accepted. -/
def accept (v : Slice) (role : Role) : Slice := { v with accepted? := some role }

/-- What a look at the device store finds. -/
def found? (v : Slice) : Option FoundDevice :=
  v.stored?.map fun known => ⟨known.description, v.driver⟩

/-- Whether the device store shows the device available. -/
def available (v : Slice) : Bool := v.stored?.any (·.available)

/-- Writes to the store. -/
def write (v : Slice) (w : StoreWrite) : Except CollaboratorError Slice :=
  (w.entry v.stored?).map fun known => { v with stored? := some known }

/-- The device is described anew. -/
def announce (v : Slice) (d : Description) : Slice :=
  { v with stored? := some (.announced v.stored? d) }

/-- The device is no longer available, if it is stored. -/
def disconnect (v : Slice) : Slice := { v with stored? := v.stored?.map .gone }

/-- The device has these ports, if it is stored. -/
def bring (v : Slice) (list : List Port) : Slice :=
  { v with stored? := v.stored?.map (·.withPorts list) }

/-- The device has these counters, if it is stored. -/
def count (v : Slice) (list : List PortStatistics) : Slice :=
  { v with stored? := v.stored?.map (·.withStatistics list) }

/-- Opens the session, which takes a key. -/
def openTo (v : Slice) (id : Identity) : Except CollaboratorError Slice :=
  match v.key? with
  | some _ => .ok (v.setOpen true)
  | none => .error (.session s!"no credentials for {id}")

/-- A call that breaks down, is refused or takes effect. -/
def attempt (v : Slice) (fault : Option Fault) (effect : Except CollaboratorError Slice) :
    Option (Except CollaboratorError Unit) × Slice :=
  match fault, effect with
  | some .crash, _ => (none, v)
  | some (.refuse e), _ => (some (.error e), v)
  | _, .ok v' => (some (.ok ()), v')
  | _, .error e => (some (.error e), v)

/-- An answer, unless the call breaks down. -/
def unlessCrash {α : Type} (fault : Option Fault) (answer : α) : Option α :=
  if fault = some .crash then none else some answer

/-- What a driver answers. -/
def replied {α : Type} : Reply α → Option (Except DiscoveryError α)
  | .answer a => some (.ok a)
  | .failure e => some (.error e)
  | .crash => none

@[simp] theorem replied_answer {α : Type} (a : α) : replied (.answer a) = some (.ok a) := rfl

@[simp] theorem replied_failure {α : Type} (e : DiscoveryError) :
    replied (.failure e : Reply α) = some (.error e) := rfl

@[simp] theorem replied_crash {α : Type} : replied (.crash : Reply α) = none := rfl

/-- What an action that concerns the device answers, and what it does to the slice, if this goes
wrong.  Other actions are of no interest here. -/
def perform (v : Slice) (fault : Option Fault) : (a : Action) → Option a.Answer × Slice
  | .log _ => (some (), v)
  | .readRecord _ => (some v.record, v)
  | .changeRecord _ c => (some (v.change c).record, v.change c)
  | .probe _ => (unlessCrash fault v.answers, v)
  | .storeKey _ c => v.attempt fault (.ok (v.setKey (some c)))
  | .removeKey _ => v.attempt fault (.ok (v.setKey none))
  | .openSession id => v.attempt fault (v.openTo id)
  | .closeSession _ _ => v.attempt fault (.ok (v.setOpen false))
  | .writeStore w => v.attempt fault (v.write w)
  | .lookUp _ => (unlessCrash fault (if fault = some .absent then none else v.found?), v)
  | .isAvailable _ => (unlessCrash fault v.available, v)
  | .isLocalMaster _ => (unlessCrash fault v.isMaster, v)
  | .masterOf _ => (unlessCrash fault v.master?, v)
  | .reportRole _ _ accepted =>
    (unlessCrash fault (), if fault = some .crash then v else v.accept accepted)
  | .discoverDetails _ reply => (replied reply, v)
  | .discoverPortDetails _ reply => (replied reply, v)
  | .listPorts _ reply => (replied reply, v)
  | .discoverStatistics _ reply => (replied reply, v)
  | .isActive | .setActive _ | .markDesired _ | .prune | .registered | .requestDevices _
  | .receiveDevices _ _ => (none, v)

end Slice

/-! ## What may go wrong -/

/-- Which faults may occur where. -/
abbrev Hazards := FaultPoint → Fault → Prop

/-- Nothing goes wrong. -/
def Hazards.none : Hazards := fun _ _ => False

/-- Everything that goes wrong from now on is of a certain kind. -/
def FaultPlan.Within (plan : FaultPlan) (q : Fault → Prop) : Prop :=
  ∀ fault, some fault ∈ plan.rest :: plan.script → q fault

theorem FaultPlan.Within.next {plan : FaultPlan} {q : Fault → Prop} (h : plan.Within q) :
    (∀ fault, plan.next.1 = some fault → q fault) ∧ plan.next.2.Within q := by
  obtain ⟨script, rest⟩ := plan
  cases script with
  | nil => exact ⟨fun fault now => h fault (by simp_all [FaultPlan.next]), h⟩
  | cons now later =>
    refine ⟨fun fault drawn => h fault ?_, fun fault hm => h fault ?_⟩
    · simp_all [FaultPlan.next]
    · simp only [FaultPlan.next, List.mem_cons] at hm ⊢
      exact hm.imp_right .inr

/-- Everything that goes wrong is a hazard. -/
def Faults.Within (f : Faults) (p : Hazards) : Prop := ∀ point, (f point).Within (p point)

theorem Faults.Within.mono {f : Faults} {p q : Hazards} (h : f.Within p)
    (weaker : ∀ point fault, p point fault → q point fault) : f.Within q :=
  fun point fault planned => weaker point fault (h point fault planned)

theorem Faults.within_none (p : Hazards) : Faults.none.Within p := by
  intro point fault h
  simp [Faults.none, FaultPlan.none] at h

theorem Faults.Within.plan {f : Faults} {p : Hazards} (h : f.Within p) {point : FaultPoint}
    {planned : FaultPlan} (admitted : planned.Within (p point)) :
    (f.plan point planned).Within p := by
  intro point'
  unfold Faults.plan
  split
  · next same => exact same ▸ admitted
  · exact h point'

theorem Faults.Within.draw {f : Faults} {p : Hazards} (h : f.Within p) (point : FaultPoint) :
    (f.plan point (f point).next.2).Within p :=
  h.plan (h point).next.2

theorem Faults.plan_none (point : FaultPoint) :
    Faults.none.plan point (Faults.none point).next.2 = Faults.none := by
  funext point'
  unfold Faults.plan
  split <;> rfl

/-! ## What an action does to a deployment -/

/-- What no job about a single device changes. -/
structure Setting where
  active : Bool
  drivers : SortedMap Identity Driver
  node : NodeId
  claimed : SortedSet Identity
  elsewhere : SortedMap Identity NodeId
  reachable : SortedSet Identity
  config : ConfigSource
  held : Nat
  released : Nat

namespace Deployment

/-- What no job about a single device changes. -/
def setting (d : Deployment) : Setting where
  active := d.active
  drivers := d.drivers
  node := d.mastership.node
  claimed := d.mastership.claimed
  elsewhere := d.mastership.elsewhere
  reachable := d.reachable
  config := d.config
  held := d.held
  released := d.released

/-- Deployments are the same but for what was seen, if they hold the same about every device and
nothing else differs. -/
theorem withoutHistory_eq_of_slices {d d' : Deployment} (slices : ∀ id, d.slice id = d'.slice id)
    (setting : d.setting = d'.setting) (faults : d.faults = d'.faults) :
    d.withoutHistory = d'.withoutHistory := by
  have records : d.records = d'.records :=
    SortedMap.ext fun id => congrArg Slice.record? (slices id)
  have store : d.store = d'.store := SortedMap.ext fun id => congrArg Slice.stored? (slices id)
  have keys : d.keys = d'.keys := SortedMap.ext fun id => congrArg Slice.key? (slices id)
  have accepted : d.mastership.accepted = d'.mastership.accepted :=
    SortedMap.ext fun id => congrArg Slice.accepted? (slices id)
  have sessions : d.sessions = d'.sessions := by
    refine SortedMap.ext fun id => ?_
    have same : (d.sessions.get? id).isSome = (d'.sessions.get? id).isSome :=
      congrArg Slice.isOpen (slices id)
    cases h : d.sessions.get? id <;> cases h' : d'.sessions.get? id <;> simp_all
  obtain ⟨_, _, _, _, _, _, ⟨_, _, _, _⟩, _, _, _, _, _, _⟩ := d
  obtain ⟨_, _, _, _, _, _, ⟨_, _, _, _⟩, _, _, _, _, _, _⟩ := d'
  simp only [Deployment.setting, Setting.mk.injEq] at setting
  simp_all [withoutHistory]

/-- What goes wrong when the action is done now. -/
def faultOf (d : Deployment) (a : Action) : Option Fault :=
  a.faultPoint?.bind fun point => (d.faults point).next.1

theorem faultOf_of_quiet {d : Deployment} (quiet : d.faults = .none) (a : Action) :
    d.faultOf a = none := by
  unfold faultOf
  rw [quiet]
  cases a.faultPoint? <;> rfl

/-- What goes wrong is a hazard of the point where it does. -/
theorem hazard_of_faultOf {d : Deployment} {p : Hazards} (within : d.faults.Within p) {a : Action}
    {point : FaultPoint} {fault : Fault} (at_point : a.faultPoint? = some point)
    (fails : d.faultOf a = some fault) : p point fault := by
  unfold faultOf at fails
  rw [at_point, Option.bind_some] at fails
  exact (within point).next.1 fault fails

/-- What concerns one device only does not have to wait. -/
theorem isReady_of_concerns (d : Deployment) {id : Identity} {a : Action}
    (concerns : a.Concerns id) : d.isReady a = true := by
  cases a <;> first | rfl | exact concerns.elim

/-- The second deployment comes from the first when only the slice of one device changes, these
calls are seen, and perhaps something goes wrong that was to go wrong anyway. -/
structure Moves (d : Deployment) (id : Identity) (v : Slice) (cs : List Call) (d' : Deployment) :
    Prop where
  own : d'.slice id = v
  others : ∀ id', id' ≠ id → d'.slice id' = d.slice id'
  calls : d'.calls = d.calls ++ cs
  setting : d'.setting = d.setting
  within : ∀ p, d.faults.Within p → d'.faults.Within p
  quiet : d.faults = .none → d'.faults = .none

theorem calls_note (d : Deployment) (os : List Occurrence) :
    (d.note os).calls = d.calls ++ os.filterMap (·.call?) := by
  simp [calls, note]

theorem calls_sayAll (d : Deployment) (lines : List LogLine) :
    (d.sayAll lines).calls = d.calls := by
  rw [sayAll, calls_note]
  simp [Occurrence.call?]

namespace Moves

variable {d d' d'' : Deployment} {id : Identity} {v v' : Slice} {cs cs' : List Call}

theorem refl (d : Deployment) (id : Identity) : d.Moves id (d.slice id) [] d :=
  ⟨rfl, fun _ _ => rfl, by simp, rfl, fun _ h => h, fun h => h⟩

theorem trans (first : d.Moves id v cs d') (second : d'.Moves id v' cs' d'') :
    d.Moves id v' (cs ++ cs') d'' where
  own := second.own
  others id' h := (second.others id' h).trans (first.others id' h)
  calls := by rw [second.calls, first.calls, List.append_assoc]
  setting := second.setting.trans first.setting
  within p h := second.within p (first.within p h)
  quiet h := second.quiet (first.quiet h)

/-- An effect that is not seen and leaves alone what goes wrong. -/
theorem of_slices (own : d'.slice id = v) (others : ∀ id', id' ≠ id → d'.slice id' = d.slice id')
    (history : d'.history = d.history) (setting : d'.setting = d.setting)
    (faults : d'.faults = d.faults) : d.Moves id v [] d' where
  own := own
  others := others
  calls := by rw [Deployment.calls, history, List.append_nil, Deployment.calls]
  setting := setting
  within p h := by rwa [faults]
  quiet h := by rwa [faults]

/-- What is seen changes no slice. -/
theorem note (d : Deployment) (id : Identity) (os : List Occurrence) :
    d.Moves id (d.slice id) (os.filterMap (·.call?)) (d.note os) :=
  ⟨rfl, fun _ _ => rfl, calls_note d os, rfl, fun _ h => h, fun h => h⟩

/-- What is seen of an effect, once the calls were seen. -/
theorem andNote (h : d.Moves id v cs d') {os : List Occurrence}
    (silent : os.filterMap (·.call?) = []) : d.Moves id v cs (d'.note os) := by
  have := h.trans (note d' id os)
  rwa [silent, List.append_nil, h.own] at this

end Moves

section effects

variable (d : Deployment) (id : Identity)

theorem moves_storeKey (c : Credentials) :
    d.Moves id ((d.slice id).setKey (some c)) [] (d.storeKey id c) := by
  refine .of_slices ?_ ?_ rfl rfl rfl
  · simp [slice, storeKey, Slice.setKey]
  · intro id' h
    simp [slice, storeKey, SortedMap.get?_insert_of_ne _ _ h]

theorem moves_removeKey : d.Moves id ((d.slice id).setKey none) [] (d.removeKey id) := by
  refine .of_slices ?_ ?_ rfl rfl rfl
  · simp [slice, removeKey, Slice.setKey, SortedMap.get?_erase]
  · intro id' h
    simp [slice, removeKey, SortedMap.get?_erase, h]

theorem moves_changeRecord (c : RecordChange) :
    d.Moves id ((d.slice id).change c) [] { d with records := d.records.change id c } := by
  refine .of_slices ?_ ?_ rfl rfl rfl
  · simp [slice, Slice.change, Slice.record, Records.change, Records.read]
  · intro id' h
    simp [slice, Records.change, SortedMap.get?_insert_of_ne _ _ h]

theorem moves_acceptRole (requested accepted : Role) :
    d.Moves id ((d.slice id).accept accepted) []
      (d.acceptRole id requested accepted) := by
  apply Moves.andNote ?_ rfl
  refine .of_slices ?_ ?_ rfl rfl rfl
  · simp [slice, Slice.accept, Mastership.accept, Mastership.masterOf, Mastership.isLocalMaster]
  · intro id' h
    simp [slice, Mastership.accept, Mastership.masterOf, Mastership.isLocalMaster,
      SortedMap.get?_insert_of_ne _ _ h]

theorem moves_closeSession (force : Bool) :
    d.Moves id ((d.slice id).setOpen false) [] (d.closeSession id force) := by
  unfold closeSession
  obtain ⟨-, closed⟩ | ⟨shut, closed⟩ := d.sessions.closeTo_cases id force
  · rw [closed]
    apply Moves.andNote ?_ rfl
    refine .of_slices ?_ ?_ rfl rfl rfl
    · simp [slice, Slice.setOpen, SortedMap.contains, SortedMap.get?_erase]
    · intro id' h'
      simp [slice, SortedMap.contains, SortedMap.get?_erase, h']
  · have same : (d.slice id).setOpen false = d.slice id := by simp [slice, Slice.setOpen, shut]
    rw [closed, same]
    exact Moves.note d id []

/-- The entry of one device is written, and the events of the store are seen. -/
theorem moves_insertStored (known : StoredDevice) (events : List StoreEvent) :
    d.Moves id { d.slice id with stored? := some known } []
      (({ d with store := d.store.insert id known }).note (events.map .storeChanged)) := by
  have silent : (events.map Occurrence.storeChanged).filterMap (·.call?) = [] := by
    induction events with
    | nil => rfl
    | cons e rest ih => exact ih
  apply Moves.andNote ?_ silent
  refine .of_slices ?_ ?_ rfl rfl rfl
  · simp [slice]
  · intro id' h
    simp [slice, SortedMap.get?_insert_of_ne _ _ h]

end effects

/-- An effect on a slice, and the same effect on the deployment: both fail alike, or the slice
changes and nothing else does. -/
inductive Effect (d : Deployment) (id : Identity) :
    Except CollaboratorError Slice → Except CollaboratorError Deployment → Prop
  | ok {v : Slice} {d' : Deployment} (h : d.Moves id v [] d') : Effect d id (.ok v) (.ok d')
  | error (e : CollaboratorError) : Effect d id (.error e) (.error e)

theorem effect_openSession (d : Deployment) (id : Identity) :
    d.Effect id ((d.slice id).openTo id) (d.openSession id) := by
  cases hk : d.keys.get? id with
  | none =>
    have refused : d.openSession id = .error (.session s!"no credentials for {id}") := by
      simp [openSession, Sessions.openTo, hk, bind, Except.bind]
    have refused' : (d.slice id).openTo id = .error (.session s!"no credentials for {id}") := by
      simp [Slice.openTo, slice, hk]
    rw [refused, refused']
    exact .error _
  | some c =>
    have opened' : (d.slice id).openTo id = .ok ((d.slice id).setOpen true) := by
      simp [Slice.openTo, slice, hk]
    rw [opened']
    cases ho : d.sessions.contains id with
    | true =>
      have opened : d.openSession id = .ok (d.note []) := by
        simp [openSession, Sessions.openTo, hk, ho, bind, Except.bind, pure, Except.pure]
      have same : (d.slice id).setOpen true = d.slice id := by simp [slice, Slice.setOpen, ho]
      rw [opened, same]
      exact .ok (Moves.note d id [])
    | false =>
      have opened : d.openSession id = .ok (({ d with sessions := d.sessions.insert id () }).note
          [.logged (.sessionOpened id c.username), .sessionChanged ⟨.added, id⟩]) := by
        simp [openSession, Sessions.openTo, hk, ho, bind, Except.bind, pure, Except.pure]
      rw [opened]
      apply Effect.ok (Moves.andNote ?_ rfl)
      refine .of_slices ?_ ?_ rfl rfl rfl
      · simp [slice, Slice.setOpen, SortedMap.contains]
      · intro id' h
        simp [slice, SortedMap.contains, SortedMap.get?_insert_of_ne _ _ h]

theorem effect_writeStore (d : Deployment) (w : StoreWrite) :
    d.Effect w.identity ((d.slice w.identity).write w) (d.writeStore w) := by
  obtain ⟨events, written⟩ := d.store.write_eq w
  have stored : (d.slice w.identity).stored? = d.store.get? w.identity := rfl
  unfold writeStore Slice.write
  rw [written, stored]
  cases w.entry (d.store.get? w.identity) with
  | error e => exact .error e
  | ok known => exact .ok (moves_insertStored d w.identity known events)

/-- The call is seen, and what goes wrong at its point goes wrong. -/
def meet (d : Deployment) (c : Call) (point : FaultPoint) : Deployment :=
  ((d.note [.called c]).draw point).2

theorem draw_of_quiet {d : Deployment} (quiet : d.faults = .none) (point : FaultPoint) :
    d.draw point = (none, d) := by
  have same : d.faults.plan point (d.faults point).next.2 = d.faults := by
    rw [quiet, Faults.plan_none]
  have nothing : (d.faults point).next.1 = none := by
    rw [quiet]
    rfl
  show ((d.faults point).next.1, { d with faults := d.faults.plan point (d.faults point).next.2 }) =
    (none, d)
  rw [nothing, same]

section calls

variable (d : Deployment) (id : Identity) (c : Call) (point : FaultPoint)

theorem moves_draw : d.Moves id (d.slice id) [] (d.draw point).2 where
  own := rfl
  others _ _ := rfl
  calls := (List.append_nil _).symm
  setting := rfl
  within _ h := h.draw point
  quiet h := by
    show d.faults.plan point (d.faults point).next.2 = .none
    rw [h, Faults.plan_none]

theorem moves_meet : d.Moves id (d.slice id) [c] (d.meet c point) :=
  (Moves.note d id [.called c]).trans (moves_draw _ id point)

theorem call_eq {α : Type} (effect : Deployment → α × Deployment) :
    d.call c point effect =
      if (d.faults point).next.1 = some .crash then (none, d.meet c point)
      else (some (effect (d.meet c point)).1, (effect (d.meet c point)).2) := by
  have drawn : (d.note [.called c]).draw point = ((d.faults point).next.1, d.meet c point) := rfl
  unfold call
  rw [drawn]
  cases (d.faults point).next.1 with
  | none => rfl
  | some fault => cases fault <;> rfl

theorem attempt_eq (effect : Deployment → Except CollaboratorError Deployment) :
    d.attempt c point effect =
      match (d.faults point).next.1 with
      | some .crash => (none, d.meet c point)
      | some (.refuse e) => (some (.error e), d.meet c point)
      | _ =>
        match effect (d.meet c point) with
        | .ok d' => (some (.ok ()), d')
        | .error e => (some (.error e), d.meet c point) := by
  have drawn : (d.note [.called c]).draw point = ((d.faults point).next.1, d.meet c point) := rfl
  unfold attempt
  rw [drawn]
  cases (d.faults point).next.1 with
  | none => rfl
  | some fault => cases fault <;> rfl

theorem look_eq {α : Type} (answer : Option Fault → α) :
    d.look point answer =
      (Slice.unlessCrash (d.faults point).next.1 (answer (d.faults point).next.1),
        (d.draw point).2) := by
  have drawn : d.draw point = ((d.faults point).next.1, (d.draw point).2) := rfl
  unfold look
  rw [drawn]
  cases (d.faults point).next.1 with
  | none => rfl
  | some fault => cases fault <;> rfl

theorem requestDevices_eq (appId : String) :
    d.perform (.requestDevices appId) =
      let met := d.meet (.desiredDevices appId) .desiredDevices
      match (d.faults .desiredDevices).next.1 with
      | some .crash => (none, met)
      | some .hold => (some (some met.held), { met with held := met.held + 1 })
      | _ => (some none, met) := by
  have drawn : (d.note [.called (.desiredDevices appId)]).draw .desiredDevices =
    ((d.faults .desiredDevices).next.1, d.meet (.desiredDevices appId) .desiredDevices) := rfl
  simp only [perform]
  rw [drawn]
  cases (d.faults .desiredDevices).next.1 with
  | none => rfl
  | some fault => cases fault <;> rfl

/-- A call whose effect on the slice of one device is known. -/
theorem moves_call {α : Type} (answer : α) (v : Slice) (effect : Deployment → α × Deployment)
    (h : ∀ d' : Deployment, d'.slice id = d.slice id → d'.setting = d.setting →
      (effect d').1 = answer ∧ d'.Moves id v [] (effect d').2) :
    let fault := (d.faults point).next.1
    (d.call c point effect).1 = Slice.unlessCrash fault answer ∧
      d.Moves id (if fault = some .crash then d.slice id else v) [c] (d.call c point effect).2 := by
  have seen := moves_meet d id c point
  obtain ⟨answered, moved⟩ := h _ seen.own seen.setting
  rw [call_eq]
  by_cases crashed : (d.faults point).next.1 = some .crash
  · simpa [crashed, Slice.unlessCrash] using seen
  · simpa [crashed, Slice.unlessCrash, answered] using seen.trans moved

/-- An attempt whose effect on the slice of one device is known. -/
theorem moves_attempt {outcome : Except CollaboratorError Slice}
    {effect : Deployment → Except CollaboratorError Deployment}
    (h : ∀ d' : Deployment, d'.slice id = d.slice id → d'.Effect id outcome (effect d')) :
    let r := (d.slice id).attempt (d.faults point).next.1 outcome
    (d.attempt c point effect).1 = r.1 ∧ d.Moves id r.2 [c] (d.attempt c point effect).2 := by
  have seen := moves_meet d id c point
  have done := h _ seen.own
  rw [attempt_eq]
  generalize effect (d.meet c point) = result at done ⊢
  generalize (d.faults point).next.1 = fault
  rcases done with ⟨moved⟩ | ⟨e⟩
  · have moved := seen.trans moved
    rcases fault with _ | _ | _ | _ | _ <;> first | exact ⟨rfl, moved⟩ | exact ⟨rfl, seen⟩
  · rcases fault with _ | _ | _ | _ | _ <;> exact ⟨rfl, seen⟩

theorem moves_look {α : Type} (answer : Option Fault → α) :
    let fault := (d.faults point).next.1
    (d.look point answer).1 = Slice.unlessCrash fault (answer fault) ∧
      d.Moves id (d.slice id) [] (d.look point answer).2 := by
  rw [look_eq]
  exact ⟨rfl, moves_draw d id point⟩

theorem moves_inquire {α : Type} (reply : Reply α) :
    (d.inquire c reply).1 = Slice.replied reply ∧
      d.Moves id (d.slice id) [c] (d.inquire c reply).2 := by
  cases reply <;> exact ⟨rfl, Moves.note d id [.called c]⟩

end calls

/-- An action about one device does to a deployment what it does to the slice of the device. -/
theorem perform_slice (d : Deployment) {id : Identity} {a : Action} (h : a.Concerns id) :
    let r := (d.slice id).perform (d.faultOf a) a
    (d.perform a).1 = r.1 ∧ d.Moves id r.2 a.call?.toList (d.perform a).2 := by
  cases a with
  | log l => exact ⟨rfl, Moves.note d id [.logged l]⟩
  | readRecord id' => cases h; exact ⟨rfl, Moves.refl d id⟩
  | changeRecord id' c =>
    cases h
    have read : (d.records.change id c).read id = ((d.slice id).change c).record := by
      simp [Records.change, Records.read, Slice.change, Slice.record, slice]
    exact ⟨congrArg some read, moves_changeRecord d id c⟩
  | probe id' =>
    cases h
    obtain ⟨answered, moved⟩ := moves_call d id (.probe id) (.probe id)
      (d.slice id).answers (d.slice id) (fun d => (d.reachable.contains id, d))
      fun d' same setting => ⟨congrArg Slice.answers same, same ▸ Moves.refl d' id⟩
    exact ⟨answered, by rwa [ite_self] at moved⟩
  | storeKey id' c =>
    cases h
    exact moves_attempt d id _ _ fun d' same => .ok (same ▸ moves_storeKey d' id c)
  | removeKey id' =>
    cases h
    exact moves_attempt d id _ _ fun d' same => .ok (same ▸ moves_removeKey d' id)
  | openSession id' =>
    cases h
    exact moves_attempt d id _ _ fun d' same => same ▸ effect_openSession d' id
  | closeSession id' force =>
    cases h
    exact moves_attempt d id _ _ fun d' same => .ok (same ▸ moves_closeSession d' id force)
  | writeStore w =>
    cases h
    have := moves_attempt d w.identity (storeCall w).1 (storeCall w).2
      fun d' same => same ▸ effect_writeStore d' w
    exact this
  | lookUp id' => cases h; exact moves_look d id _ _
  | isAvailable id' => cases h; exact moves_look d id _ _
  | isLocalMaster id' => cases h; exact moves_look d id _ _
  | masterOf id' => cases h; exact moves_look d id _ _
  | reportRole id' requested accepted =>
    cases h
    exact moves_call d id _ _ () _ (fun d => ((), d.acceptRole id requested accepted))
      fun d' same _ => ⟨rfl, same ▸ moves_acceptRole d' id requested accepted⟩
  | discoverDetails id' reply => cases h; exact moves_inquire d id _ reply
  | discoverPortDetails id' reply => cases h; exact moves_inquire d id _ reply
  | listPorts id' reply => cases h; exact moves_inquire d id _ reply
  | discoverStatistics id' reply => cases h; exact moves_inquire d id _ reply
  | isActive | setActive | markDesired | prune | registered | requestDevices | receiveDevices =>
    exact h.elim

end Deployment

end Southbound
