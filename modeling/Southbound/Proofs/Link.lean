import Southbound.Proofs.StoreJobs

/-!
# Records, keys and sessions agree

The record of a device says how far the connection has come, and the systems around the provider
hold the key and the session that this connection is made of.  A `Link` is what the two sides hold
about it.  Discovery leaves links alone (`KeptByDiscovery.of_link`), so that only the jobs of
`Southbound.Connection` have to be looked at for a statement about links; and a statement that does
not depend on whether sessions can be closed has only to be kept by the changes that these jobs make
(`Link.KeptByConnection`).

`Link.Settled` is what the provider relies on between two operations: the record is connected
exactly while a session is open, and an open session has a key.  It needs that sessions can always
be closed, because a record is marked disconnected whether or not the session could be.
`Link.Remembered` says that a record remembers only credentials that the credential store holds,
`Link.Concluded` that no attempt to connect is left unfinished, and `Link.Attached` that a record
that is connected has an open session.  The last one needs nothing of the run before: a session is
only closed by jobs that mark the record next.
-/

namespace Southbound

open Connection Discovery Job Reconciliation

/-- How a device is connected, according to the record and according to the systems. -/
structure Link where
  state : ConnectionState
  credentials : Option Credentials
  key? : Option Credentials
  isOpen : Bool

namespace Link

/-- The record takes the session for ended. -/
def ended (l : Link) : Link :=
  { l with state := if l.state.isLive then .disconnected else l.state }

/-- The record remembers that the credential store took the credentials. -/
def remember (l : Link) (c : Credentials) : Link :=
  { l with
    credentials := some c
    state := if l.state = .unregistered then .keyStored else l.state }

end Link

namespace Slice

/-- How the device is connected. -/
def link (v : Slice) : Link where
  state := v.record.state
  credentials := v.record.credentials
  key? := v.key?
  isOpen := v.isOpen

section

variable (v : Slice)

@[simp] theorem link_announce (d : Description) : (v.announce d).link = v.link := rfl

@[simp] theorem link_disconnect : v.disconnect.link = v.link := rfl

@[simp] theorem link_change_seen : (v.change .seen).link = v.link := rfl

@[simp] theorem link_change_desired : (v.change .desired).link = v.link := rfl

@[simp] theorem link_change_announced (d : Description) :
    (v.change (.announced d)).link = v.link := rfl

@[simp] theorem link_accept (role : Role) : (v.accept role).link = v.link := rfl

@[simp] theorem link_setKey (key? : Option Credentials) :
    (v.setKey key?).link = { v.link with key? := key? } := rfl

@[simp] theorem link_setOpen (isOpen : Bool) :
    (v.setOpen isOpen).link = { v.link with isOpen := isOpen } := rfl

@[simp] theorem link_change_reached (state : ConnectionState) :
    (v.change (.reached state)).link = { v.link with state := state } := rfl

@[simp] theorem link_change_ended : (v.change .ended).link = v.link.ended := rfl

@[simp] theorem link_change_credentialsStored (c : Credentials) :
    (v.change (.credentialsStored c)).link = v.link.remember c := rfl

@[simp] theorem link_change_credentialsRevoked :
    (v.change .credentialsRevoked).link = { v.link with credentials := none } := rfl

theorem link_eq_of_brings {v v' : Slice} (h : v.Brings v') : v'.link = v.link := by
  rcases h with rfl | ⟨list, _, _, rfl⟩ <;> rfl

theorem link_eq_of_counts {v v' : Slice} (h : v.Counts v') : v'.link = v.link := by
  rcases h with rfl | ⟨list, rfl⟩ <;> rfl

end

end Slice

namespace Link

/-- A record that took its session for ended is not live. -/
theorem isLive_ended (l : Link) : l.ended.state.isLive = false := by
  obtain ⟨state, _, _, _⟩ := l
  cases state <;> rfl

theorem ended_ne_of_isLive (l : Link) {state : ConnectionState} (live : state.isLive = true) :
    l.ended.state ≠ state := by
  rintro rfl
  exact Bool.false_ne_true (l.isLive_ended.symm.trans live)

theorem unconnected_ended (l : Link) : l.ended.state ≠ .connected := l.ended_ne_of_isLive rfl

/-- Credentials that are stored do not bring a connection about. -/
theorem state_of_remember {l : Link} (c : Credentials) {state : ConnectionState}
    (reached : (l.remember c).state = state) (unstored : state ≠ .keyStored) : l.state = state := by
  simp only [remember] at reached
  split at reached
  · exact absurd reached.symm unstored
  · exact reached

theorem state_ended_eq_unregistered {l : Link} :
    l.ended.state = .unregistered ↔ l.state = .unregistered := by
  obtain ⟨state, _, _, _⟩ := l
  cases state <;> simp [ended, ConnectionState.isLive]

end Link

theorem Records.mem_registered_iff {m : Records} {id : Identity} :
    id ∈ m.registered ↔ (m.read id).state ≠ .unregistered := by
  rw [registered, SortedMap.mem_keys_iff, read]
  cases h : m.get? id <;> simp [SortedMap.get?_filter, h, Option.filter, DeviceRecord.fresh]

/-! ## Statements about links -/

theorem KeptByDiscovery.of_link (p : Hazards) (J : Link → Prop) :
    KeptByDiscovery p fun v => J v.link where
  desired h := h
  shown h := h
  marked b hr h := by simpa [Slice.link, Slice.record, hr] using h
  addIfMissing id v h := ensures_addIfMissing.mono fun _ v' _ outcome => by
    rcases outcome with rfl | ⟨_, rfl⟩ <;> exact h
  announceAvailable id placeholder v h :=
    (ensures_announceAvailable placeholder).mono fun _ v' _ outcome => by
      rcases outcome with rfl | ⟨d, _, rfl⟩ <;> exact h
  discoverPorts id v h := ensures_discoverPorts.mono fun _ v' _ outcome => by
    obtain ⟨v₁, brought, counted⟩ := outcome
    rwa [Slice.link_eq_of_counts counted, Slice.link_eq_of_brings brought]

/-- The statement about links is kept by every change that the connection of a device makes to its
link, whether or not sessions can be closed. -/
structure Link.KeptByConnection (p : Hazards) (J : Link → Prop) : Prop where
  dropped : ∀ l : Link, J { l with state := .unregistered, credentials := none }
  stored : ∀ {l : Link} c, J l → J ({ l with key? := some c }.remember c)
  opened : ∀ {l : Link}, J l → J { l with state := .connected, isOpen := true }
  /-- The attempt to open the session broke down. -/
  unopened : ∀ {l : Link} {id}, p (.openSession id) .crash → J l → J { l with state := .connecting }
  ended : ∀ {l : Link}, J l → J l.ended
  closed : ∀ {l : Link}, J l → J { l with isOpen := false }.ended
  /-- The key was removed, and the attempt to close the session broke down. -/
  unclosed : ∀ {l : Link} {id}, p (.closeSession id) .crash → J l → J { l with key? := none }
  forgotten : ∀ l : Link, J { l.ended with credentials := none }

namespace Link.KeptByConnection

variable {p : Hazards} {J : Link → Prop} (kept : KeptByConnection p J) (id : Identity) {v : Slice}

include kept

theorem registerCredentials (c : Credentials) (h : J v.link) :
    (registerCredentials id c).Ensures p id v fun _ v' _ => J v'.link := by
  simp [Connection.registerCredentials, h, kept.stored c h]

theorem markUnreachable (h : J v.link) :
    (markUnreachable id).Ensures p id v fun _ v' _ => J v'.link := by
  simp [Connection.markUnreachable, h, kept.ended h, kept.closed h]

theorem abandon : (abandon id).Ensures p id v fun _ v' _ => J v'.link := by
  refine ensures_abandon.mono fun _ v' _ abandoned => ?_
  obtain ⟨w, outcome, unkeyed⟩ := abandoned
  have forgotten : J { v.link.ended with credentials := none } := kept.forgotten v.link
  have removed : J { { v.link with key? := none }.ended with credentials := none } :=
    kept.forgotten { v.link with key? := none }
  rcases outcome with rfl | rfl <;> rcases unkeyed with rfl | rfl
  · exact forgotten
  · exact removed
  · exact forgotten
  · exact removed

theorem connect (h : J v.link) :
    (connect id).Ensures p id v fun _ v' _ => J v'.link := by
  have abandoned : (Connection.abandon id).Ensures p id (v.change (.reached .connecting))
      fun _ v' _ => J v'.link := kept.abandon id
  have unopened : p (.openSession id) .crash → J { v.link with state := .connecting } :=
    fun crashes => kept.unopened crashes h
  have announced : (announceIfMissing id).Ensures p id
      (((v.change (.reached .connecting)).setOpen true).change (.reached .connected))
      fun _ v' _ => J v'.link := by
    refine ensures_announceIfMissing.mono fun _ v' _ outcome => ?_
    rcases outcome with rfl | ⟨_, rfl⟩ <;> exact kept.opened h
  simp only [Connection.connect, pure_eq, bind_eq, ensures_bind, ensures_ite, ensures_done,
    ensures_reportRole, Slice.link_accept, ensures_log, ensures_openSession, ensures_changeRecord,
    Slice.link_change_reached, Bool.not_eq_true, ensures_probe, ensures_readRecord, h, implies_true,
    and_self, true_and, and_true]
  refine fun _ _ => ⟨unopened, fun _ _ => abandoned.regardless, fun _ _ => announced.mono ?_,
    fun _ => abandoned.regardless⟩
  rintro (_ | _) w _ announced
  · exact announced
  · exact ⟨fun _ => announced, announced⟩

theorem release (role : Role) (h : J v.link) :
    (release id role).Ensures p id v fun _ v' _ => J v'.link := by
  have disconnected : ∀ w : Slice, J w.link.ended → (disconnectIfStored id).Ensures p id
      ((w.change .ended).accept role) fun _ v' _ => J v'.link := by
    intro w ended
    refine ensures_disconnectIfStored.mono fun _ v' _ outcome => ?_
    rcases outcome with rfl | rfl <;> exact ended
  simp only [Connection.release, pure_eq, bind_eq, ensures_bind, ensures_ite, ensures_done,
    ensures_log, ensures_reportRole, Slice.link_accept, ensures_changeRecord,
    Slice.link_change_ended, ensures_warnOnRefusal, ensures_closeSession, Slice.link_setOpen,
    ensures_readRecord, h, kept.ended h, kept.closed h, implies_true, and_true, true_and]
  exact ⟨fun _ _ _ => disconnected v (kept.ended h),
    fun _ => disconnected (v.setOpen false) (kept.closed h)⟩

theorem sessionLost (h : J v.link) :
    (sessionLost id).Ensures p id v fun _ v' _ => J v'.link := by
  simp [Connection.sessionLost, kept.ended h]

theorem deviceRemoved (h : J v.link) :
    (deviceRemoved id).Ensures p id v fun _ v' _ => J v'.link := by
  simp [Connection.deviceRemoved, h, kept.ended h, kept.closed h]

theorem tearDown (h : J v.link) :
    (tearDown id).Ensures p id v fun _ v' _ => J v'.link := by
  simpa [Connection.tearDown, h, kept.forgotten] using fun crashes => kept.unclosed crashes h

theorem invariant (calm : Slice → Prop) : Invariant p calm fun v => J v.link where
  toKeptByDiscovery := .of_link p J
  dropped {v _} _ _ _ := kept.dropped v.link
  registerCredentials id c _ := kept.registerCredentials id c
  markUnreachable := kept.markUnreachable
  connect := kept.connect
  release id role _ := kept.release id role
  sessionLost id _ _ := kept.sessionLost id
  deviceRemoved := kept.deviceRemoved
  tearDown := kept.tearDown

end Link.KeptByConnection

/-- Nothing breaks down while a session is opened. -/
def Hazards.openingsEnd : Hazards
  | .openSession _, fault => fault ≠ .crash
  | _, _ => True

/-- Sessions can always be closed, and nothing breaks down while a session is opened. -/
def Hazards.sessionsClose : Hazards
  | .closeSession _, _ => False
  | .openSession _, fault => fault ≠ .crash
  | _, _ => True

namespace Link

/-- Record, key and session agree. -/
structure Settled (l : Link) : Prop where
  open_iff : l.isOpen = true ↔ l.state = .connected
  not_connecting : l.state ≠ .connecting
  key : l.isOpen = true → l.key?.isSome = true

namespace Settled

variable {l : Link}

theorem ended (closed : l.isOpen = false) : l.ended.Settled := by
  obtain ⟨state, _, _, isOpen⟩ := l
  subst closed
  constructor <;> cases state <;> simp [Link.ended, ConnectionState.isLive]

theorem withoutCredentials (h : l.Settled) : { l with credentials := none }.Settled :=
  ⟨h.open_iff, h.not_connecting, h.key⟩

theorem remember (h : l.Settled) (c : Credentials) :
    ({ l with key? := some c }.remember c).Settled := by
  obtain ⟨state, _, _, isOpen⟩ := l
  obtain ⟨open_iff, not_connecting, _⟩ := h
  constructor <;> cases state <;> simp_all [Link.remember]

theorem withoutKey (h : l.Settled) (closed : l.isOpen = false) :
    { l with key? := none }.Settled :=
  ⟨h.open_iff, h.not_connecting, by simp [closed]⟩

theorem closed_of_not_connected (h : l.Settled) (hs : l.state ≠ .connected) :
    l.isOpen = false := by
  simpa using mt h.open_iff.1 hs

end Settled

section jobs

variable (id : Identity) {v : Slice}

theorem settled_dropped {r : DeviceRecord} (hr : v.record? = some r) (unkept : r.isKept = false)
    (h : v.link.Settled) : { v with record? := none }.link.Settled := by
  have state : v.link.state = r.state := by simp [Slice.link, Slice.record, hr]
  have notLive : r.state.isLive = false := by
    rw [DeviceRecord.isKept, Bool.or_eq_false_iff] at unkept
    exact unkept.2
  have closed : v.isOpen = false := by
    refine h.closed_of_not_connected ?_
    rw [state]
    intro connected
    simp [connected, ConnectionState.isLive] at notLive
  constructor <;> simp [Slice.link, Slice.record, DeviceRecord.fresh, closed]

theorem settled_registerCredentials (c : Credentials) (h : v.link.Settled) :
    (registerCredentials id c).Ensures .sessionsClose id v fun _ v' _ => v'.link.Settled := by
  have stored := h.remember c
  simp [registerCredentials, h, stored]

theorem settled_markUnreachable (h : v.link.Settled) :
    (markUnreachable id).Ensures .sessionsClose id v fun _ v' _ => v'.link.Settled := by
  by_cases connected : v.record.state = .connected
  · have closed : { v.link with isOpen := false }.ended.Settled := .ended rfl
    simp [markUnreachable, Hazards.sessionsClose, connected, closed]
  · have unopened : v.link.ended.Settled := .ended (h.closed_of_not_connected connected)
    simp [markUnreachable, Hazards.sessionsClose, connected, unopened]

theorem settled_abandon (closed : v.isOpen = false) :
    (abandon id).Ensures .sessionsClose id v fun _ v' _ => v'.link.Settled := by
  have forgotten : { v.link.ended with credentials := none }.Settled :=
    (Settled.ended closed).withoutCredentials
  refine ensures_abandon.mono fun _ v' _ abandoned => ?_
  obtain ⟨w, outcome, kept⟩ := abandoned
  have hw : w.link = { v.link.ended with credentials := none } := by
    rcases outcome with rfl | rfl <;> rfl
  rcases kept with rfl | rfl
  · rw [hw]
    exact forgotten
  · rw [Slice.link_setKey, hw]
    exact forgotten.withoutKey closed

theorem settled_connect (h : v.link.Settled) :
    (connect id).Ensures .sessionsClose id v fun _ v' _ => v'.link.Settled := by
  by_cases connected : v.record.state = .connected
  · simp [connect, connected, h]
  · have closed := h.closed_of_not_connected connected
    have abandoned : (abandon id).Ensures .sessionsClose id (v.change (.reached .connecting))
        fun _ v' _ => v'.link.Settled := settled_abandon id closed
    have announced : ∀ c, v.key? = some c → (announceIfMissing id).Ensures .sessionsClose id
        (((v.change (.reached .connecting)).setOpen true).change (.reached .connected))
        fun _ v' _ => v'.link.Settled := by
      intro c hc
      have opened : { v.link with state := .connected, isOpen := true }.Settled :=
        ⟨by simp, by simp, fun _ => by simp [Slice.link, hc]⟩
      refine ensures_announceIfMissing.mono fun _ v' _ outcome => ?_
      rcases outcome with rfl | ⟨_, rfl⟩ <;> exact opened
    simp only [connect, pure_eq, bind_eq, ensures_bind, ensures_ite, ensures_done,
      ensures_reportRole, Hazards.sessionsClose, forall_const, Slice.link_accept, and_self,
      ensures_log, ensures_openSession, ne_eq, not_true_eq_false, false_implies, reduceCtorEq,
      not_false_eq_true, ensures_changeRecord, true_and, Bool.not_eq_true, ensures_probe,
      ensures_readRecord, connected, h, implies_true, and_true]
    exact fun _ => ⟨fun _ => abandoned.regardless, fun c hc => (announced c hc).regardless,
      fun _ => abandoned.regardless⟩

theorem settled_release (role : Role) :
    (release id role).Ensures .sessionsClose id v fun _ v' _ => v'.link.Settled := by
  have closed : { v.link with isOpen := false }.ended.Settled := .ended rfl
  have disconnected : (disconnectIfStored id).Ensures .sessionsClose id
      (((v.setOpen false).change .ended).accept role) fun _ v' _ => v'.link.Settled := by
    refine ensures_disconnectIfStored.mono fun _ v' _ outcome => ?_
    rcases outcome with rfl | rfl <;> exact closed
  simp [release, Hazards.sessionsClose, closed, disconnected]

theorem settled_sessionLost (calm : v.isOpen = false) :
    (sessionLost id).Ensures .sessionsClose id v fun _ v' _ => v'.link.Settled := by
  have unopened : v.link.ended.Settled := .ended calm
  simp [sessionLost, unopened]

theorem settled_deviceRemoved :
    (deviceRemoved id).Ensures .sessionsClose id v fun _ v' _ => v'.link.Settled := by
  have closed : { v.link with isOpen := false }.ended.Settled := .ended rfl
  simp [deviceRemoved, Hazards.sessionsClose, closed]

theorem settled_tearDown (h : v.link.Settled) :
    (tearDown id).Ensures .sessionsClose id v fun _ v' _ => v'.link.Settled := by
  have closed : ∀ key?, { v.link with key? := key?, isOpen := false }.ended.Settled :=
    fun _ => .ended rfl
  have forgotten := fun key? => (closed key?).withoutCredentials
  simp [tearDown, Hazards.sessionsClose, h, forgotten]

end jobs

theorem settled_invariant :
    Invariant .sessionsClose (fun v => v.isOpen = false) fun v => v.link.Settled where
  toKeptByDiscovery := .of_link _ _
  dropped := settled_dropped
  registerCredentials id c _ h := settled_registerCredentials id c h
  markUnreachable := settled_markUnreachable
  connect := settled_connect
  release id role _ _ := settled_release id role
  sessionLost id _ calm _ := settled_sessionLost id calm
  deviceRemoved id _ _ := settled_deviceRemoved id
  tearDown := settled_tearDown

/-! ## Remembered credentials -/

/-- Remembered credentials are those that the credential store holds. -/
def Remembered (l : Link) : Prop := ∀ c, l.credentials = some c → l.key? = some c

theorem Remembered.of_forgotten {l : Link} (forgotten : l.credentials = none) :
    l.Remembered := by
  simp [Remembered, forgotten]

theorem remembered_kept {p : Hazards} (survives : ∀ id, ¬ p (.closeSession id) .crash) :
    KeptByConnection p Remembered where
  dropped _ := .of_forgotten rfl
  stored _ _ _ same := same
  opened h := h
  unopened _ h := h
  ended h := h
  closed h := h
  unclosed {_ id} crashes _ := absurd crashes (survives id)
  forgotten _ := .of_forgotten rfl

/-! ## Attempts to connect -/

/-- No record is left connecting. -/
def Concluded (l : Link) : Prop := l.state ≠ .connecting

theorem Concluded.of_ended (l : Link) : l.ended.Concluded := l.ended_ne_of_isLive rfl

theorem concluded_kept {p : Hazards} (survives : ∀ id, ¬ p (.openSession id) .crash) :
    KeptByConnection p Concluded where
  dropped _ := by simp [Concluded]
  stored {_} c h connecting := h (state_of_remember c connecting (by simp))
  opened _ := by simp [Concluded]
  unopened {_ id} crashes _ := absurd crashes (survives id)
  ended _ := .of_ended _
  closed _ := .of_ended _
  unclosed _ h := h
  forgotten l := Concluded.of_ended l

/-! ## Connected records -/

/-- A record that is connected has an open session. -/
def Attached (l : Link) : Prop := l.state = .connected → l.isOpen = true

theorem Attached.of_ended (l : Link) : l.ended.Attached :=
  fun connected => absurd connected l.unconnected_ended

/-- A session that is closed is taken for ended at once, whatever goes wrong. -/
theorem attached_kept (p : Hazards) : KeptByConnection p Attached where
  dropped _ := nofun
  stored {_} c h connected := h (state_of_remember c connected (by simp))
  opened _ _ := rfl
  unopened _ _ := nofun
  ended _ := .of_ended _
  closed _ := .of_ended _
  unclosed _ h := h
  forgotten l := Attached.of_ended l

end Link

/-! ## Throughout a run -/

theorem Change.link_apply (c : Change) (d : Deployment) (id : Identity) :
    ((c.apply d).slice id).link = (d.slice id).link := by
  cases c <;> rfl

namespace Deployment

/-- The step may be taken: a session is reported lost only when it is not open, and whatever is to
go wrong lets sessions be closed. -/
def Orderly (d : Deployment) : Step → Prop
  | .operation (.order (.sessionLost id)) => d.sessions.contains id = false
  | .change (.plan f) => f.Within .sessionsClose
  | _ => True

/-- The step may be taken: nothing but the hazards is to go wrong. -/
def Planned (p : Hazards) (_ : Deployment) : Step → Prop
  | .change (.plan f) => f.Within p
  | _ => True

theorem holds_of_planned {p : Hazards} {d : Deployment} {c : Change} {J : Link → Prop}
    (planned : d.Planned p (.change c)) (h : d.Holds p fun v => J v.link) :
    (c.apply d).Holds p fun v => J v.link where
  within := by
    cases c with
    | plan f => exact planned
    | _ => exact h.within
  every id := by
    rw [c.link_apply]
    exact h.every id

theorem planned_of_orderly {d : Deployment} {step : Step} (orderly : d.Orderly step) :
    d.Planned .sessionsClose step := by
  cases step with
  | operation o => trivial
  | change c =>
    cases c with
    | plan f => exact orderly
    | _ => trivial

theorem holds_of_orderly {d : Deployment} {c : Change} {J : Link → Prop}
    (orderly : d.Orderly (.change c)) (h : d.Holds .sessionsClose fun v => J v.link) :
    (c.apply d).Holds .sessionsClose fun v => J v.link :=
  holds_of_planned (planned_of_orderly orderly) h

namespace Reaches

variable {s : Settings} {start d : Deployment}

theorem settled (records : start.records = ∅) (sessions : start.sessions = ∅)
    (within : start.faults.Within .sessionsClose) (reached : start.Reaches s Orderly d) :
    d.Holds .sessionsClose fun v => v.link.Settled := by
  have first : ∀ id, (start.slice id).link.Settled := by
    intro id
    have state : (start.slice id).link.state = .unregistered := by
      rw [Slice.link, Slice.record, slice, records]
      rfl
    have closed : (start.slice id).link.isOpen = false := by
      rw [Slice.link, slice, sessions]
      rfl
    constructor <;> simp [state, closed]
  exact Link.settled_invariant.reaches (fun _ _ closed => closed) (fun _ _ => holds_of_orderly)
    ⟨within, first⟩ reached

theorem remembered_of_planned {p : Hazards} (survives : ∀ id, ¬ p (.closeSession id) .crash)
    (records : start.records = ∅) (within : start.faults.Within p)
    (reached : start.Reaches s (Planned p) d) : d.Holds p fun v => v.link.Remembered := by
  have first : ∀ id, (start.slice id).link.Remembered := by
    intro id c remembers
    rw [Slice.link, Slice.record, slice, records] at remembers
    cases remembers
  exact ((Link.remembered_kept survives).invariant fun _ => True).reaches
    (fun _ _ _ => trivial) (fun _ _ => holds_of_planned) ⟨within, first⟩ reached

theorem remembered (records : start.records = ∅)
    (within : start.faults.Within .sessionsClose) (reached : start.Reaches s Orderly d) :
    d.Holds .sessionsClose fun v => v.link.Remembered :=
  remembered_of_planned (fun _ h => h) records within (reached.mono fun _ _ => planned_of_orderly)

/-- Whatever goes wrong on the way, connected records have open sessions. -/
theorem attached {admits : Deployment → Step → Prop} (records : start.records = ∅)
    (reached : start.Reaches s admits d) (id : Identity) : (d.slice id).link.Attached := by
  have first : ∀ id, (start.slice id).link.Attached := by
    intro id connected
    rw [Slice.link, Slice.record, slice, records] at connected
    cases connected
  have anything : ∀ f : Faults, f.Within fun _ _ => True := fun _ _ _ _ => trivial
  refine (((Link.attached_kept fun _ _ => True).invariant fun _ => True).reaches
    (fun _ _ _ => trivial) (fun d c _ h => ⟨anything _, fun id => ?_⟩) ⟨anything _, first⟩
    reached).every id
  rw [c.link_apply]
  exact h.every id

theorem concluded (records : start.records = ∅) (within : start.faults.Within .openingsEnd)
    (reached : start.Reaches s (Planned .openingsEnd) d) :
    d.Holds .openingsEnd fun v => v.link.Concluded := by
  have first : ∀ id, (start.slice id).link.Concluded := by
    intro id connecting
    rw [Slice.link, Slice.record, slice, records] at connecting
    cases connecting
  exact ((Link.concluded_kept fun _ crashes => crashes rfl).invariant fun _ => True).reaches
    (fun _ _ _ => trivial) (fun _ _ => holds_of_planned) ⟨within, first⟩ reached

/-- Between two operations the session of a device is open exactly while its record is connected,
no record is left connecting, and open sessions have keys. -/
theorem sessions_agree (records : start.records = ∅) (sessions : start.sessions = ∅)
    (within : start.faults.Within .sessionsClose) (reached : start.Reaches s Orderly d)
    (id : Identity) :
    (d.sessions.contains id = true ↔ (d.records.read id).state = .connected) ∧
      (d.records.read id).state ≠ .connecting ∧
      (d.sessions.contains id = true → (d.keys.get? id).isSome = true) := by
  have settled := (reached.settled records sessions within).every id
  exact ⟨settled.open_iff, settled.not_connecting, settled.key⟩

/-- On promotion a session is opened, with the key that a pass stored. -/
theorem sessions_agree_of_promotion :
    let d := Deployment.sample.after .default Step.promotion
    d.sessions.contains .sample = true ∧ (d.records.read .sample).state = .connected ∧
      (d.keys.get? .sample).isSome = true := by
  have reached : Deployment.sample.Reaches .default Orderly
      (Deployment.sample.after .default Step.promotion) :=
    Reaches.refl.after ⟨trivial, trivial, trivial⟩
  have agreed := sessions_agree rfl rfl (Faults.within_none _) reached .sample
  have opened :
      (Deployment.sample.after .default Step.promotion).sessions.contains .sample = true := by
    decide +kernel
  exact ⟨opened, agreed.1.1 opened, agreed.2.2 opened⟩

end Reaches

end Deployment

end Southbound
