import Southbound.Proofs.StoreJobs

/-!
# Records are backed by the store

What a record says about the device store keeps the provider from writing the same again: ports
that were discovered are not discovered again, and a device that was announced is not announced
again.  A record must therefore never be ahead of the store.  A `Standing` is what record and store
hold about that, and `Standing.Backed` says that the store bears out the record.  It does so
throughout every run in which only the provider writes to the store, whatever fails or breaks down
on the way (`Deployment.Reaches.records_backed`): claims are made after the write that they are
about, and taken back before it.

One thing has to be excluded.  A look into the store that misses a device that is there makes the
provider announce the device anew, and then the store forgets what was announced before.
-/

namespace Southbound

open Connection Discovery Job Reconciliation

/-- A look into the store finds what is there. -/
def Hazards.honest : Hazards
  | .lookUp _, fault => fault ≠ .absent
  | _, _ => True

/-- How a device stands in the store, according to the record and according to the store. -/
structure Standing where
  portsDiscovered : Bool
  available : Bool
  lastDescription : Option Description
  stored? : Option StoredDevice

namespace Standing

/-- The record claims nothing about this session any more. -/
def ended (t : Standing) : Standing := { t with portsDiscovered := false, available := false }

/-- The device is no longer available, if it is stored. -/
def disconnect (t : Standing) : Standing := { t with stored? := t.stored?.map .gone }

/-- The device is described anew. -/
def announce (t : Standing) (d : Description) : Standing :=
  { t with stored? := some (.announced t.stored? d) }

/-- The device has these ports, if it is stored. -/
def bring (t : Standing) (list : List Port) : Standing :=
  { t with stored? := t.stored?.map (·.withPorts list) }

/-- The device has these counters, if it is stored. -/
def count (t : Standing) (list : List PortStatistics) : Standing :=
  { t with stored? := t.stored?.map (·.withStatistics list) }

/-- The store bears out what the record claims. -/
structure Backed (t : Standing) : Prop where
  ports : t.portsDiscovered = true → ∃ known, t.stored? = some known ∧ known.ports ≠ []
  available : t.available = true → ∃ known, t.stored? = some known ∧ known.available = true
  description : ∀ d, t.lastDescription = some d →
    d.availableByDefault = true ∧ ∃ known, t.stored? = some known ∧ known.description = d

namespace Backed

variable {t : Standing}

theorem ended (h : t.Backed) : t.ended.Backed :=
  ⟨by simp [Standing.ended], by simp [Standing.ended], h.description⟩

/-- Disconnecting a device is safe once the record claims nothing about it. -/
theorem disconnect (h : t.Backed) : t.ended.disconnect.Backed := by
  refine ⟨by simp [Standing.ended, Standing.disconnect],
    by simp [Standing.ended, Standing.disconnect], fun d hd => ?_⟩
  obtain ⟨byDefault, known, stored, described⟩ := h.description d hd
  exact ⟨byDefault, known.gone, by simp [Standing.ended, Standing.disconnect, stored], described⟩

theorem announce (h : t.Backed) {d : Description} (byDefault : d.availableByDefault = true) :
    { t.announce d with available := true, lastDescription := some d }.Backed where
  ports discovered := by
    obtain ⟨known, stored, ports⟩ := h.ports discovered
    exact ⟨_, rfl, by simpa [StoredDevice.announced, stored] using ports⟩
  available _ := by
    refine ⟨_, rfl, ?_⟩
    cases hs : t.stored? <;> simp [StoredDevice.announced, byDefault]
  description d' same := by
    cases same
    refine ⟨byDefault, _, rfl, ?_⟩
    cases hs : t.stored? <;> simp [StoredDevice.announced]

/-- A device that is not stored can be announced in any way, because the record claims nothing
about it. -/
theorem announce_missing (h : t.Backed) (missing : t.stored? = none) (d : Description) :
    (t.announce d).Backed := by
  constructor
  · intro discovered
    obtain ⟨_, stored, _⟩ := h.ports discovered
    exact absurd stored (by simp [missing])
  · intro available
    obtain ⟨_, stored, _⟩ := h.available available
    exact absurd stored (by simp [missing])
  · intro d' hd'
    obtain ⟨_, _, stored, _⟩ := h.description d' hd'
    exact absurd stored (by simp [missing])

theorem bring (h : t.Backed) {list : List Port} (ports : list ≠ []) (stored : t.stored?.isSome) :
    { t.bring list with portsDiscovered := true }.Backed := by
  obtain ⟨known, hk⟩ := Option.isSome_iff_exists.1 stored
  have brought : (t.bring list).stored? = some (known.withPorts list) := by
    simp [Standing.bring, hk]
  constructor
  · exact fun _ => ⟨_, brought, ports⟩
  · intro available
    obtain ⟨_, hk', shown⟩ := h.available available
    cases hk.symm.trans hk'
    exact ⟨_, brought, shown⟩
  · intro d hd
    obtain ⟨byDefault, _, hk', described⟩ := h.description d hd
    cases hk.symm.trans hk'
    exact ⟨byDefault, _, brought, described⟩

theorem count (h : t.Backed) (list : List PortStatistics) : (t.count list).Backed := by
  have counted : ∀ {known}, t.stored? = some known →
      (t.count list).stored? = some (known.withStatistics list) := by
    intro known hk
    simp [Standing.count, hk]
  constructor
  · intro discovered
    obtain ⟨known, hk, ports⟩ := h.ports discovered
    exact ⟨_, counted hk, ports⟩
  · intro available
    obtain ⟨known, hk, shown⟩ := h.available available
    exact ⟨_, counted hk, shown⟩
  · intro d hd
    obtain ⟨byDefault, known, hk, described⟩ := h.description d hd
    exact ⟨byDefault, _, counted hk, described⟩

end Backed

end Standing

namespace Slice

/-- How the device stands in the store. -/
def standing (v : Slice) : Standing where
  portsDiscovered := v.record.portsDiscovered
  available := v.record.available
  lastDescription := v.record.lastDescription
  stored? := v.stored?

section

variable (v : Slice)

@[simp] theorem standing_setKey (key? : Option Credentials) :
    (v.setKey key?).standing = v.standing := rfl

@[simp] theorem standing_setOpen (isOpen : Bool) : (v.setOpen isOpen).standing = v.standing := rfl

@[simp] theorem standing_accept (role : Role) : (v.accept role).standing = v.standing := rfl

@[simp] theorem standing_change_seen : (v.change .seen).standing = v.standing := rfl

@[simp] theorem standing_change_reached (state : ConnectionState) :
    (v.change (.reached state)).standing = v.standing := rfl

@[simp] theorem standing_change_credentialsStored (c : Credentials) :
    (v.change (.credentialsStored c)).standing = v.standing := rfl

@[simp] theorem standing_change_credentialsRevoked :
    (v.change .credentialsRevoked).standing = v.standing := rfl

@[simp] theorem standing_change_ended : (v.change .ended).standing = v.standing.ended := rfl

@[simp] theorem standing_disconnect : v.disconnect.standing = v.standing.disconnect := rfl

end

theorem backed_of_brings {v v' : Slice} (h : v.standing.Backed) (brought : v.Brings v') :
    v'.standing.Backed := by
  rcases brought with rfl | ⟨list, ports, stored, rfl⟩
  · exact h
  · exact h.bring ports stored

theorem backed_of_counts {v v' : Slice} (h : v.standing.Backed) (counted : v.Counts v') :
    v'.standing.Backed := by
  rcases counted with rfl | ⟨list, rfl⟩
  · exact h
  · exact h.count list

end Slice

/-! ## What the provider does to a device -/

namespace Standing

section jobs

variable (id : Identity) {v : Slice}

theorem backed_shown (h : v.standing.Backed) :
    (v.change (.shown v.available)).standing.Backed := by
  refine ⟨h.ports, fun available => ?_, h.description⟩
  have shown : v.stored?.any (·.available) = true := available
  exact (Option.any_eq_true _ _).1 shown

theorem backed_addIfMissing (h : v.standing.Backed) :
    (addIfMissing id).Ensures .honest id v fun _ v' _ => v'.standing.Backed := by
  refine ensures_addIfMissing.mono fun _ v' _ outcome => ?_
  rcases outcome with rfl | ⟨missing | absent, rfl⟩
  · exact h
  · exact h.announce_missing missing _
  · exact absurd rfl absent

theorem backed_announceIfMissing (h : v.standing.Backed) :
    (announceIfMissing id).Ensures .honest id v fun _ v' _ => v'.standing.Backed := by
  refine ensures_announceIfMissing.mono fun _ v' _ outcome => ?_
  rcases outcome with rfl | ⟨missing | absent, rfl⟩
  · exact h
  · exact h.announce_missing missing _
  · exact absurd rfl absent

theorem keptByDiscovery : KeptByDiscovery .honest fun v => v.standing.Backed where
  desired h := h
  shown := backed_shown
  marked b hr h := by simpa [Slice.standing, Slice.record, hr] using h
  addIfMissing := backed_addIfMissing
  announceAvailable id placeholder v h :=
    (ensures_announceAvailable placeholder).mono fun _ v' _ outcome => by
      rcases outcome with rfl | ⟨d, byDefault, rfl⟩
      · exact h
      · exact h.announce byDefault
  discoverPorts id v h := ensures_discoverPorts.mono fun _ v' _ outcome => by
    obtain ⟨v₁, brought, counted⟩ := outcome
    exact Slice.backed_of_counts (Slice.backed_of_brings h brought) counted

theorem backed_registerCredentials (c : Credentials) (h : v.standing.Backed) :
    (registerCredentials id c).Ensures .honest id v fun _ v' _ => v'.standing.Backed := by
  simp [registerCredentials, h]

theorem backed_markUnreachable (h : v.standing.Backed) :
    (markUnreachable id).Ensures .honest id v fun _ v' _ => v'.standing.Backed := by
  simp [markUnreachable, h, h.ended, h.disconnect]

theorem backed_abandon (h : v.standing.Backed) :
    (abandon id).Ensures .honest id v fun _ v' _ => v'.standing.Backed := by
  refine ensures_abandon.mono fun _ v' _ abandoned => ?_
  obtain ⟨w, outcome, kept⟩ := abandoned
  have left : w.standing.Backed := by
    rcases outcome with rfl | rfl
    · exact h.ended
    · exact h.disconnect
  rcases kept with rfl | rfl <;> exact left

theorem backed_connect (h : v.standing.Backed) :
    (connect id).Ensures .honest id v fun _ v' _ => v'.standing.Backed := by
  have abandoned : (abandon id).Ensures .honest id (v.change (.reached .connecting))
      fun _ v' _ => v'.standing.Backed := backed_abandon id h
  have announced : (announceIfMissing id).Ensures .honest id
      (((v.change (.reached .connecting)).setOpen true).change (.reached .connected))
      fun _ v' _ => v'.standing.Backed := backed_announceIfMissing id h
  simp only [connect, pure_eq, bind_eq, ensures_bind, ensures_ite, ensures_done, ensures_reportRole,
    Hazards.honest, forall_const, Slice.standing_accept, and_self, ensures_log, ensures_openSession,
    ensures_changeRecord, Slice.standing_change_reached, Bool.not_eq_true, ensures_probe,
    ensures_readRecord, h, implies_true, true_and, and_true]
  exact fun _ _ => ⟨fun _ => abandoned.regardless, fun _ _ => announced.regardless,
    fun _ => abandoned.regardless⟩

theorem backed_release (role : Role) (h : v.standing.Backed) :
    (release id role).Ensures .honest id v fun _ v' _ => v'.standing.Backed := by
  have disconnected : ∀ w : Slice, w.standing = v.standing →
      (disconnectIfStored id).Ensures .honest id ((w.change .ended).accept role)
        fun _ v' _ => v'.standing.Backed := by
    intro w same
    have hw : w.standing.Backed := same ▸ h
    refine ensures_disconnectIfStored.mono fun _ v' _ outcome => ?_
    rcases outcome with rfl | rfl
    · exact hw.ended
    · exact hw.disconnect
  simp only [release, pure_eq, bind_eq, ensures_bind, ensures_ite, ensures_done, ensures_log,
    ensures_reportRole, Hazards.honest, forall_const, Slice.standing_accept, ensures_changeRecord,
    Slice.standing_change_ended, ensures_warnOnRefusal, ensures_closeSession,
    Slice.standing_setOpen, ensures_readRecord, h, h.ended, implies_true, and_true, true_and]
  exact ⟨fun _ _ => disconnected _ rfl, fun _ => disconnected _ rfl⟩

theorem backed_sessionLost (h : v.standing.Backed) :
    (sessionLost id).Ensures .honest id v fun _ v' _ => v'.standing.Backed := by
  simp [sessionLost, h.ended, h.disconnect]

theorem backed_deviceRemoved (h : v.standing.Backed) :
    (deviceRemoved id).Ensures .honest id v fun _ v' _ => v'.standing.Backed := by
  simp [deviceRemoved, h, h.ended]

theorem backed_tearDown (h : v.standing.Backed) :
    (tearDown id).Ensures .honest id v fun _ v' _ => v'.standing.Backed := by
  simp [tearDown, h, h.ended]

theorem backed_dropped : { v with record? := none }.standing.Backed := by
  constructor <;> simp [Slice.standing, Slice.record, DeviceRecord.fresh]

end jobs

theorem backed_invariant (calm : Slice → Prop) :
    Invariant .honest calm fun v => v.standing.Backed where
  toKeptByDiscovery := keptByDiscovery
  dropped _ _ _ := backed_dropped
  registerCredentials id c _ h := backed_registerCredentials id c h
  markUnreachable := backed_markUnreachable
  connect := backed_connect
  release id role _ h := backed_release id role h
  sessionLost id _ _ h := backed_sessionLost id h
  deviceRemoved := backed_deviceRemoved
  tearDown := backed_tearDown

end Standing

/-! ## Throughout a run -/

namespace Deployment

/-- The step may be taken: nobody but the provider writes to the store, and whatever is to go wrong
lets devices be found. -/
def Undisturbed (_ : Deployment) : Step → Prop
  | .change (.remove _) => False
  | .change (.plan f) => f.Within .honest
  | _ => True

/-- Nothing that happens in between changes where a device stands. -/
theorem holds_of_undisturbed {P : Standing → Prop} {d : Deployment} {c : Change}
    (undisturbed : d.Undisturbed (.change c)) (h : d.Holds .honest fun v => P v.standing) :
    (c.apply d).Holds .honest fun v => P v.standing := by
  cases c with
  | plan f => exact ⟨undisturbed, h.every⟩
  | remove id => exact undisturbed.elim
  | _ => exact ⟨h.within, h.every⟩

namespace Reaches

variable {s : Settings} {start d : Deployment}

theorem backed (records : start.records = ∅) (within : start.faults.Within .honest)
    (reached : start.Reaches s Undisturbed d) : d.Holds .honest fun v => v.standing.Backed := by
  have first : ∀ id, (start.slice id).standing.Backed := by
    intro id
    have fresh : (start.slice id).record = .fresh := by
      rw [Slice.record, slice, records]
      rfl
    constructor <;> simp [Slice.standing, fresh, DeviceRecord.fresh]
  exact (Standing.backed_invariant fun _ => True).reaches (fun _ _ _ => trivial)
    (fun _ _ => holds_of_undisturbed) ⟨within, first⟩ reached

/-- While only the provider writes to the store, records are never ahead of it: discovered ports are
stored, a device that counts as available is shown available, and the description announced last is
the stored one and announces the device as available. -/
theorem records_backed (records : start.records = ∅) (within : start.faults.Within .honest)
    (reached : start.Reaches s Undisturbed d) {id : Identity} {r : DeviceRecord}
    (recorded : d.records.get? id = some r) :
    (r.portsDiscovered = true → ∃ known, d.store.get? id = some known ∧ known.ports ≠ []) ∧
      (r.available = true → d.store.isAvailable id = true) ∧
      ∀ description, r.lastDescription = some description →
        description.availableByDefault = true ∧
          ∃ known, d.store.get? id = some known ∧ known.description = description := by
  have kept := (reached.backed records within).every id
  have own : (d.slice id).record = r := by simp [Slice.record, slice, recorded]
  refine ⟨fun discovered => kept.ports ?_, fun available => ?_, fun description announced =>
    kept.description description ?_⟩
  · rwa [Slice.standing, own]
  · have shown := kept.available (by rwa [Slice.standing, own])
    exact (Option.any_eq_true _ _).2 shown
  · rwa [Slice.standing, own]

/-- After a pass the port of the device counts as discovered, and the store has a port. -/
theorem records_backed_of_promotion :
    let d := Deployment.sample.after .default Step.promotion
    (∃ r, d.records.get? .sample = some r ∧ r.portsDiscovered = true) ∧
      ∃ known, d.store.get? .sample = some known ∧ known.ports ≠ [] := by
  have reached : Deployment.sample.Reaches .default Undisturbed
      (Deployment.sample.after .default Step.promotion) :=
    Reaches.refl.after ⟨trivial, trivial, trivial⟩
  have discovered : ((Deployment.sample.after .default Step.promotion).records.get? .sample).any
      (·.portsDiscovered) = true := by
    decide +kernel
  obtain ⟨r, recorded, flag⟩ := (Option.any_eq_true _ _).1 discovered
  have backed := records_backed rfl (Faults.within_none _) reached recorded
  exact ⟨⟨r, recorded, flag⟩, backed.1 flag⟩

end Reaches

end Deployment

end Southbound
