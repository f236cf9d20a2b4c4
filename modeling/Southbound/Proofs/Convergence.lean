import Southbound.Proofs.Idempotence

/-!
# Where a pass leaves a device

One pass in which nothing fails brings every device that an entry names to a state that can be said
in advance (`Deployment.Reaches.pass_converges`): in the store, available if it answers and was
available or is mastered here, with the key that the last entry gives, without a session if it
vanished, and with the ports that were discovered.  The first entry of a device decides all of this
but the key; after it the device is at rest, and the other entries only store credentials.

The session and the key depend on what the records say about them, so that this is true of the
states that the provider can come to, where records, sessions and keys agree.
-/

namespace Southbound

open Connection Deployment Discovery Job Reconciliation

namespace Slice

/-- The ports in the store. -/
def ports (v : Slice) : List Port := (v.stored?.map (·.ports)).getD []

/-- The ports that the driver reports. -/
def listing (v : Slice) : List Port := v.driver.listed?.getD []

/-- The device is to become available, so that its driver is asked for a description. -/
def Appears (v : Slice) : Prop := v.answers = true ∧ v.available = false ∧ v.isMaster = true

variable (v : Slice) (id : Identity) (c : Credentials)

/-! ## What an entry leaves alone at first -/

theorem driver_entry : (entry id v c).driver = v.driver := by
  unfold entry added register
  split <;> split <;> rfl

theorem listing_entry : (entry id v c).listing = v.listing := by
  rw [listing, driver_entry, listing]

theorem isMaster_entry : (entry id v c).isMaster = v.isMaster := by
  unfold entry added register
  split <;> split <;> rfl

theorem answers_entry : (entry id v c).answers = v.answers := by
  unfold entry added register
  split <;> split <;> rfl

theorem portsDiscovered_entry :
    (entry id v c).record.portsDiscovered = v.record.portsDiscovered := by
  unfold entry added register
  split <;> split <;> rfl

theorem stored?_entry :
    (entry id v c).stored? = some (v.stored?.getD (.announced none (.placeholder id))) := by
  have registered : ((v.change .desired).register c).stored? = v.stored? := by
    unfold register
    split <;> rfl
  unfold entry added
  rw [registered]
  cases hs : v.stored? with
  | none => simp [announce, registered, hs]
  | some known => simp [registered, hs]

theorem available_entry : (entry id v c).available = v.available := by
  rw [available, stored?_entry]
  cases hs : v.stored? <;> simp [available, hs, StoredDevice.announced, Description.placeholder]

theorem ports_entry : (entry id v c).ports = v.ports := by
  rw [ports, stored?_entry]
  cases hs : v.stored? <;> simp [ports, hs, StoredDevice.announced]

/-! ## What convergence makes of availability -/

theorem available_counted : v.counted.available = v.available := by
  unfold counted
  split
  · exact available_count v _
  · rfl

theorem available_brought : v.brought.available = v.available := by
  unfold brought
  split
  · exact available_bring v _
  · rfl

theorem available_discovered : v.discovered.available = v.available := by
  unfold discovered
  split
  · rw [available_counted, available_brought]
  · rfl

theorem description?_ne_none (placeholder : Description) (told : v.driver.told? ≠ none) :
    v.description? placeholder ≠ none := by
  unfold description?
  cases v.stored? with
  | none => simp
  | some known => simpa using told

theorem exists_appeared_eq (placeholder : Description) (told : v.driver.told? ≠ none) :
    ∃ d, d.availableByDefault = true ∧
      v.appeared placeholder = ((v.announce d).change (.announced d)).discovered := by
  obtain ⟨d, hd⟩ := Option.ne_none_iff_exists'.1 (v.description?_ne_none placeholder told)
  exact ⟨d, availableByDefault_of_description? hd, by simp [appeared, hd]⟩

/-- A device that answers becomes available if this node masters it. -/
theorem available_converged (placeholder : Description)
    (told : v.Appears → v.driver.told? ≠ none) :
    (v.converged placeholder).available = (v.answers && (v.available || v.isMaster)) := by
  unfold converged
  cases answers : v.answers <;> cases shown : v.available
  case false.false => exact shown
  case false.true => exact available_disconnect _
  case true.true => exact (available_discovered _).trans shown
  case true.false =>
    cases master : v.isMaster with
    | false => exact shown
    | true =>
      obtain ⟨d, byDefault, appeared⟩ :=
        (v.change (.shown false)).exists_appeared_eq placeholder (told ⟨answers, shown, master⟩)
      show ((v.change (.shown false)).appeared placeholder).available = true
      rw [appeared, available_discovered]
      exact (available_announce _ d).trans byDefault

/-! ## What convergence makes of ports -/

theorem ports_announce (d : Description) : (v.announce d).ports = v.ports := by
  cases hs : v.stored? <;> simp [announce, ports, hs, StoredDevice.announced]

theorem ports_disconnect : v.disconnect.ports = [] := by
  cases hs : v.stored? <;> simp [disconnect, ports, hs, StoredDevice.gone]

theorem ports_counted : v.counted.ports = v.ports := by
  unfold counted
  split
  · cases hs : v.stored? <;> simp [count, ports, hs, StoredDevice.withStatistics]
  · rfl

theorem ports_brought (stored : v.stored?.isSome) :
    v.brought.ports = if v.listing ≠ [] then v.listing else v.ports := by
  obtain ⟨known, hk⟩ := Option.isSome_iff_exists.1 stored
  rcases hl : v.driver.listed? with _ | _ | ⟨port, others⟩ <;>
    simp [brought, listing, hl, bring, ports, hk, StoredDevice.withPorts, change]

theorem ports_discovered :
    v.discovered.ports =
      if v.record.portsDiscovered = false ∧ v.isMaster = true ∧ v.available = true ∧ v.listing ≠ []
      then v.listing else v.ports := by
  unfold discovered
  by_cases due : v.record.portsDiscovered = false ∧ v.isMaster = true ∧ v.available = true
  · obtain ⟨known, hk, _⟩ := (Option.any_eq_true _ _).1 due.2.2
    rw [if_pos due, ports_counted, ports_brought _ (by simp [hk])]
    simp [due]
  · rw [if_neg due, if_neg]
    rintro ⟨unknown, master, available, _⟩
    exact due ⟨unknown, master, available⟩

/-- The ports of a device that vanished are gone; those of a device that is available are
discovered, unless they are known. -/
theorem ports_converged (placeholder : Description) (told : v.Appears → v.driver.told? ≠ none) :
    (v.converged placeholder).ports =
      if v.answers = false ∧ v.available = true then []
      else if v.answers = true ∧ v.isMaster = true ∧ v.record.portsDiscovered = false ∧
        v.listing ≠ [] then v.listing
      else v.ports := by
  unfold converged
  cases answers : v.answers <;> cases shown : v.available
  case false.false => rfl
  case false.true => exact ports_disconnect _
  case true.true =>
    refine (ports_discovered _).trans ?_
    show (if v.record.portsDiscovered = false ∧ v.isMaster = true ∧ v.available = true ∧
      v.listing ≠ [] then v.listing else v.ports) = _
    simp [shown, and_left_comm]
  case true.false =>
    cases master : v.isMaster with
    | false =>
      show v.ports = _
      simp
    | true =>
      obtain ⟨d, byDefault, appeared⟩ :=
        (v.change (.shown false)).exists_appeared_eq placeholder (told ⟨answers, shown, master⟩)
      have available : (((v.change (.shown false)).announce d).change (.announced d)).available =
          true :=
        (available_announce _ d).trans byDefault
      show ((v.change (.shown false)).appeared placeholder).ports = _
      rw [appeared, ports_discovered, available]
      show (if v.record.portsDiscovered = false ∧ v.isMaster = true ∧ true = true ∧
        v.listing ≠ [] then v.listing else (v.announce d).ports) = _
      rw [ports_announce]
      simp [master]

/-! ## What entries make of a device -/

/-- Only a device that vanished loses its session. -/
theorem isOpen_reconciled (settled : v.link.Settled) :
    (reconciled id v c).isOpen =
      if v.answers = false ∧ v.available = true then false else v.isOpen := by
  have entered : (entry id v c).link.Settled := by
    rw [link_entry]
    unfold Link.register
    split
    · exact settled
    · exact settled.remember c
  have same : (entry id v c).link.isOpen = v.isOpen := by
    rw [link_entry]
    unfold Link.register
    split <;> rfl
  show (reconciled id v c).link.isOpen = _
  unfold reconciled
  rw [link_converged, answers_entry, available_entry]
  by_cases vanishes : v.answers = false ∧ v.available = true
  · rw [if_pos vanishes, if_pos vanishes]
    by_cases connected : (entry id v c).record.state = .connected
    · rw [if_pos connected]
      rfl
    · rw [if_neg connected]
      exact entered.closed_of_not_connected connected
  · rw [if_neg vanishes, if_neg vanishes, same]

/-- A record that remembers credentials does so rightly, so that these need not be stored again. -/
theorem key?_reconciled (remembered : v.link.Remembered) :
    (reconciled id v c).key? = some c := by
  have entered : (entry id v c).link.key? = some c := by
    rw [link_entry]
    unfold Link.register
    split
    · next known => exact remembered c known.2
    · rfl
  show (reconciled id v c).link.key? = some c
  unfold reconciled
  rw [link_converged]
  split
  · split <;> exact entered
  · exact entered

/-- What the entries of a device make of it, when the records of the provider are right. -/
theorem foldl_reconciled_spec {cs : List Credentials} (ne : cs ≠ []) (settled : v.link.Settled)
    (remembered : v.link.Remembered) (told : v.Appears → v.driver.told? ≠ none) :
    (cs.foldl (reconciled id) v).stored?.isSome ∧
      (cs.foldl (reconciled id) v).available = (v.answers && (v.available || v.isMaster)) ∧
      (cs.foldl (reconciled id) v).key? = some (cs.getLast ne) ∧
      (cs.foldl (reconciled id) v).isOpen =
        (if v.answers = false ∧ v.available = true then false else v.isOpen) ∧
      (cs.foldl (reconciled id) v).ports =
        (if v.answers = false ∧ v.available = true then []
        else if v.answers = true ∧ v.isMaster = true ∧ v.record.portsDiscovered = false ∧
          v.listing ≠ [] then v.listing
        else v.ports) := by
  obtain ⟨c, rest, rfl⟩ := List.exists_cons_of_ne_nil ne
  have told' : (entry id v c).Appears → (entry id v c).driver.told? ≠ none := by
    rwa [Appears, answers_entry, available_entry, isMaster_entry, driver_entry]
  have available : (reconciled id v c).available = (v.answers && (v.available || v.isMaster)) := by
    rw [reconciled, available_converged _ _ told', answers_entry, available_entry, isMaster_entry]
  have ports := ports_converged (entry id v c) (.placeholder id) told'
  rw [answers_entry, available_entry, isMaster_entry, portsDiscovered_entry, ports_entry,
    listing_entry] at ports
  have stored := (resting_reconciled v id c).stored
  have isOpen := isOpen_reconciled v id c settled
  have key := key?_reconciled v id c remembered
  have last := credentials_foldl_reconciled v id ne
  rw [List.foldl_cons] at last ⊢
  rcases foldl_reconciled_cons v id c rest with same | ⟨ne', held⟩
  · rw [same] at last ⊢
    rw [credentials_reconciled] at last
    exact ⟨stored, available, key.trans last, isOpen, ports⟩
  · rw [held, List.getLast_cons ne']
    exact ⟨stored, available, rfl, isOpen, ports⟩

end Slice

/-! ## Where a pass leads -/

namespace Deployment

variable {id : Identity}

/-- The ports of the device in the store. -/
def storedPorts (d : Deployment) (id : Identity) : List Port :=
  ((d.store.get? id).map (·.ports)).getD []

/-- The ports that the driver of the device lists; none if it has no driver or the inquiry breaks
down. -/
def listedPorts (d : Deployment) (id : Identity) : List Port :=
  ((d.drivers.get? id).getD ∅).listed?.getD []

/-- The device answers and is mastered here, and the store does not show it available. -/
def Appears (d : Deployment) (id : Identity) : Prop :=
  d.reachable.contains id = true ∧ d.store.isAvailable id = false ∧
    d.mastership.isLocalMaster id = true

/-- The device does not answer although the store shows it available. -/
def Vanishes (d : Deployment) (id : Identity) : Prop :=
  d.reachable.contains id = false ∧ d.store.isAvailable id = true

instance (d : Deployment) (id : Identity) : Decidable (d.Vanishes id) :=
  inferInstanceAs (Decidable (_ ∧ _))

/-- A pass took the device from the first deployment to the second, and the last entry that names
the device has these credentials. -/
structure Converges (id : Identity) (c : Credentials) (before after : Deployment) : Prop where
  stored : after.store.contains id = true
  available : after.store.isAvailable id = (before.reachable.contains id &&
    (before.store.isAvailable id || before.mastership.isLocalMaster id))
  key : after.keys.get? id = some c
  session : after.sessions.contains id =
    if before.Vanishes id then false else before.sessions.contains id
  ports : after.storedPorts id =
    if before.Vanishes id then []
    else if after.store.isAvailable id = true ∧ before.reachable.contains id = true ∧
      before.mastership.isLocalMaster id = true ∧
      (before.records.read id).portsDiscovered = false ∧ before.listedPorts id ≠ [] then
      before.listedPorts id
    else before.storedPorts id

/-- A pass none of whose entries names the device took it from the first deployment to the
second: only its record changed. -/
structure Unnamed (id : Identity) (before after : Deployment) : Prop where
  stored : after.store.get? id = before.store.get? id
  key : after.keys.get? id = before.keys.get? id
  session : after.sessions.contains id = before.sessions.contains id
  record : after.records.get? id =
    ((before.records.get? id).map fun r => { r with desired := false }).filter (·.isKept)

section outcomes

variable {d d' : Deployment} {cs : List Credentials}

/-- What the entries of a device make of its slice is what `Converges` says. -/
theorem converges_of_slice (ne : cs ≠ []) (settled : (d.slice id).link.Settled)
    (remembered : (d.slice id).link.Remembered)
    (tells : d.Appears id → ∀ driver, d.drivers.get? id = some driver → driver.told? ≠ none)
    (after : d'.slice id = cs.foldl (Slice.reconciled id) (d.slice id)) :
    Converges id (cs.getLast ne) d d' := by
  have told : (d.slice id).Appears → (d.slice id).driver.told? ≠ none := by
    intro appears
    show ((d.drivers.get? id).getD ∅).told? ≠ none
    cases hd : d.drivers.get? id with
    | none => exact fun broken => nomatch broken
    | some driver => exact tells appears driver hd
  obtain ⟨stored, available, key, session, ports⟩ :=
    Slice.foldl_reconciled_spec (d.slice id) id ne settled remembered told
  rw [← after] at stored available key session ports
  refine ⟨stored, available, key, session, ports.trans ?_⟩
  -- a device that answers and is mastered here is available now
  have now : (d'.store.isAvailable id = true ∧ d.reachable.contains id = true ∧
      d.mastership.isLocalMaster id = true ∧ (d.records.read id).portsDiscovered = false ∧
      d.listedPorts id ≠ []) ↔ ((d.slice id).answers = true ∧ (d.slice id).isMaster = true ∧
      (d.slice id).record.portsDiscovered = false ∧ (d.slice id).listing ≠ []) := by
    constructor
    · exact fun due => due.2
    · intro due
      refine ⟨available.trans ?_, due⟩
      simp [due.1, due.2.1]
  simp only [now]
  rfl

theorem unnamed_of_slice (after : d'.slice id = (d.slice id).marked false) : Unnamed id d d' where
  stored := congrArg Slice.stored? after
  key := congrArg Slice.key? after
  session := congrArg Slice.isOpen after
  record := congrArg Slice.record? after

end outcomes

namespace Reaches

variable {s : Settings} {start d : Deployment}

/-- A pass in which nothing fails brings every device that its entries name where `Converges` says,
and leaves the other devices alone. -/
theorem pass_converges (records : start.records = ∅) (sessions : start.sessions = ∅)
    (within : start.faults.Within .sessionsClose) (reached : start.Reaches s Orderly d)
    (quiet : d.faults = .none) {devices : List DesiredDevice}
    (config : d.config.desiredDevices s.appId = .ok devices)
    (tells : ∀ id, wanted s.scheme devices id ≠ [] → d.Appears id →
      ∀ driver, d.drivers.get? id = some driver → driver.told? ≠ none) :
    ∃ d', (reconcileAll s).run d = (.done (), d') ∧ ∀ id,
      (∀ ne : wanted s.scheme devices id ≠ [],
        Converges id ((wanted s.scheme devices id).getLast ne) d d') ∧
      (wanted s.scheme devices id = [] → Unnamed id d d') := by
  obtain ⟨d', ran, carried⟩ := carries_reconcileAll s quiet config
  refine ⟨d', ran, fun id => ⟨fun ne => ?_, fun unwanted => ?_⟩⟩
  · have settled := (reached.settled records sessions within).every id
    have remembered := (reached.remembered records within).every id
    refine converges_of_slice ne settled remembered (tells id ne) ?_
    rw [carried.slices, contains_named_iff.2 ne, Slice.marked_foldl_reconciled _ id ne]
  · have unlisted : (named s.scheme devices).contains id = false := by
      rw [← Bool.not_eq_true]
      exact fun listed => contains_named_iff.1 listed unwanted
    apply unnamed_of_slice
    rw [carried.slices, unlisted, unwanted, List.foldl_nil]

/-- A pass closes the session of a device that stopped answering after its promotion. -/
theorem pass_converges_of_outage :
    ∃ d', (reconcileAll .default).run (Deployment.sample.after .default Step.outage) =
        (.done (), d') ∧
      d'.store.isAvailable .sample = false ∧ d'.sessions.contains .sample = false ∧
      d'.storedPorts .sample = [] := by
  have reached : Deployment.sample.Reaches .default Orderly
      (Deployment.sample.after .default Step.outage) :=
    Reaches.refl.after ⟨trivial, trivial, trivial, Faults.within_none _, trivial⟩
  have config : (Deployment.sample.after .default Step.outage).config.desiredDevices
      Settings.default.appId = .ok [⟨"10.0.0.1", 830, "admin", "secret", none⟩] :=
    toOption_eq_some_iff.1 (by decide +kernel)
  have answering : ∀ entry ∈ (Deployment.sample.after .default Step.outage).drivers.toList,
      entry.2.told? ≠ none := by
    decide +kernel
  have wants : wanted Settings.default.scheme [⟨"10.0.0.1", 830, "admin", "secret", none⟩]
      .sample ≠ [] := by
    decide +kernel
  have vanishes : (Deployment.sample.after .default Step.outage).Vanishes .sample := by
    decide +kernel
  obtain ⟨d', ran, outcome⟩ := pass_converges rfl rfl (Faults.within_none _) reached rfl config
    fun id _ _ driver h => answering (id, driver) ((SortedMap.mem_toList_iff _).2 h)
  have converges := (outcome .sample).1 wants
  refine ⟨d', ran, ?_, ?_, ?_⟩
  · simp [converges.available, vanishes.1]
  · simp [converges.session, vanishes]
  · simp [converges.ports, vanishes]

end Reaches

end Deployment

end Southbound
