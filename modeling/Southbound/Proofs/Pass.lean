import Southbound.Proofs.Link

/-!
# A pass in which nothing fails

When no call fails, what a pass does to a device is a function of the slice of the device:
`Slice.reconciled` for one entry that names it, and `Slice.marked` for what the pass does at its
end.  A pass over many entries does to every device what the entries that name it do one after the
other (`Job.run_reconcileEach`, `Job.run_reconcileAll`), so that a statement about a whole
pass becomes one about a single slice and a list of credentials.
-/

namespace Southbound

open Connection Deployment Discovery Job Reconciliation

/-- The credentials are stored, unless the record says that they are. -/
def Link.register (l : Link) (c : Credentials) : Link :=
  if l.state ≠ .unregistered ∧ l.credentials = some c then l
  else { l with key? := some c }.remember c

theorem Link.credentials_register (l : Link) (c : Credentials) :
    (l.register c).credentials = some c := by
  unfold register
  split <;> rename_i known
  · exact known.2
  · rfl

namespace Slice

/-! ## What becomes of a device -/

/-- The credentials are stored, unless the record says that they are. -/
def register (v : Slice) (c : Credentials) : Slice :=
  if v.record.state ≠ .unregistered ∧ v.record.credentials = some c then v.change .seen
  else (v.setKey (some c)).change (.credentialsStored c)

/-- The device is in the store. -/
def added (v : Slice) (id : Identity) : Slice :=
  if v.stored?.isSome then v else v.announce (.placeholder id)

/-- Ports that the driver lists are in the store. -/
def brought (v : Slice) : Slice :=
  match v.driver.listed? with
  | some (port :: ports) => (v.bring (port :: ports)).change .portsDiscovered
  | _ => v

/-- Counters that the driver reports are in the store, if the ports are known. -/
def counted (v : Slice) : Slice :=
  match v.record.portsDiscovered, v.driver.portStatistics with
  | true, some (.answer list) => v.count list
  | _, _ => v

/-- Ports and counters are in the store, unless the ports are known already. -/
def discovered (v : Slice) : Slice :=
  if v.record.portsDiscovered = false ∧ v.isMaster = true ∧ v.available = true then
    v.brought.counted
  else v

/-- The device was announced as available, and discovered. -/
def appeared (v : Slice) (placeholder : Description) : Slice :=
  match v.description? placeholder with
  | some d => ((v.announce d).change (.announced d)).discovered
  | none => v

/-- The session of the device, if it had one, is closed, and the device is not available. -/
def vanished (v : Slice) : Slice :=
  ((if v.record.state = .connected then v.setOpen false else v).change .ended).disconnect

/-- The device is where its reachability calls for. -/
def converged (v : Slice) (placeholder : Description) : Slice :=
  let v' := v.change (.shown v.available)
  match v.answers, v.available with
  | true, false => if v.isMaster then v'.appeared placeholder else v'
  | true, true => v'.discovered
  | false, true => v'.vanished
  | false, false => v'

/-- The device is recorded as desired, with these credentials, and is in the store. -/
def entry (id : Identity) (v : Slice) (c : Credentials) : Slice :=
  ((v.change .desired).register c).added id

/-- What becomes of a device that an entry with these credentials names. -/
def reconciled (id : Identity) (v : Slice) (c : Credentials) : Slice :=
  (entry id v c).converged (.placeholder id)

/-- What becomes of a device at the end of a pass: its record says whether it is desired, and is
dropped if it has no use. -/
def marked (v : Slice) (desired : Bool) : Slice :=
  { v with record? := (v.record?.map fun r => { r with desired := desired }).filter (·.isKept) }

theorem disconnect_of_missing {v : Slice} (h : v.stored? = none) : v.disconnect = v := by
  cases v
  cases h
  rfl

theorem isSome_stored_added (v : Slice) (id : Identity) : (v.added id).stored?.isSome := by
  unfold added
  split
  · assumption
  · rfl

theorem driver_brought (v : Slice) : v.brought.driver = v.driver := by
  unfold brought
  split <;> rfl

theorem isSome_stored_brought (v : Slice) : v.brought.stored?.isSome = v.stored?.isSome := by
  unfold brought
  split <;> simp [bring, change]

/-! ## The link of a device meanwhile -/

section links

variable (v : Slice) (placeholder : Description)

theorem link_brought : v.brought.link = v.link := by
  unfold brought
  split <;> rfl

theorem link_counted : v.counted.link = v.link := by
  unfold counted
  split <;> rfl

theorem link_discovered : v.discovered.link = v.link := by
  unfold discovered
  split
  · rw [link_counted, link_brought]
  · rfl

theorem link_appeared : (v.appeared placeholder).link = v.link := by
  unfold appeared
  split
  · rw [link_discovered, link_change_announced, link_announce]
  · rfl

theorem link_vanished :
    v.vanished.link = (if v.record.state = .connected then { v.link with isOpen := false }
      else v.link).ended := by
  unfold vanished
  split <;> rfl

/-- Only a device that vanished loses its session. -/
theorem link_converged :
    (v.converged placeholder).link =
      if v.answers = false ∧ v.available = true then
        (if v.record.state = .connected then { v.link with isOpen := false } else v.link).ended
      else v.link := by
  unfold converged
  cases v.answers <;> cases v.available
  case false.false => rfl
  case false.true => exact link_vanished _
  case true.true => exact link_discovered _
  case true.false =>
    cases v.isMaster with
    | true => exact link_appeared _ _
    | false => rfl

theorem link_register (c : Credentials) : (v.register c).link = v.link.register c := by
  unfold register Link.register
  split <;> rename_i known
  · exact (if_pos known).symm
  · exact (if_neg known).symm

theorem link_entry (id : Identity) (c : Credentials) : (entry id v c).link = v.link.register c := by
  unfold entry added
  split
  · rw [link_register, link_change_desired]
  · rw [link_announce, link_register, link_change_desired]

theorem credentials_reconciled (id : Identity) (c : Credentials) :
    (reconciled id v c).record.credentials = some c := by
  have entered : (entry id v c).link.credentials = some c := by
    rw [link_entry]
    exact v.link.credentials_register c
  show (reconciled id v c).link.credentials = some c
  unfold reconciled
  rw [link_converged]
  split
  · split <;> exact entered
  · exact entered

end links

end Slice

/-! ## Jobs for one device -/

namespace Job

variable {α : Type} (id : Identity) {v : Slice}

theorem ensures_register (c : Credentials) :
    (registerCredentials id c).Ensures .none id v fun reply v' _ =>
      reply = some () ∧ v' = v.register c := by
  simp only [registerCredentials, bind_eq, pure_eq, ensures_bind, ensures_changeRecord, ensures_ite]
  constructor
  · intro known
    exact ⟨rfl, (if_pos known).symm⟩
  · intro unknown
    have stored : (v.setKey (some c)).change (.credentialsStored c) = v.register c :=
      (if_neg unknown).symm
    simp only [ensures_bind, ensures_storeKey, Hazards.none, false_implies, implies_true, true_and,
      ensures_log, ensures_changeRecord, ensures_done]
    exact stored

theorem ensures_added :
    (addIfMissing id).Ensures .none id v fun reply v' _ => reply = some () ∧ v' = v.added id := by
  cases hs : v.stored? <;> simp [addIfMissing, Hazards.none, Slice.found?, Slice.added, hs]

theorem ensures_counted (stored : v.stored?.isSome) :
    (bringStatistics id v.driver).Ensures .none id v fun _ v' _ => v' = v.counted := by
  cases known : v.record.portsDiscovered with
  | false => simp [bringStatistics, Slice.counted, known]
  | true =>
    have present : v.stored? ≠ none := Option.isSome_iff_ne_none.1 stored
    rcases hd : v.driver.portStatistics with _ | list | e | _ <;>
      simp [bringStatistics, Hazards.none, Slice.counted, known, hd, present]

theorem ensures_brought (stored : v.stored?.isSome) :
    (bringPorts id v.driver).Ensures .none id v fun reply v' _ =>
      v' = v.brought ∧ (reply = none → v.driver.listed? = none) := by
  rcases hl : v.driver.listed? with _ | _ | ⟨port, ports⟩
  · simp [bringPorts, Slice.brought, hl]
  · simp [bringPorts, Slice.brought, hl]
  · have present : v.stored? ≠ none := Option.isSome_iff_ne_none.1 stored
    simp [bringPorts, Hazards.none, Slice.brought, hl, present]

/-- Ports that are not known are discovered if the device is available and mastered here. -/
theorem ensures_discover_of_due
    (due : v.record.portsDiscovered = false ∧ v.isMaster = true ∧ v.available = true)
    {Q : Post Unit} :
    (discoverUnlessKnown id).Ensures .none id v Q ↔
      (Job.bind (bringPorts id v.driver) fun _ => bringStatistics id v.driver).Ensures .none id v
        Q := by
  obtain ⟨known, hk, _⟩ := (Option.any_eq_true _ _).1 due.2.2
  have found : v.found? = some ⟨known.description, v.driver⟩ := by simp [Slice.found?, hk]
  simp [discoverUnlessKnown, discoverPorts, Hazards.none, due, found]

theorem ensures_discover_of_idle
    (idle : ¬ (v.record.portsDiscovered = false ∧ v.isMaster = true ∧ v.available = true))
    {Q : Post Unit} : (discoverUnlessKnown id).Ensures .none id v Q ↔ Q (some ()) v [] := by
  cases known : v.record.portsDiscovered with
  | true => simp [discoverUnlessKnown, known]
  | false =>
    cases master : v.isMaster with
    | false => simp [discoverUnlessKnown, discoverPorts, Hazards.none, known, master]
    | true =>
      have unavailable : v.available = false := by simpa [known, master] using idle
      simp [discoverUnlessKnown, discoverPorts, Hazards.none, known, master, unavailable]

theorem ensures_discovered :
    (discoverUnlessKnown id).Ensures .none id v fun _ v' _ => v' = v.discovered := by
  by_cases due : v.record.portsDiscovered = false ∧ v.isMaster = true ∧ v.available = true
  · obtain ⟨known, hk, _⟩ := (Option.any_eq_true _ _).1 due.2.2
    have stored : v.stored?.isSome := by simp [hk]
    have becomes : v.discovered = v.brought.counted := if_pos due
    rw [ensures_discover_of_due id due, ensures_bind, becomes]
    refine (ensures_brought id stored).mono fun reply v₁ _ outcome => ?_
    obtain ⟨rfl, crashed⟩ := outcome
    cases reply with
    | none =>
      have unchanged : v.brought = v := by simp [Slice.brought, crashed rfl]
      have uncounted : v.counted = v := by simp [Slice.counted, due.1]
      show v.brought = v.brought.counted
      rw [unchanged, uncounted]
    | some _ =>
      have counted := ensures_counted id (v.isSome_stored_brought.trans stored)
      rwa [v.driver_brought] at counted
  · have stays : v.discovered = v := if_neg due
    rw [ensures_discover_of_idle id due, stays]

theorem ensures_appeared (placeholder : Description) :
    (announceAvailable id placeholder).Ensures .none id v fun reply v' _ =>
      (reply = none ∧ v.description? placeholder = none ∧ v' = v) ∨
        ∃ d, reply = some () ∧ v.description? placeholder = some d ∧
          v' = (v.announce d).change (.announced d) := by
  cases hd : v.description? placeholder <;>
    simp [announceAvailable, ensures_describe, Hazards.none, hd]

theorem ensures_vanished :
    (markUnreachable id).Ensures .none id v fun _ v' _ => v' = v.vanished := by
  have missing : ∀ w : Slice, w.stored? = none → w = w.disconnect := fun w h =>
    (Slice.disconnect_of_missing h).symm
  by_cases connected : v.record.state = .connected <;>
    simpa [markUnreachable, Hazards.none, Slice.vanished, connected] using missing _

theorem ensures_converged (placeholder : Description) (stored : v.stored?.isSome) :
    (converge id placeholder).Ensures .none id v fun _ v' _ => v' = v.converged placeholder := by
  obtain ⟨known, hk⟩ := Option.isSome_iff_exists.1 stored
  simp only [converge, Option.isNone_iff_eq_none, bind_eq, pure_eq, Slice.converged, ensures_bind,
    ensures_ite, ensures_log, ensures_changeRecord, ensures_isAvailable, Hazards.none,
    false_implies, true_and, ensures_probe, ensures_lookUp, forall_const, not_true_eq_false,
    and_true, Slice.found?, hk, Option.map_some, reduceCtorEq, not_false_eq_true]
  cases v.answers <;> cases v.available
  case false.false => rfl
  case false.true => exact ensures_vanished id
  case true.true => exact ensures_discovered id
  case true.false =>
    cases master : v.isMaster with
    | false => simp [Hazards.none, Slice.change, master]
    | true =>
      have mastered : (v.change (.shown false)).isMaster = true := master
      simp only [↓reduceIte, ensures_bind, ensures_ite, Bool.not_eq_true, ensures_log,
        ensures_isLocalMaster, Hazards.none, false_implies, mastered, forall_const,
        Bool.true_eq_false, and_true, true_and]
      refine (ensures_appeared id placeholder).mono fun reply w _ outcome => ?_
      rcases outcome with ⟨rfl, untold, rfl⟩ | ⟨d, rfl, told, rfl⟩
      · simp [Slice.appeared, untold]
      · simpa [Slice.appeared, told] using ensures_discovered id

/-- What an entry does to the device that it names. -/
theorem ensures_reconciled (device : DesiredDevice) :
    (reconcileDevice id device).Ensures .none id v fun _ v' _ =>
      v' = v.reconciled id device.credentials := by
  simp only [reconcileDevice, bind_eq, ensures_bind, ensures_changeRecord]
  refine (ensures_register id device.credentials).mono fun _ w _ registered => ?_
  obtain ⟨rfl, rfl⟩ := registered
  refine (ensures_added id).mono fun _ w' _ added => ?_
  obtain ⟨rfl, rfl⟩ := added
  exact ensures_converged id _ (Slice.isSome_stored_added _ id)

end Job

/-! ## Passes over all entries -/

namespace Reconciliation

/-- What a pass does for one desired device, and what it says if this breaks down. -/
def reconcileSafely (id : Identity) (device : DesiredDevice) : Job Unit := do
  if (← (reconcileDevice id device).contained).isNone then log (.deviceFailed id)

/-- The identities of the entries that have one. -/
def named (scheme : String) (devices : List DesiredDevice) : List Identity :=
  devices.filterMap fun device => (identify scheme device).toOption

/-- The credentials that the entries of a device give, first to last. -/
def wanted (scheme : String) (devices : List DesiredDevice) (id : Identity) : List Credentials :=
  (devices.filter (names scheme id)).map (·.credentials)

section

variable {scheme : String} {device : DesiredDevice} {devices : List DesiredDevice} {id : Identity}

theorem toOption_eq_some_iff {ε α : Type} {r : Except ε α} {a : α} :
    r.toOption = some a ↔ r = .ok a := by
  cases r <;> simp [Except.toOption]

theorem names_iff : names scheme id device = true ↔ identify scheme device = .ok id := by
  unfold names
  cases identify scheme device <;> simp

theorem mem_named_iff :
    id ∈ named scheme devices ↔ ∃ device ∈ devices, identify scheme device = .ok id := by
  simp [named, toOption_eq_some_iff]

theorem mem_wanted_iff {c : Credentials} :
    c ∈ wanted scheme devices id ↔
      ∃ device ∈ devices, identify scheme device = .ok id ∧ device.credentials = c := by
  simp [wanted, names_iff, and_assoc]

theorem contains_named_iff :
    (named scheme devices).contains id = true ↔ wanted scheme devices id ≠ [] := by
  simp [mem_named_iff, wanted, names_iff]

theorem named_of_error {e : IdentityError} (h : identify scheme device = .error e) :
    named scheme (device :: devices) = named scheme devices := by
  simp [named, h, Except.toOption]

theorem named_of_ok (h : identify scheme device = .ok id) :
    named scheme (device :: devices) = id :: named scheme devices := by
  simp [named, h, Except.toOption]

theorem wanted_cons :
    wanted scheme (device :: devices) id =
      if names scheme id device then device.credentials :: wanted scheme devices id
      else wanted scheme devices id := by
  cases h : names scheme id device <;> simp [wanted, h]

theorem reconcileEach_of_error {e : IdentityError} (h : identify scheme device = .error e) :
    reconcileEach scheme (device :: devices) =
      Job.bind (log (.entrySkipped e)) fun _ => reconcileEach scheme devices := by
  rw [reconcileEach, h]
  rfl

theorem reconcileEach_of_ok (h : identify scheme device = .ok id) :
    reconcileEach scheme (device :: devices) =
      Job.bind (reconcileSafely id device) fun _ =>
        Job.bind (reconcileEach scheme devices) fun ids => done (id :: ids) := by
  rw [reconcileEach, h]
  simp only [reconcileSafely, bind_eq, pure_eq, bind_assoc]
  congr 1
  funext outcome
  cases outcome <;> rfl

end

end Reconciliation

namespace Deployment

/-- The second deployment comes from the first without anything going wrong: the slice of every
device becomes what `f` makes of it, and only calls of a certain kind are seen. -/
structure Carries (d : Deployment) (f : Identity → Slice → Slice) (C : Call → Prop)
    (d' : Deployment) : Prop where
  slices : ∀ id, d'.slice id = f id (d.slice id)
  setting : d'.setting = d.setting
  quiet : d'.faults = .none
  calls : ∃ cs, d'.calls = d.calls ++ cs ∧ ∀ c ∈ cs, C c

namespace Carries

variable {d d' d'' : Deployment} {f f' : Identity → Slice → Slice} {C : Call → Prop}

theorem trans (first : d.Carries f C d') (second : d'.Carries f' C d'') :
    d.Carries (fun id v => f' id (f id v)) C d'' where
  slices id := by rw [second.slices, first.slices]
  setting := second.setting.trans first.setting
  quiet := second.quiet
  calls := by
    obtain ⟨cs, seen, kind⟩ := first.calls
    obtain ⟨cs', seen', kind'⟩ := second.calls
    refine ⟨cs ++ cs', by rw [seen', seen, List.append_assoc], fun c hc => ?_⟩
    exact (List.mem_append.1 hc).elim (kind c) (kind' c)

theorem of_eq (h : d.Carries f C d') (same : ∀ id, f id (d.slice id) = f' id (d.slice id)) :
    d.Carries f' C d' :=
  ⟨fun id => (h.slices id).trans (same id), h.setting, h.quiet, h.calls⟩

theorem config (h : d.Carries f C d') : d'.config = d.config :=
  congrArg Setting.config h.setting

/-- If no slice changes then nothing changes. -/
theorem withoutHistory_eq (h : d.Carries f C d') (quiet : d.faults = .none)
    (same : ∀ id, f id (d.slice id) = d.slice id) : d'.withoutHistory = d.withoutHistory :=
  withoutHistory_eq_of_slices (fun id => (h.slices id).trans (same id)) h.setting
    (h.quiet.trans quiet.symm)

theorem note (quiet : d.faults = .none) {os : List Occurrence}
    (kind : ∀ c ∈ os.filterMap (·.call?), C c) : d.Carries (fun _ v => v) C (d.note os) where
  slices _ := rfl
  setting := rfl
  quiet := quiet
  calls := ⟨_, calls_note d os, kind⟩

theorem sayAll (quiet : d.faults = .none) (ls : List LogLine) :
    d.Carries (fun _ v => v) C (d.sayAll ls) :=
  note quiet (by simp [Occurrence.call?])

theorem say (quiet : d.faults = .none) (l : LogLine) : d.Carries (fun _ v => v) C (d.say l) :=
  sayAll quiet [l]

theorem of_moves {id : Identity} {v : Slice} {cs : List Call} (quiet : d.faults = .none)
    (moved : d.Moves id v cs d') (kind : ∀ c ∈ cs, C c) :
    d.Carries (fun id' w => if id' = id then v else w) C d' where
  slices id' := by
    by_cases same : id' = id
    · rw [if_pos same, same, moved.own]
    · rw [if_neg same, moved.others id' same]
  setting := moved.setting
  quiet := moved.quiet quiet
  calls := ⟨cs, moved.calls, kind⟩

/-- The end of a pass. -/
theorem settle (quiet : d.faults = .none) (desired : List Identity) :
    d.Carries (fun id v => v.marked (desired.contains id)) C
      { d with records := (d.records.markDesired desired).prune } where
  slices id := by
    simp [slice, Slice.marked, Records.markDesired, Records.prune, SortedMap.get?_filter,
      SortedMap.get?_map]
  setting := rfl
  quiet := quiet
  calls := ⟨[], (List.append_nil _).symm, by simp⟩

end Carries

end Deployment

namespace Job

variable {I : Identity → Slice → Prop} {C : Call → Prop}

section entries

variable {scheme : String} {device : DesiredDevice} {devices : List DesiredDevice} {id : Identity}
  {d d₁ d' : Deployment}

theorem run_reconcileEach_of_error {e : IdentityError} (h : identify scheme device = .error e)
    (ran : (reconcileEach scheme devices).run (d.say (.entrySkipped e)) =
      (.done (named scheme devices), d')) :
    (reconcileEach scheme (device :: devices)).run d =
      (.done (named scheme (device :: devices)), d') := by
  rw [reconcileEach_of_error h, named_of_error h]
  exact ran

theorem run_reconcileEach_of_ok (h : identify scheme device = .ok id)
    (handled : (reconcileSafely id device).run d = (.done (), d₁))
    (ran : (reconcileEach scheme devices).run d₁ = (.done (named scheme devices), d')) :
    (reconcileEach scheme (device :: devices)).run d =
      (.done (named scheme (device :: devices)), d') := by
  rw [reconcileEach_of_ok h, run_bind, handled]
  simp only [run_bind, ran, named_of_ok h]
  rfl

/-- The device of an entry becomes what the entry makes of it, whether or not a breakdown had to be
logged. -/
theorem run_reconcileSafely_of_ensures (quiet : d.faults = .none)
    (handles : (reconcileDevice id device).Ensures .none id (d.slice id) fun _ v' cs =>
      I id v' ∧ ∀ c ∈ cs, C c) :
    ∃ d', (reconcileSafely id device).run d = (.done (), d') ∧ I id (d'.slice id) ∧
      d.Carries (fun id' w => if id' = id then Slice.reconciled id w device.credentials else w)
        C d' := by
  obtain ⟨reply, v, cs, d₁, ran, moved, rfl, kept, kind⟩ :=
    run_of_ensures ((ensures_reconciled id device).and handles) (quiet ▸ Faults.within_none _)
  rw [← moved.own] at kept
  have turn : d.Carries
      (fun id' w => if id' = id then Slice.reconciled id w device.credentials else w) C d₁ := by
    refine (Carries.of_moves quiet moved kind).of_eq fun id' => ?_
    by_cases own : id' = id
    · rw [own]
    · rw [if_neg own, if_neg own]
  simp only [reconcileSafely, bind_eq, run_bind, run_contained, ran]
  cases reply with
  | some _ => exact ⟨d₁, rfl, kept, turn⟩
  | none => exact ⟨_, rfl, kept, turn.trans (Carries.say turn.quiet (.deviceFailed id))⟩

end entries

/-- The entries take their turns.  `I` is what is known of the devices meanwhile. -/
theorem run_reconcileEach (scheme : String) {devices : List DesiredDevice}
    (handles : ∀ device ∈ devices, ∀ id, identify scheme device = .ok id → ∀ v, I id v →
      (reconcileDevice id device).Ensures .none id v fun _ v' cs => I id v' ∧ ∀ c ∈ cs, C c)
    {d : Deployment} (quiet : d.faults = .none) (holds : ∀ id, I id (d.slice id)) :
    ∃ d', (reconcileEach scheme devices).run d = (.done (named scheme devices), d') ∧
      d.Carries (fun id v => (wanted scheme devices id).foldl (Slice.reconciled id) v) C d' := by
  induction devices generalizing d with
  | nil =>
    exact ⟨d, rfl, fun _ => rfl, rfl, quiet, [], by simp, by simp⟩
  | cons device rest ih =>
    have handles' := fun other (h : other ∈ rest) => handles other (List.mem_cons_of_mem _ h)
    cases hi : identify scheme device with
    | error e =>
      obtain ⟨d', ran, carried⟩ := ih handles' (d := d.say (.entrySkipped e)) quiet holds
      refine ⟨d', run_reconcileEach_of_error hi ran,
        ((Carries.say quiet _).trans carried).of_eq fun id => ?_⟩
      have unnamed : names scheme id device = false := by simp [names, hi]
      simp [wanted_cons, unnamed]
    | ok id =>
      obtain ⟨d₁, handled, kept, turn⟩ :=
        run_reconcileSafely_of_ensures quiet (handles device (.head _) id hi _ (holds id))
      have holds₁ : ∀ id', I id' (d₁.slice id') := by
        intro id'
        by_cases own : id' = id
        · exact own ▸ kept
        · rw [turn.slices, if_neg own]
          exact holds id'
      obtain ⟨d', ran, carried⟩ := ih handles' turn.quiet holds₁
      refine ⟨d', run_reconcileEach_of_ok hi handled ran, (turn.trans carried).of_eq fun id' => ?_⟩
      rw [wanted_cons]
      by_cases own : id' = id
      · subst own
        simp [names_iff.2 hi]
      · have unnamed : names scheme id' device = false := by
          simp [names, hi, Ne.symm own]
        simp [unnamed, own]

/-! ### The whole pass -/

theorem run_sayDropped (ids : List Identity) (d : Deployment) :
    (sayDropped ids).run d = (.done (), d.sayAll (ids.map .recordDropped)) := by
  induction ids generalizing d with
  | nil => simp [sayDropped, run, sayAll, Deployment.note]
  | cons id rest ih =>
    have next : (sayDropped (id :: rest)).run d =
        (sayDropped rest).run (d.say (.recordDropped id)) := rfl
    rw [next, ih]
    simp [sayAll, say, Deployment.note]

/-- The end of a pass, which cannot fail. -/
theorem run_markDesired (desired : List Identity) (d : Deployment) :
    (Job.bind (markDesired desired) fun _ => Job.bind prune sayDropped).run d =
      (.done (), Deployment.sayAll { d with records := (d.records.markDesired desired).prune }
        ((d.records.markDesired desired).prunable.map .recordDropped)) :=
  run_sayDropped _ _

/-- A pass whose configuration was read and whose entries were all gone through. -/
theorem run_reconcileAll_of_handled {s : Settings} {d d₁ d₂ : Deployment}
    {devices : List DesiredDevice} {desired : List Identity}
    (read : (readDevices s.appId).run d = (.done (some devices), d₁))
    (handled : (reconcileEach s.scheme devices).run (d₁.say (.passStarted devices.length)) =
      (.done desired, d₂)) :
    (reconcileAll s).run d =
      (.done (), Deployment.sayAll { d₂ with records := (d₂.records.markDesired desired).prune }
        ((d₂.records.markDesired desired).prunable.map .recordDropped)) := by
  unfold reconcileAll
  rw [bind_eq, run_bind, read]
  show (Job.bind (reconcileEach s.scheme devices) _).run (d₁.say _) = _
  rw [run_bind, handled]
  exact run_markDesired desired d₂

theorem run_bind_ofAction {β : Type} {a : Action} {answer : a.Answer} {f : a.Answer → Job β}
    {d d' : Deployment} (ready : d.isReady a = true) (performed : d.perform a = (some answer, d')) :
    (Job.bind (ofAction a) f).run d = (f answer).run d' := by
  simp [ofAction, run, ready, performed]

theorem run_readDevices (appId : String) {d : Deployment} (quiet : d.faults = .none)
    (asks : C (.desiredDevices appId)) :
    ∃ d', (readDevices appId).run d =
        (.done (d.config.desiredDevices appId).toOption, d') ∧
      d.Carries (fun _ v => v) C d' := by
  have asked : d.Carries (fun _ v => v) C (d.note [.called (.desiredDevices appId)]) :=
    Carries.note quiet (by simpa [Occurrence.call?] using asks)
  have performed : d.perform (.requestDevices appId) =
      (some none, d.note [.called (.desiredDevices appId)]) := by
    unfold perform
    simp only [draw_of_quiet asked.quiet]
  have answered : (Job.desiredDevices appId).run d =
      (.done (d.config.desiredDevices appId), d.note [.called (.desiredDevices appId)]) := by
    exact run_bind_ofAction rfl performed
  unfold readDevices
  rw [bind_eq, run_bind, answered]
  cases d.config.desiredDevices appId with
  | ok devices => exact ⟨_, rfl, asked⟩
  | error e => exact ⟨_, rfl, asked.trans (Carries.say asked.quiet _)⟩

/-- A pass over a configuration that can be read does what its entries do, and then marks the
records. -/
theorem run_reconcileAll (s : Settings) {devices : List DesiredDevice}
    (handles : ∀ device ∈ devices, ∀ id, identify s.scheme device = .ok id → ∀ v, I id v →
      (reconcileDevice id device).Ensures .none id v fun _ v' cs => I id v' ∧ ∀ c ∈ cs, C c)
    (asks : C (.desiredDevices s.appId)) {d : Deployment} (quiet : d.faults = .none)
    (config : d.config.desiredDevices s.appId = .ok devices) (holds : ∀ id, I id (d.slice id)) :
    ∃ d', (reconcileAll s).run d = (.done (), d') ∧
      d.Carries (fun id v => ((wanted s.scheme devices id).foldl (Slice.reconciled id) v).marked
        ((named s.scheme devices).contains id)) C d' := by
  obtain ⟨d₁, read, asked⟩ := run_readDevices s.appId quiet asks
  have started := asked.trans (Carries.say asked.quiet (.passStarted devices.length))
  have holds₁ : ∀ id, I id ((d₁.say (.passStarted devices.length)).slice id) := by
    intro id
    rw [started.slices]
    exact holds id
  obtain ⟨d₂, handled, carried⟩ := run_reconcileEach s.scheme handles started.quiet holds₁
  have settled := (started.trans carried).trans
    (Carries.settle carried.quiet (named s.scheme devices))
  have said := settled.trans (Carries.sayAll settled.quiet
    ((d₂.records.markDesired (named s.scheme devices)).prunable.map .recordDropped))
  rw [config] at read
  exact ⟨_, run_reconcileAll_of_handled read handled, said⟩

/-- Where a pass leads from any state at all. -/
theorem carries_reconcileAll (s : Settings) {d : Deployment} (quiet : d.faults = .none)
    {devices : List DesiredDevice} (config : d.config.desiredDevices s.appId = .ok devices) :
    ∃ d', (reconcileAll s).run d = (.done (), d') ∧
      d.Carries (fun id v => ((wanted s.scheme devices id).foldl (Slice.reconciled id) v).marked
        ((named s.scheme devices).contains id)) (fun _ => True) d' := by
  refine run_reconcileAll s (I := fun _ _ => True) ?_ trivial quiet config fun _ => trivial
  intro device _ id _ v _
  exact (ensures_reconciled id device).mono fun _ _ _ _ => ⟨trivial, fun _ _ => trivial⟩

/-- A pass over a configuration that cannot be read does nothing. -/
theorem run_reconcileAll_unreadable (s : Settings) (asks : C (.desiredDevices s.appId))
    {d : Deployment} (quiet : d.faults = .none) {e : ConfigReadError}
    (config : d.config.desiredDevices s.appId = .error e) :
    ∃ d', (reconcileAll s).run d = (.done (), d') ∧ d.Carries (fun _ v => v) C d' := by
  obtain ⟨d₁, read, asked⟩ := run_readDevices s.appId quiet asks
  rw [config] at read
  refine ⟨d₁, ?_, asked⟩
  unfold reconcileAll
  rw [bind_eq, run_bind, read]
  rfl

end Job

end Southbound
