import Southbound.Proofs.Pass

/-!
# A second pass changes nothing

After a pass every device that an entry names is at rest (`Slice.Resting`): it is stored and
recorded as desired, it is shown available only if it answers, and there is nothing left to
announce or to discover.  An entry does nothing to a device at rest but to store credentials other
than those stored last, which it does when several entries disagree about a device.  From any state
at all, a second pass in a row therefore leaves everything as it is (`Job.reconcileAll_twice`).
-/

namespace Southbound

open Connection Deployment Discovery Job Reconciliation

namespace Slice

/-- The device is recorded and stored as an entry asks for. -/
structure Entered (v : Slice) : Prop where
  recorded : v.record?.isSome
  desired : v.record.desired = true
  registered : v.record.state ≠ .unregistered
  stored : v.stored?.isSome

/-- There is nothing left to do for the device. -/
structure Resting (v : Slice) (id : Identity) : Prop extends Entered v where
  shown : v.record.available = v.available
  reachable : v.available = true → v.answers = true
  unannounced : v.answers = true → v.available = false → v.isMaster = true →
    v.description? (.placeholder id) = none
  undiscovered : v.available = true → v.isMaster = true → v.record.portsDiscovered = false →
    v.driver.listed? = none ∨ v.driver.listed? = some []

variable {v : Slice} {id : Identity}

theorem change_eq_self {c : RecordChange} (recorded : v.record?.isSome)
    (same : c.apply v.record = v.record) : v.change c = v := by
  obtain ⟨r, hr⟩ := Option.isSome_iff_exists.1 recorded
  have own : some v.record = v.record? := by simp [record, hr]
  cases v
  simp only [change, same]
  rw [own]

/-! ## After an entry a device is at rest -/

theorem registered_register (v : Slice) (c : Credentials) :
    (v.register c).record.state ≠ .unregistered ∧ (v.register c).record.credentials = some c := by
  unfold register
  split
  · next known => exact known
  · refine ⟨?_, rfl⟩
    show (if v.record.state = .unregistered then ConnectionState.keyStored else v.record.state) ≠
      .unregistered
    split
    · simp
    · next registered => exact registered

theorem entered_of_entry (v : Slice) (id : Identity) (c : Credentials) :
    (entry id v c).Entered := by
  have desired : ((v.change .desired).register c).record.desired = true := by
    unfold register
    split <;> rfl
  have recorded : ((v.change .desired).register c).record?.isSome := by
    unfold register
    split <;> rfl
  obtain ⟨registered, _⟩ := registered_register (v.change .desired) c
  unfold entry added
  split
  · next stored => exact ⟨recorded, desired, registered, stored⟩
  · exact ⟨recorded, desired, registered, rfl⟩

namespace Entered

theorem change (h : v.Entered) (c : RecordChange) (desired : (c.apply v.record).desired = true)
    (registered : (c.apply v.record).state ≠ .unregistered) : (v.change c).Entered :=
  ⟨rfl, desired, registered, h.stored⟩

theorem announce (h : v.Entered) (d : Description) :
    ((v.announce d).change (.announced d)).Entered :=
  ⟨rfl, h.desired, h.registered, rfl⟩

theorem vanished (h : v.Entered) : v.vanished.Entered := by
  have registered : v.record.ended.state ≠ .unregistered := by
    rw [DeviceRecord.ended]
    split
    · simp
    · exact h.registered
  have stored : (v.stored?.map StoredDevice.gone).isSome := by simpa using h.stored
  unfold Slice.vanished
  split <;> exact ⟨rfl, h.desired, registered, stored⟩

end Entered

theorem available_announce (v : Slice) (d : Description) :
    (v.announce d).available = d.availableByDefault := by
  cases hs : v.stored? <;> simp [announce, available, hs, StoredDevice.announced]

theorem available_disconnect (v : Slice) : v.disconnect.available = false := by
  cases hs : v.stored? <;> simp [disconnect, available, hs, StoredDevice.gone]

theorem available_bring (v : Slice) (list : List Port) :
    (v.bring list).available = v.available := by
  cases hs : v.stored? <;> simp [bring, available, hs, StoredDevice.withPorts]

theorem available_count (v : Slice) (list : List PortStatistics) :
    (v.count list).available = v.available := by
  cases hs : v.stored? <;> simp [count, available, hs, StoredDevice.withStatistics]

theorem description?_count (v : Slice) (list : List PortStatistics) (placeholder : Description) :
    (v.count list).description? placeholder = v.description? placeholder := by
  cases hs : v.stored? <;> simp [count, description?, hs, StoredDevice.withStatistics]

namespace Resting

theorem of_available (h : v.Entered) (shown : v.record.available = true)
    (available : v.available = true) (answers : v.answers = true)
    (undiscovered : v.isMaster = true → v.record.portsDiscovered = false →
      v.driver.listed? = none ∨ v.driver.listed? = some []) : v.Resting id :=
  { h with
    shown := shown.trans available.symm
    reachable := fun _ => answers
    unannounced := fun _ unavailable => absurd available (by simp [unavailable])
    undiscovered := fun _ => undiscovered }

theorem of_unavailable (h : v.Entered) (shown : v.record.available = false)
    (unavailable : v.available = false)
    (unannounced : v.answers = true → v.isMaster = true →
      v.description? (.placeholder id) = none) : v.Resting id :=
  { h with
    shown := shown.trans unavailable.symm
    reachable := fun available => absurd available (by simp [unavailable])
    unannounced := fun answers _ => unannounced answers
    undiscovered := fun available => absurd available (by simp [unavailable]) }

theorem count (h : v.Resting id) (list : List PortStatistics) : (v.count list).Resting id where
  recorded := h.recorded
  desired := h.desired
  registered := h.registered
  stored := by simpa [Slice.count] using h.stored
  shown := h.shown.trans (available_count v list).symm
  reachable available := h.reachable (available_count v list ▸ available)
  unannounced answers unavailable master := by
    rw [description?_count]
    exact h.unannounced answers (available_count v list ▸ unavailable) master
  undiscovered available := h.undiscovered (available_count v list ▸ available)

theorem counted (h : v.Resting id) : v.counted.Resting id := by
  unfold Slice.counted
  split
  · exact h.count _
  · exact h

/-- Once the device is shown available, discovery brings it to rest. -/
theorem discovered (h : v.Entered) (shown : v.record.available = true)
    (available : v.available = true) (answers : v.answers = true) : v.discovered.Resting id := by
  unfold Slice.discovered
  split
  · next due =>
    apply Resting.counted
    rcases hl : v.driver.listed? with _ | _ | ⟨port, ports⟩
    · have unchanged : v.brought = v := by simp [Slice.brought, hl]
      rw [unchanged]
      exact of_available h shown available answers fun _ _ => .inl hl
    · have unchanged : v.brought = v := by simp [Slice.brought, hl]
      rw [unchanged]
      exact of_available h shown available answers fun _ _ => .inr hl
    · have brought : v.brought = (v.bring (port :: ports)).change .portsDiscovered := by
        simp [Slice.brought, hl]
      have entered : ((v.bring (port :: ports)).change .portsDiscovered).Entered :=
        ⟨rfl, h.desired, h.registered, by simpa [bring, Slice.change] using h.stored⟩
      have still : ((v.bring (port :: ports)).change .portsDiscovered).available = true :=
        (available_bring v _).trans available
      rw [brought]
      exact of_available entered shown still answers fun _ unknown => by cases unknown
  · next idle =>
    exact of_available h shown available answers fun master unknown =>
      absurd ⟨unknown, master, available⟩ idle

theorem appeared (h : v.Entered) (shown : v.record.available = false)
    (unavailable : v.available = false) (answers : v.answers = true) :
    (v.appeared (.placeholder id)).Resting id := by
  unfold Slice.appeared
  split
  · next d told =>
    have available : ((v.announce d).change (.announced d)).available = true :=
      (available_announce v d).trans (availableByDefault_of_description? told)
    exact discovered (h.announce d) rfl available answers
  · next untold => exact of_unavailable h shown unavailable fun _ _ => untold

theorem vanished (h : v.Entered) (silent : v.answers = false) : v.vanished.Resting id := by
  have answers : v.vanished.answers = false := by
    unfold Slice.vanished
    split <;> exact silent
  have shown : v.vanished.record.available = false := by
    unfold Slice.vanished
    split <;> rfl
  refine of_unavailable h.vanished shown (available_disconnect _) fun answers' => ?_
  exact absurd answers' (by simp [answers])

end Resting

theorem resting_converged (h : v.Entered) : (v.converged (.placeholder id)).Resting id := by
  have seen : (v.change (.shown v.available)).Entered := h.change _ h.desired h.registered
  unfold converged
  cases answers : v.answers <;> cases available : v.available <;> rw [available] at seen
  case false.false =>
    have silent : (v.change (.shown false)).answers = false := answers
    exact .of_unavailable seen rfl available fun answers' => absurd answers' (by simp [silent])
  case false.true => exact .vanished seen answers
  case true.true => exact .discovered seen rfl available answers
  case true.false =>
    cases master : v.isMaster with
    | true => exact .appeared seen rfl available answers
    | false =>
      have standby : (v.change (.shown false)).isMaster = false := master
      exact .of_unavailable seen rfl available fun _ master' => absurd master' (by simp [standby])

theorem resting_reconciled (v : Slice) (id : Identity) (c : Credentials) :
    (reconciled id v c).Resting id :=
  resting_converged (entered_of_entry v id c)

/-! ## A device at rest -/

/-- The credential store holds the credentials, and the record says so. -/
def holding (v : Slice) (c : Credentials) : Slice :=
  (v.setKey (some c)).change (.credentialsStored c)

theorem holding_holding (v : Slice) (c c' : Credentials) :
    (v.holding c).holding c' = v.holding c' := by
  have stored : ∀ r : DeviceRecord, RecordChange.apply (RecordChange.apply r
      (.credentialsStored c)) (.credentialsStored c') =
        RecordChange.apply r (.credentialsStored c') := by
    intro r
    by_cases unregistered : r.state = .unregistered <;> simp [RecordChange.apply, unregistered]
  show { v with
    record? := some (RecordChange.apply (RecordChange.apply v.record (.credentialsStored c))
      (.credentialsStored c'))
    key? := some c' } = v.holding c'
  rw [stored]
  rfl

namespace Resting

theorem holding (h : v.Resting id) (c : Credentials) : (v.holding c).Resting id where
  recorded := rfl
  desired := h.desired
  registered := by
    show (if v.record.state = .unregistered then ConnectionState.keyStored else v.record.state) ≠
      .unregistered
    rw [if_neg h.registered]
    exact h.registered
  stored := h.stored
  shown := h.shown
  reachable := h.reachable
  unannounced := h.unannounced
  undiscovered := h.undiscovered

theorem discovered_eq (h : v.Resting id) : v.discovered = v := by
  unfold Slice.discovered
  split
  · next due =>
    have unchanged : v.brought = v := by
      rcases h.undiscovered due.2.2 due.2.1 due.1 with unlisted | unlisted <;>
        simp [brought, unlisted]
    rw [unchanged]
    simp [Slice.counted, due.1]
  · rfl

theorem change_shown (h : v.Resting id) : v.change (.shown v.available) = v := by
  refine change_eq_self h.recorded ?_
  simp only [RecordChange.apply]
  rw [← h.shown]

theorem change_desired (h : v.Resting id) : v.change .desired = v := by
  refine change_eq_self h.recorded ?_
  simp only [RecordChange.apply]
  rw [← h.desired]

theorem converged_eq (h : v.Resting id) : v.converged (.placeholder id) = v := by
  unfold converged
  rw [h.change_shown]
  cases answers : v.answers <;> cases available : v.available
  case false.false => rfl
  case false.true => exact absurd (h.reachable available) (by simp [answers])
  case true.true => exact h.discovered_eq
  case true.false =>
    cases master : v.isMaster with
    | true => simp [Slice.appeared, h.unannounced answers available master]
    | false => rfl

/-- An entry does nothing to a device at rest but to store other credentials. -/
theorem reconciled_eq (h : v.Resting id) (c : Credentials) :
    reconciled id v c = if v.record.credentials = some c then v else v.holding c := by
  have seen : v.change .seen = v := change_eq_self h.recorded rfl
  unfold reconciled entry register
  rw [h.change_desired, seen]
  by_cases same : v.record.credentials = some c
  · rw [if_pos ⟨h.registered, same⟩, if_pos same, added, if_pos h.stored, h.converged_eq]
  · rw [if_neg fun known => same known.2, if_neg same]
    have held := h.holding c
    have stored : ((v.setKey (some c)).change (.credentialsStored c)).added id = v.holding c :=
      if_pos held.stored
    rw [stored, held.converged_eq]

/-- Entries that agree with what was stored last do nothing. -/
theorem foldl_reconciled_eq (h : v.Resting id) {cs : List Credentials}
    (agree : ∀ c ∈ cs, v.record.credentials = some c) : cs.foldl (reconciled id) v = v := by
  induction cs with
  | nil => rfl
  | cons c rest ih =>
    rw [List.foldl_cons, h.reconciled_eq, if_pos (agree c (.head _))]
    exact ih fun c' hc => agree c' (.tail _ hc)

/-- Otherwise the last of them wins. -/
theorem foldl_reconciled_of_ne (h : v.Resting id) {cs : List Credentials} {c : Credentials}
    (mem : c ∈ cs) (differs : v.record.credentials ≠ some c) (ne : cs ≠ []) :
    cs.foldl (reconciled id) v = v.holding (cs.getLast ne) := by
  induction cs generalizing v c with
  | nil => exact absurd rfl ne
  | cons c' rest ih =>
    rw [List.foldl_cons, h.reconciled_eq]
    by_cases same : v.record.credentials = some c'
    · have later : c ∈ rest := by
        rcases List.mem_cons.1 mem with rfl | later
        · exact absurd same differs
        · exact later
      have ne' : rest ≠ [] := List.ne_nil_of_mem later
      rw [if_pos same, ih h later differs ne', List.getLast_cons ne']
    · rw [if_neg same]
      by_cases agree : ∀ c₂ ∈ rest, (v.holding c').record.credentials = some c₂
      · rw [(h.holding c').foldl_reconciled_eq agree]
        cases rest with
        | nil => rfl
        | cons c₂ others =>
          have last := agree _ (List.getLast_mem (List.cons_ne_nil c₂ others))
          rw [List.getLast_cons (List.cons_ne_nil c₂ others), ← Option.some.inj last]
      · obtain ⟨c₂, later, differs₂⟩ :
            ∃ c₂ ∈ rest, (v.holding c').record.credentials ≠ some c₂ := by
          simpa using agree
        have ne' : rest ≠ [] := List.ne_nil_of_mem later
        rw [ih (h.holding c') later differs₂ ne', holding_holding, List.getLast_cons ne']

theorem foldl_reconciled (h : v.Resting id) (cs : List Credentials) :
    (cs.foldl (reconciled id) v).Resting id := by
  induction cs generalizing v with
  | nil => exact h
  | cons c rest ih => exact ih (resting_reconciled v id c)

end Resting

/-- Entries after the first can only change which credentials are stored. -/
theorem foldl_reconciled_cons (v : Slice) (id : Identity) (c : Credentials)
    (rest : List Credentials) :
    rest.foldl (reconciled id) (reconciled id v c) = reconciled id v c ∨
      ∃ ne : rest ≠ [], rest.foldl (reconciled id) (reconciled id v c) =
        (reconciled id v c).holding (rest.getLast ne) := by
  have first := resting_reconciled v id c
  by_cases agree : ∀ c' ∈ rest, (reconciled id v c).record.credentials = some c'
  · exact .inl (first.foldl_reconciled_eq agree)
  · obtain ⟨c', later, differs⟩ : ∃ c' ∈ rest,
        (reconciled id v c).record.credentials ≠ some c' := by
      simpa using agree
    have ne : rest ≠ [] := List.ne_nil_of_mem later
    exact .inr ⟨ne, first.foldl_reconciled_of_ne later differs ne⟩

theorem resting_foldl_reconciled (v : Slice) (id : Identity) {cs : List Credentials}
    (ne : cs ≠ []) : (cs.foldl (reconciled id) v).Resting id := by
  cases cs with
  | nil => exact absurd rfl ne
  | cons c rest => exact (resting_reconciled v id c).foldl_reconciled rest

/-- Going through the entries of a device once more does nothing. -/
theorem foldl_reconciled_twice (v : Slice) (id : Identity) (cs : List Credentials) :
    cs.foldl (reconciled id) (cs.foldl (reconciled id) v) = cs.foldl (reconciled id) v := by
  cases cs with
  | nil => rfl
  | cons c rest =>
    have first := resting_reconciled v id c
    have stored := v.credentials_reconciled id c
    rw [List.foldl_cons (b := v)]
    rcases foldl_reconciled_cons v id c rest with same | ⟨ne, last⟩
    · rw [same, List.foldl_cons, first.reconciled_eq, if_pos stored, same]
    · rw [last]
      have held := first.holding (rest.getLast ne)
      by_cases agree : ∀ c₂ ∈ c :: rest,
          ((reconciled id v c).holding (rest.getLast ne)).record.credentials = some c₂
      · exact held.foldl_reconciled_eq agree
      · obtain ⟨c₂, mem, differs₂⟩ : ∃ c₂ ∈ c :: rest,
            ((reconciled id v c).holding (rest.getLast ne)).record.credentials ≠ some c₂ := by
          simpa only [Classical.not_forall, exists_prop] using agree
        rw [held.foldl_reconciled_of_ne mem differs₂ (List.cons_ne_nil c rest), holding_holding,
          List.getLast_cons ne]

theorem credentials_foldl_reconciled (v : Slice) (id : Identity) {cs : List Credentials}
    (ne : cs ≠ []) :
    (cs.foldl (reconciled id) v).record.credentials = some (cs.getLast ne) := by
  have split := congrArg (List.foldl (reconciled id) v) (List.dropLast_concat_getLast ne)
  rw [List.foldl_append] at split
  rw [← split]
  exact credentials_reconciled _ id _

theorem marked_marked (v : Slice) (desired : Bool) :
    (v.marked desired).marked desired = v.marked desired := by
  have marked : ∀ r? : Option DeviceRecord,
      (((r?.map fun r => { r with desired := desired }).filter (·.isKept)).map
        fun r => { r with desired := desired }).filter (·.isKept) =
      (r?.map fun r => { r with desired := desired }).filter (·.isKept) := by
    intro r?
    cases r? with
    | none => rfl
    | some r =>
      cases kept : DeviceRecord.isKept { r with desired := desired } <;>
        simp [Option.filter, kept]
  unfold Slice.marked
  rw [marked]

theorem Resting.marked_eq (h : v.Resting id) : v.marked true = v := by
  obtain ⟨r, hr⟩ := Option.isSome_iff_exists.1 h.recorded
  have desired : r.desired = true := by simpa [record, hr] using h.desired
  have same : { r with desired := true } = r := by
    cases r
    cases desired
    rfl
  have kept : r.isKept = true := by simp [DeviceRecord.isKept, desired]
  cases v
  cases hr
  simp [Slice.marked, Option.filter, same, kept]

/-- The end of a pass leaves a device alone that an entry names. -/
theorem marked_foldl_reconciled (v : Slice) (id : Identity) {cs : List Credentials} (ne : cs ≠ []) :
    (cs.foldl (reconciled id) v).marked true = cs.foldl (reconciled id) v :=
  (resting_foldl_reconciled v id ne).marked_eq

/-- What a pass does to a device, done once more, does nothing. -/
theorem pass_twice (v : Slice) (id : Identity) {cs : List Credentials} {desired : Bool}
    (listed : desired = true ↔ cs ≠ []) :
    (cs.foldl (reconciled id) ((cs.foldl (reconciled id) v).marked desired)).marked desired =
      (cs.foldl (reconciled id) v).marked desired := by
  cases desired with
  | true =>
    have kept := marked_foldl_reconciled v id (listed.1 rfl)
    rw [kept, foldl_reconciled_twice, kept]
  | false =>
    have unlisted : cs = [] := by simpa using listed
    subst unlisted
    exact marked_marked v false

end Slice

/-! ## What is seen of an entry at rest -/

/-- Whether the call does more than to ask. -/
def Call.isCommand (c : Call) : Bool := !c.isQuestion

theorem filter_isCommand_eq_nil {cs : List Call} (asks : ∀ c ∈ cs, c.isQuestion = true) :
    cs.filter (·.isCommand) = [] := by
  refine List.filter_eq_nil_iff.2 fun c mem => ?_
  simp [Call.isCommand, asks c mem]

theorem Driver.isQuestion_of_mem_tellCalls {driver : Driver} {id : Identity} {c : Call}
    (mem : c ∈ driver.tellCalls id) : c.isQuestion = true := by
  unfold tellCalls at mem
  split at mem <;> simp_all [Call.isQuestion]

theorem Driver.isQuestion_of_mem_listCalls {driver : Driver} {id : Identity} {c : Call}
    (mem : c ∈ driver.listCalls id) : c.isQuestion = true := by
  unfold listCalls at mem
  split at mem <;> simp_all [Call.isQuestion]

namespace Job

variable {id : Identity} {v : Slice}

theorem questions_discover (h : v.Resting id) :
    (discoverUnlessKnown id).Ensures .none id v fun _ _ cs => ∀ c ∈ cs, c.isQuestion = true := by
  by_cases due : v.record.portsDiscovered = false ∧ v.isMaster = true ∧ v.available = true
  · have asks : ∀ c ∈ v.driver.listCalls id, c.isQuestion = true :=
      fun _ => Driver.isQuestion_of_mem_listCalls
    rw [ensures_discover_of_due id due]
    rcases h.undiscovered due.2.2 due.2.1 due.1 with unlisted | unlisted <;>
      simpa [bringPorts, bringStatistics, due, unlisted] using asks
  · rw [ensures_discover_of_idle id due]
    simp

theorem questions_converge (h : v.Resting id) :
    (converge id (.placeholder id)).Ensures .none id v
      fun _ _ cs => ∀ c ∈ cs, c.isQuestion = true := by
  obtain ⟨known, hk⟩ := Option.isSome_iff_exists.1 h.stored
  simp only [converge, Option.isNone_iff_eq_none, bind_eq, pure_eq, ensures_bind, List.mem_append,
    ensures_ite, ensures_log, List.not_mem_nil, or_false, ensures_changeRecord, false_or,
    ensures_isAvailable, Hazards.none, false_implies, true_and, ensures_probe, List.mem_cons,
    ensures_lookUp, implies_true, not_true_eq_false, h.change_shown, forall_eq_or_imp,
    and_self, Slice.found?, hk, Option.map_some, reduceCtorEq, not_false_eq_true, forall_const]
  have probed : (Call.probe id).isQuestion = true := rfl
  cases answers : v.answers <;> cases available : v.available
  case false.false => simpa using probed
  case false.true => exact absurd (h.reachable available) (by simp [answers])
  case true.true => exact (questions_discover h).mono fun _ _ _ asks => ⟨probed, asks⟩
  case true.false =>
    cases master : v.isMaster with
    | true =>
      have untold := h.unannounced answers available master
      have asks : ∀ c ∈ v.driver.tellCalls id, c.isQuestion = true :=
        fun _ => Driver.isQuestion_of_mem_tellCalls
      simpa [announceAvailable, ensures_describe, Hazards.none, master, untold, hk, probed]
        using asks
    | false => simpa [Hazards.none, master] using probed

theorem questions_enter (h : v.Resting id) :
    (Job.bind (addIfMissing id) fun _ => converge id (.placeholder id)).Ensures .none id v
      fun _ _ cs => ∀ c ∈ cs, c.isQuestion = true := by
  obtain ⟨known, hk⟩ := Option.isSome_iff_exists.1 h.stored
  simpa [addIfMissing, Hazards.none, Slice.found?, hk] using questions_converge h

/-- Credentials that a device at rest has are not stored again. -/
theorem commands_registerCredentials (h : v.Resting id) (c : Credentials) :
    (registerCredentials id c).Ensures .none id v fun _ v' cs => v'.Resting id ∧
      cs = if v.record.credentials = some c then [] else [.storeKey id c] := by
  have seen : v.change .seen = v := Slice.change_eq_self h.recorded rfl
  have held : ((v.setKey (some c)).change (.credentialsStored c)).Resting id := h.holding c
  by_cases same : v.record.credentials = some c
  · simp [registerCredentials, RecordChange.apply, h.registered, same, seen, h]
  · simp [registerCredentials, RecordChange.apply, Hazards.none, same, seen, held]

/-- An entry of a device at rest has its credentials stored, unless they are, and nothing else
done. -/
theorem commands_reconcileDevice (h : v.Resting id) (device : DesiredDevice) :
    (reconcileDevice id device).Ensures .none id v fun _ v' cs =>
      v' = (if v.record.credentials = some device.credentials then v
        else v.holding device.credentials) ∧
      cs.filter (·.isCommand) = if v.record.credentials = some device.credentials then []
        else [.storeKey id device.credentials] := by
  have becomes := ensures_reconciled (v := v) id device
  rw [h.reconciled_eq] at becomes
  refine becomes.and ?_
  simp only [reconcileDevice, bind_eq]
  rw [ensures_bind, ensures_changeRecord, h.change_desired, ensures_bind]
  refine (commands_registerCredentials h device.credentials).mono fun reply w cs registered => ?_
  obtain ⟨resting, rfl⟩ := registered
  have first : (if v.record.credentials = some device.credentials then []
      else [Call.storeKey id device.credentials]).filter (·.isCommand) =
        if v.record.credentials = some device.credentials then []
        else [.storeKey id device.credentials] := by
    split <;> rfl
  cases reply with
  | none => exact first
  | some _ =>
    refine (questions_enter resting).mono fun _ _ later asks => ?_
    rw [List.nil_append, List.filter_append, first, filter_isCommand_eq_nil asks, List.append_nil]

/-- An entry asks, and stores credentials only if they are not those stored last. -/
theorem calls_reconcileDevice (h : v.Resting id) (device : DesiredDevice) :
    (reconcileDevice id device).Ensures .none id v fun _ _ cs => ∀ call ∈ cs,
      call.isQuestion = true ∨
        call = .storeKey id device.credentials ∧
          v.record.credentials ≠ some device.credentials := by
  refine (commands_reconcileDevice h device).mono fun _ _ cs outcome call mem => ?_
  cases asks : call.isQuestion with
  | true => exact .inl rfl
  | false =>
    have command : call ∈ cs.filter (·.isCommand) :=
      List.mem_filter.2 ⟨mem, by simp [Call.isCommand, asks]⟩
    rw [outcome.2] at command
    split at command
    · cases command
    · next other => exact .inr ⟨List.mem_singleton.1 command, other⟩

/-! ## Two passes in a row -/

/-- Whether the call only asks, or stores credentials of a device for which the entries give
others too. -/
def Redundant (scheme : String) (devices : List DesiredDevice) (call : Call) : Prop :=
  call.isQuestion = true ∨ ∃ id, ∃ c ∈ wanted scheme devices id, ∃ c' ∈ wanted scheme devices id,
    c' ≠ c ∧ call = .storeKey id c

/-- A pass in which the devices of all entries are at rest. -/
theorem run_reconcileAll_resting (s : Settings) {d : Deployment} (quiet : d.faults = .none)
    {devices : List DesiredDevice} (config : d.config.desiredDevices s.appId = .ok devices)
    (resting : ∀ id, wanted s.scheme devices id ≠ [] → (d.slice id).Resting id ∧
      ∃ c ∈ wanted s.scheme devices id, (d.slice id).record.credentials = some c) :
    ∃ d', (reconcileAll s).run d = (.done (), d') ∧
      d.Carries (fun id v => ((wanted s.scheme devices id).foldl (Slice.reconciled id) v).marked
        ((named s.scheme devices).contains id)) (Redundant s.scheme devices) d' := by
  refine run_reconcileAll s (I := fun id v => wanted s.scheme devices id ≠ [] → v.Resting id ∧
    ∃ c ∈ wanted s.scheme devices id, v.record.credentials = some c) ?_ (.inl rfl) quiet config
    resting
  intro device mem id hi v known
  have own : device.credentials ∈ wanted s.scheme devices id :=
    mem_wanted_iff.2 ⟨device, mem, hi, rfl⟩
  obtain ⟨rests, c, wants, holds⟩ := known (List.ne_nil_of_mem own)
  refine ((ensures_reconciled id device).and (calls_reconcileDevice rests device)).mono
    fun _ v' cs outcome => ?_
  obtain ⟨rfl, calls⟩ := outcome
  refine ⟨fun _ => ⟨Slice.resting_reconciled v id _, _, own, v.credentials_reconciled id _⟩,
    fun call hc => ?_⟩
  rcases calls call hc with asks | ⟨rfl, differs⟩
  · exact .inl asks
  · refine .inr ⟨id, _, own, c, wants, ?_, rfl⟩
    rintro rfl
    exact differs holds

/-- After a pass the devices that its entries name are at rest, and hold credentials that were
asked for. -/
theorem resting_of_carries {scheme : String} {devices : List DesiredDevice} {d d' : Deployment}
    {C : Call → Prop} {id : Identity}
    (carried : d.Carries (fun id v => ((wanted scheme devices id).foldl (Slice.reconciled id)
      v).marked ((named scheme devices).contains id)) C d') (ne : wanted scheme devices id ≠ []) :
    (d'.slice id).Resting id ∧
      ∃ c ∈ wanted scheme devices id, (d'.slice id).record.credentials = some c := by
  rw [carried.slices, contains_named_iff.2 ne, Slice.marked_foldl_reconciled _ id ne]
  exact ⟨Slice.resting_foldl_reconciled _ id ne, _, List.getLast_mem ne,
    Slice.credentials_foldl_reconciled _ id ne⟩

/-- Where the configuration can be read, the first pass brings the devices to rest, and the second
finds nothing to do. -/
theorem run_twice (s : Settings) {d : Deployment} (quiet : d.faults = .none)
    {devices : List DesiredDevice} (config : d.config.desiredDevices s.appId = .ok devices) :
    ∃ d₁ d₂, (reconcileAll s).run d = (.done (), d₁) ∧ (reconcileAll s).run d₁ = (.done (), d₂) ∧
      d₂.withoutHistory = d₁.withoutHistory ∧
      ∃ cs, d₂.calls = d₁.calls ++ cs ∧ ∀ c ∈ cs, Redundant s.scheme devices c := by
  obtain ⟨d₁, first, carried₁⟩ := carries_reconcileAll s quiet config
  have config₁ : d₁.config.desiredDevices s.appId = .ok devices := by
    rw [carried₁.config, config]
  obtain ⟨d₂, second, carried₂⟩ := run_reconcileAll_resting s carried₁.quiet config₁ fun _ ne =>
    resting_of_carries carried₁ ne
  refine ⟨d₁, d₂, first, second, carried₂.withoutHistory_eq carried₁.quiet fun id => ?_,
    carried₂.calls⟩
  rw [carried₁.slices]
  exact Slice.pass_twice _ id contains_named_iff

/-- Where it cannot be read, neither pass finds anything to do. -/
theorem run_twice_unreadable (s : Settings) {d : Deployment} (quiet : d.faults = .none)
    {e : ConfigReadError} (config : d.config.desiredDevices s.appId = .error e) :
    ∃ d₁ d₂, (reconcileAll s).run d = (.done (), d₁) ∧ (reconcileAll s).run d₁ = (.done (), d₂) ∧
      d₂.withoutHistory = d₁.withoutHistory ∧
      ∃ cs, d₂.calls = d₁.calls ++ cs ∧ ∀ c ∈ cs, c.isQuestion = true := by
  obtain ⟨d₁, first, carried₁⟩ :=
    run_reconcileAll_unreadable s (C := fun c => c.isQuestion = true) rfl quiet config
  have config₁ : d₁.config.desiredDevices s.appId = .error e := by
    rw [carried₁.config, config]
  obtain ⟨d₂, second, carried₂⟩ :=
    run_reconcileAll_unreadable s (C := fun c => c.isQuestion = true) rfl carried₁.quiet config₁
  exact ⟨d₁, d₂, first, second, carried₂.withoutHistory_eq carried₁.quiet fun _ => rfl,
    carried₂.calls⟩

/-- A second pass in a row leaves everything as it is.  It asks, and stores credentials only for
devices about whose credentials the configuration is not of one mind. -/
theorem reconcileAll_twice (s : Settings) (d : Deployment) (quiet : d.faults = .none) :
    ∃ d₁ d₂, (reconcileAll s).run d = (.done (), d₁) ∧ (reconcileAll s).run d₁ = (.done (), d₂) ∧
      d₂.withoutHistory = d₁.withoutHistory ∧
      ∃ cs, d₂.calls = d₁.calls ++ cs ∧ ∀ call ∈ cs, call.isQuestion = true ∨
        ∃ devices, d.config.desiredDevices s.appId = .ok devices ∧
          ∃ device ∈ devices, ∃ other ∈ devices, ∃ id,
            identify s.scheme device = .ok id ∧ identify s.scheme other = .ok id ∧
            device.credentials ≠ other.credentials ∧ call = .storeKey id device.credentials := by
  cases config : d.config.desiredDevices s.appId with
  | error e =>
    obtain ⟨d₁, d₂, first, second, same, cs, seen, asks⟩ := run_twice_unreadable s quiet config
    exact ⟨d₁, d₂, first, second, same, cs, seen, fun call hc => .inl (asks call hc)⟩
  | ok devices =>
    obtain ⟨d₁, d₂, first, second, same, cs, seen, redundant⟩ := run_twice s quiet config
    refine ⟨d₁, d₂, first, second, same, cs, seen, fun call hc => ?_⟩
    refine (redundant call hc).imp id fun stores => ⟨devices, rfl, ?_⟩
    obtain ⟨id, _, wants, _, wants', differs, rfl⟩ := stores
    obtain ⟨device, mem, hi, rfl⟩ := mem_wanted_iff.1 wants
    obtain ⟨other, mem', hi', rfl⟩ := mem_wanted_iff.1 wants'
    exact ⟨device, mem, other, mem', id, hi, hi', differs.symm, rfl⟩

/-- Two passes over the device of the sample. -/
theorem reconcileAll_twice_sample :
    ∃ d₁ d₂, (reconcileAll .default).run .sample = (.done (), d₁) ∧
      (reconcileAll .default).run d₁ = (.done (), d₂) ∧ d₂.withoutHistory = d₁.withoutHistory := by
  obtain ⟨d₁, d₂, first, second, same, _⟩ := reconcileAll_twice .default .sample rfl
  exact ⟨d₁, d₂, first, second, same⟩

end Job

end Southbound
