import Southbound.Proofs.Convergence
import Southbound.Proofs.Isolation

/-!
# Who takes a device down

The cluster shares what the device store shows.  A node that does not master a device and has no
session to it leaves the availability of the device alone when it is given another role, and when
the store reports a change (`Job.available_release`, `Job.available_reactToStore`).

A pass does not: a device that does not answer this node is shown unavailable, whoever masters it.
`Deployment.available_after_order` says that this is the only way, and
`Deployment.unavailable_after_loss` is an instance.
-/

namespace Southbound

open Connection Deployment Discovery Job Reconciliation

namespace Slice

section

variable (v : Slice)

@[simp] theorem available_change (c : RecordChange) : (v.change c).available = v.available := rfl

@[simp] theorem available_setOpen (isOpen : Bool) :
    (v.setOpen isOpen).available = v.available := rfl

@[simp] theorem available_accept (role : Role) : (v.accept role).available = v.available := rfl

@[simp] theorem available_marked (desired : Bool) :
    (v.marked desired).available = v.available := rfl

end

/-- An available device stays available through an entry exactly if it answers. -/
theorem available_reconciled {v : Slice} (available : v.available = true) (id : Identity)
    (c : Credentials) : (reconciled id v c).available = v.answers := by
  have untold : ¬ (entry id v c).Appears := by
    rintro ⟨_, unavailable, _⟩
    rw [available_entry, available] at unavailable
    cases unavailable
  unfold reconciled
  rw [available_converged _ _ fun appears => absurd appears untold, answers_entry, available_entry,
    available, Bool.true_or, Bool.and_true]

theorem available_foldl_reconciled {v : Slice} (available : v.available = true) (id : Identity)
    (cs : List Credentials) :
    (cs.foldl (reconciled id) v).available = (cs.isEmpty || v.answers) := by
  cases cs with
  | nil => exact available
  | cons c rest =>
    rw [List.foldl_cons, List.isEmpty_cons, Bool.false_or, ← available_reconciled available id c]
    rcases foldl_reconciled_cons v id c rest with same | ⟨ne, same⟩
    · rw [same]
    · rw [same]
      rfl

theorem available_of_brings {v v₁ v₂ : Slice} (brought : v.Brings v₁) (counted : v₁.Counts v₂) :
    v₂.available = v.available := by
  have first : v₁.available = v.available := by
    rcases brought with rfl | ⟨list, _, _, rfl⟩
    · rfl
    · exact available_bring v list
  rcases counted with rfl | ⟨list, rfl⟩
  · exact first
  · exact (available_count v₁ list).trans first

end Slice

namespace Job

variable {p : Hazards} (id : Identity) {v : Slice}

/-- A node without a session leaves the availability alone when it gives up a device. -/
theorem available_release (role : Role) (apart : v.record.state ≠ .connected) :
    (Connection.release id role).Ensures p id v fun _ v' _ => v'.available = v.available := by
  simp [Connection.release, apart]

theorem available_deviceRemoved :
    (deviceRemoved id).Ensures p id v fun _ v' _ => v'.available = v.available := by
  simp [deviceRemoved]

/-- So does a node that hears of a change in the store. -/
theorem available_reactToStore (s : Settings) (e : StoreEvent) :
    (Order.reactToStore s e).Ensures p e.identity v fun _ v' _ => v'.available = v.available := by
  have discovered : (discoverPorts e.identity).Ensures p e.identity v fun _ v' _ =>
      v'.available = v.available :=
    ensures_discoverPorts.mono fun _ _ _ ⟨_, brought, counted⟩ =>
      Slice.available_of_brings brought counted
  have removed := available_deviceRemoved (p := p) e.identity (v := v)
  cases change : e.change <;> simp [Order.reactToStore, change, discovered, removed]

end Job

/-! ## Passes -/

namespace Job

/-- A pass for one device does what the first entry of the device asks for. -/
theorem slice_reconcileOne (s : Settings) (id : Identity) {d : Deployment}
    (quiet : d.faults = .none) {devices : List DesiredDevice}
    (config : d.config.desiredDevices s.appId = .ok devices) :
    ((reconcileOne s id).run d).2.slice id =
      match wanted s.scheme devices id with
      | [] => d.slice id
      | c :: _ => (d.slice id).reconciled id c := by
  obtain ⟨d₁, read, asked⟩ := run_readDevices s.appId quiet (C := fun _ => True) trivial
  rw [config] at read
  have same : d₁.slice id = d.slice id := asked.slices id
  unfold reconcileOne
  rw [bind_eq, run_bind, read]
  show ((passOverOne s id devices).run d₁).2.slice id = _
  unfold passOverOne wanted
  rw [← List.head?_filter]
  rcases devices.filter (names s.scheme id) with _ | ⟨device, rest⟩
  · exact same
  · obtain ⟨_, v, _, d', ran, moved, rfl⟩ := run_of_ensures (ensures_reconciled id device)
      (d := d₁) (asked.quiet ▸ Faults.within_none _)
    show ((reconcileDevice id device).run d₁).2.slice id = _
    rw [ran, moved.own, same]
    rfl

theorem slice_reconcileOne_unreadable (s : Settings) (id : Identity) {d : Deployment}
    (quiet : d.faults = .none) {e : ConfigReadError}
    (config : d.config.desiredDevices s.appId = .error e) (id' : Identity) :
    ((reconcileOne s id').run d).2.slice id = d.slice id := by
  obtain ⟨d₁, read, asked⟩ := run_readDevices s.appId quiet (C := fun _ => True) trivial
  rw [config] at read
  unfold reconcileOne
  rw [bind_eq, run_bind, read]
  exact asked.slices id

end Job

/-! ## Orders -/

/-- The order is a pass over a configuration that names the device. -/
def Order.Visits (s : Settings) (d : Deployment) (id : Identity) (o : Order) : Prop :=
  (o = .firstPass ∨ o = .pass ∨ o = .probe id) ∧
    ∃ devices, d.config.desiredDevices s.appId = .ok devices ∧ wanted s.scheme devices id ≠ []

namespace Deployment

variable (s : Settings) {d : Deployment} {id : Identity}

/-- A pass brings the availability of a device in line with the probe of this node. -/
theorem available_of_visit (quiet : d.faults = .none) (available : (d.slice id).available = true)
    {o : Order} (visits : o.Visits s d id) :
    (((o.job s).run d).2.slice id).available = (d.slice id).answers := by
  obtain ⟨which, devices, config, named⟩ := visits
  have passed : (((reconcileAll s).run d).2.slice id).available = (d.slice id).answers := by
    obtain ⟨d', ran, carried⟩ := carries_reconcileAll s quiet config
    have some_entry : (wanted s.scheme devices id).isEmpty = false :=
      List.isEmpty_eq_false_iff.2 named
    rw [ran, carried.slices, Slice.available_marked, Slice.available_foldl_reconciled available,
      some_entry, Bool.false_or]
  rcases which with rfl | rfl | rfl
  · rwa [Order.job, run_silently]
  · rwa [Order.job, run_silently]
  · rw [Order.job, run_silently, slice_reconcileOne s id quiet config]
    cases entries : wanted s.scheme devices id with
    | nil => exact absurd entries named
    | cons c rest => exact Slice.available_reconciled available id c

/-- A pass over a configuration that does not name the device leaves it alone. -/
theorem available_of_pass (quiet : d.faults = .none)
    (unnamed : ∀ devices, d.config.desiredDevices s.appId = .ok devices →
      wanted s.scheme devices id = []) :
    (((reconcileAll s).run d).2.slice id).available = (d.slice id).available := by
  cases config : d.config.desiredDevices s.appId with
  | error e =>
    obtain ⟨d', ran, carried⟩ :=
      run_reconcileAll_unreadable s (C := fun _ => True) trivial quiet config
    rw [ran, carried.slices]
  | ok devices =>
    obtain ⟨d', ran, carried⟩ := carries_reconcileAll s quiet config
    rw [ran, carried.slices, unnamed devices config, List.foldl_nil, Slice.available_marked]

theorem available_of_probe (quiet : d.faults = .none)
    (unnamed : ∀ devices, d.config.desiredDevices s.appId = .ok devices →
      wanted s.scheme devices id = []) :
    (((reconcileOne s id).run d).2.slice id).available = (d.slice id).available := by
  cases config : d.config.desiredDevices s.appId with
  | error e => rw [slice_reconcileOne_unreadable s id quiet config]
  | ok devices => rw [slice_reconcileOne s id quiet config, unnamed devices config]

/-- A node without a session leaves the availability alone when it is given a role other than
master. -/
theorem available_of_role (quiet : d.faults = .none) {r : Role} (demotion : r ≠ .master)
    (apart : (d.slice id).record.state ≠ .connected) :
    (((changeRole id r).run d).2.slice id).available = (d.slice id).available := by
  have released : (Job.bind (Connection.release id r)
      fun _ => done (.ok () : Except RoleError Unit)).Ensures .none id (d.slice id)
        fun _ v' _ => v'.available = (d.slice id).available := by
    rw [ensures_bind]
    exact (available_release id r apart).regardless
  have answered : (answerRole id r d.active).Ensures .none id (d.slice id)
      fun _ v' _ => v'.available = (d.slice id).available := by
    unfold answerRole
    cases d.active with
    | false => simp
    | true =>
      cases r with
      | master => exact absurd rfl demotion
      | standby | unassigned => exact released
  obtain ⟨_, v, _, d', ran, moved, kept⟩ := run_of_ensures answered (quiet ▸ Faults.within_none _)
  rw [run_changeRole, ran, moved.own, kept]

/-- An order that does not look after the device leaves its availability as it is, unless this node
has, opens or loses a session to it. -/
theorem available_of_unvisited (quiet : d.faults = .none)
    (apart : (d.slice id).record.state ≠ .connected) {o : Order} (unpromoted : o ≠ .role id .master)
    (unbroken : o ≠ .sessionLost id) (unvisited : ¬ o.Visits s d id) :
    (((o.job s).run d).2.slice id).available = (d.slice id).available := by
  have steady : d.faults.Steady := by
    rw [quiet]
    exact ⟨rfl, by simp [Faults.none, FaultPlan.none]⟩
  have unnamed : (o = .firstPass ∨ o = .pass ∨ o = .probe id) →
      ∀ devices, d.config.desiredDevices s.appId = .ok devices →
        wanted s.scheme devices id = [] := by
    intro which devices config
    exact Classical.byContradiction fun named => unvisited ⟨which, devices, config, named⟩
  by_cases other : ∃ id', o.identity? = some id' ∧ id' ≠ id
  · obtain ⟨id', about, ne⟩ := other
    have alike := alike_operation_other (o := .order o) (s := s) about ne
      (Alike.refl (d := d) steady)
    exact congrArg Slice.available alike.slice
  -- what is left are passes, and orders about the device itself
  · cases o with
    | firstPass =>
      rw [Order.job, run_silently]
      exact available_of_pass s quiet (unnamed (.inl rfl))
    | pass =>
      rw [Order.job, run_silently]
      exact available_of_pass s quiet (unnamed (.inr (.inl rfl)))
    | probe id' =>
      have own : id' = id := by simpa [Order.identity?] using other
      subst own
      rw [Order.job, run_silently]
      exact available_of_probe s quiet (unnamed (.inr (.inr rfl)))
    | sessionLost id' =>
      have own : id' = id := by simpa [Order.identity?] using other
      subst own
      exact absurd rfl unbroken
    | storeChanged e =>
      have own : e.identity = id := by simpa [Order.identity?] using other
      subst own
      obtain ⟨_, v, _, d', ran, moved, kept⟩ := run_of_ensures
        (available_reactToStore s e) (d := d) (quiet ▸ Faults.within_none Hazards.none)
      rw [Order.job, run_silently, ran, moved.own, kept]
    | role id' r =>
      have own : id' = id := by simpa [Order.identity?] using other
      subst own
      refine available_of_role quiet ?_ apart
      rintro rfl
      exact unpromoted rfl

/-- While no call fails, a device without a session of this node stays available through every
order but a pass that finds that it does not answer. -/
theorem available_after_order (quiet : d.faults = .none)
    (apart : (d.records.read id).state ≠ .connected) (available : d.store.isAvailable id = true)
    {o : Order} (unpromoted : o ≠ .role id .master) (unbroken : o ≠ .sessionLost id) :
    ((o.job s).run d).2.store.isAvailable id = true ↔
      (o.Visits s d id → d.reachable.contains id = true) := by
  by_cases visits : o.Visits s d id
  · have shown := available_of_visit s quiet available visits
    exact ⟨fun h _ => shown.symm.trans h, fun answers => shown.trans (answers visits)⟩
  · have kept := available_of_unvisited s quiet apart unpromoted unbroken visits
    exact iff_of_true (kept.trans available) fun h => absurd h visits

/-! ### A device that another node masters -/

end Deployment

/-- A pass finds a device that answers, which another node masters from then on. -/
def Step.handover : List Step :=
  [.operation (.order .pass), .change (.plan .none), .change (.lose .sample (.ofSmall 2))]

namespace Deployment

/-- A device stays available as long as it answers the node that lost it. -/
theorem available_after_order_handover :
    (((Order.pass.job .default).run (sample.after .default Step.handover)).2.store.isAvailable
      .sample) = true := by
  have apart : ((sample.after .default Step.handover).records.read .sample).state ≠
      .connected := by
    decide +kernel
  have available : (sample.after .default Step.handover).store.isAvailable .sample = true := by
    decide +kernel
  have answers : (sample.after .default Step.handover).reachable.contains .sample = true := by
    decide +kernel
  exact (available_after_order .default rfl apart available (by decide) (by decide)).2
    fun _ => answers

/-- A pass takes down a device that only this node cannot reach, though another node masters it. -/
theorem unavailable_after_loss :
    let d := sample.after .default (Step.handover ++ [.change (.reach ∅)])
    d.mastership.isLocalMaster .sample = false ∧ (d.records.read .sample).state ≠ .connected ∧
      d.store.isAvailable .sample = true ∧
      ((Order.pass.job .default).run d).2.store.isAvailable .sample = false := by
  decide +kernel

end Deployment

end Southbound
