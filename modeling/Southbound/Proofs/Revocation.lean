import Southbound.Proofs.Drain
import Southbound.Proofs.Isolation

/-!
# Credentials are revoked

The provider leaves keys in the credential store while devices are managed, and takes them back when
a device is given up or torn down.  A shutdown tears down the devices whose records say that their
credentials were stored, so a key outlives the provider exactly if its record was dropped before.
A pass drops the record of a device that configuration no longer lists and that has no session, and
leaves the key where it is (`Provider.key_outlives_shutdown`).  The keys of all other devices are
removed (`Provider.keys_revoked`).

Everything here is about runs in which no call fails.
-/

namespace Southbound

open Connection Deployment Discovery Job Reconciliation

/-! ## Keys and records -/

theorem Action.eq_storeKey {a : Action} {id : Identity} {c : Credentials}
    (called : a.call? = some (.storeKey id c)) : a = .storeKey id c := by
  cases a with
  | writeStore w => cases w <;> cases called
  | storeKey => cases called; rfl
  | _ => cases called

/-- The action stores no key and makes no record forget one. -/
def Action.isKeyless : Action → Bool
  | storeKey _ _ | changeRecord _ (.reached .unregistered) | prune => false
  | _ => true

theorem Action.Aside.keyless {id : Identity} {a : Action} (h : a.Aside id) :
    a.isKeyless = true := by
  obtain ⟨concerns, idle⟩ := h
  cases a with
  | changeRecord id' c => cases c <;> first | rfl | cases idle
  | storeKey => cases idle
  | prune => exact concerns.elim
  | _ => rfl

namespace Link

/-- If a key is held then the record says that it is. -/
def Keyed (l : Link) : Prop := l.key?.isSome = true → l.state ≠ .unregistered

theorem state_register (l : Link) (c : Credentials) : (l.register c).state ≠ .unregistered := by
  unfold register
  split
  · next known => exact known.1
  · by_cases fresh : l.state = .unregistered <;> simp [remember, fresh]

theorem Keyed.of_becomes {v v' : Slice} {a : Action} (becomes : v.Becomes a v')
    (keyless : a.isKeyless = true) (h : v.link.Keyed) : v'.link.Keyed := by
  cases becomes with
  | same => exact h
  | changed id' c =>
    cases c with
    | credentialsStored c =>
      intro held
      have registered := h held
      simp_all [Link.remember]
    | reached state =>
      intro _
      rintro rfl
      cases keyless
    | ended => exact fun held => mt (state_ended_eq_unregistered (l := v.link)).1 (h held)
    | _ => exact h
  | keyStored => cases keyless
  | keyRemoved =>
    intro held
    cases held
  | _ => exact h

end Link

namespace Deployment

variable {d : Deployment} {a : Action} {id : Identity}

theorem keyed_perform (keyless : a.isKeyless = true) (h : (d.slice id).link.Keyed) :
    ((d.perform a).2.slice id).link.Keyed := by
  have follows := d.follows_perform a id
  generalize (d.perform a).2.slice id = v' at follows ⊢
  cases follows with
  | same => exact h
  | about concerns becomes => exact h.of_becomes becomes keyless
  | marked desired =>
    cases hr : (d.slice id).record? with
    | none => simpa [Link.Keyed, Slice.link, Slice.record, hr] using h
    | some r => simpa [Link.Keyed, Slice.link, Slice.record, hr] using h
  | pruned => cases keyless

end Deployment

/-! ## Jobs that leave keys and records together -/

namespace Job

variable {α : Type}

/-- The job stores no key and makes no record forget one. -/
abbrev Keyless (j : Job α) : Prop := j.Only fun a => a.isKeyless = true

theorem keyed_run {j : Job α} (keyless : j.Keyless) {d : Deployment} {id : Identity}
    (h : (d.slice id).link.Keyed) : ((j.run d).2.slice id).link.Keyed :=
  keyless.run (P := fun d => (d.slice id).link.Keyed) (fun _ _ => keyed_perform) h

section jobs

variable (id : Identity)

theorem keyless_connect : (connect id).Keyless := by
  simp [connect, abandon, disconnectIfStored, announceIfMissing, warnOnRefusal, forall_except,
    Action.isKeyless]

theorem keyless_release (role : Role) : (Connection.release id role).Keyless := by
  simp [Connection.release, disconnectIfStored, warnOnRefusal, forall_except, Action.isKeyless]

theorem keyless_sessionLost : (sessionLost id).Keyless := by
  simp [sessionLost, forall_except, Action.isKeyless]

theorem keyless_deviceRemoved : (deviceRemoved id).Keyless := by
  simp [deviceRemoved, warnOnRefusal, forall_except, Action.isKeyless]

theorem keyless_tearDown : (tearDown id).Keyless := by
  simp [tearDown, warnOnRefusal, forall_except, Action.isKeyless]

theorem keyless_tearDownAll : tearDownAll.Keyless :=
  Kind.mem_tearDownAll (K := .only fun a => a.isKeyless = true) rfl keyless_tearDown

theorem keyless_changeRole (role : Role) : (changeRole id role).Keyless :=
  Kind.mem_changeRole (K := .only fun a => a.isKeyless = true) rfl (fun _ => rfl)
    (fun _ => keyless_connect id) fun _ => keyless_release id role

theorem keyless_discoverPorts : (discoverPorts id).Keyless :=
  (aside_discoverPorts id).mono fun _ => Action.Aside.keyless

theorem keyless_reactToStore (s : Settings) (e : StoreEvent) :
    (Order.reactToStore s e).Keyless :=
  Kind.mem_reactToStore (K := .only fun a => a.isKeyless = true) s (fun _ => Action.Aside.keyless)
    (keyless_deviceRemoved e.identity)

end jobs

end Job

/-! ## Passes -/

namespace Slice

variable (v : Slice) (id : Identity)

/-- The record of a device that was looked after says that its key is held. -/
theorem registered_reconciled (c : Credentials) :
    (v.reconciled id c).link.state ≠ .unregistered := by
  have entered : (entry id v c).link.state ≠ .unregistered := by
    rw [link_entry]
    exact v.link.state_register c
  unfold reconciled
  rw [link_converged]
  split
  · split <;> exact mt Link.state_ended_eq_unregistered.1 entered
  · exact entered

theorem registered_foldl_reconciled {cs : List Credentials} (ne : cs ≠ []) :
    (cs.foldl (reconciled id) v).link.state ≠ .unregistered := by
  rw [← List.dropLast_concat_getLast ne, List.foldl_append]
  exact registered_reconciled _ _ _

/-- A record that says that a key is held is kept if the device is desired or has a session. -/
theorem keyed_marked {v : Slice} {desired : Bool}
    (kept : v.link.key?.isSome = true → desired = true ∨ v.link.state.isLive = true)
    (h : v.link.Keyed) : (v.marked desired).link.Keyed := by
  intro held
  have registered := h held
  have kept := kept held
  cases hr : v.record? with
  | none => simpa [marked, link, record, hr] using registered
  | some r =>
    have keeps : DeviceRecord.isKept { r with desired := desired } = true := by
      simpa [DeviceRecord.isKept, link, record, hr] using kept
    simpa [marked, link, record, hr, Option.filter, keeps] using registered

end Slice

namespace Deployment

variable {s : Settings} {d : Deployment} {id : Identity}

/-- No pass forgets the device while its key is held: the device is listed then, or has a
session. -/
def Retains (s : Settings) (id : Identity) (d : Deployment) : Prop :=
  ∀ devices, d.config.desiredDevices s.appId = .ok devices → d.keys.contains id = true →
    wanted s.scheme devices id ≠ [] ∨ (d.records.read id).state.isLive = true

theorem keyed_reconcileAll (quiet : d.faults = .none) (retains : d.Retains s id)
    (h : (d.slice id).link.Keyed) : (((reconcileAll s).run d).2.slice id).link.Keyed := by
  cases config : d.config.desiredDevices s.appId with
  | error e =>
    obtain ⟨d', ran, carried⟩ :=
      run_reconcileAll_unreadable s (C := fun _ => True) trivial quiet config
    rwa [ran, carried.slices]
  | ok devices =>
    obtain ⟨d', ran, carried⟩ := carries_reconcileAll s quiet config
    rw [ran, carried.slices]
    by_cases listed : wanted s.scheme devices id = []
    · rw [listed, List.foldl_nil]
      refine Slice.keyed_marked (fun held => .inr ?_) h
      exact (retains devices config held).resolve_left (absurd listed)
    · refine Slice.keyed_marked (fun _ => .inl (contains_named_iff.2 listed)) fun _ => ?_
      exact Slice.registered_foldl_reconciled _ _ listed

theorem keyed_reconcileOne (quiet : d.faults = .none) (id' : Identity)
    (h : (d.slice id).link.Keyed) : (((reconcileOne s id').run d).2.slice id).link.Keyed := by
  obtain ⟨d₁, read, asked⟩ := run_readDevices s.appId quiet (C := fun _ => True) trivial
  have h₁ : (d₁.slice id).link.Keyed := by rwa [asked.slices id]
  unfold reconcileOne
  rw [bind_eq, run_bind, read]
  cases d.config.desiredDevices s.appId with
  | error e => exact h₁
  | ok devices =>
    show (((passOverOne s id' devices).run d₁).2.slice id).link.Keyed
    unfold passOverOne
    cases devices.find? (names s.scheme id') with
    | none => exact h₁
    | some device =>
      obtain ⟨_, v, _, d', ran, moved, rfl⟩ := run_of_ensures (ensures_reconciled id' device)
        (d := d₁) (asked.quiet ▸ Faults.within_none _)
      show (((reconcileDevice id' device).run d₁).2.slice id).link.Keyed
      rw [ran]
      by_cases own : id = id'
      · rw [own, moved.own]
        exact fun _ => Slice.registered_reconciled _ _ _
      · rwa [moved.others id own]

/-- Every operation keeps records and keys together. -/
theorem keyed_operation (quiet : d.faults = .none) (o : Operation)
    (retains : o = .order .firstPass ∨ o = .order .pass → d.Retains s id)
    (h : (d.slice id).link.Keyed) : (((o.job s).run d).2.slice id).link.Keyed := by
  have silent : ∀ {j : Job Unit}, j.Keyless →
      (((Order.silently j).run d).2.slice id).link.Keyed := by
    intro j keyless
    rw [run_silently]
    exact keyed_run keyless h
  cases o with
  | order o =>
    cases o with
    | firstPass =>
      rw [Operation.job, Order.job, run_silently]
      exact keyed_reconcileAll quiet (retains (.inl rfl)) h
    | pass =>
      rw [Operation.job, Order.job, run_silently]
      exact keyed_reconcileAll quiet (retains (.inr rfl)) h
    | probe id' =>
      rw [Operation.job, Order.job, run_silently]
      exact keyed_reconcileOne quiet id' h
    | sessionLost id' => exact silent (keyless_sessionLost id')
    | storeChanged e => exact silent (keyless_reactToStore s e)
    | role id' role => exact keyed_run (keyless_changeRole id' role) h
  | deviceRemoved id' => exact silent (keyless_deviceRemoved id')
  | tearDown id' => exact silent (keyless_tearDown id')
  | tearDownAll => exact silent keyless_tearDownAll
  | discoverPorts id' => exact silent (keyless_discoverPorts id')

/-! ## What becomes of a key -/

/-- Every key that was stored for the device was removed later, or is still held. -/
def Accounted (id : Identity) (d : Deployment) : Prop :=
  ∀ c before after, d.calls = before ++ .storeKey id c :: after →
    .removeKey id ∈ after ∨ (d.slice id).key?.isSome = true

theorem Accounted.sayAll (h : d.Accounted id) (lines : List LogLine) :
    (d.sayAll lines).Accounted id := by
  intro c before after seen
  rw [calls_sayAll] at seen
  exact h c before after seen

theorem key_perform (quiet : d.faults = .none) (a : Action) (other : a ≠ .removeKey id)
    (held : (d.slice id).key?.isSome = true ∨ ∃ c, a = .storeKey id c) :
    ((d.perform a).2.slice id).key?.isSome = true := by
  rcases held with held | ⟨c, rfl⟩
  · have follows := d.follows_perform a id
    generalize (d.perform a).2.slice id = v' at follows ⊢
    cases follows with
    | about concerns becomes =>
      cases becomes with
      | keyStored => rfl
      | keyRemoved id' =>
        cases concerns
        exact absurd rfl other
      | _ => exact held
    | _ => exact held
  · obtain ⟨_, moved⟩ := d.perform_slice (a := .storeKey id c) rfl
    rw [moved.own, faultOf_of_quiet quiet]
    rfl

theorem accounted_perform (quiet : d.faults = .none) (a : Action) (h : d.Accounted id) :
    (d.perform a).2.Accounted id := by
  have kept : a ≠ .removeKey id → (d.slice id).key?.isSome = true →
      ((d.perform a).2.slice id).key?.isSome = true :=
    fun other held => key_perform quiet a other (.inl held)
  intro c before after seen
  rw [calls_perform] at seen
  cases called : a.call? with
  | none =>
    have other : a ≠ .removeKey id := by
      rintro rfl
      cases called
    rw [called, Option.toList_none, List.append_nil] at seen
    exact (h c before after seen).imp_right (kept other)
  | some x =>
    rw [called, Option.toList_some] at seen
    rcases split_concat seen with ⟨_, now, _⟩ | ⟨after, rfl, earlier⟩
    -- the key was stored just now
    · subst now
      have stores := Action.eq_storeKey called
      exact .inr (key_perform quiet a (by simp [stores]) (.inr ⟨c, stores⟩))
    · rw [List.mem_append]
      rcases h c before after earlier with removed | held
      · exact .inl (.inl removed)
      · by_cases removes : a = .removeKey id
        · subst removes
          cases called
          exact .inl (.inr (.head _))
        · exact .inr (kept removes held)

/-! ## Runs -/

/-- The provider's memory and the systems around it are as they are when nothing goes wrong: records
say which keys are held, and keys do not get lost. -/
structure Keeping (id : Identity) (d : Deployment) : Prop where
  quiet : d.faults = .none
  keyed : (d.slice id).link.Keyed
  accounted : d.Accounted id

theorem quiet_accounted_run {α : Type} (j : Job α) (quiet : d.faults = .none)
    (h : d.Accounted id) : (j.run d).2.faults = .none ∧ (j.run d).2.Accounted id := by
  have everything : j.Only fun _ => True := by
    induction j with
    | done | crashed => trivial
    | act a next ih => exact ⟨trivial, ih⟩
  refine everything.run (P := fun d => d.faults = .none ∧ d.Accounted id) ?_ ⟨quiet, h⟩
  intro d a _ ⟨quiet, h⟩
  exact ⟨quiet_perform quiet a, accounted_perform quiet a h⟩

/-- The step may be taken: nothing goes wrong, and no pass forgets the device while its key is
held. -/
def Retaining (s : Settings) (id : Identity) (d : Deployment) : Step → Prop
  | .operation (.order .firstPass) | .operation (.order .pass) => d.Retains s id
  | .change (.plan f) => f = .none
  | _ => True

theorem Keeping.step {step : Step} (h : d.Keeping id) (retaining : d.Retaining s id step) :
    (step.apply s d).Keeping id := by
  cases step with
  | operation o =>
    obtain ⟨quiet, accounted⟩ := quiet_accounted_run (o.job s) h.quiet h.accounted
    refine ⟨quiet, keyed_operation h.quiet o ?_ h.keyed, accounted⟩
    rintro (rfl | rfl) <;> exact retaining
  | change c =>
    have link := c.link_apply d id
    refine ⟨?_, ?_, ?_⟩
    · cases c with
      | plan f => exact retaining
      | _ => exact h.quiet
    · show ((c.apply d).slice id).link.Keyed
      rw [link]
      exact h.keyed
    · intro cr before after seen
      have key : ((c.apply d).slice id).key? = (d.slice id).key? := congrArg Link.key? link
      show _ ∨ ((c.apply d).slice id).key?.isSome = true
      rw [key]
      exact h.accounted cr before after ((calls_change c d).symm.trans seen)

theorem Reaches.keeping {start : Deployment} (keys : start.keys = ∅) (calls : start.calls = [])
    (quiet : start.faults = .none)
    (reached : start.Reaches s (Retaining s id) d) : d.Keeping id := by
  induction reached with
  | refl =>
    have unkeyed : (start.slice id).key? = none := by
      rw [slice, keys]
      rfl
    refine ⟨quiet, fun held => ?_, fun c before after seen => ?_⟩
    · have held : (start.slice id).key?.isSome = true := held
      simp [unkeyed] at held
    · simp [calls] at seen
  | step _ step admitted ih => exact ih.step admitted

end Deployment

/-! ## Shutdown -/

namespace Job

variable {d : Deployment}

theorem ensures_tearDown_quiet (id : Identity) {v : Slice} :
    (tearDown id).Ensures .none id v fun reply v' _ => reply = some () ∧ v'.key? = none := by
  simp [tearDown, Hazards.none, Slice.setKey, Slice.setOpen, Slice.change]

theorem run_tearDownAll (quiet : d.faults = .none) :
    ∃ d', tearDownAll.run d = (.done (), d') ∧
      ∀ id, (d.slice id).link.Keyed → (d'.slice id).key? = none := by
  let left : List Identity → Deployment → Prop := fun ids d' => d'.faults = .none ∧
    ∀ id, (d.slice id).link.Keyed → id ∈ ids ∨ (d'.slice id).key? = none
  have first : left d.records.registered d := by
    refine ⟨quiet, fun id keyed => ?_⟩
    by_cases registered : (d.slice id).link.state = .unregistered
    · exact .inr (Option.not_isSome_iff_eq_none.1 fun held => keyed held registered)
    · exact .inl (Records.mem_registered_iff.2 registered)
  have step : ∀ id rest d', left (id :: rest) d' →
      ∃ d'', (tearDown id).run d' = (.done (), d'') ∧ left rest d'' := by
    intro id rest d' h
    obtain ⟨_, v, _, d'', ran, moved, rfl, unkeyed⟩ :=
      run_of_ensures (ensures_tearDown_quiet id) (h.1 ▸ Faults.within_none _)
    refine ⟨d'', ran, moved.quiet h.1, fun id' keyed => ?_⟩
    by_cases own : id' = id
    · rw [own, moved.own]
      exact .inr unkeyed
    · rw [moved.others id' own]
      exact (h.2 id' keyed).imp_left fun mem => (List.mem_cons.1 mem).resolve_left own
  obtain ⟨d', ran, _, revoked⟩ := run_tearDownEach step first
  exact ⟨d', ran, fun id keyed => (revoked id keyed).resolve_left nofun⟩

end Job

namespace Provider

variable {p : Provider} {start : Deployment}

/-- As long as nothing goes wrong, a shutdown removes the key of every device that no pass has
forgotten while its key was held, and has then removed every key that was ever stored for it. -/
theorem keys_revoked (id : Identity) (keys : start.keys = ∅) (calls : start.calls = [])
    (quiet : start.faults = .none)
    (reached : start.Reaches p.settings (Retaining p.settings id) p.deployment)
    (events : p.events.isIdle = true) (connections : p.connections.isIdle = true) :
    ∃ p', p.shutdown = (.complete, p') ∧ p'.deployment.keys.get? id = none ∧
      ∀ c before after, p'.deployment.calls = before ++ .storeKey id c :: after →
        .removeKey id ∈ after := by
  have keeping := reached.keeping keys calls quiet
  have torn : ∀ d, d.Keeping id → ∃ d', tearDownAll.run d = (.done (), d') ∧
      (d'.slice id).key? = none ∧ d'.Accounted id := by
    intro d h
    obtain ⟨d', ran, revoked⟩ := run_tearDownAll h.quiet
    refine ⟨d', ran, revoked id h.keyed, ?_⟩
    have accounted := (quiet_accounted_run tearDownAll h.quiet h.accounted).2
    rwa [ran] at accounted
  obtain ⟨p', complete, _, unkeyed, accounted⟩ := shutdown_of_completes
    (J := fun d => (d.slice id).key? = none ∧ d.Accounted id)
    (fun d lines h => ⟨h.quiet, h.keyed, h.accounted.sayAll lines⟩)
    (fun d lines h => ⟨h.1, h.2.sayAll lines⟩) ⟨keeping.quiet, keeping.keyed, keeping.accounted⟩
    (Pool.completes_of_isIdle events _) (Pool.completes_of_isIdle connections _) torn
  refine ⟨p', complete, unkeyed, fun c before after seen => ?_⟩
  refine (accounted c before after seen).resolve_right ?_
  simp [unkeyed]

end Provider

/-! ### A device that is no longer listed -/

/-- The device is promoted, demoted and looked after again. -/
def Step.visit : List Step :=
  Step.promotion ++ [.operation (.order (.role .sample .standby)), .operation (.order .pass)]

/-- The device is looked after once, and then no longer listed. -/
def Step.farewell : List Step :=
  [.operation (.order .pass), .change (.configure (.listed [])), .operation (.order .pass)]

namespace Provider

/-- The key of a device that stays listed is removed. -/
theorem keys_revoked_visit :
    let p := fresh .default 16 (Deployment.sample.after .default Step.visit)
    p.deployment.keys.contains .sample = true ∧
      ∃ p', p.shutdown = (.complete, p') ∧ p'.deployment.keys.get? .sample = none ∧
        ∀ c before after, p'.deployment.calls = before ++ .storeKey .sample c :: after →
          .removeKey .sample ∈ after := by
  have retains : ∀ d : Deployment,
      (d.config.desiredDevices Settings.default.appId).toOption.all (fun devices =>
        !(wanted Settings.default.scheme devices .sample).isEmpty) = true →
      d.Retains .default .sample := by
    intro d listed devices read _
    rw [read] at listed
    exact .inl (by simpa [Except.toOption] using listed)
  have reached : Deployment.sample.Reaches .default (Retaining .default .sample)
      (Deployment.sample.after .default Step.visit) :=
    Reaches.refl.after ⟨retains _ (by decide +kernel), trivial, trivial,
      retains _ (by decide +kernel), trivial⟩
  refine ⟨by decide +kernel, ?_⟩
  generalize Deployment.sample.after .default Step.visit = d at reached ⊢
  exact keys_revoked .sample rfl rfl rfl reached rfl rfl

end Provider

namespace Deployment

/-- A key is held for the device that was never taken back, and no device is registered. -/
structure Orphaned (d : Deployment) : Prop where
  unregistered : d.records.registered = []
  held : d.keys.contains .sample = true
  stored : .storeKey .sample (.password "admin" "secret") ∈ d.calls
  unrevoked : .removeKey .sample ∉ d.calls

theorem Orphaned.sayAll {d : Deployment} (h : d.Orphaned) (lines : List LogLine) :
    (d.sayAll lines).Orphaned := by
  obtain ⟨unregistered, held, stored, unrevoked⟩ := h
  refine ⟨unregistered, held, ?_, ?_⟩ <;> rwa [calls_sayAll]

end Deployment

namespace Provider

/-- The key of a device whose record a pass dropped outlives the provider. -/
theorem key_outlives_shutdown :
    ∃ p', (fresh .default 16 (Deployment.sample.after .default Step.farewell)).shutdown =
        (.complete, p') ∧
      .storeKey .sample (.password "admin" "secret") ∈ p'.deployment.calls ∧
      .removeKey .sample ∉ p'.deployment.calls ∧ p'.deployment.keys.contains .sample = true := by
  have orphaned : (Deployment.sample.after .default Step.farewell).Orphaned :=
    ⟨by decide +kernel, by decide +kernel, by decide +kernel, by decide +kernel⟩
  generalize Deployment.sample.after .default Step.farewell = d at orphaned ⊢
  have begun : Orphaned { d with active := false } :=
    ⟨orphaned.1, orphaned.2, orphaned.3, orphaned.4⟩
  have torn : ∀ d : Deployment, d.Orphaned →
      ∃ d', tearDownAll.run d = (.done (), d') ∧ d'.Orphaned := by
    intro d h
    have nothing : tearDownAll.run d = (tearDownEach d.records.registered).run d := rfl
    rw [h.unregistered] at nothing
    exact ⟨d, nothing, h⟩
  have idle : (fresh .default 16 d).events.isIdle = true ∧
    (fresh .default 16 d).connections.isIdle = true := ⟨rfl, rfl⟩
  obtain ⟨p', complete, _, _, held, stored, unrevoked⟩ := shutdown_of_completes
    (fun _ lines h => h.sayAll lines) (fun _ lines h => h.sayAll lines) begun
    (Pool.completes_of_isIdle idle.1 _) (Pool.completes_of_isIdle idle.2 _) torn
  exact ⟨p', complete, stored, unrevoked, held⟩

end Provider

end Southbound
