import Southbound.Proofs.Run

/-!
# Footprints of jobs

`j.Uses ok Q` says that every action of the job `j` is `ok` and that `j` ends as `Q` asks, whatever
is answered on the way.  `Job.Ensures` follows a slice from action to action, and is of no use as
soon as other jobs take turns in between; a footprint is about the job alone, so that it holds of
what is left of a job at any time and whoever else is at work.

What single actions can make of a slice is collected in `Slice.Becomes`.

A `Job.Kind` is any property of jobs that goes through when jobs are put together.  Passes,
reactions to events and whole operations are taken apart once for all kinds
(`Job.Kind.mem_reconcileAll` and its like), so that a statement about them is left with the few jobs
of `Southbound.Connection`.

Whatever the provider does to one device has a footprint that concerns this device only, and only
a promotion opens a session.  What each action of a footprint keeps is kept by a run of the job
(`Job.Only.run`), and a job about one device never has to wait (`Job.Only.ends`).
-/

namespace Southbound

open Connection Discovery Job Reconciliation

/-- What holds of success and of failure holds of every outcome. -/
theorem forall_except {ε α : Type} {P : Except ε α → Prop} :
    (∀ r, P r) ↔ (∀ a, P (.ok a)) ∧ ∀ e, P (.error e) := by
  constructor
  · intro h
    exact ⟨fun a => h _, fun e => h _⟩
  · rintro ⟨ok, error⟩ (e | a)
    · exact error e
    · exact ok a

/-- In a list that grew, an element is the new one or was there before. -/
theorem split_concat {α : Type} {l before after : List α} {x y : α}
    (h : l ++ [x] = before ++ y :: after) :
    (before = l ∧ y = x ∧ after = []) ∨ ∃ rest, after = rest ++ [x] ∧ l = before ++ y :: rest := by
  rcases List.eq_nil_or_concat after with rfl | ⟨rest, z, rfl⟩
  · obtain ⟨rfl, same⟩ := List.append_inj' h rfl
    exact .inl ⟨rfl, (List.singleton_inj.1 same).symm, rfl⟩
  · rw [List.concat_eq_append, ← List.cons_append, ← List.append_assoc] at h
    obtain ⟨same, last⟩ := List.append_inj' h rfl
    exact .inr ⟨rest, by rw [List.concat_eq_append, List.singleton_inj.1 last], same⟩

namespace Job

variable {α β : Type} {ok ok' : Action → Prop}

/-- Whatever is answered, every action of the job is of a certain kind, and the job ends as asked:
with a result, or with `none` if it breaks down. -/
def Uses (ok : Action → Prop) : Job α → (Option α → Prop) → Prop
  | done a, Q => Q (some a)
  | crashed, Q => Q none
  | act a next, Q => ok a ∧ ∀ reply, Uses ok (next reply) Q

/-- Every action of the job is of a certain kind. -/
abbrev Only (ok : Action → Prop) (j : Job α) : Prop := j.Uses ok fun _ => True

theorem Uses.mono {j : Job α} {Q Q' : Option α → Prop} (h : j.Uses ok Q)
    (kinder : ∀ a, ok a → ok' a) (weaker : ∀ reply, Q reply → Q' reply) : j.Uses ok' Q' := by
  induction j with
  | done a => exact weaker _ h
  | crashed => exact weaker _ h
  | act a next ih => exact ⟨kinder a h.1, fun reply => ih reply (h.2 reply)⟩

theorem Only.mono {j : Job α} (h : j.Only ok) (kinder : ∀ a, ok a → ok' a) : j.Only ok' :=
  Uses.mono h kinder fun _ _ => trivial

/-! ## Jobs that are put together -/

section composition

variable {Q : Option α → Prop}

@[simp] theorem uses_done (a : α) : (done a).Uses ok Q ↔ Q (some a) := Iff.rfl

@[simp] theorem uses_crashed : (crashed : Job α).Uses ok Q ↔ Q none := Iff.rfl

@[simp] theorem uses_bind (j : Job α) (f : α → Job β) {Q : Option β → Prop} :
    (bind j f).Uses ok Q ↔ j.Uses ok fun reply =>
      match reply with
      | some a => (f a).Uses ok Q
      | none => Q none := by
  induction j with
  | done a => rfl
  | crashed => rfl
  | act a next ih => simp only [act_bind, Uses, ih]

@[simp] theorem uses_ite (c : Prop) [Decidable c] (j k : Job α) :
    (if c then j else k).Uses ok Q ↔ (c → j.Uses ok Q) ∧ (¬c → k.Uses ok Q) := by
  by_cases h : c <;> simp [h]

end composition

theorem Only.bind {j : Job α} {f : α → Job β} (hj : j.Only ok) (hf : ∀ a, (f a).Only ok) :
    (Job.bind j f).Only ok := by
  rw [Only, uses_bind]
  refine Uses.mono hj (fun _ h => h) fun reply _ => ?_
  cases reply with
  | some a => exact hf a
  | none => trivial

theorem Only.ite {c : Prop} [Decidable c] {j k : Job α} (hj : c → j.Only ok)
    (hk : ¬c → k.Only ok) : (if c then j else k).Only ok :=
  (uses_ite c j k).2 ⟨hj, hk⟩

theorem Only.contained {j : Job α} (h : j.Only ok) : j.contained.Only ok := by
  induction j with
  | done a => trivial
  | crashed => trivial
  | act a next ih => exact ⟨h.1, fun reply => ih reply (h.2 reply)⟩

/-! ## Single actions -/

theorem uses_ofAction (a : Action) {Q : Option a.Answer → Prop} :
    (ofAction a).Uses ok Q ↔ ok a ∧ (∀ answer, Q (some answer)) ∧ Q none := by
  refine and_congr_right fun _ => ⟨fun h => ⟨fun answer => h (some answer), h none⟩, ?_⟩
  rintro ⟨answered, crashed⟩ (_ | answer)
  · exact crashed
  · exact answered answer

theorem only_ofAction {a : Action} (h : ok a) : (ofAction a).Only ok :=
  (uses_ofAction a).2 ⟨h, fun _ => trivial, trivial⟩

section actions

variable (id : Identity) {Q : Option Unit → Prop} {B : Option Bool → Prop}
  {R : Option DeviceRecord → Prop} {E : Option (Except CollaboratorError Unit) → Prop}

@[simp] theorem uses_log (l : LogLine) :
    (log l).Uses ok Q ↔ ok (.log l) ∧ (∀ u, Q (some u)) ∧ Q none :=
  uses_ofAction (.log l)

@[simp] theorem uses_readRecord :
    (readRecord id).Uses ok R ↔ ok (.readRecord id) ∧ (∀ r, R (some r)) ∧ R none :=
  uses_ofAction (.readRecord id)

@[simp] theorem uses_changeRecord (c : RecordChange) :
    (changeRecord id c).Uses ok R ↔ ok (.changeRecord id c) ∧ (∀ r, R (some r)) ∧ R none :=
  uses_ofAction (.changeRecord id c)

@[simp] theorem uses_probe :
    (probe id).Uses ok B ↔ ok (.probe id) ∧ (∀ b, B (some b)) ∧ B none :=
  uses_ofAction (.probe id)

@[simp] theorem uses_isAvailable :
    (isAvailable id).Uses ok B ↔ ok (.isAvailable id) ∧ (∀ b, B (some b)) ∧ B none :=
  uses_ofAction (.isAvailable id)

@[simp] theorem uses_isLocalMaster :
    (isLocalMaster id).Uses ok B ↔ ok (.isLocalMaster id) ∧ (∀ b, B (some b)) ∧ B none :=
  uses_ofAction (.isLocalMaster id)

@[simp] theorem uses_storeKey (c : Credentials) :
    (storeKey id c).Uses ok E ↔ ok (.storeKey id c) ∧ (∀ r, E (some r)) ∧ E none :=
  uses_ofAction (.storeKey id c)

@[simp] theorem uses_removeKey :
    (removeKey id).Uses ok E ↔ ok (.removeKey id) ∧ (∀ r, E (some r)) ∧ E none :=
  uses_ofAction (.removeKey id)

@[simp] theorem uses_openSession :
    (openSession id).Uses ok E ↔ ok (.openSession id) ∧ (∀ r, E (some r)) ∧ E none :=
  uses_ofAction (.openSession id)

@[simp] theorem uses_closeSession (force : Bool) :
    (closeSession id force).Uses ok E ↔
      ok (.closeSession id force) ∧ (∀ r, E (some r)) ∧ E none :=
  uses_ofAction (.closeSession id force)

@[simp] theorem uses_writeStore (w : StoreWrite) :
    (writeStore w).Uses ok E ↔ ok (.writeStore w) ∧ (∀ r, E (some r)) ∧ E none :=
  uses_ofAction (.writeStore w)

@[simp] theorem uses_lookUp {F : Option (Option FoundDevice) → Prop} :
    (lookUp id).Uses ok F ↔ ok (.lookUp id) ∧ (∀ r, F (some r)) ∧ F none :=
  uses_ofAction (.lookUp id)

@[simp] theorem uses_masterOf {F : Option (Option NodeId) → Prop} :
    (masterOf id).Uses ok F ↔ ok (.masterOf id) ∧ (∀ r, F (some r)) ∧ F none :=
  uses_ofAction (.masterOf id)

@[simp] theorem uses_reportRole (requested accepted : Role) :
    (reportRole id requested accepted).Uses ok Q ↔
      ok (.reportRole id requested accepted) ∧ (∀ u, Q (some u)) ∧ Q none :=
  uses_ofAction (.reportRole id requested accepted)

@[simp] theorem uses_discoverDetails (reply : Reply (Option Description))
    {F : Option (Except DiscoveryError (Option Description)) → Prop} :
    (discoverDetails id reply).Uses ok F ↔
      ok (.discoverDetails id reply) ∧ (∀ r, F (some r)) ∧ F none :=
  uses_ofAction (.discoverDetails id reply)

@[simp] theorem uses_discoverPortDetails (reply : Reply (List Port))
    {F : Option (Except DiscoveryError (List Port)) → Prop} :
    (discoverPortDetails id reply).Uses ok F ↔
      ok (.discoverPortDetails id reply) ∧ (∀ r, F (some r)) ∧ F none :=
  uses_ofAction (.discoverPortDetails id reply)

@[simp] theorem uses_listPorts (reply : Reply (List Port))
    {F : Option (Except DiscoveryError (List Port)) → Prop} :
    (listPorts id reply).Uses ok F ↔ ok (.listPorts id reply) ∧ (∀ r, F (some r)) ∧ F none :=
  uses_ofAction (.listPorts id reply)

@[simp] theorem uses_discoverStatistics (reply : Reply (List PortStatistics))
    {F : Option (Except DiscoveryError (List PortStatistics)) → Prop} :
    (discoverStatistics id reply).Uses ok F ↔
      ok (.discoverStatistics id reply) ∧ (∀ r, F (some r)) ∧ F none :=
  uses_ofAction (.discoverStatistics id reply)

end actions

end Job

/-! ## What actions make of a slice -/

namespace Slice

/-- What an action can make of a slice, if anything. -/
inductive Becomes (v : Slice) : Action → Slice → Prop
  | same (a : Action) : Becomes v a v
  | changed (id : Identity) (c : RecordChange) : Becomes v (.changeRecord id c) (v.change c)
  | keyStored (id : Identity) (c : Credentials) : Becomes v (.storeKey id c) (v.setKey (some c))
  | keyRemoved (id : Identity) : Becomes v (.removeKey id) (v.setKey none)
  | opened (id : Identity) (key : v.key?.isSome = true) :
    Becomes v (.openSession id) (v.setOpen true)
  | closed (id : Identity) (force : Bool) : Becomes v (.closeSession id force) (v.setOpen false)
  | written (w : StoreWrite) (known : StoredDevice) :
    Becomes v (.writeStore w) { v with stored? := some known }
  | accepted (id : Identity) (requested accepted : Role) :
    Becomes v (.reportRole id requested accepted) (v.accept accepted)

/-- An attempt has its effect or none. -/
theorem becomes_attempt {v : Slice} {a : Action} {outcome : Except CollaboratorError Slice}
    (effect : ∀ v', outcome = .ok v' → v.Becomes a v') (fault : Option Fault) :
    v.Becomes a (v.attempt fault outcome).2 := by
  cases outcome with
  | ok v' => rcases fault with _ | _ | _ | _ | _ <;> first | exact .same a | exact effect v' rfl
  | error e => rcases fault with _ | _ | _ | _ | _ <;> exact .same a

theorem becomes_perform (v : Slice) (fault : Option Fault) (a : Action) :
    v.Becomes a (v.perform fault a).2 := by
  cases a with
  | changeRecord id c => exact .changed id c
  | storeKey id c => exact becomes_attempt (fun _ h => Except.ok.inj h ▸ .keyStored id c) fault
  | removeKey id => exact becomes_attempt (fun _ h => Except.ok.inj h ▸ .keyRemoved id) fault
  | openSession id =>
    refine becomes_attempt (fun v' h => ?_) fault
    cases hk : v.key? with
    | none => simp [openTo, hk] at h
    | some c =>
      have opened : v.setOpen true = v' := by simpa [openTo, hk] using h
      exact opened ▸ .opened id (by simp [hk])
  | closeSession id force =>
    exact becomes_attempt (fun _ h => Except.ok.inj h ▸ .closed id force) fault
  | writeStore w =>
    refine becomes_attempt (fun v' h => ?_) fault
    cases hw : w.entry v.stored? with
    | error e => simp [write, hw, Except.map] at h
    | ok known =>
      have written : { v with stored? := some known } = v' := by
        simpa [write, hw, Except.map] using h
      exact written ▸ .written w known
  | reportRole id requested accepted =>
    by_cases crashed : fault = some .crash
    · simpa [perform, crashed] using Becomes.same _
    · simpa [perform, crashed] using Becomes.accepted id requested accepted
  | _ => exact .same _

variable {v v' : Slice} {id : Identity} {a : Action}

/-- Only opening a session opens it, and it takes a key. -/
theorem Becomes.isOpen_eq_false (h : v.Becomes a v') (concerns : a.Concerns id)
    (other : ¬ (v.key?.isSome = true ∧ a = .openSession id)) (closed : v.isOpen = false) :
    v'.isOpen = false := by
  cases h with
  | opened id' key =>
    cases concerns
    exact absurd ⟨key, rfl⟩ other
  | closed => rfl
  | _ => exact closed

/-- Only the change to that state makes a record connected. -/
theorem Becomes.state_ne_connected (h : v.Becomes a v') (concerns : a.Concerns id)
    (ne : a ≠ .changeRecord id (.reached .connected)) (apart : v.record.state ≠ .connected) :
    v'.record.state ≠ .connected := by
  cases h with
  | changed id' c =>
    cases concerns
    rw [record_change]
    cases c with
    | reached state =>
      rintro rfl
      exact ne rfl
    | credentialsStored c =>
      by_cases fresh : v.record.state = .unregistered <;> simp [RecordChange.apply, fresh, apart]
    | ended =>
      by_cases live : v.record.state.isLive = true <;>
        simp [RecordChange.apply, DeviceRecord.ended, live, apart]
    | _ => exact apart
  | _ => exact apart

end Slice

/-! ## What actions do to a deployment -/

/-- What an action of any kind can make of the slice of a device. -/
inductive Slice.Follows (v : Slice) (id : Identity) : Action → Slice → Prop
  | same (a : Action) : Follows v id a v
  | about {a : Action} {v' : Slice} (concerns : a.Concerns id) (becomes : v.Becomes a v') :
    Follows v id a v'
  | marked (desired : List Identity) : Follows v id (.markDesired desired)
    { v with record? := v.record?.map fun r => { r with desired := desired.contains id } }
  | pruned : Follows v id .prune { v with record? := v.record?.filter (·.isKept) }

namespace Deployment

variable (d : Deployment)

/-- Asking for the desired devices changes nothing that is held about devices. -/
theorem perform_requestDevices (appId : String) :
    ∃ d', (d.perform (.requestDevices appId)).2 = d' ∧ (∀ id, d'.slice id = d.slice id) ∧
      d'.calls = d.calls ++ [.desiredDevices appId] ∧ d'.active = d.active ∧
      d'.faults = (d.meet (.desiredDevices appId) .desiredDevices).faults := by
  have calls : (d.meet (.desiredDevices appId) .desiredDevices).calls =
      d.calls ++ [.desiredDevices appId] := calls_note d _
  refine ⟨_, rfl, ?_⟩
  rw [requestDevices_eq]
  rcases (d.faults .desiredDevices).next.1 with _ | _ | _ | _ | _ <;>
    exact ⟨fun _ => rfl, calls, rfl, rfl⟩

/-- Every action does one of a few things to what is held about a device. -/
theorem follows_perform (a : Action) (id : Identity) :
    (d.slice id).Follows id a ((d.perform a).2.slice id) := by
  by_cases about : ∃ id', a.Concerns id'
  · obtain ⟨id', concerns⟩ := about
    obtain ⟨_, moved⟩ := d.perform_slice concerns
    by_cases own : id = id'
    · subst own
      rw [moved.own]
      exact .about concerns (Slice.becomes_perform _ _ a)
    · rw [moved.others id own]
      exact .same a
  · cases a with
    | isActive | setActive | registered | receiveDevices => exact .same _
    | markDesired desired =>
      have marked : (d.perform (.markDesired desired)).2.slice id =
          { d.slice id with record? := (d.slice id).record?.map fun r =>
            { r with desired := desired.contains id } } := by
        simp [perform, slice, Records.markDesired, SortedMap.get?_map]
      rw [marked]
      exact .marked desired
    | prune =>
      have pruned : (d.perform .prune).2.slice id =
          { d.slice id with record? := (d.slice id).record?.filter (·.isKept) } := by
        simp [perform, slice, Records.prune, SortedMap.get?_filter]
      rw [pruned]
      exact .pruned
    | requestDevices appId =>
      obtain ⟨d', performed, slices, _⟩ := d.perform_requestDevices appId
      rw [performed, slices]
      exact .same _
    | log l => exact absurd ⟨id, trivial⟩ about
    | writeStore w => exact absurd ⟨w.identity, rfl⟩ about
    | _ => exact absurd ⟨_, rfl⟩ about

/-- What an action that is not about a device does to what is not held about devices. -/
theorem perform_unconcerned {a : Action} (unconcerned : ∀ id, ¬ a.Concerns id) :
    (d.perform a).2.calls = d.calls ++ a.call?.toList ∧
      ((∀ active, a ≠ .setActive active) → (d.perform a).2.active = d.active) ∧
      ((d.perform a).2.faults = d.faults ∨
        ∃ point, (d.perform a).2.faults = d.faults.plan point (d.faults point).next.2) := by
  cases a with
  | isActive | registered | receiveDevices | markDesired | prune =>
    exact ⟨(List.append_nil _).symm, fun _ => rfl, .inl rfl⟩
  | setActive active => exact ⟨(List.append_nil _).symm, fun h => absurd rfl (h active), .inl rfl⟩
  | requestDevices appId =>
    obtain ⟨d', performed, _, calls, active, faults⟩ := d.perform_requestDevices appId
    rw [performed]
    exact ⟨calls, fun _ => active, .inr ⟨.desiredDevices, faults⟩⟩
  | log l => exact ⟨calls_note d [.logged l], fun _ => rfl, .inl rfl⟩
  | writeStore w => exact absurd rfl (unconcerned w.identity)
  | _ => exact absurd rfl (unconcerned _)

/-- Every call is seen. -/
theorem calls_perform (a : Action) : (d.perform a).2.calls = d.calls ++ a.call?.toList := by
  by_cases about : ∃ id, a.Concerns id
  · obtain ⟨id, concerns⟩ := about
    exact (d.perform_slice concerns).2.calls
  · exact (d.perform_unconcerned (not_exists.1 about)).1

/-- Only one action says whether role changes are accepted. -/
theorem active_perform {a : Action} (other : ∀ active, a ≠ .setActive active) :
    (d.perform a).2.active = d.active := by
  by_cases about : ∃ id, a.Concerns id
  · obtain ⟨id, concerns⟩ := about
    exact congrArg Setting.active (d.perform_slice concerns).2.setting
  · exact (d.perform_unconcerned (not_exists.1 about)).2.1 other

variable {d}

/-- What goes wrong later was to go wrong anyway. -/
theorem within_perform {p : Hazards} (within : d.faults.Within p) (a : Action) :
    (d.perform a).2.faults.Within p := by
  by_cases about : ∃ id, a.Concerns id
  · obtain ⟨id, concerns⟩ := about
    exact (d.perform_slice concerns).2.within p within
  · rcases (d.perform_unconcerned (not_exists.1 about)).2.2 with same | ⟨point, drawn⟩
    · rwa [same]
    · rw [drawn]
      exact within.draw point

/-- As long as nothing goes wrong nothing will. -/
theorem quiet_perform (quiet : d.faults = .none) (a : Action) :
    (d.perform a).2.faults = .none := by
  by_cases about : ∃ id, a.Concerns id
  · obtain ⟨id, concerns⟩ := about
    exact (d.perform_slice concerns).2.quiet quiet
  · rcases (d.perform_unconcerned (not_exists.1 about)).2.2 with same | ⟨point, drawn⟩
    · rw [same, quiet]
    · rw [drawn, quiet, Faults.plan_none]

end Deployment

/-! ## What the provider does to one device -/

namespace Action

/-- The action concerns the device and does not open its session. -/
def Unopening (id : Identity) (a : Action) : Prop := a.Concerns id ∧ a ≠ .openSession id

/-- The action concerns the device and does not close its session. -/
def Unclosing (id : Identity) (a : Action) : Prop :=
  a.Concerns id ∧ ∀ force, a ≠ .closeSession id force

/-- Whether the action can change how a device is connected, or tells of it. -/
def isLinking : Action → Bool
  | storeKey _ _ | removeKey _ | openSession _ | closeSession _ _ | reportRole _ _ _ => true
  | changeRecord _ c =>
    match c with
    | .credentialsStored _ | .credentialsRevoked | .reached _ | .ended => true
    | .seen | .desired | .portsDiscovered | .announced _ | .shown _ => false
  | _ => false

/-- Whether the action only looks at the systems around the provider, or is a line for the
operator. -/
def isLook : Action → Bool
  | log _ | lookUp _ | isAvailable _ | isLocalMaster _ | masterOf _ => true
  | _ => false

/-- The action concerns the device and only looks. -/
def Looks (id : Identity) (a : Action) : Prop := a.Concerns id ∧ a.isLook = true

/-- The action concerns the device and leaves alone how it is connected. -/
def Aside (id : Identity) (a : Action) : Prop := a.Concerns id ∧ a.isLinking = false

theorem Looks.aside {id : Identity} {a : Action} (h : a.Looks id) : a.Aside id := by
  obtain ⟨concerns, looks⟩ := h
  cases a <;> first | exact ⟨concerns, rfl⟩ | cases looks

theorem Looks.uncalled {id : Identity} {a : Action} (h : a.Looks id) : a.call? = none := by
  obtain ⟨-, looks⟩ := h
  cases a <;> first | rfl | cases looks

theorem Aside.unopening {id : Identity} {a : Action} (h : a.Aside id) : a.Unopening id := by
  refine ⟨h.1, ?_⟩
  rintro rfl
  cases h.2

end Action

/-! ### Discovery -/

section discovery

theorem aside_ofAction {id : Identity} {a : Action} (concerns : a.Concerns id)
    (idle : a.isLinking = false) : (ofAction a).Only (Action.Aside id) :=
  only_ofAction ⟨concerns, idle⟩

variable (id : Identity)

theorem aside_describe (placeholder : Description) :
    (describe id placeholder).Only (Action.Aside id) := by
  have asked : ∀ driver, (askDetails id driver).Only (Action.Aside id) := by
    intro driver
    unfold askDetails
    cases driver.description <;>
      simp [forall_except, Option.forall, Action.Aside, Action.Concerns, Action.isLinking]
  refine (aside_ofAction (a := .lookUp id) rfl rfl).bind fun device? => ?_
  cases device? with
  | none => trivial
  | some device =>
    refine (asked device.driver).bind fun found? => ?_
    cases found? <;> trivial

theorem aside_announceAvailable (placeholder : Description) :
    (announceAvailable id placeholder).Only (Action.Aside id) := by
  refine (aside_describe id placeholder).bind fun d => ?_
  simp [forall_except, Action.Aside, Action.Concerns, Action.isLinking, StoreWrite.identity]

theorem aside_bringPorts (driver : Driver) : (bringPorts id driver).Only (Action.Aside id) := by
  have asked : (askPorts id driver).Only (Action.Aside id) := by
    unfold askPorts
    cases driver.description <;> cases driver.ports <;>
      simp [portsOf, forall_except, Action.Aside, Action.Concerns, Action.isLinking]
  refine asked.bind fun list => ?_
  simp [forall_except, Action.Aside, Action.Concerns, Action.isLinking, StoreWrite.identity]

theorem aside_bringStatistics (driver : Driver) :
    (bringStatistics id driver).Only (Action.Aside id) := by
  cases h : driver.portStatistics <;>
    simp [bringStatistics, h, warnOnRefusal, forall_except, Action.Aside, Action.Concerns,
      Action.isLinking, StoreWrite.identity]

theorem aside_discoverPorts : (discoverPorts id).Only (Action.Aside id) := by
  have skipped : ∀ why, (log (.portsSkipped id why)).Only (Action.Aside id) := fun _ =>
    aside_ofAction trivial rfl
  refine (aside_ofAction (a := .isLocalMaster id) rfl rfl).bind fun mastered => ?_
  refine Only.ite (fun _ => ?_) fun _ => skipped .notMaster
  refine (aside_ofAction (a := .isAvailable id) rfl rfl).bind fun available => ?_
  refine Only.ite (fun _ => ?_) fun _ => skipped .notAvailable
  refine (aside_ofAction (a := .lookUp id) rfl rfl).bind fun device? => ?_
  cases device? with
  | none => exact skipped .notInStore
  | some device =>
    exact (aside_bringPorts id device.driver).bind fun _ => aside_bringStatistics id device.driver

theorem aside_discoverUnlessKnown : (discoverUnlessKnown id).Only (Action.Aside id) := by
  refine (aside_ofAction (a := .readRecord id) rfl rfl).bind fun record => ?_
  exact Only.ite (fun _ => aside_discoverPorts id) fun _ => trivial

theorem aside_addIfMissing : (addIfMissing id).Only (Action.Aside id) := by
  simp [addIfMissing, warnOnRefusal, forall_except, Action.Aside, Action.Concerns,
    Action.isLinking, StoreWrite.identity]

end discovery

/-! ### Jobs that discovery is part of -/

/-- A kind of job.  Jobs of the kind put together are of the kind again, and so is every job whose
actions are. -/
structure Job.Kind where
  ok : Action → Prop
  mem : {α : Type} → Job α → Prop
  mem_done : ∀ {α : Type} (a : α), mem (Job.done a)
  mem_crashed : ∀ {α : Type}, mem (Job.crashed : Job α)
  mem_act : ∀ {α : Type} {a : Action} {next : Option a.Answer → Job α}, ok a →
    (∀ reply, mem (next reply)) → mem (Job.act a next)
  mem_bind : ∀ {α β : Type} {j : Job α} {f : α → Job β}, mem j → (∀ a, mem (f a)) →
    mem (Job.bind j f)
  mem_contained : ∀ {α : Type} {j : Job α}, mem j → mem j.contained

namespace Job.Kind

/-- The jobs all of whose actions are of a certain kind. -/
def only (ok : Action → Prop) : Kind where
  ok := ok
  mem j := j.Only ok
  mem_done _ := trivial
  mem_crashed := trivial
  mem_act okay later := ⟨okay, later⟩
  mem_bind hj hf := hj.bind hf
  mem_contained h := h.contained

variable {K : Kind} {α : Type}

theorem mem_of_only {j : Job α} (only : j.Only K.ok) : K.mem j := by
  induction j with
  | done a => exact K.mem_done a
  | crashed => exact K.mem_crashed
  | act a next ih => exact K.mem_act only.1 fun reply => ih reply (only.2 reply)

theorem mem_ofAction {a : Action} (ok : K.ok a) : K.mem (ofAction a) :=
  K.mem_act ok fun reply => by
    cases reply with
    | none => exact K.mem_crashed
    | some answer => exact K.mem_done answer

theorem mem_ite {c : Prop} [Decidable c] {j k : Job α} (hj : c → K.mem j) (hk : ¬c → K.mem k) :
    K.mem (if c then j else k) := by
  split
  · next h => exact hj h
  · next h => exact hk h

section devices

variable {id : Identity}

/-- Convergence looks at the device and does one of a few things. -/
theorem mem_converge_of (looks : ∀ a : Action, a.Looks id → K.ok a)
    (shown : ∀ (available : Bool) {k : Job Unit}, K.mem k →
      K.mem (Job.bind (changeRecord id (.shown available)) fun _ => k))
    (probes : K.ok (.probe id)) (placeholder : Description)
    (appeared : K.mem (Job.bind (isLocalMaster id) fun mastered =>
      if mastered then Job.bind (announceAvailable id placeholder) fun _ => discoverUnlessKnown id
      else log (.masteredElsewhere id)))
    (discovered : K.mem (discoverUnlessKnown id)) (vanished : K.mem (markUnreachable id)) :
    K.mem (converge id placeholder) := by
  have looked : ∀ a : Action, a.Looks id → K.mem (ofAction a) := fun a h =>
    mem_ofAction (looks a h)
  refine K.mem_bind (looked (.lookUp id) ⟨rfl, rfl⟩) fun device? => ?_
  refine mem_ite (fun _ => looked (.log _) ⟨trivial, rfl⟩) fun _ => ?_
  refine K.mem_bind (mem_ofAction probes) fun reachable => ?_
  refine K.mem_bind (looked (.isAvailable id) ⟨rfl, rfl⟩) fun available => shown available ?_
  cases reachable <;> cases available
  case false.false => exact K.mem_done _
  case false.true => exact vanished
  case true.true => exact discovered
  case true.false => exact appeared

theorem mem_reconcileDevice_of (desires : K.ok (.changeRecord id .desired))
    {device : DesiredDevice} (registered : K.mem (registerCredentials id device.credentials))
    (added : K.mem (addIfMissing id))
    (converged : K.mem (converge id (.placeholder id))) : K.mem (reconcileDevice id device) :=
  K.mem_bind (mem_ofAction desires) fun _ => K.mem_bind registered fun _ =>
    K.mem_bind added fun _ => converged

theorem mem_reactToStore_of (s : Settings) {e : StoreEvent}
    (looks : ∀ a : Action, a.Looks e.identity → K.ok a)
    (discovered : K.mem (discoverPorts e.identity)) (removed : K.mem (deviceRemoved e.identity)) :
    K.mem (Order.reactToStore s e) := by
  have asked : K.mem (isLocalMaster e.identity) := mem_ofAction (looks _ ⟨rfl, rfl⟩)
  have mastered : K.mem (masterOf e.identity) := mem_ofAction (looks _ ⟨rfl, rfl⟩)
  refine K.mem_bind mastered fun master => ?_
  refine mem_ite (fun _ => K.mem_bind asked fun isLocal => ?_) fun _ => ?_
  all_goals
    refine mem_ite (fun _ => ?_) fun _ => K.mem_done _
    cases e.change with
    | added => exact discovered
    | removed => exact removed
    | updated => exact K.mem_done _

/-! Where all that leaves connections alone is of the kind, discovery is. -/

section aside

variable (aside : ∀ a : Action, a.Aside id → K.ok a)

include aside

/-- A pass leaves alone how the device is connected, unless the device vanished. -/
theorem mem_converge (placeholder : Description) (vanished : K.mem (markUnreachable id)) :
    K.mem (converge id placeholder) := by
  have discovered : K.mem (discoverUnlessKnown id) :=
    mem_of_only ((aside_discoverUnlessKnown id).mono aside)
  have asked : K.mem (isLocalMaster id) := mem_ofAction (aside _ ⟨rfl, rfl⟩)
  refine mem_converge_of (fun a h => aside a h.aside)
    (fun _ _ h => K.mem_bind (mem_ofAction (aside _ ⟨rfl, rfl⟩)) fun _ => h) (aside _ ⟨rfl, rfl⟩)
    placeholder ?_ discovered vanished
  refine K.mem_bind asked fun mastered => ?_
  refine mem_ite (fun _ => ?_) fun _ => mem_ofAction (aside (.log _) ⟨trivial, rfl⟩)
  exact K.mem_bind (mem_of_only ((aside_announceAvailable id placeholder).mono aside))
    fun _ => discovered

theorem mem_reconcileDevice (device : DesiredDevice)
    (registered : K.mem (registerCredentials id device.credentials))
    (vanished : K.mem (markUnreachable id)) : K.mem (reconcileDevice id device) :=
  mem_reconcileDevice_of (aside _ ⟨rfl, rfl⟩) registered
    (mem_of_only ((aside_addIfMissing id).mono aside))
    (mem_converge aside (.placeholder id) vanished)

end aside

theorem mem_reactToStore (s : Settings) {e : StoreEvent}
    (aside : ∀ a : Action, a.Aside e.identity → K.ok a)
    (removed : K.mem (deviceRemoved e.identity)) : K.mem (Order.reactToStore s e) :=
  mem_reactToStore_of s (fun a h => aside a h.aside)
    (mem_of_only ((aside_discoverPorts e.identity).mono aside)) removed

end devices

/-! ### Passes -/

section passes

variable (logs : ∀ l, K.ok (.log l)) (reads : ∀ appId, K.mem (desiredDevices appId))

include logs

theorem mem_reconcileEach (devices : ∀ id device, K.mem (reconcileDevice id device))
    (scheme : String) (desired : List DesiredDevice) : K.mem (reconcileEach scheme desired) := by
  induction desired with
  | nil => exact K.mem_done _
  | cons device rest ih =>
    unfold reconcileEach
    cases identify scheme device with
    | error e => exact K.mem_bind (mem_ofAction (logs _)) fun _ => ih
    | ok id =>
      refine K.mem_bind (K.mem_contained (devices id device)) fun outcome => ?_
      have collected := K.mem_bind ih fun ids => K.mem_done (id :: ids)
      cases outcome with
      | none => exact K.mem_bind (mem_ofAction (logs _)) fun _ => collected
      | some _ => exact K.mem_bind (j := done ()) (K.mem_done ()) fun _ => collected

theorem mem_sayDropped (ids : List Identity) : K.mem (sayDropped ids) := by
  induction ids with
  | nil => exact K.mem_done _
  | cons id rest ih => exact K.mem_bind (mem_ofAction (logs _)) fun _ => ih

include reads

theorem mem_readDevices (appId : String) : K.mem (readDevices appId) := by
  refine K.mem_bind (reads appId) fun answer => ?_
  cases answer with
  | ok devices => exact K.mem_done _
  | error e => exact K.mem_bind (mem_ofAction (logs _)) fun _ => K.mem_done _

theorem mem_reconcileAll (devices : ∀ id device, K.mem (reconcileDevice id device))
    (marks : ∀ desired, K.ok (.markDesired desired)) (prunes : K.ok .prune) (s : Settings) :
    K.mem (reconcileAll s) := by
  refine K.mem_bind (mem_readDevices logs reads s.appId) fun desired? => ?_
  cases desired? with
  | none => exact K.mem_done _
  | some desired =>
    refine K.mem_bind (mem_ofAction (logs _)) fun _ => ?_
    refine K.mem_bind (mem_reconcileEach logs devices s.scheme desired) fun ids => ?_
    refine K.mem_bind (mem_ofAction (marks ids)) fun _ => ?_
    exact K.mem_bind (mem_ofAction prunes) (mem_sayDropped logs)

theorem mem_reconcileOne (devices : ∀ id device, K.mem (reconcileDevice id device))
    (s : Settings) (id : Identity) : K.mem (reconcileOne s id) := by
  refine K.mem_bind (mem_readDevices logs reads s.appId) fun desired? => ?_
  cases desired? with
  | none => exact K.mem_done _
  | some desired =>
    dsimp only
    cases desired.find? (names s.scheme id) with
    | none => exact mem_ofAction (logs _)
    | some device => exact devices id device

end passes

/-! ### Whatever the provider is told to do -/

section orders

variable {id : Identity}

theorem mem_changeRole {role : Role} (asks : K.ok .isActive) (logs : ∀ l, K.ok (.log l))
    (connected : role = .master → K.mem (connect id))
    (released : role ≠ .master → K.mem (release id role)) : K.mem (changeRole id role) := by
  refine K.mem_bind (mem_ofAction asks) fun active => ?_
  refine mem_ite (fun _ => ?_) fun _ => K.mem_bind (mem_ofAction (logs _)) fun _ => K.mem_done _
  cases role with
  | master => exact connected rfl
  | standby | unassigned => exact K.mem_bind (released (by decide)) fun _ => K.mem_done _

theorem mem_tearDownEach (torn : ∀ id, K.mem (tearDown id)) (ids : List Identity) :
    K.mem (tearDownEach ids) := by
  induction ids with
  | nil => exact K.mem_done _
  | cons id rest ih => exact K.mem_bind (torn id) fun _ => ih

theorem mem_tearDownAll (asks : K.ok .registered) (torn : ∀ id, K.mem (tearDown id)) :
    K.mem tearDownAll :=
  K.mem_bind (mem_ofAction asks) (mem_tearDownEach torn)

theorem mem_silently {j : Job Unit} (h : K.mem j) : K.mem (Order.silently j) :=
  K.mem_bind h fun _ => K.mem_done _

/-- Operations are taken apart.  For what is about single devices the kind may depend on which
operation it is. -/
theorem mem_operation (s : Settings) {o : Operation} (passed : K.mem (reconcileAll s))
    (probed : ∀ id, K.mem (reconcileOne s id)) (lost : ∀ id, K.mem (sessionLost id))
    (reacted : ∀ e, K.mem (Order.reactToStore s e))
    (changed : ∀ id role, o = .order (.role id role) → K.mem (changeRole id role))
    (removed : ∀ id, K.mem (deviceRemoved id)) (torn : ∀ id, K.mem (tearDown id))
    (tornAll : K.mem tearDownAll) (discovered : ∀ id, K.mem (discoverPorts id)) :
    K.mem (o.job s) := by
  cases o with
  | order o =>
    cases o with
    | firstPass | pass => exact mem_silently passed
    | probe id => exact mem_silently (probed id)
    | sessionLost id => exact mem_silently (lost id)
    | storeChanged e => exact mem_silently (reacted e)
    | role id role => exact changed id role rfl
  | deviceRemoved id => exact mem_silently (removed id)
  | tearDown id => exact mem_silently (torn id)
  | tearDownAll => exact mem_silently tornAll
  | discoverPorts id => exact mem_silently (discovered id)

end orders

end Job.Kind

/-! ### Sessions -/

section sessions

variable (id : Identity)

theorem only_registerCredentials (c : Credentials) :
    (registerCredentials id c).Only (Action.Unopening id) := by
  simp [registerCredentials, forall_except, Action.Unopening, Action.Concerns]

theorem only_markUnreachable : (markUnreachable id).Only (Action.Unopening id) := by
  simp [markUnreachable, warnOnRefusal, forall_except, Action.Unopening, Action.Concerns,
    StoreWrite.identity]

theorem only_release (role : Role) : (release id role).Only (Action.Unopening id) := by
  simp [release, disconnectIfStored, warnOnRefusal, forall_except, Action.Unopening,
    Action.Concerns, StoreWrite.identity]

theorem only_sessionLost : (sessionLost id).Only (Action.Unopening id) := by
  simp [sessionLost, forall_except, Action.Unopening, Action.Concerns, StoreWrite.identity]

theorem only_deviceRemoved : (deviceRemoved id).Only (Action.Unopening id) := by
  simp [deviceRemoved, warnOnRefusal, forall_except, Action.Unopening, Action.Concerns]

theorem only_tearDown : (tearDown id).Only (Action.Unopening id) := by
  simp [tearDown, warnOnRefusal, forall_except, Action.Unopening, Action.Concerns]

/-- A promotion may open the session, and never closes it. -/
theorem only_connect : (connect id).Only (Action.Unclosing id) := by
  simp [connect, abandon, disconnectIfStored, announceIfMissing, warnOnRefusal, forall_except,
    Action.Unclosing, Action.Concerns, StoreWrite.identity]

theorem only_discoverPorts : (discoverPorts id).Only (Action.Unopening id) :=
  (aside_discoverPorts id).mono fun _ => Action.Aside.unopening

theorem only_reconcileDevice (device : DesiredDevice) :
    (reconcileDevice id device).Only (Action.Unopening id) :=
  Kind.mem_reconcileDevice (K := .only (Action.Unopening id)) (fun _ => Action.Aside.unopening)
    device (only_registerCredentials id device.credentials) (only_markUnreachable id)

theorem only_reactToStore (s : Settings) (e : StoreEvent) :
    (Order.reactToStore s e).Only (Action.Unopening e.identity) :=
  Kind.mem_reactToStore (K := .only (Action.Unopening e.identity)) s
    (fun _ => Action.Aside.unopening) (only_deviceRemoved e.identity)

end sessions

/-! ## What a footprint is good for -/

namespace Job

variable {α : Type} {ok : Action → Prop}

/-- What every action of the footprint keeps is kept by a run of the job. -/
theorem Only.run {P : Deployment → Prop} (step : ∀ d a, ok a → P d → P (d.perform a).2)
    {j : Job α} (only : j.Only ok) {d : Deployment} (h : P d) : P (j.run d).2 := by
  induction j generalizing d with
  | done a => exact h
  | crashed => exact h
  | act a next ih =>
    by_cases ready : d.isReady a = true
    · rw [run_act a next d ready]
      exact ih _ (only.2 _) (step d a only.1 h)
    · simpa [Job.run, ready] using h

/-- A job about one device never waits: it ends with a result or breaks down. -/
theorem Only.ends {id : Identity} {j : Job α} (only : j.Only (Action.Concerns id))
    (d : Deployment) :
    ∃ (reply : Option α) (d' : Deployment), j.run d = (reply.elim .crashed .done, d') := by
  induction j generalizing d with
  | done a => exact ⟨some a, d, rfl⟩
  | crashed => exact ⟨none, d, rfl⟩
  | act a next ih =>
    rw [run_act a next d (d.isReady_of_concerns only.1)]
    exact ih _ (only.2 _) _

end Job

end Southbound
