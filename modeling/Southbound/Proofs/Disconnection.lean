import Southbound.Proofs.Accord
import Southbound.Proofs.Link

/-!
# Nothing stays connected

When a shutdown is called between two operations, while passes, reactions to events and role changes
wait, then it leaves no session open and no record live, however the workers of both pools and the
shutdown take turns (`Provider.disconnected`).

Three things work together.  Role changes find the provider inactive and do nothing, so that no
session is opened any more.  Passes and reactions take a session for ended only when it is closed,
so that an open session is never forgotten while the event pool drains (`Link.Tidy`).  And the
devices to be torn down are listed after that, so that none is missed that a pass brought in.
-/

namespace Southbound

open Connection Discovery Job Reconciliation

/-! ## Sessions that are not opened any more -/

/-- An open session belongs to a connected record, and no session is being opened. -/
structure Link.Tidy (l : Link) : Prop where
  connected : l.isOpen = true → l.state = .connected
  not_connecting : l.state ≠ .connecting

theorem Link.Settled.tidy {l : Link} (h : l.Settled) : l.Tidy :=
  ⟨h.open_iff.1, h.not_connecting⟩

theorem Link.Tidy.remember {l : Link} (h : l.Tidy) (c : Credentials) : (l.remember c).Tidy := by
  obtain ⟨state, _, _, isOpen⟩ := l
  obtain ⟨connected, not_connecting⟩ := h
  constructor <;> cases state <;> simp_all [Link.remember]

/-- The session is closed. -/
def Deployment.Closed (d : Deployment) (id : Identity) : Prop := (d.slice id).isOpen = false

/-- The action opens no session and takes none for open, and takes one for ended only if it is
closed. -/
def Action.Subsides (d : Deployment) : Action → Prop
  | openSession _ | setActive _ | changeRecord _ (.reached _) => False
  | changeRecord id .ended => d.Closed id
  | _ => True

namespace Slice

variable {v v' : Slice} {id : Identity} {a : Action}

theorem Follows.closed (follows : v.Follows id a v') (ne : a ≠ .openSession id)
    (closed : v.isOpen = false) : v'.isOpen = false := by
  cases follows with
  | same | marked | pruned => exact closed
  | about concerns becomes =>
    exact becomes.isOpen_eq_false concerns (fun opens => ne opens.2) closed

theorem tidy_pruned (h : v.link.Tidy) :
    Link.Tidy { v with record? := v.record?.filter (·.isKept) }.link := by
  cases hr : v.record? with
  | none => simpa [link, record, hr] using h
  | some r =>
    cases kept : r.isKept with
    | true => simpa [link, record, hr, Option.filter, kept] using h
    | false =>
      have notLive : r.state.isLive = false := (Bool.or_eq_false_iff.1 kept).2
      constructor
      · intro isOpen
        have connected : r.state = .connected := by
          simpa [link, record, hr] using h.connected isOpen
        simp [connected, ConnectionState.isLive] at notLive
      · simp [link, record, Option.filter, kept, DeviceRecord.fresh]

theorem Follows.tidy (follows : v.Follows id a v')
    (calm : ∀ state, a ≠ .changeRecord id (.reached state)) (ne : a ≠ .openSession id)
    (ends : a = .changeRecord id .ended → v.isOpen = false) (h : v.link.Tidy) :
    v'.link.Tidy := by
  cases follows with
  | same => exact h
  | marked desired =>
    cases hr : v.record? <;> simpa [link, record, hr] using h
  | pruned => exact tidy_pruned h
  | about concerns becomes =>
    cases becomes with
    | changed id' c =>
      cases concerns
      cases c with
      | reached state => exact absurd rfl (calm state)
      | ended => exact (Link.Settled.ended (l := v.link) (ends rfl)).tidy
      | credentialsStored c => exact h.remember c
      | _ => exact ⟨h.connected, h.not_connecting⟩
    | opened id' => exact absurd (concerns ▸ rfl) ne
    | closed => exact ⟨fun isOpen => absurd isOpen Bool.false_ne_true, h.not_connecting⟩
    | _ => exact ⟨h.connected, h.not_connecting⟩

end Slice

namespace Deployment

variable {d : Deployment} {a : Action} {id : Identity}

theorem stays_closed (ne : a ≠ .openSession id) (closed : d.Closed id) :
    (d.perform a).2.Closed id :=
  (d.follows_perform a id).closed ne closed

theorem tidy_perform (subsides : a.Subsides d) (h : (d.slice id).link.Tidy) :
    ((d.perform a).2.slice id).link.Tidy := by
  refine (d.follows_perform a id).tidy ?_ ?_ ?_ h
  · rintro state rfl
    exact subsides
  · rintro rfl
    exact subsides
  · rintro rfl
    exact subsides

theorem closes_perform (within : d.faults.Within .sessionsClose) (force : Bool) :
    (d.perform (.closeSession id force)).2.Closed id := by
  obtain ⟨_, moved⟩ := d.perform_slice (show (Action.closeSession id force).Concerns id from rfl)
  have calm : (d.faultOf (.closeSession id force)) = none := by
    cases h : d.faultOf (.closeSession id force) with
    | none => rfl
    | some fault =>
      have point : (Action.closeSession id force).faultPoint? = some (.closeSession id) := rfl
      exact False.elim (hazard_of_faultOf within point h)
  rw [Closed, moved.own, calm]
  rfl

end Deployment

/-! ## Who may do what while the provider winds down -/

/-- Role changes are refused, sessions can be closed, and they are open only where records say
so. -/
structure Scene.Winding (s : Scene) : Prop where
  inactive : s.deployment.active = false
  within : s.deployment.faults.Within .sessionsClose
  tidy : ∀ id, (s.deployment.slice id).link.Tidy
  silent : ∀ x ∈ s.deeds, x.party = .worker .connections → x.action.call? = none

/-- A role change may only find out that it is refused; everybody else may do what subsides. -/
def Party.Winds (d : Deployment) : Party → Action → Prop
  | worker .connections, a => a = .isActive ∨ ∃ l, a = .log l
  | worker .events, a | shutdown, a => a.Subsides d

/-- What a party that winds down relies on: passes on sessions that stay closed, the shutdown on
having the scene to itself. -/
def Party.WindsBeside : Party → Scene → Scene → Prop
  | worker .connections, _, _ => True
  | worker .events, s, s' => ∀ id, s.deployment.Closed id → s'.deployment.Closed id
  | shutdown, s, s' =>
    (∀ id, s'.deployment.slice id = s.deployment.slice id) ∧ s.deeds ⊆ s'.deeds

namespace Scene.Winding

variable {s s' : Scene} {party : Party} {a : Action}

theorem subsides (winds : party.Winds s.deployment a) : a.Subsides s.deployment := by
  rcases party with ⟨_ | _⟩ | _
  · exact winds
  · rcases winds with rfl | ⟨l, rfl⟩ <;> trivial
  · exact winds

theorem unmoved (unmoved : s.Unmoved s') (h : s.Winding) : s'.Winding where
  inactive := unmoved.inactive h.inactive
  within := unmoved.faults ▸ h.within
  tidy id := unmoved.slices id ▸ h.tidy id
  silent := unmoved.deeds ▸ h.silent

theorem perform (h : s.Winding) (winds : party.Winds s.deployment a) :
    (s.perform party a).Winding where
  inactive := by
    refine (s.deployment.active_perform ?_).trans h.inactive
    rintro active rfl
    exact subsides winds
  within := Deployment.within_perform h.within a
  tidy id := Deployment.tidy_perform (subsides winds) (h.tidy id)
  silent x hx role := by
    rcases List.mem_append.1 hx with earlier | now
    · exact h.silent x earlier role
    · rw [List.mem_singleton.1 now] at role ⊢
      subst role
      rcases winds with rfl | ⟨l, rfl⟩ <;> rfl

end Scene.Winding

namespace Party.WindsBeside

variable {s s' s'' : Scene} {party other : Party} {a : Action}

theorem trans (h : party.WindsBeside s s') (h' : party.WindsBeside s' s'') :
    party.WindsBeside s s'' := by
  rcases party with ⟨_ | _⟩ | _
  · exact fun id closed => h' id (h id closed)
  · trivial
  · exact ⟨fun id => (h'.1 id).trans (h.1 id), List.Subset.trans h.2 h'.2⟩

theorem of_unmoved (unmoved : s.Unmoved s') : party.WindsBeside s s' := by
  rcases party with ⟨_ | _⟩ | _
  · exact fun id closed => by rwa [Deployment.Closed, unmoved.slices]
  · trivial
  · exact ⟨unmoved.slices, unmoved.deeds ▸ List.Subset.refl _⟩

theorem of_winds (winds : party.Winds s.deployment a) (meets : other.Meets (fun _ => True) party) :
    other.WindsBeside s (s.perform party a) := by
  rcases other with ⟨_ | _⟩ | _
  · intro id closed
    refine Deployment.stays_closed ?_ closed
    rintro rfl
    exact Scene.Winding.subsides winds
  · trivial
  · rcases party with ⟨_ | _⟩ | _
    · exact meets.elim
    · refine ⟨fun id => ?_, List.subset_append_left _ _⟩
      rcases winds with rfl | ⟨l, rfl⟩ <;> rfl
    · exact meets.elim

end Party.WindsBeside

/-- Role changes do nothing, sessions stay closed, and nobody interferes with the teardown. -/
def Accord.winding : Accord where
  inv := Scene.Winding
  ok party s a := party.Winds s.deployment a
  rely := Party.WindsBeside
  crowded _ := True
  rely_refl _ s := .of_unmoved (.refl s)
  rely_trans := .trans
  unmoved unmoved h := ⟨h.unmoved unmoved, fun _ => .of_unmoved unmoved⟩
  keeps := .perform
  respects _ winds meets := .of_winds winds meets

/-! ## Passes and reactions -/

section jobs

open Job

variable {s : Scene} (id : Identity)

theorem winds_aside {a : Action} (h : a.Aside id) (d : Deployment) : a.Subsides d := by
  obtain ⟨concerns, idle⟩ := h
  cases a with
  | changeRecord id' c => cases c <;> trivial
  | openSession => cases idle
  | setActive => exact concerns.elim
  | _ => trivial

/-- While the session stays closed the job may take it for ended. -/
theorem assures_of_closed {α : Type} {j : Job α}
    (only : j.Only fun a => ∀ d : Deployment, d.Closed id → a.Subsides d)
    (closed : s.deployment.Closed id) :
    j.Assures .winding (.worker .events) s fun _ _ => True := by
  have kept : Accord.winding.Kept (.worker .events)
      (fun a => ∀ d : Deployment, d.Closed id → a.Subsides d)
      (fun s => s.deployment.Closed id) := by
    refine ⟨fun later closed => later.rely id closed, fun {s a} _ closed subsides => ?_⟩
    refine ⟨subsides _ closed, Deployment.stays_closed ?_ closed⟩
    rintro rfl
    exact subsides _ closed
  exact (only.assures kept closed).mono fun _ _ _ _ => trivial

/-- Once the session was closed the job may take it for ended. -/
theorem assures_of_close {α : Type} (force : Bool)
    {f : Except CollaboratorError Unit → Job α} (inv : s.Winding)
    (only : ∀ reply, (f reply).Only fun a => ∀ d : Deployment, d.Closed id → a.Subsides d) :
    (Job.bind (closeSession id force) f).Assures .winding (.worker .events) s
      fun _ _ => True := by
  refine Assures.bind inv (assures_ofAction fun s₁ later => ⟨trivial, fun s₂ later' => ?_⟩)
  have closed : s₂.deployment.Closed id :=
    later'.rely id (Deployment.closes_perform later.inv.within force)
  cases (s₁.deployment.perform (.closeSession id force)).1 with
  | none => trivial
  | some reply => exact assures_of_closed id (only reply) closed

theorem winds_registerCredentials (c : Credentials) :
    (Kind.abiding .winding (.worker .events)).mem (registerCredentials id c) := by
  have only : (registerCredentials id c).Only fun a => ∀ d, a.Subsides d := by
    simp [registerCredentials, forall_except, Action.Subsides]
  exact Kind.mem_of_only (only.mono fun a h s _ => h s.deployment)

theorem winds_markUnreachable :
    (Kind.abiding .winding (.worker .events)).mem (markUnreachable id) := by
  intro s inv
  simp only [markUnreachable, bind_eq]
  refine Assures.bind inv (assures_ofAction fun s₁ later => ⟨trivial, fun s₂ later' => ?_⟩)
  dsimp only [Deployment.perform]
  split
  · refine assures_of_close id false later'.inv fun reply => ?_
    cases reply <;> simp [warnOnRefusal, forall_except, Action.Subsides]
  · next unconnected =>
    have closed : s₁.deployment.Closed id := by
      have tidy := mt (later.inv.tidy id).connected unconnected
      simpa [Deployment.Closed, Slice.link] using tidy
    exact assures_of_closed id (by simp [forall_except, Action.Subsides]) (later'.rely id closed)

theorem winds_deviceRemoved :
    (Kind.abiding .winding (.worker .events)).mem (deviceRemoved id) := by
  refine Kind.mem_bind _ (Kind.mem_ofAction (a := .log _) fun _ _ => trivial) fun _ s inv => ?_
  refine assures_of_close id true inv fun reply => ?_
  cases reply <;> simp [warnOnRefusal, Action.Subsides]

theorem winds_reconcileDevice (device : DesiredDevice) :
    (Kind.abiding .winding (.worker .events)).mem (reconcileDevice id device) :=
  Kind.mem_reconcileDevice (fun _ h (s : Scene) _ => winds_aside id h s.deployment) device
    (winds_registerCredentials id device.credentials) (winds_markUnreachable id)

theorem winds_desiredDevices (appId : String) :
    (Kind.abiding .winding (.worker .events)).mem (desiredDevices appId) :=
  Kind.mem_bind _ (Kind.mem_ofAction fun _ _ => trivial) fun _ =>
    Kind.mem_ofAction fun _ _ => trivial

end jobs

/-- What may wait in the event pool when the provider is stopped: whatever is not a role change; a
session that is reported lost must be closed. -/
def Order.Winds (d : Deployment) : Order → Prop
  | firstPass | pass | probe _ | storeChanged _ => True
  | sessionLost id => d.Closed id
  | role _ _ => False

/-- What waits in the event pool keeps to the accord. -/
theorem Order.assures_winding (settings : Settings) {o : Order} {s : Scene} (inv : s.Winding)
    (winds : o.Winds s.deployment) :
    (o.job settings).Assures .winding (.worker .events) s fun _ _ => True := by
  let K := Job.Kind.abiding .winding (.worker .events)
  have logs : ∀ l, K.ok (.log l) := fun _ _ _ => trivial
  have silent : ∀ {j : Job Unit}, K.mem j → (Order.silently j).Assures .winding (.worker .events) s
      fun _ _ => True := fun h => K.mem_bind h (fun _ => K.mem_done _) s inv
  have passed : K.mem (reconcileAll settings) :=
    Job.Kind.mem_reconcileAll logs winds_desiredDevices winds_reconcileDevice
      (fun _ _ _ => trivial) (fun _ _ => trivial) settings
  cases o with
  | firstPass | pass => exact silent passed
  | probe id =>
    exact silent (Job.Kind.mem_reconcileOne logs winds_desiredDevices winds_reconcileDevice
      settings id)
  | storeChanged e =>
    exact silent (Job.Kind.mem_reactToStore settings
      (fun _ h (s : Scene) _ => winds_aside e.identity h s.deployment)
      (winds_deviceRemoved e.identity))
  | sessionLost id =>
    refine assures_of_closed id ?_ winds
    simp [job, silently, Connection.sessionLost, forall_except, Action.Subsides]
  | role id r => exact winds.elim

/-- A role change that is begun while the provider winds down is refused. -/
theorem Order.assures_refusal (settings : Settings) (id : Identity) (role : Role) {s : Scene}
    (inv : s.Winding) :
    ((Order.role id role).job settings).Assures .winding (.worker .connections) s
      fun _ _ => True := by
  refine Job.Assures.bind inv
    (Job.assures_ofAction fun s₁ later => ⟨.inl rfl, fun s₂ later' => ?_⟩)
  have refused : s₁.deployment.active = false := later.inv.inactive
  simp only [Deployment.perform, refused]
  refine Job.Assures.bind later'.inv
    (Job.assures_ofAction fun s₃ _ => ⟨.inr ⟨_, rfl⟩, fun s₄ _ => ?_⟩)
  exact fun _ _ => trivial

/-! ## The teardown -/

/-- An action of the teardown. -/
def Action.Tears : Action → Prop
  | removeKey _ | closeSession _ _ | log _ | changeRecord _ .ended
  | changeRecord _ .credentialsRevoked => True
  | _ => False

/-- The teardown at most takes sessions for ended. -/
theorem Slice.Follows.state_of_tears {v v' : Slice} {id : Identity} {a : Action}
    (follows : v.Follows id a v') (tears : a.Tears) :
    v'.link.state = v.link.state ∨ v'.link.state = v.link.ended.state := by
  cases follows with
  | same => exact .inl rfl
  | marked | pruned => exact tears.elim
  | about concerns becomes =>
    cases becomes with
    | changed id' c =>
      cases c with
      | ended => exact .inr rfl
      | credentialsRevoked => exact .inl rfl
      | _ => exact tears.elim
    | _ => exact .inl rfl

namespace Scene

/-- The shutdown has forced the session of a device shut. -/
def Forced (s : Scene) (id : Identity) : Prop :=
  ∃ y ∈ s.deeds, y.party = .shutdown ∧ y.action = .closeSession id true

/-- The device is disconnected, and its session was forced shut if its credentials were stored now
or when the devices were listed. -/
structure Laid (x : Deed) (s : Scene) (id : Identity) : Prop where
  closed : s.deployment.Closed id
  unconnected : (s.deployment.slice id).link.state ≠ .connected
  forced : (x.before.slice id).link.state ≠ .unregistered ∨
    (s.deployment.slice id).link.state ≠ .unregistered → s.Forced id

namespace Laid

variable {x : Deed} {s s' : Scene} {id : Identity}

theorem beside (h : s.Laid x id) (beside : Party.shutdown.WindsBeside s s') : s'.Laid x id := by
  obtain ⟨slices, deeds⟩ := beside
  refine ⟨?_, ?_, ?_⟩
  · rw [Deployment.Closed, slices]
    exact h.closed
  · rw [slices]
    exact h.unconnected
  · rw [slices]
    intro registered
    obtain ⟨y, hy, shut⟩ := h.forced registered
    exact ⟨y, deeds hy, shut⟩

theorem perform (h : s.Laid x id) {a : Action} (tears : a.Tears) :
    (s.perform .shutdown a).Laid x id := by
  have state := (s.deployment.follows_perform a id).state_of_tears tears
  refine ⟨Deployment.stays_closed ?_ h.closed, ?_, fun registered => ?_⟩
  · rintro rfl
    exact tears
  · rcases state with same | ended
    · exact same ▸ h.unconnected
    · exact ended ▸ Link.unconnected_ended (s.deployment.slice id).link
  · have before : (x.before.slice id).link.state ≠ .unregistered ∨
        (s.deployment.slice id).link.state ≠ .unregistered := by
      refine registered.imp_right fun now fresh => now ?_
      rcases state with same | ended
      · exact same.trans fresh
      · exact ended.trans (Link.state_ended_eq_unregistered.2 fresh)
    obtain ⟨y, hy, shut⟩ := h.forced before
    exact ⟨y, List.mem_append_left _ hy, shut⟩

end Laid

end Scene

section teardown

open Job

variable {x : Deed} {s : Scene} (id : Identity) (rest : List Identity)

/-- The devices were listed, and all are disconnected but those that are still to be torn down. -/
structure Scene.LaidBut (x : Deed) (rest : List Identity) (s : Scene) : Prop where
  listed : x ∈ s.deeds
  laid : ∀ id, id ∈ rest ∨ s.Laid x id

/-- The device is next, and its session was forced shut. -/
structure Scene.Shut (x : Deed) (rest : List Identity) (id : Identity) (s : Scene) : Prop where
  laid : s.LaidBut x (id :: rest)
  closed : s.deployment.Closed id
  forced : s.Forced id

theorem Scene.LaidBut.perform {rest : List Identity} (h : s.LaidBut x rest) {a : Action}
    (tears : a.Tears) :
    (s.perform .shutdown a).LaidBut x rest :=
  ⟨List.mem_append_left _ h.listed, fun id => (h.laid id).imp_right (·.perform tears)⟩

theorem Action.Clerical.tears {a : Action} (clerical : a.Clerical) : a.Tears := by
  cases a with
  | changeRecord _ c => cases c <;> trivial
  | _ => trivial

theorem Action.Clerical.subsides {a : Action} (clerical : a.Clerical) (d : Deployment) :
    a.Subsides d := by
  cases a with
  | changeRecord _ c => cases c <;> trivial
  | _ => trivial

theorem laidBut_kept : Accord.winding.Kept .shutdown Action.Clerical (Scene.LaidBut x rest) where
  later later h :=
    ⟨later.rely.2 h.listed, fun id => (h.laid id).imp_right (·.beside later.rely)⟩
  perform {s _} _ h clerical := ⟨clerical.subsides s.deployment, h.perform clerical.tears⟩

theorem shut_kept : Accord.winding.Kept .shutdown Action.Clerical (Scene.Shut x rest id) where
  later later h := by
    refine ⟨(laidBut_kept _).later later h.laid, ?_, ?_⟩
    · rw [Deployment.Closed, later.rely.1]
      exact h.closed
    · obtain ⟨y, hy, shut⟩ := h.forced
      exact ⟨y, later.rely.2 hy, shut⟩
  perform {s a} inv h clerical := by
    refine ⟨clerical.subsides s.deployment, h.laid.perform clerical.tears,
      Deployment.stays_closed ?_ h.closed, ?_⟩
    · rintro rfl
      exact clerical
    · obtain ⟨y, hy, shut⟩ := h.forced
      exact ⟨y, List.mem_append_left _ hy, shut⟩

theorem Scene.Shut.ended {id : Identity} {rest : List Identity} (h : s.Shut x rest id) :
    (s.perform .shutdown (.changeRecord id .ended)).LaidBut x rest := by
  have laid := h.laid.perform (a := .changeRecord id .ended) trivial
  refine ⟨laid.listed, fun id' => ?_⟩
  by_cases own : id' = id
  · subst own
    have moved := (s.deployment.perform_slice
      (show (Action.changeRecord id' .ended).Concerns id' from rfl)).2
    obtain ⟨y, hy, shut⟩ := h.forced
    refine .inr ⟨Deployment.stays_closed nofun h.closed, ?_, fun _ =>
      ⟨y, List.mem_append_left _ hy, shut⟩⟩
    rw [Scene.perform, moved.own]
    exact Link.unconnected_ended (s.deployment.slice id').link
  · exact (laid.laid id').imp_left fun mem => (List.mem_cons.1 mem).resolve_left own

theorem winding_tearsDown : Accord.winding.TearsDown (fun rest => Scene.LaidBut x rest)
    (fun id rest => Scene.LaidBut x (id :: rest)) fun id rest => Scene.Shut x rest id where
  kept rest := laidBut_kept rest
  kept_revoked id rest := laidBut_kept (id :: rest)
  kept_shut id rest := shut_kept id rest
  removes _ _ _ _ h := ⟨trivial, h.perform trivial⟩
  closes _ _ _ inv h := ⟨trivial, h.perform trivial, Deployment.closes_perform inv.within true,
    _, List.mem_append_right _ (List.mem_singleton.2 rfl), rfl, rfl⟩
  ends _ _ _ _ h := ⟨h.closed, h.ended⟩

/-- All devices are disconnected, and those that were registered when they were listed were forced
shut. -/
def Scene.Torn (s : Scene) : Prop :=
  ∃ x, x.party = .shutdown ∧ x.action = .registered ∧ s.LaidBut x []

theorem winding_ends : Accord.winding.Ends (fun _ => True) Scene.Torn where
  left_later _ _ := trivial
  torn_later := by
    rintro s s' later ⟨x, party, action, laid⟩
    exact ⟨x, party, action, (laidBut_kept []).later later laid⟩
  lists {s ids} inv perm := by
    let x : Deed := ⟨.shutdown, s.deployment, .registered⟩
    have winds : Party.shutdown.Winds s.deployment .registered := trivial
    have first : (s.perform .shutdown .registered).LaidBut x ids := by
      refine ⟨List.mem_append_right _ (List.mem_singleton.2 rfl), fun id => ?_⟩
      by_cases registered : (s.deployment.slice id).link.state = .unregistered
      · have unconnected : (s.deployment.slice id).link.state ≠ .connected := by simp [registered]
        have closed : s.deployment.Closed id := by
          simpa [Deployment.Closed, Slice.link] using mt (inv.tidy id).connected unconnected
        exact .inr ⟨closed, unconnected, fun h =>
          absurd registered (h.elim (fun h => h) fun h => h)⟩
      · exact .inl (perm.mem_iff.2 (Records.mem_registered_iff.2 registered))
    refine ⟨winds, ?_⟩
    refine (winding_tearsDown.assures_tearDownEach (inv.perform winds) first).mono ?_
    exact fun _ _ _ torn done => ⟨x, rfl, rfl, torn done⟩

end teardown

/-! ## Shutdowns that return -/

/-- What may go wrong if a shutdown is to return: the configuration is not held back, and no
credential store breaks down. -/
def Hazards.returning : Hazards := fun point fault =>
  Hazards.sessionsClose point fault ∧ fault ≠ .hold ∧ ∀ id, point = .removeKey id → fault ≠ .crash

section returning

open Job

/-- The jobs that never wait as long as nothing else goes wrong. -/
def Job.Kind.completing (p : Hazards) : Kind where
  ok a := ∀ d : Deployment, d.faults.Within p → d.isReady a = true
  mem j := j.Completes fun d => d.faults.Within p
  mem_done _ _ within := ⟨rfl, within⟩
  mem_crashed _ within := ⟨rfl, within⟩
  mem_act {α a next} ready later d within := by
    rw [run_act a next d (ready d within)]
    exact later _ _ (Deployment.within_perform within a)
  mem_bind {α β j f} hj hf d within := by
    have ended := hj d within
    rw [run_bind]
    generalize j.run d = r at ended ⊢
    obtain ⟨_ | _ | _, d'⟩ := r
    · exact hf _ d' ended.2
    · exact ended
    · exact absurd ended.1 (by simp [Progress.isEnded, Progress.rest?])
  mem_contained {α j} h d within := by
    have ended := h d within
    rw [run_contained]
    generalize j.run d = r at ended ⊢
    obtain ⟨_ | _ | _, d'⟩ := r
    · exact ended
    · exact ended
    · exact absurd ended.1 (by simp [Progress.isEnded, Progress.rest?])

theorem completes_desiredDevices (appId : String) :
    (Kind.completing .returning).mem (desiredDevices appId) := by
  intro d within
  have drawn : ∀ fault, (d.faults .desiredDevices).next.1 = some fault → fault ≠ .hold :=
    fun fault h => ((within .desiredDevices).next.1 fault h).2.1
  have kept := Deployment.within_perform within (.requestDevices appId)
  simp only [desiredDevices, bind_eq, ofAction, act_bind]
  rw [run_act _ _ d rfl]
  rw [Deployment.requestDevices_eq] at kept ⊢
  generalize (d.faults .desiredDevices).next.1 = fault at drawn kept ⊢
  rcases fault with _ | _ | _ | _ | _
  case some.hold => exact absurd rfl (drawn .hold rfl)
  all_goals exact ⟨rfl, kept⟩

/-- Whatever the provider is told to do is carried out in one go. -/
theorem Order.completes (settings : Settings) (o : Order) :
    (o.job settings).Completes fun d => d.faults.Within .returning := by
  let K := Kind.completing .returning
  have logs : ∀ l, K.ok (.log l) := fun _ _ _ => rfl
  have about : ∀ {α : Type} {j : Job α} {id : Identity} {ok : Action → Prop}, j.Only ok →
      (∀ a, ok a → a.Concerns id) → K.mem j := fun only concerns =>
    Kind.mem_of_only (only.mono fun a h d _ => d.isReady_of_concerns (concerns a h))
  have devices : ∀ id device, K.mem (reconcileDevice id device) := fun id device =>
    about (only_reconcileDevice id device) fun _ h => h.1
  have passed : K.mem (reconcileAll settings) :=
    Kind.mem_reconcileAll logs completes_desiredDevices devices (fun _ _ _ => rfl) (fun _ _ => rfl)
      settings
  cases o with
  | firstPass | pass => exact Kind.mem_silently passed
  | probe id =>
    exact Kind.mem_silently
      (Kind.mem_reconcileOne logs completes_desiredDevices devices settings id)
  | storeChanged e => exact Kind.mem_silently (about (only_reactToStore settings e) fun _ h => h.1)
  | sessionLost id => exact Kind.mem_silently (about (only_sessionLost id) fun _ h => h.1)
  | role id role =>
    exact Kind.mem_changeRole (fun _ _ => rfl) logs
      (fun _ => about (only_connect id) fun _ h => h.1)
      fun _ => about (only_release id role) fun _ h => h.1

theorem run_tearDownAll_returning (d : Deployment) (within : d.faults.Within .returning) :
    ∃ d', tearDownAll.run d = (.done (), d') ∧ d'.faults.Within .returning := by
  change ∃ d', (tearDownEach d.records.registered).run d = (.done (), d') ∧ _
  refine run_tearDownEach (I := fun _ d => d.faults.Within .returning)
    (fun id _ d within => ?_) within
  have ensured : (tearDown id).Ensures .returning id (d.slice id) fun reply _ _ =>
      reply = some () := by
    simp [tearDown, Hazards.returning, Hazards.sessionsClose]
  obtain ⟨_, _, _, d₁, ran, moved, rfl⟩ := run_of_ensures ensured within
  exact ⟨d₁, ran, moved.within _ within⟩

end returning

/-! ## What comes in after the shutdown -/

/-- What may come in at any time. -/
inductive Prompt
  | role (id : Identity) (r : Role)
  | send (batch : EventBatch)
  /-- Time goes by, and schedules may be due. -/
  | advance (duration : Nat)
  | probe (id : Identity)

namespace Provider

/-- The provider after something came in. -/
def prompt (p : Provider) : Prompt → Provider
  | .role id r => (p.changeRole id r).2
  | .send batch => (p.send batch).2
  | .advance duration => p.advance duration
  | .probe id => p.triggerProbe id

/-- A provider that has nothing to do does nothing. -/
theorem settle_of_idle {p : Provider} (idle : p.events.isIdle = true)
    (unscheduled : p.schedules = []) : p.settle = p := by
  obtain ⟨queue, running⟩ : p.events.queue = [] ∧ p.events.running = [] := by
    simpa [Pool.isIdle] using idle
  have unstarted : p.events.start? = none := by
    unfold Pool.start?
    split <;> simp_all
  have unloaded : (p.eventShift []).load = 0 := by
    simp [eventShift, Shift.begin, Shift.firstTurns, unscheduled, unstarted, Shift.load,
      Shift.total, queue]
  have rested : (p.eventShift []).work = p.eventShift [] := by
    unfold Shift.work
    rw [unloaded]
    rfl
  rw [settle, rested]
  rfl

theorem Stopped.say {p : Provider} (h : p.Stopped) (lines : List LogLine) :
    (p.say lines).Stopped :=
  ⟨h.events_idle, h.events_closed, h.connections_idle, h.connections_closed, h.unscheduled, h.deaf⟩

theorem calls_say (p : Provider) (lines : List LogLine) :
    (p.say lines).deployment.calls = p.deployment.calls :=
  p.deployment.calls_sayAll lines

/-- A provider that was stopped calls nobody any more, whatever comes in. -/
theorem Stopped.prompt {p : Provider} (h : p.Stopped) (inactive : p.deployment.active = false)
    (x : Prompt) : (p.prompt x).Stopped ∧ (p.prompt x).deployment.active = false ∧
      (p.prompt x).deployment.calls = p.deployment.calls := by
  cases x with
  | role id r =>
    have refused : p.prompt (.role id r) = p.say [.roleIgnored r id] := by
      simp [Provider.prompt, changeRole, inactive]
    rw [refused]
    exact ⟨h.say _, inactive, p.calls_say _⟩
  | send batch =>
    have unheard : p.prompt (.send batch) = p := by simp [Provider.prompt, Provider.send, h.deaf]
    rw [unheard]
    exact ⟨h, inactive, rfl⟩
  | advance duration =>
    have rested : p.prompt (.advance duration) = { p with now := p.now + duration } :=
      settle_of_idle h.events_idle h.unscheduled
    rw [rested]
    exact ⟨⟨h.events_idle, h.events_closed, h.connections_idle, h.connections_closed,
      h.unscheduled, h.deaf⟩, inactive, rfl⟩
  | probe id =>
    let q := p.say [.probeTriggered id]
    let r := q.say [.jobDropped q.events.name (Order.probe id).label]
    have dropped : q.submitEvent (.probe id) = r :=
      if_neg (by simp [q, Provider.say, h.events_closed])
    have rested : p.prompt (.probe id) = r :=
      (congrArg settle dropped).trans (settle_of_idle h.events_idle h.unscheduled)
    rw [rested]
    exact ⟨(h.say _).say _, inactive, (q.calls_say _).trans (p.calls_say _)⟩

theorem Stopped.prompts {p : Provider} (h : p.Stopped) (inactive : p.deployment.active = false)
    (prompts : List Prompt) :
    (prompts.foldl Provider.prompt p).deployment.calls = p.deployment.calls := by
  induction prompts generalizing p with
  | nil => rfl
  | cons x rest ih =>
    obtain ⟨stopped, inactive', calls⟩ := h.prompt inactive x
    exact (ih stopped inactive').trans calls

/-- Nothing is under way, and what waits are passes, reactions to events and role changes. -/
structure Waiting (p : Provider) : Prop where
  events_unstarted : p.events.running = []
  connections_unstarted : p.connections.running = []
  events : ∀ e ∈ p.events.queue, ∃ o : Order, e = o.assignment p.settings ∧ o.Winds p.deployment
  connections : ∀ e ∈ p.connections.queue, ∃ id role,
    e = (Order.role id role).assignment p.settings

end Provider

/-- What a shutdown leaves behind that was called on a provider. -/
structure Closing.Disconnected (p : Provider) (c : Closing) : Prop where
  closed : ∀ id, c.deployment.sessions.contains id = false
  ended : ∀ id, (c.deployment.records.read id).state.isLive = false
  /-- What was done is what was called since. -/
  calls : c.deployment.calls = p.deployment.calls ++ c.deeds.filterMap (·.action.call?)
  /-- The sessions of all devices were forced shut whose credentials were stored when they were
  listed, or are now. -/
  forced : ∃ x ∈ c.deeds, x.party = .shutdown ∧ x.action = .registered ∧ ∀ id,
    (x.before.records.read id).state ≠ .unregistered ∨
      (c.deployment.records.read id).state ≠ .unregistered →
    ∃ y ∈ c.deeds, y.party = .shutdown ∧ y.action = .closeSession id true
  /-- Role changes called nobody. -/
  refused : ∀ x ∈ c.deeds, x.party = .worker .connections → x.action.call? = none
  /-- Whatever comes in later calls nobody. -/
  still : ∀ prompts : List Prompt,
    (prompts.foldl Provider.prompt c.provider).deployment.calls = c.deployment.calls

namespace Provider

variable {p : Provider} {start : Deployment}

/-- What waits keeps to the accord once the shutdown is called. -/
theorem harmony_of_waiting (waiting : p.Waiting)
    (holds : p.deployment.Holds .sessionsClose fun v => v.link.Settled) {c : Closing}
    (begun : p.closing.move .begin = some c) :
    c.Harmony .winding (fun _ => True) Scene.Torn := by
  have stage : c.stage = .draining := by
    cases begun
    rfl
  have pending : ∀ b, c.pending b = p.closing.pending b := by
    cases begun
    rintro (_ | _) <;> rfl
  have inv : c.scene.Winding := by
    have inactive : Scene.Winding ⟨{ p.deployment with active := false }, []⟩ :=
      ⟨rfl, holds.within, fun id => (holds.every id).tidy, fun _ h => (List.not_mem_nil h).elim⟩
    cases begun
    exact (inactive.unmoved (.sayAll _ _ _)).unmoved (.sayAll _ _ _)
  have closed : ∀ id, p.deployment.Closed id → c.deployment.Closed id := by
    cases begun
    exact fun _ h => h
  refine ⟨inv, fun b e he => ?_, fun _ => .inl trivial, fun _ => trivial, ?_, ?_, ?_⟩
  · rw [pending] at he
    cases b with
    | events =>
      have he : e ∈ p.events.running ++ p.events.queue := he
      rw [waiting.events_unstarted] at he
      obtain ⟨o, rfl, winds⟩ := waiting.events e he
      have winds : o.Winds c.scene.deployment := by
        cases o with
        | sessionLost id => exact closed id winds
        | _ => exact winds
      exact (o.assures_winding p.settings inv winds).mono fun _ _ _ _ _ => trivial
    | connections =>
      have he : e ∈ p.connections.running ++ p.connections.queue := he
      rw [waiting.connections_unstarted] at he
      obtain ⟨id, role, rfl⟩ := waiting.connections e he
      exact (Order.assures_refusal p.settings id role inv).mono fun _ _ _ _ _ => trivial
  · simp [stage, Stage.isDrained]
  · simp [stage]
  · simp [stage, Stage.isTorn]

/-- A shutdown that is called between two operations leaves nothing connected when it returns, in
whatever order workers and shutdown take turns and the devices are torn down.  It does return, as
one that lets every pool do its work in one go, unless the configuration is held back or the
credential store breaks down. -/
theorem disconnected (records : start.records = ∅) (sessions : start.sessions = ∅)
    (within : start.faults.Within .sessionsClose)
    (reached : start.Reaches p.settings Deployment.Orderly p.deployment) (waiting : p.Waiting) :
    (∀ moves c, p.closing.play (.begin :: moves) = some c → c.stage = .stopped →
      c.Disconnected p) ∧
    (p.deployment.faults.Within .returning → ∃ p' moves deeds, p.shutdown = (.complete, p') ∧
      p.closing.play (.begin :: moves) = some ⟨p', .stopped, [], deeds⟩) := by
  constructor
  · intro moves c played stopped
    have holds := reached.settled records sessions within
    have idle : c.provider.Stopped := Closing.stopped_play played rfl stopped
    obtain ⟨later, deeds, calls⟩ := Closing.calls_play played
    obtain ⟨c₁, begun, played⟩ := Option.bind_eq_some_iff.1 played
    obtain ⟨inv, _, x, party, action, laid⟩ := (harmony_of_waiting waiting holds begun).returned
      winding_ends played stopped (Pool.isIdle_iff.1 idle.connections_idle)
    have laid' : ∀ id, c.scene.Laid x id := fun id => (laid.laid id).resolve_left nofun
    obtain rfl : c.deeds = later := deeds
    refine ⟨fun id => (laid' id).closed, fun id => ?_, calls,
      ⟨x, laid.listed, party, action, fun id => (laid' id).forced⟩, inv.silent,
      idle.prompts inv.inactive⟩
    have unconnected := (laid' id).unconnected
    have not_connecting := (inv.tidy id).not_connecting
    change (c.deployment.records.read id).state ≠ _ at unconnected not_connecting
    revert unconnected not_connecting
    cases (c.deployment.records.read id).state <;> simp [ConnectionState.isLive]
  · intro returning
    have untold : Deployment.Untold fun d => d.faults.Within .returning := fun _ _ h => h
    have orders : ∀ e ∈ p.events.queue, e.rest.Completes fun d => d.faults.Within .returning := by
      intro e he
      obtain ⟨o, rfl, _⟩ := waiting.events e he
      exact o.completes p.settings
    have roles : ∀ e ∈ p.connections.queue,
        e.rest.Completes fun d => d.faults.Within .returning := by
      intro e he
      obtain ⟨id, role, rfl⟩ := waiting.connections e he
      exact (Order.role id role).completes p.settings
    obtain ⟨p', complete, stopped, _⟩ := shutdown_of_completes untold untold returning
      ⟨waiting.events_unstarted, orders⟩ ⟨waiting.connections_unstarted, roles⟩
      run_tearDownAll_returning
    obtain ⟨moves, deeds, played⟩ := play_shutdown complete stopped.connections_idle
    exact ⟨p', moves, deeds, complete, played⟩

/-- A provider at which a pass and a role change wait. -/
def busy (d : Deployment) : Provider :=
  ((fresh .default 16 d).submitEvent .pass).submitConnection (.role .sample .master)

/-- The session of a device that no longer answers is closed, although the device is promoted again
while the provider is stopped. -/
theorem disconnected_of_outage :
    let d := Deployment.sample.after .default Step.outage
    d.sessions.contains .sample = true ∧ ∃ p', (busy d).shutdown = (.complete, p') ∧
      ∀ id, p'.deployment.sessions.contains id = false := by
  have opened :
      (Deployment.sample.after .default Step.outage).sessions.contains .sample = true := by
    decide +kernel
  have quiet : (Deployment.sample.after .default Step.outage).faults = .none := rfl
  have reached : Deployment.sample.Reaches .default Deployment.Orderly
      (Deployment.sample.after .default Step.outage) :=
    Deployment.Reaches.refl.after
      ⟨trivial, trivial, trivial, Faults.within_none _, trivial⟩
  dsimp only
  generalize Deployment.sample.after .default Step.outage = d at opened quiet reached ⊢
  have waiting : (busy d).Waiting := by
    refine ⟨rfl, rfl, fun e he => ?_, fun e he => ?_⟩
    · have he : e ∈ [Order.pass.assignment .default] := he
      exact ⟨.pass, List.mem_singleton.1 he, trivial⟩
    · have he : e ∈ [(Order.role .sample .master).assignment .default] := he
      exact ⟨.sample, .master, List.mem_singleton.1 he⟩
  obtain ⟨left, returns⟩ :=
    disconnected (p := busy d) rfl rfl (Faults.within_none _) reached waiting
  have within : (busy d).deployment.faults.Within .returning := by
    have same : (busy d).deployment.faults = d.faults := rfl
    rw [same, quiet]
    exact Faults.within_none _
  obtain ⟨p', moves, deeds, complete, played⟩ := returns within
  exact ⟨opened, p', complete, (left moves _ played rfl).closed⟩

end Provider

end Southbound
