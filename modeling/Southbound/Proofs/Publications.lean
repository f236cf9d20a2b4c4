import Mathlib.Data.List.Chain
import Southbound.Proofs.Aspect
import Southbound.Proofs.Footprint
import Southbound.Proofs.Replay
import Southbound.Proofs.Run

/-!
# What is published when events are handled

The provider handles the events of the very systems that it works on: a device that leaves the
store has its session closed, a closed session has the device shown unavailable, and each time an
event is published that the provider will handle again.

A `Publication` is such an event, from the store or from the sessions.  Every action publishes one
at most (`Deployment.publishes_perform`), and what a job publishes follows from its actions
(`Job.Publishes`).

Publications have ranks: the end of a session ranks below the removal of a device, and all others
rank below both.  While a publication is handled one other is published at most, which ranks lower
(`Order.publishes_of_reaction`).  So a chain of publications, each made while the one before it was
handled, is never longer than three (`Publication.length_le_of_chain`).
-/

namespace Southbound

open Connection Deployment Discovery Job

/-! ## Publications -/

/-- An event that the device store or the session controller published. -/
inductive Publication
  | store (e : StoreEvent)
  | session (e : SessionEvent)
deriving DecidableEq

namespace Publication

/-- How much the handling of the publication can lead to. -/
def rank : Publication → Nat
  | store e => if e.change = .removed then 2 else 0
  | session e => if e.change = .removed then 1 else 0

/-- What the operator is told about a publication, and the order that it becomes. -/
def handle : Publication → List LogLine × Option Order
  | store e => Order.ofStoreEvent e
  | session e => Order.ofSessionEvent e

/-- One publication at most, and one that ranks lower. -/
def OneBelow (bound : Nat) (ps : List Publication) : Prop :=
  ps.length ≤ 1 ∧ ∀ p ∈ ps, p.rank < bound

theorem oneBelow_nil (bound : Nat) : OneBelow bound [] :=
  ⟨Nat.zero_le _, fun _ mem => nomatch mem⟩

end Publication

/-- The publication, if it is one. -/
def Occurrence.publication? : Occurrence → Option Publication
  | storeChanged e => some (.store e)
  | sessionChanged e => some (.session e)
  | called _ | logged _ => none

/-- What an action can publish. -/
inductive Action.Publishes : Action → List Publication → Prop
  | nothing (a : Action) : Publishes a []
  | opened (id : Identity) : Publishes (.openSession id) [.session ⟨.added, id⟩]
  | closed (id : Identity) (force : Bool) :
    Publishes (.closeSession id force) [.session ⟨.removed, id⟩]
  | connected (id : Identity) (d : Description) (change : StoreChange) (stays : change ≠ .removed)
    (annotations : Annotations) :
    Publishes (.writeStore (.connect id d)) [.store ⟨change, id, annotations⟩]
  | disconnected (id : Identity) (annotations : Annotations) :
    Publishes (.writeStore (.disconnect id)) [.store ⟨.updated, id, annotations⟩]

/-- Whether the action publishes nothing. -/
def Action.isSilent : Action → Bool
  | openSession _ | closeSession _ _ | writeStore (.connect _ _) | writeStore (.disconnect _) =>
    false
  | _ => true

theorem Action.Publishes.eq_nil {a : Action} {ps : List Publication} (h : a.Publishes ps)
    (silent : a.isSilent = true) : ps = [] := by
  cases h <;> first | rfl | cases silent

namespace Deployment

/-- What was published, oldest first. -/
def published (d : Deployment) : List Publication := d.history.filterMap (·.publication?)

/-- The action led from one deployment to the other, as far as publications are concerned. -/
def Publishes (d : Deployment) (a : Action) (d' : Deployment) : Prop :=
  ∃ ps, d'.published = d.published ++ ps ∧ a.Publishes ps

variable {d d' d'' : Deployment} {a : Action}

theorem published_note (d : Deployment) (os : List Occurrence) :
    (d.note os).published = d.published ++ os.filterMap (·.publication?) := by
  simp [published, note]

theorem published_sayAll (d : Deployment) (lines : List LogLine) :
    (d.sayAll lines).published = d.published := by
  simp [sayAll, published_note, Occurrence.publication?]

theorem published_meet (d : Deployment) (c : Call) (point : FaultPoint) :
    (d.meet c point).published = d.published := by
  have noted : (d.note [.called c]).published = d.published := by
    simp [published_note, Occurrence.publication?]
  exact noted

theorem publishes_nothing (same : d'.published = d.published) : d.Publishes a d' :=
  ⟨[], same.trans (List.append_nil _).symm, .nothing a⟩

theorem Publishes.of_same (h : d'.Publishes a d'') (same : d'.published = d.published) :
    d.Publishes a d'' := by
  obtain ⟨ps, published, publishes⟩ := h
  exact ⟨ps, by rw [published, same], publishes⟩

theorem publishes_attempt (c : Call) (point : FaultPoint)
    {effect : Deployment → Except CollaboratorError Deployment}
    (h : ∀ d' d'' : Deployment, effect d' = .ok d'' → d'.Publishes a d'') :
    d.Publishes a (d.attempt c point effect).2 := by
  have same := published_meet d c point
  have met : d.Publishes a (d.meet c point) := publishes_nothing same
  rw [attempt_eq]
  cases done : effect (d.meet c point) with
  | ok d' =>
    have went : d.Publishes a d' := (h _ d' done).of_same same
    rcases (d.faults point).next.1 with _ | _ | _ | _ | _ <;> first | exact went | exact met
  | error e => rcases (d.faults point).next.1 with _ | _ | _ | _ | _ <;> exact met

theorem publishes_call {α : Type} (c : Call) (point : FaultPoint)
    {effect : Deployment → α × Deployment}
    (same : ∀ d' : Deployment, (effect d').2.published = d'.published) :
    d.Publishes a (d.call c point effect).2 := by
  have met := published_meet d c point
  rw [call_eq]
  split
  · exact publishes_nothing met
  · exact publishes_nothing ((same _).trans met)

theorem publishes_look {α : Type} (point : FaultPoint) (answer : Option Fault → α) :
    d.Publishes a (d.look point answer).2 := by
  rw [look_eq]
  exact publishes_nothing rfl

theorem publishes_inquire {α : Type} (c : Call) (reply : Reply α) :
    d.Publishes a (d.inquire c reply).2 := by
  have asked : d.Publishes a (d.note [.called c]) :=
    publishes_nothing (by simp [published_note, Occurrence.publication?])
  cases reply <;> exact asked

theorem publishes_write {w : StoreWrite} (written : d.writeStore w = .ok d') :
    d.Publishes (.writeStore w) d' := by
  obtain ⟨store, events, wrote, rfl⟩ := d.of_writeStore written
  have seen : (events.map Occurrence.storeChanged).filterMap (·.publication?) =
      events.map .store := by
    rw [List.filterMap_map]
    exact congrFun List.filterMap_eq_map events
  refine ⟨events.map .store, (published_note _ _).trans (congrArg _ seen), ?_⟩
  cases w with
  | connect id description =>
    have connected : d.store.connect id description = (store, events) := Except.ok.inj wrote
    unfold DeviceStore.connect at connected
    split at connected <;> cases connected
    · exact .connected id description .updated nofun _
    · exact .connected id description .added nofun _
  | disconnect id =>
    obtain ⟨known, -, same⟩ := DeviceStore.exists_of_present wrote
    cases same
    exact .disconnected id _
  | ports id list =>
    obtain ⟨known, -, same⟩ := DeviceStore.exists_of_present wrote
    cases same
    exact .nothing _
  | statistics id list =>
    obtain ⟨known, -, same⟩ := DeviceStore.exists_of_present wrote
    cases same
    exact .nothing _

theorem publishes_open {id : Identity} (opened : d.openSession id = .ok d') :
    d.Publishes (.openSession id) d' := by
  obtain ⟨sessions, seen, opens, rfl⟩ := d.of_openSession opened
  obtain ⟨c, -, ⟨-, rfl, rfl⟩ | ⟨-, rfl, rfl⟩⟩ := Sessions.of_openTo opens
  · exact publishes_nothing ((published_note _ _).trans (List.append_nil _))
  · exact ⟨_, published_note _ _, .opened id⟩

theorem publishes_close (d : Deployment) (id : Identity) (force : Bool) :
    d.Publishes (.closeSession id force) (d.closeSession id force) := by
  unfold Deployment.closeSession
  obtain ⟨-, closed⟩ | ⟨-, unchanged⟩ := d.sessions.closeTo_cases id force
  · rw [closed]
    exact ⟨_, published_note _ _, .closed id force⟩
  · rw [unchanged]
    exact publishes_nothing ((published_note _ _).trans (List.append_nil _))

/-- Every action publishes one event at most, and only the two systems that are written to do. -/
theorem publishes_perform (d : Deployment) (a : Action) : d.Publishes a (d.perform a).2 := by
  cases a with
  | log l => exact publishes_nothing (published_sayAll d [l])
  | requestDevices appId =>
    have met := published_meet d (.desiredDevices appId) .desiredDevices
    rw [requestDevices_eq]
    rcases (d.faults .desiredDevices).next.1 with _ | _ | _ | _ | _ <;> exact publishes_nothing met
  | probe id => exact publishes_call _ _ fun _ => rfl
  | reportRole id requested accepted =>
    refine publishes_call _ _ fun d' => ?_
    exact published_sayAll _ [.roleReported id requested accepted]
  | storeKey id c =>
    exact publishes_attempt _ _ fun _ _ h => by cases h; exact publishes_nothing rfl
  | removeKey id =>
    exact publishes_attempt _ _ fun _ _ h => by cases h; exact publishes_nothing rfl
  | openSession id => exact publishes_attempt _ _ fun _ _ h => publishes_open h
  | closeSession id force =>
    exact publishes_attempt _ _ fun d' _ h => by cases h; exact publishes_close d' id force
  | writeStore w => exact publishes_attempt _ _ fun _ _ h => publishes_write h
  | lookUp id => exact publishes_look _ _
  | isAvailable id => exact publishes_look _ _
  | isLocalMaster id => exact publishes_look _ _
  | masterOf id => exact publishes_look _ _
  | discoverDetails id reply => exact publishes_inquire _ reply
  | discoverPortDetails id reply => exact publishes_inquire _ reply
  | listPorts id reply => exact publishes_inquire _ reply
  | discoverStatistics id reply => exact publishes_inquire _ reply
  | _ => exact publishes_nothing rfl

end Deployment

/-! ## Jobs -/

namespace Job

variable {α β : Type} {P : List Publication → Prop}

/-- Every action of the job is silent. -/
abbrev Silent (j : Job α) : Prop := j.Only fun a => a.isSilent = true

theorem silent_ofAction {a : Action} (silent : a.isSilent = true) : (ofAction a).Silent :=
  only_ofAction silent

/-- A run of the job publishes events of which the statement holds. -/
def Publishes (P : List Publication → Prop) (j : Job α) : Prop :=
  ∀ d : Deployment, ∃ ps, (j.run d).2.published = d.published ++ ps ∧ P ps

/-- What was published stays published. -/
theorem published_extends (j : Job α) (d : Deployment) :
    d.published <+: (j.run d).2.published := by
  induction j generalizing d with
  | done a => exact List.prefix_rfl
  | crashed => exact List.prefix_rfl
  | act a next ih =>
    by_cases ready : d.isReady a = true
    · obtain ⟨ps, published, -⟩ := d.publishes_perform a
      rw [run_act a next d ready]
      exact List.IsPrefix.trans ⟨ps, published.symm⟩ (ih _ _)
    · simp [run, ready]

/-- A job of silent actions publishes nothing. -/
theorem Silent.published {j : Job α} (silent : j.Silent) (d : Deployment) :
    (j.run d).2.published = d.published := by
  refine Only.run (P := fun d' => d'.published = d.published) (fun d' a isSilent same => ?_)
    silent rfl
  obtain ⟨ps, published, publishes⟩ := d'.publishes_perform a
  rw [published, publishes.eq_nil isSilent, List.append_nil, same]

theorem Silent.publishes {j : Job α} (silent : j.Silent) (none : P []) :
    j.Publishes P :=
  fun d => ⟨[], (silent.published d).trans (List.append_nil _).symm, none⟩

/-- A single action publishes what it can. -/
theorem publishes_ofAction {a : Action} (h : ∀ ps, a.Publishes ps → P ps) :
    (ofAction a).Publishes P := by
  intro d
  by_cases ready : d.isReady a = true
  · obtain ⟨ps, published, publishes⟩ := d.publishes_perform a
    refine ⟨ps, ?_, h ps publishes⟩
    rw [ofAction, run_act _ _ _ ready, ← published]
    cases (d.perform a).1 <;> rfl
  · refine ⟨[], ?_, h [] (.nothing a)⟩
    simp [ofAction, run, ready]

/-- What comes before is silent. -/
theorem Publishes.after {j : Job α} {f : α → Job β} (silent : j.Silent)
    (none : P []) (hf : ∀ a, (f a).Publishes P) : (bind j f).Publishes P := by
  intro d
  have same := silent.published d
  rw [run_bind]
  generalize j.run d = r at same ⊢
  obtain ⟨progress, d'⟩ := r
  cases progress with
  | done a =>
    obtain ⟨ps, published, holds⟩ := hf a d'
    exact ⟨ps, published.trans (congrArg (· ++ ps) same), holds⟩
  | crashed => exact ⟨[], same.trans (List.append_nil _).symm, none⟩
  | waiting rest => exact ⟨[], same.trans (List.append_nil _).symm, none⟩

/-- What comes afterwards is silent. -/
theorem Publishes.before {j : Job α} {f : α → Job β} (hj : j.Publishes P)
    (silent : ∀ a, (f a).Silent) : (bind j f).Publishes P := by
  intro d
  obtain ⟨ps, published, holds⟩ := hj d
  refine ⟨ps, ?_, holds⟩
  rw [run_bind, ← published]
  generalize j.run d = r
  obtain ⟨progress, d'⟩ := r
  cases progress with
  | done a => exact (silent a).published d'
  | crashed => rfl
  | waiting rest => rfl

theorem silent_warnOnRefusal (attempt : Attempt) (id : Identity)
    (result : Except CollaboratorError Unit) :
    (warnOnRefusal attempt id result).Silent := by
  cases result with
  | ok _ => trivial
  | error e => exact silent_ofAction rfl

section

variable (id : Identity)

theorem silent_bringPorts (driver : Driver) :
    (bringPorts id driver).Silent := by
  have asked : (askPorts id driver).Silent := by
    unfold askPorts
    cases driver.description <;> cases driver.ports <;>
      simp [portsOf, forall_except, Action.isSilent]
  refine asked.bind fun list => ?_
  simp [forall_except, Action.isSilent]

theorem silent_bringStatistics (driver : Driver) :
    (bringStatistics id driver).Silent := by
  cases h : driver.portStatistics <;>
    simp [bringStatistics, h, warnOnRefusal, forall_except, Action.isSilent]

/-- Ports and counters are brought into the store silently. -/
theorem silent_discoverPorts : (discoverPorts id).Silent := by
  have skipped : ∀ why, (log (.portsSkipped id why)).Silent := fun _ =>
    silent_ofAction rfl
  refine (silent_ofAction (a := .isLocalMaster id) rfl).bind fun mastered => ?_
  refine Only.ite (fun _ => ?_) fun _ => skipped .notMaster
  refine (silent_ofAction (a := .isAvailable id) rfl).bind fun available => ?_
  refine Only.ite (fun _ => ?_) fun _ => skipped .notAvailable
  refine (silent_ofAction (a := .lookUp id) rfl).bind fun device? => ?_
  cases device? with
  | none => exact skipped .notInStore
  | some device =>
    exact (silent_bringPorts id device.driver).bind fun _ =>
      silent_bringStatistics id device.driver

/-- When a session is lost the device is shown unavailable, and no other event is published. -/
theorem publishes_sessionLost : (sessionLost id).Publishes (Publication.OneBelow 1) := by
  have none := Publication.oneBelow_nil 1
  have shown : (writeStore (.disconnect id)).Publishes (Publication.OneBelow 1) := by
    refine publishes_ofAction fun ps publishes => ?_
    cases publishes <;> simp [Publication.OneBelow, Publication.rank]
  refine .after (silent_ofAction rfl) none fun _ => ?_
  refine .after (j := lookUp id) (silent_ofAction rfl) none fun device? => ?_
  cases device? with
  | none => exact Silent.publishes (silent_ofAction rfl) none
  | some device =>
    refine shown.before fun answer => ?_
    cases answer <;> exact silent_ofAction rfl

/-- When a device was removed its session ends, and no other event is published. -/
theorem publishes_deviceRemoved : (deviceRemoved id).Publishes (Publication.OneBelow 2) := by
  have ended : (closeSession id true).Publishes (Publication.OneBelow 2) := by
    refine publishes_ofAction fun ps publishes => ?_
    cases publishes <;> simp [Publication.OneBelow, Publication.rank]
  refine .after (silent_ofAction rfl) (Publication.oneBelow_nil 2) fun _ => ?_
  refine ended.before fun answer => ?_
  exact (silent_warnOnRefusal .forceClose id answer).bind fun _ =>
    (silent_ofAction (a := .changeRecord id .ended) rfl).bind fun _ => trivial

end

end Job

/-! ## Reactions -/

/-- How much the order can lead to, if it is a reaction to a publication. -/
def Order.rank? : Order → Option Nat
  | .sessionLost _ => some 1
  | .storeChanged e => some (Publication.store e).rank
  | .firstPass | .pass | .probe _ | .role _ _ => none

theorem Publication.rank?_of_handle {p : Publication} {o : Order} (becomes : p.handle.2 = some o) :
    o.rank? = some p.rank := by
  cases p with
  | store e =>
    simp only [handle, Order.ofStoreEvent] at becomes
    split at becomes <;> cases becomes
    rfl
  | session e =>
    obtain ⟨change, id⟩ := e
    cases change <;> cases becomes
    rfl

/-- Whether a change in the store concerns this node is found out silently. -/
theorem Job.publishes_reactToStore (s : Settings) (e : StoreEvent) {P : List Publication → Prop}
    (none : P [])
    (removal : e.change = .removed → (deviceRemoved e.identity).Publishes P) :
    (Order.reactToStore s e).Publishes P := by
  have asked : ∀ (master : Option NodeId) {f : Bool → Job Unit},
      (∀ isLocal, (f isLocal).Publishes P) → Job.Publishes P
        (if master.isSome then Job.bind (isLocalMaster e.identity) f else f false) := by
    intro master f publishes
    cases master with
    | none => exact publishes false
    | some node => exact Job.Publishes.after (silent_ofAction rfl) none publishes
  have guarded : ∀ (relevant : Bool) {j : Job Unit}, j.Publishes P →
      (if relevant then j else done ()).Publishes P := by
    intro relevant j publishes
    cases relevant with
    | false => exact Silent.publishes trivial none
    | true => exact publishes
  refine .after (j := masterOf e.identity) (silent_ofAction rfl) none fun master => ?_
  refine asked master fun isLocal => guarded _ ?_
  cases change : e.change with
  | added => exact (silent_discoverPorts e.identity).publishes none
  | removed => exact removal change
  | updated => exact Silent.publishes trivial none

/-- A reaction publishes one event at most, and one that can lead to less. -/
theorem Order.publishes_of_reaction (s : Settings) {o : Order} {rank : Nat}
    (reaction : o.rank? = some rank) : (o.job s).Publishes (Publication.OneBelow rank) := by
  cases o with
  | sessionLost id =>
    cases reaction
    exact Job.Publishes.before (publishes_sessionLost id) fun _ => trivial
  | storeChanged e =>
    have none := Publication.oneBelow_nil rank
    refine Job.Publishes.before (publishes_reactToStore s e none fun removed => ?_) fun _ => trivial
    have two : rank = 2 := by
      cases reaction
      exact if_pos removed
    rw [two]
    exact publishes_deviceRemoved e.identity
  | firstPass | pass | probe id | role id r => cases reaction

/-- A reaction is about one device, and never waits for an answer. -/
theorem Order.ends_of_reaction (s : Settings) {o : Order} {rank : Nat}
    (reaction : o.rank? = some rank) (d : Deployment) :
    ((o.job s).run d).1.isEnded = true := by
  have ends : ∀ {id : Identity} {j : Job Unit}, j.Only (Action.Unopening id) →
      ((silently j).run d).1.isEnded = true := by
    intro id j only
    have concerns : (silently j).Only (Action.Concerns id) :=
      (only.mono fun _ h => h.1).bind fun _ => trivial
    obtain ⟨reply, d', ran⟩ := concerns.ends d
    rw [ran]
    cases reply <;> rfl
  cases o with
  | sessionLost id => exact ends (only_sessionLost id)
  | storeChanged e => exact ends (only_reactToStore s e)
  | firstPass | pass | probe id | role id r => cases reaction

/-! ## Chains of publications -/

/-- The sample device is in the store, and has an open session. -/
def Deployment.connected : Deployment :=
  { Deployment.fresh (.ofSmall 1) [] with
    store := (∅ : DeviceStore).insert .sample ⟨.placeholder .sample, true, [], []⟩
    sessions := (∅ : Sessions).insert .sample () }

namespace Publication

/-- One publication is made while another one is handled. -/
def Begets (s : Settings) (p q : Publication) : Prop :=
  ∃ (o : Order) (d : Deployment) (ps : List Publication), p.handle.2 = some o ∧
    ((o.job s).run d).2.published = d.published ++ ps ∧ q ∈ ps

theorem Begets.rank_lt {s : Settings} {p q : Publication} (h : p.Begets s q) :
    q.rank < p.rank := by
  obtain ⟨o, d, ps, becomes, published, mem⟩ := h
  obtain ⟨ps', published', -, lower⟩ := Order.publishes_of_reaction s (rank?_of_handle becomes) d
  obtain rfl : ps = ps' := List.append_cancel_left (published.symm.trans published')
  exact lower q mem

theorem rank_le (p : Publication) : p.rank ≤ 2 := by
  cases p <;> simp only [rank] <;> split <;> omega

/-- A chain is not longer than the rank of its first publication allows. -/
theorem length_le_of_chain {s : Settings} {p : Publication} {chain : List Publication}
    (begets : (p :: chain).IsChain (Begets s)) : chain.length ≤ p.rank := by
  induction chain generalizing p with
  | nil => exact Nat.zero_le _
  | cons q rest ih =>
    obtain ⟨first, later⟩ := List.isChain_cons_cons.1 begets
    have lower := first.rank_lt
    have shorter := ih later
    rw [List.length_cons]
    omega

/-- There are chains of three: a device is removed, its session is closed, and the device is shown
unavailable that came back meanwhile. -/
theorem exists_chain_of_three (s : Settings) :
    ∃ chain : List Publication, chain.IsChain (Begets s) ∧ chain.length = 3 := by
  have closed : ((Order.silently (deviceRemoved .sample)).run .connected).2.published =
      [session ⟨.removed, .sample⟩] := by decide +kernel
  have shown : ((Order.silently (sessionLost .sample)).run .connected).2.published =
      [store ⟨.updated, .sample, (Description.placeholder .sample).annotations⟩] := by
    decide +kernel
  -- Nobody masters the device, so its removal concerns this node whatever the settings are.
  have concerns : ((Order.storeChanged ⟨.removed, .sample, ∅⟩).job s).run .connected =
      (Order.silently (deviceRemoved .sample)).run .connected := by
    have calm : Deployment.connected.draw (.masterOf .sample) = (none, .connected) :=
      draw_of_quiet rfl _
    have asked : Deployment.connected.perform (.masterOf .sample) = (some none, .connected) := by
      simp only [perform, look, calm]
      rfl
    refine (Job.run_act (.masterOf .sample) _ .connected rfl).trans ?_
    rw [asked]
    rfl
  have closes : (store ⟨.removed, .sample, ∅⟩).Begets s (session ⟨.removed, .sample⟩) :=
    ⟨_, .connected, _, rfl, (congrArg (·.2.published) concerns).trans closed,
      List.mem_singleton_self _⟩
  have shows : (session ⟨.removed, .sample⟩).Begets s
      (store ⟨.updated, .sample, (Description.placeholder .sample).annotations⟩) :=
    ⟨_, .connected, _, rfl, shown, List.mem_singleton_self _⟩
  exact ⟨_, .cons_cons closes (.cons_cons shows (.singleton _)), rfl⟩

end Publication

end Southbound
