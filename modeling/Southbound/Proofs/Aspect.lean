import Southbound.Proofs.Slice
import Southbound.Reconciliation

/-!
# What matters to one device

Everything that can matter to what becomes of one device is its `Aspect`: what is held about it, the
entries of the configuration that name it, what is to go wrong with its own calls, and the calls
about it so far.  An action about the device does to its aspect what `Aspect.act` says and never
looks past it (`Deployment.aspect_perform`); an action about another device leaves the aspect alone,
even if it is refused or breaks down (`Deployment.aspect_perform_other`).

Two deployments are `Alike` to a device if its aspect is the same in both, and asking for the
desired devices goes on in the same way, however often it was asked before.
-/

namespace Southbound

open Deployment Reconciliation

/-! ## What there is about one device -/

/-- The device that a call goes wrong about; asking for the desired devices is about no device. -/
def FaultPoint.identity? : FaultPoint → Option Identity
  | desiredDevices => none
  | probe id | storeKey id | removeKey id | openSession id | closeSession id
  | deviceConnected id | deviceDisconnected id | updatePorts id | updateStatistics id
  | reportRole id | lookUp id | isAvailable id | isLocalMaster id | masterOf id => some id

namespace Faults

/-- What goes wrong with the configuration and with one device. -/
def about (f : Faults) (id : Identity) : Faults := fun point =>
  if point.identity?.all (· == id) then f point else .none

/-- What is left to go wrong after an action. -/
def past (f : Faults) (a : Action) : Faults :=
  match a.faultPoint? with
  | some point => f.plan point (f point).next.2
  | .none => f

/-- Asking for the desired devices goes wrong every time or never, and is always answered at once.
So it does not matter how often the question was asked before. -/
def Steady (f : Faults) : Prop :=
  (f .desiredDevices).script = [] ∧ (f .desiredDevices).rest ≠ some .hold

variable (f : Faults) {point : FaultPoint} {id : Identity}

theorem about_own (own : point.identity? = some id) : f.about id point = f point := by
  simp [about, own]

theorem about_plan_own (own : point.identity? = some id) (p : FaultPlan) :
    (f.plan point p).about id = (f.about id).plan point p := by
  funext point'
  by_cases same : point' = point
  · subst same
    simp [about, plan, own]
  · simp [about, plan, same]

theorem about_plan_other {id' : Identity} (other : point.identity? = some id') (ne : id' ≠ id)
    (p : FaultPlan) : (f.plan point p).about id = f.about id := by
  funext point'
  by_cases same : point' = point
  · subst same
    simp [about, other, ne]
  · simp [about, plan, same]

theorem Steady.next {f : Faults} (steady : f.Steady) :
    (f .desiredDevices).next = ((f .desiredDevices).rest, f .desiredDevices) := by
  obtain ⟨script, _⟩ := steady
  cases h : f .desiredDevices with
  | mk later rest =>
    rw [h] at script
    cases script
    rfl

end Faults

/-- The entries that name one device, if the configuration can be read. -/
def ConfigSource.about (c : ConfigSource) (s : Settings) (id : Identity) : ConfigSource :=
  match c.desiredDevices s.appId with
  | .ok devices => .listed (devices.filter (names s.scheme id))
  | .error e => .failing e

/-- Everything that matters to what becomes of one device. -/
structure Aspect where
  slice : Slice
  /-- This node. -/
  node : NodeId
  /-- Whether role changes are accepted. -/
  active : Bool
  /-- The entries that name the device. -/
  config : ConfigSource
  /-- What is to go wrong with the configuration and with the device. -/
  faults : Faults
  /-- The calls about the device, oldest first. -/
  calls : List Call

/-- What an action about the device answers, and what it does to the aspect. -/
def Aspect.act (v : Aspect) (a : Action) : Option a.Answer × Aspect :=
  let r := v.slice.perform (a.faultPoint?.bind fun point => (v.faults point).next.1) a
  (r.1, { v with slice := r.2, faults := v.faults.past a, calls := v.calls ++ a.call?.toList })

namespace Deployment

/-- The calls that name a device, oldest first. -/
def callsAbout (d : Deployment) (id : Identity) : List Call :=
  d.calls.filter fun c => c.identity? == some id

/-- Everything that matters to what becomes of one device. -/
def aspect (d : Deployment) (s : Settings) (id : Identity) : Aspect where
  slice := d.slice id
  node := d.mastership.node
  active := d.active
  config := d.config.about s id
  faults := d.faults.about id
  calls := d.callsAbout id

/-- The deployment without the entries of all other devices. -/
def about (d : Deployment) (s : Settings) (id : Identity) : Deployment :=
  { d with config := d.config.about s id }

end Deployment

/-! ## One action -/

namespace Action

variable {a : Action} {id : Identity}

theorem identity_call {c : Call} (concerns : a.Concerns id) (h : a.call? = some c) :
    c.identity? = some id := by
  cases a with
  | writeStore w =>
    cases w <;> cases h <;> exact congrArg some concerns
  | _ => first | cases h; exact congrArg some concerns | exact concerns.elim | cases h

theorem identity_faultPoint {point : FaultPoint} (concerns : a.Concerns id)
    (h : a.faultPoint? = some point) : point.identity? = some id := by
  cases a with
  | writeStore w =>
    cases w <;> cases h <;> exact congrArg some concerns
  | _ => first | cases h; exact congrArg some concerns | exact concerns.elim | cases h

end Action

namespace Deployment

variable (d : Deployment) (s : Settings) {id : Identity} {a : Action}

/-- What a write to the store comes to if it is not refused. -/
theorem of_writeStore {d' : Deployment} {w : StoreWrite} (h : d.writeStore w = .ok d') :
    ∃ store events, d.store.write w = .ok (store, events) ∧
      d' = { d with store := store }.note (events.map .storeChanged) := by
  unfold writeStore at h
  cases written : d.store.write w with
  | error e =>
    rw [written] at h
    cases h
  | ok r =>
    rw [written] at h
    exact ⟨r.1, r.2, rfl, (Except.ok.inj h).symm⟩

/-- What opening a session comes to if it is not refused. -/
theorem of_openSession {d' : Deployment} (h : d.openSession id = .ok d') :
    ∃ sessions seen, d.sessions.openTo d.keys id = .ok (sessions, seen) ∧
      d' = { d with sessions := sessions }.note seen := by
  unfold openSession at h
  cases opened : d.sessions.openTo d.keys id with
  | error e =>
    rw [opened] at h
    cases h
  | ok r =>
    rw [opened] at h
    exact ⟨r.1, r.2, rfl, (Except.ok.inj h).symm⟩

theorem faults_attempt (c : Call) (point : FaultPoint)
    {effect : Deployment → Except CollaboratorError Deployment}
    (h : ∀ d' d'' : Deployment, effect d' = .ok d'' → d''.faults = d'.faults) :
    (d.attempt c point effect).2.faults = d.faults.plan point (d.faults point).next.2 := by
  have met : (d.meet c point).faults = d.faults.plan point (d.faults point).next.2 := rfl
  rw [attempt_eq]
  cases done : effect (d.meet c point) with
  | ok d' =>
    have kept := (h _ _ done).trans met
    rcases (d.faults point).next.1 with _ | _ | _ | _ | _ <;> first | exact kept | exact met
  | error e => rcases (d.faults point).next.1 with _ | _ | _ | _ | _ <;> exact met

theorem faults_call {α : Type} (c : Call) (point : FaultPoint)
    {effect : Deployment → α × Deployment}
    (h : ∀ d' : Deployment, (effect d').2.faults = d'.faults) :
    (d.call c point effect).2.faults = d.faults.plan point (d.faults point).next.2 := by
  rw [call_eq]
  split
  · rfl
  · exact h _

theorem faults_look {α : Type} (point : FaultPoint) (answer : Option Fault → α) :
    (d.look point answer).2.faults = d.faults.plan point (d.faults point).next.2 := by
  rw [look_eq]
  rfl

/-- What goes wrong is used up where the action can go wrong, and nowhere else. -/
theorem faults_perform (a : Action) : (d.perform a).2.faults = d.faults.past a := by
  have written : ∀ (w : StoreWrite) (d' d'' : Deployment), d'.writeStore w = .ok d'' →
      d''.faults = d'.faults := by
    intro w d' d'' h
    obtain ⟨_, _, _, rfl⟩ := d'.of_writeStore h
    rfl
  have opened : ∀ (id : Identity) (d' d'' : Deployment), d'.openSession id = .ok d'' →
      d''.faults = d'.faults := by
    intro id d' d'' h
    obtain ⟨_, _, _, rfl⟩ := d'.of_openSession h
    rfl
  cases a with
  | requestDevices appId =>
    rw [requestDevices_eq]
    rcases (d.faults .desiredDevices).next.1 with _ | _ | _ | _ | _ <;> rfl
  | probe id => exact faults_call d _ _ fun _ => rfl
  | reportRole id requested accepted => exact faults_call d _ _ fun _ => rfl
  | storeKey id c => exact faults_attempt d _ _ fun _ _ h => by cases h; rfl
  | removeKey id => exact faults_attempt d _ _ fun _ _ h => by cases h; rfl
  | openSession id => exact faults_attempt d _ _ (opened id)
  | closeSession id force => exact faults_attempt d _ _ fun _ _ h => by cases h; rfl
  | writeStore w => exact faults_attempt d _ _ (written w)
  | lookUp id => exact faults_look d _ _
  | isAvailable id => exact faults_look d _ _
  | isLocalMaster id => exact faults_look d _ _
  | masterOf id => exact faults_look d _ _
  | discoverDetails id reply => cases reply <;> rfl
  | discoverPortDetails id reply => cases reply <;> rfl
  | listPorts id reply => cases reply <;> rfl
  | discoverStatistics id reply => cases reply <;> rfl
  | _ => rfl

/-- Of an aspect, only the slice, what is to go wrong and the calls can change with one device. -/
theorem Moves.aspect {d d' : Deployment} {id' : Identity} {v : Slice} {cs : List Call}
    (moved : d.Moves id' v cs d') (s : Settings) (id : Identity) :
    d'.aspect s id = { d.aspect s id with
      slice := d'.slice id
      faults := d'.faults.about id
      calls := d.callsAbout id ++ cs.filter (fun c => c.identity? == some id) } := by
  have calls : d'.callsAbout id =
      d.callsAbout id ++ cs.filter (fun c => c.identity? == some id) := by
    rw [callsAbout, moved.calls, List.filter_append, callsAbout]
  have active : d'.active = d.active := congrArg Setting.active moved.setting
  have config : d'.config = d.config := congrArg Setting.config moved.setting
  have node : d'.mastership.node = d.mastership.node := congrArg Setting.node moved.setting
  simp only [Deployment.aspect, node, active, config, calls]

/-- An action about the device looks at the aspect only. -/
theorem aspect_perform (concerns : a.Concerns id) :
    ((d.perform a).1, (d.perform a).2.aspect s id) = (d.aspect s id).act a := by
  obtain ⟨answered, moved⟩ := d.perform_slice concerns
  have fault : d.faultOf a =
      a.faultPoint?.bind fun point => (d.faults.about id point).next.1 := by
    unfold faultOf
    cases h : a.faultPoint? with
    | none => rfl
    | some point =>
      have own := a.identity_faultPoint concerns h
      simp [Faults.about_own d.faults own]
  have faults : (d.faults.past a).about id = (d.faults.about id).past a := by
    unfold Faults.past
    cases h : a.faultPoint? with
    | none => rfl
    | some point =>
      have own := a.identity_faultPoint concerns h
      simp only [Faults.about_plan_own _ own, Faults.about_own _ own]
  have named : a.call?.toList.filter (fun c => c.identity? == some id) = a.call?.toList := by
    refine List.filter_eq_self.2 fun c hc => ?_
    have made : a.call? = some c := by simpa using hc
    simp [a.identity_call concerns made]
  rw [moved.aspect s id, answered, moved.own, faults_perform, faults, named, fault]
  rfl

/-- An action about another device leaves the aspect alone, whether or not it goes wrong. -/
theorem aspect_perform_other {id' : Identity} (concerns : a.Concerns id') (ne : id' ≠ id) :
    (d.perform a).2.aspect s id = d.aspect s id := by
  obtain ⟨_, moved⟩ := d.perform_slice concerns
  have faults : (d.faults.past a).about id = d.faults.about id := by
    unfold Faults.past
    cases h : a.faultPoint? with
    | none => rfl
    | some point => exact Faults.about_plan_other _ (a.identity_faultPoint concerns h) ne _
  have unnamed : a.call?.toList.filter (fun c => c.identity? == some id) = [] := by
    refine List.filter_eq_nil_iff.2 fun c hc => ?_
    have made : a.call? = some c := by simpa using hc
    simp [a.identity_call concerns made, ne]
  rw [moved.aspect s id, moved.others id ne.symm, faults_perform, faults, unnamed,
    List.append_nil]
  rfl

end Deployment

/-! ## Deployments that look alike to one device -/

namespace Deployment

/-- The deployments look alike to the device. -/
structure Alike (s : Settings) (id : Identity) (d d' : Deployment) : Prop where
  same : d.aspect s id = d'.aspect s id
  steady : d.faults.Steady

namespace Alike

variable {s : Settings} {id : Identity} {d d' d'' : Deployment}

theorem refl (steady : d.faults.Steady) : d.Alike s id d := ⟨rfl, steady⟩

theorem trans (h : d.Alike s id d') (h' : d'.Alike s id d'') : d.Alike s id d'' :=
  ⟨h.same.trans h'.same, h.steady⟩

theorem of_parts (slice : d.slice id = d'.slice id)
    (node : d.mastership.node = d'.mastership.node) (active : d.active = d'.active)
    (config : d.config.about s id = d'.config.about s id)
    (faults : d.faults.about id = d'.faults.about id)
    (calls : d.callsAbout id = d'.callsAbout id) (steady : d.faults.Steady) : d.Alike s id d' :=
  ⟨by simp only [aspect, slice, node, active, config, faults, calls], steady⟩

theorem slice (h : d.Alike s id d') : d.slice id = d'.slice id := congrArg Aspect.slice h.same

theorem active (h : d.Alike s id d') : d.active = d'.active := congrArg Aspect.active h.same

theorem node (h : d.Alike s id d') : d.mastership.node = d'.mastership.node :=
  congrArg Aspect.node h.same

theorem config (h : d.Alike s id d') : d.config.about s id = d'.config.about s id :=
  congrArg Aspect.config h.same

theorem faults (h : d.Alike s id d') : d.faults.about id = d'.faults.about id :=
  congrArg Aspect.faults h.same

theorem callsAbout (h : d.Alike s id d') : d.callsAbout id = d'.callsAbout id :=
  congrArg Aspect.calls h.same

theorem symm (h : d.Alike s id d') : d'.Alike s id d := by
  have points : d.faults .desiredDevices = d'.faults .desiredDevices :=
    congrFun h.faults .desiredDevices
  refine ⟨h.same.symm, ?_⟩
  have steady := h.steady
  unfold Faults.Steady at steady ⊢
  rwa [← points]

/-- Both read the same entries about the device, or neither can read any. -/
theorem devices (h : d.Alike s id d') :
    (d.config.desiredDevices s.appId).toOption.map (·.filter (names s.scheme id)) =
      (d'.config.desiredDevices s.appId).toOption.map (·.filter (names s.scheme id)) := by
  have read : ∀ c : ConfigSource, ((c.about s id).desiredDevices s.appId).toOption =
      (c.desiredDevices s.appId).toOption.map (·.filter (names s.scheme id)) := by
    intro c
    unfold ConfigSource.about
    cases c.desiredDevices s.appId <;> rfl
  rw [← read, ← read]
  exact congrArg (fun v : Aspect => (v.config.desiredDevices s.appId).toOption) h.same

theorem say (steady : d.faults.Steady) (l : LogLine) : d.Alike s id (d.say l) where
  same := by
    have calls : (d.say l).callsAbout id = d.callsAbout id := by
      simp [Deployment.callsAbout, Deployment.say, calls_note, Occurrence.call?]
    simp only [aspect, calls]
    rfl
  steady := steady

theorem sayAll (steady : d.faults.Steady) (ls : List LogLine) : d.Alike s id (d.sayAll ls) := by
  induction ls generalizing d with
  | nil => simpa [Deployment.sayAll, Deployment.note] using refl steady
  | cons l rest ih =>
    have next : d.sayAll (l :: rest) = (d.say l).sayAll rest := by
      simp [Deployment.sayAll, Deployment.say, Deployment.note]
    rw [next]
    exact (say steady l).trans (ih steady)

end Alike

variable {s : Settings} {id : Identity} {d d' : Deployment}

theorem steady_perform {a : Action} (concerns : a.Concerns id) (steady : d.faults.Steady) :
    (d.perform a).2.faults.Steady := by
  rw [faults_perform]
  unfold Faults.past
  cases h : a.faultPoint? with
  | none => exact steady
  | some point =>
    have apart : .desiredDevices ≠ point := by
      rintro rfl
      cases a.identity_faultPoint concerns h
    simpa [Faults.Steady, Faults.plan, apart] using steady

theorem alike_about (steady : d.faults.Steady) : d.Alike s id (d.about s id) where
  same := by
    have again : (d.config.about s id).about s id = d.config.about s id := by
      unfold ConfigSource.about
      cases d.config.desiredDevices s.appId with
      | ok devices => simp [ConfigSource.desiredDevices]
      | error e => rfl
    simp only [aspect, about, again]
    rfl
  steady := steady

end Deployment

end Southbound
