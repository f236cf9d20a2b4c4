import Southbound.Proofs.Interleaving
import Southbound.Proofs.Run

/-!
# Role changes at the same time

Two role changes for one device that are given to a pool of several workers may be carried out at
the same time, action by action.  The pool does not keep them apart; which of them wins is decided
by three pairs of actions, one for the session, one for the record and one for the report.  In each
pair the later action wins (`Provider.demotion_wins`), so that a promotion that is late opens the
session, makes the record connected and is reported after the demotion
(`Provider.promotion_wins_late`).  A promotion that has ended before the demotion closes the session
is late in none of them.

The argument does not follow the jobs.  It looks at what was done, whoever did it: a demotion that
was carried out has done its actions, and once one of two actions of a pair was done only the other
one could take its effect back.
-/

namespace Southbound

open Connection Deployment Job

/-! ## Role changes -/

/-- The role change that is reported of a device. -/
def Call.report? (id : Identity) : Call → Option (Role × Role)
  | reportRole id' requested accepted => if id' = id then some (requested, accepted) else none
  | _ => none

namespace Deployment

/-- The role changes that were reported of a device, oldest first, as requested and as accepted. -/
def reports (d : Deployment) (id : Identity) : List (Role × Role) :=
  d.calls.filterMap (·.report? id)

/-- Role changes are accepted, no call fails, and the credential store holds a key for the device or
none, as `held` says. -/
structure Serving (id : Identity) (held : Bool) (d : Deployment) : Prop where
  active : d.active = true
  quiet : d.faults = .none
  key : d.keys.contains id = held

end Deployment

namespace Action

/-- An action of a role change: it is about the device, stores no credentials and removes none that
are held, does not force the session to close, and reports no roles but master and `r`. -/
def OfRole (id : Identity) (r : Role) (held : Bool) (a : Action) : Prop :=
  a = .isActive ∨ a.Concerns id ∧ (∀ c, a ≠ .storeKey id c) ∧ (a = .removeKey id → held = false) ∧
    a ≠ .closeSession id true ∧
    ∀ requested accepted, a = .reportRole id requested accepted →
      (requested, accepted) = (.master, .master) ∨ (requested, accepted) = (r, r)

/-- An action that only a promotion does. -/
def Raises (id : Identity) (a : Action) : Prop :=
  a = .openSession id ∨ (∃ state, a = .changeRecord id (.reached state)) ∨
    a = .reportRole id .master .master

/-- The actions of a role change, as far as they depend on the order. -/
def OfOrder (id : Identity) (r : Role) (held : Bool) (o : Order) (a : Action) : Prop :=
  a.OfRole id r held ∧ (o ≠ .role id .master → ¬ a.Raises id)

end Action

section roles

variable (id : Identity) {r : Role} {held : Bool}

theorem only_demotion (held : Bool) (role : Role) (h : role ≠ .master) :
    (changeRole id role).Only fun a => a.OfRole id role held ∧ ¬ a.Raises id := by
  have released : (Connection.release id role).Only fun a =>
      a.OfRole id role held ∧ ¬ a.Raises id := by
    simp [Connection.release, disconnectIfStored, warnOnRefusal, forall_except, Action.OfRole,
      Action.Raises, Action.Concerns, StoreWrite.identity, h]
  have ignored : (log (.roleIgnored role id)).Only fun a =>
      a.OfRole id role held ∧ ¬ a.Raises id := by
    simp [Action.OfRole, Action.Raises, Action.Concerns]
  have asked : isActive.Only fun a => a.OfRole id role held ∧ ¬ a.Raises id :=
    only_ofAction ⟨.inl rfl, by simp [Action.Raises]⟩
  refine asked.bind fun active => ?_
  refine Only.ite (fun _ => ?_) fun _ => ignored.bind fun _ => trivial
  cases role with
  | master => exact absurd rfl h
  | standby | unassigned => exact released.bind fun _ => trivial

/-- A session can be opened where there is a key. -/
theorem held_of_refusal {d : Deployment} {e : CollaboratorError} (serving : d.Serving id held)
    (refused : (d.perform (.openSession id)).1 = some (.error e)) : held = false := by
  obtain ⟨_, quiet, key⟩ := serving
  have answered : (d.perform (.openSession id)).1 =
      ((d.slice id).perform (d.faultOf (.openSession id)) (.openSession id)).1 :=
    (d.perform_slice (a := .openSession id) rfl).1
  rw [answered, faultOf_of_quiet quiet, Slice.perform] at refused
  cases stored : d.keys.get? id with
  | none => rw [← key, SortedMap.contains, stored, Option.isSome_none]
  | some c =>
    have holds : (d.slice id).key? = some c := stored
    simp [Slice.openTo, holds, Slice.attempt] at refused

/-- A promotion removes credentials only where none are held. -/
theorem stays_promotion :
    (changeRole id .master).Stays (Serving id held) (Action.OfRole id r held) := by
  have connected : (connect id).Stays (Serving id held) (Action.OfRole id r held) := by
    refine within_bind.2 (within_ofAction (by simp [Action.OfRole, Action.Concerns]) ?_)
    intro _ record _ _
    by_cases already : record.state = .connected
    · rw [if_pos already]
      exact Only.stays (by simp [Action.OfRole, Action.Concerns])
    rw [if_neg already]
    refine within_bind.2 (within_ofAction (by simp [Action.OfRole, Action.Concerns]) ?_)
    rintro _ (_ | _) _ _
    · exact Only.stays (by simp [Action.OfRole, Action.Concerns])
    refine within_bind.2 (within_ofAction (by simp [Action.OfRole, Action.Concerns]) ?_)
    intro _ _ _ _
    refine within_bind.2 (within_ofAction (by simp [Action.OfRole, Action.Concerns]) ?_)
    rintro d (e | _) serving answered
    · have none := held_of_refusal id serving answered
      exact Only.stays (by simp [abandon, disconnectIfStored, warnOnRefusal, forall_except,
        Action.OfRole, Action.Concerns, StoreWrite.identity, none])
    · exact Only.stays (by simp [announceIfMissing, warnOnRefusal, forall_except, Action.OfRole,
        Action.Concerns, StoreWrite.identity])
  refine within_bind.2 (within_ofAction (.inl rfl) ?_)
  rintro _ (_ | _) _ _
  · exact Only.stays (by simp [Action.OfRole, Action.Concerns])
  · exact connected

/-- A promotion that made the record connected leaves its state alone. -/
theorem after_promotion : (changeRole id .master).After (.changeRecord id (.reached .connected))
    fun a => ∀ state, a ≠ .changeRecord id (.reached state) := by
  have connected : (connect id).After (.changeRecord id (.reached .connected))
      fun a => ∀ state, a ≠ .changeRecord id (.reached state) := by
    refine after_bind (by simp) fun record => ?_
    by_cases already : record.state = .connected
    · rw [if_pos already]
      exact after_of_only (by simp)
    rw [if_neg already]
    refine after_bind (by simp) fun answers => ?_
    cases answers with
    | false => exact after_of_only (by simp)
    | true =>
      refine after_bind (by simp) fun _ => after_bind (by simp) fun opened => ?_
      rcases opened with e | _
      · exact after_of_only (by simp [abandon, disconnectIfStored, warnOnRefusal, forall_except])
      · refine after_bind (fun _ _ => ?_) fun _ => after_of_only ?_
        all_goals simp [announceIfMissing, warnOnRefusal, forall_except]
  refine after_bind (by simp) fun active => ?_
  cases active with
  | false => exact after_of_only (by simp)
  | true => exact connected

section answers

variable {due : List Action}

theorem leads_readRecord {Q : DeviceRecord → List Action → Prop} (h : ∀ record, Q record due) :
    (readRecord id).Leads (Serving id held) due Q :=
  leads_ofAction fun _ _ => ⟨_, rfl, h _⟩

theorem leads_warnOnRefusal (attempt : Attempt) (reply : Except CollaboratorError Unit)
    {Q : Unit → List Action → Prop} (h : Q () due) :
    (warnOnRefusal attempt id reply).Leads (Serving id held) due Q := by
  cases reply with
  | ok _ =>
    cases due with
    | nil => trivial
    | cons => exact h
  | error e => exact leads_ofAction fun _ _ => ⟨(), rfl, h⟩

theorem answer_closeSession {d : Deployment} (serving : d.Serving id held) (force : Bool) :
    (d.perform (.closeSession id force)).1 = some (.ok ()) := by
  have answered : (d.perform (.closeSession id force)).1 =
      ((d.slice id).perform (d.faultOf (.closeSession id force)) (.closeSession id force)).1 :=
    (d.perform_slice (a := .closeSession id force) rfl).1
  rw [answered, faultOf_of_quiet serving.quiet]
  rfl

end answers

/-- Whatever happens meanwhile, a demotion closes the session, ends the record and is reported, in
this order. -/
theorem owes_demotion (demotion : r ≠ .master) : (changeRole id r).Owes (Serving id held)
    [.closeSession id false, .changeRecord id .ended, .reportRole id r r] := by
  have released : (Connection.release id r).Owes (Serving id held)
      [.closeSession id false, .changeRecord id .ended, .reportRole id r r] := by
    refine leads_bind.2 (leads_readRecord id fun record => ?_)
    refine leads_bind.2 (leads_self fun d serving => ⟨_, answer_closeSession id serving false, ?_⟩)
    refine leads_bind.2 (leads_warnOnRefusal id _ _ ?_)
    refine leads_bind.2 (leads_self fun d _ => ⟨_, rfl, ?_⟩)
    exact leads_bind.2 leads_last
  refine leads_bind.2 (leads_ofAction fun d serving => ⟨true, congrArg some serving.active, ?_⟩)
  have ended : (Job.bind (Connection.release id r)
      fun _ => done (.ok () : Except RoleError Unit)).Owes (Serving id held)
      [.closeSession id false, .changeRecord id .ended, .reportRole id r r] :=
    leads_bind.2 (released.mono fun _ _ never => never.elim)
  cases r with
  | master => exact absurd rfl demotion
  | standby | unassigned => exact ended

end roles

namespace Slice

variable {v v' : Slice} {id : Identity} {a : Action}

/-- Only closing a session closes it. -/
theorem Becomes.isOpen_eq_true (h : v.Becomes a v') (concerns : a.Concerns id)
    (other : ∀ force, a ≠ .closeSession id force) (isOpen : v.isOpen = true) :
    v'.isOpen = true := by
  cases h with
  | opened => rfl
  | closed id' force =>
    cases concerns
    exact absurd rfl (other force)
  | _ => exact isOpen

/-- Only another state and the end of the session take a record out of the state. -/
theorem Becomes.state_eq_connected (h : v.Becomes a v') (concerns : a.Concerns id)
    (ends : a ≠ .changeRecord id .ended) (moves : ∀ state, a ≠ .changeRecord id (.reached state))
    (connected : v.record.state = .connected) : v'.record.state = .connected := by
  cases h with
  | changed id' c =>
    cases concerns
    rw [record_change]
    cases c with
    | reached state => exact absurd rfl (moves state)
    | ended => exact absurd rfl ends
    | credentialsStored c => simp [RecordChange.apply, connected]
    | _ => exact connected
  | _ => exact connected

/-- Only credentials that are stored or removed change whether there are any. -/
theorem Becomes.key_isSome (h : v.Becomes a v') (concerns : a.Concerns id)
    (stores : ∀ c, a ≠ .storeKey id c) (removes : a = .removeKey id → v.key?.isSome = false) :
    v'.key?.isSome = v.key?.isSome := by
  cases h with
  | keyStored id' c =>
    cases concerns
    exact absurd rfl (stores c)
  | keyRemoved id' =>
    cases concerns
    exact (removes rfl).symm
  | _ => rfl

end Slice

namespace Deployment

variable {d : Deployment} {id : Identity} {r : Role} {held : Bool} {a : Action}

/-- A role change leaves accepted roles, faults and the key as they are. -/
theorem closed_serving (id : Identity) (r : Role) (held : Bool) :
    Crew.Closed (Serving id held) (Action.OfOrder id r held) where
  perform d o a serving ok := by
    obtain ⟨rfl | ⟨concerns, stores, removes, _⟩, _⟩ := ok
    · exact serving
    · obtain ⟨_, moved⟩ := d.perform_slice concerns
      have key := (Slice.becomes_perform (d.slice id) (d.faultOf a) a).key_isSome concerns stores
        fun same => serving.key.trans (removes same)
      rw [← moved.own] at key
      exact ⟨(congrArg Setting.active moved.setting).trans serving.active,
        moved.quiet serving.quiet, key.trans serving.key⟩
  sayAll _ _ serving := ⟨serving.active, serving.quiet, serving.key⟩

/-! ### The session -/

theorem closed_of_close (serving : d.Serving id held) :
    ((d.perform (.closeSession id false)).2.slice id).isOpen = false := by
  obtain ⟨_, moved⟩ := d.perform_slice (a := .closeSession id false) rfl
  rw [moved.own, faultOf_of_quiet serving.quiet]
  rfl

theorem closed_perform (serving : d.Serving id held) (ok : a.OfRole id r held)
    (other : ¬ (held = true ∧ a = .openSession id)) (closed : (d.slice id).isOpen = false) :
    ((d.perform a).2.slice id).isOpen = false := by
  rcases ok with rfl | ⟨concerns, _⟩
  · exact closed
  · obtain ⟨_, moved⟩ := d.perform_slice concerns
    rw [moved.own]
    exact (Slice.becomes_perform _ _ a).isOpen_eq_false concerns
      (fun ⟨key, opens⟩ => other ⟨serving.key.symm.trans key, opens⟩) closed

theorem open_of_open (serving : d.Serving id true) :
    ((d.perform (.openSession id)).2.slice id).isOpen = true := by
  obtain ⟨_, moved⟩ := d.perform_slice (a := .openSession id) rfl
  rw [moved.own, faultOf_of_quiet serving.quiet]
  obtain ⟨c, key⟩ := Option.isSome_iff_exists.1 serving.key
  have opened : (d.slice id).openTo id = .ok ((d.slice id).setOpen true) := by
    have key : (d.slice id).key? = some c := key
    rw [Slice.openTo, key]
  rw [Slice.perform, opened]
  rfl

theorem open_perform (ok : a.OfRole id r held) (other : a ≠ .closeSession id false)
    (isOpen : (d.slice id).isOpen = true) : ((d.perform a).2.slice id).isOpen = true := by
  rcases ok with rfl | ⟨concerns, _, _, gentle, _⟩
  · exact isOpen
  · obtain ⟨_, moved⟩ := d.perform_slice concerns
    rw [moved.own]
    refine (Slice.becomes_perform _ _ a).isOpen_eq_true concerns (fun force => ?_) isOpen
    cases force with
    | false => exact other
    | true => exact gentle

/-! ### The record -/

theorem apart_of_end : ((d.perform (.changeRecord id .ended)).2.slice id).record.state ≠
    .connected := by
  obtain ⟨_, moved⟩ := d.perform_slice (a := .changeRecord id .ended) rfl
  rw [moved.own]
  show (DeviceRecord.ended _).state ≠ .connected
  unfold DeviceRecord.ended
  cases h : (d.slice id).record.state <;> simp [ConnectionState.isLive]

theorem apart_perform (ok : a.OfRole id r held)
    (other : a ≠ .changeRecord id (.reached .connected))
    (apart : (d.slice id).record.state ≠ .connected) :
    ((d.perform a).2.slice id).record.state ≠ .connected := by
  rcases ok with rfl | ⟨concerns, _⟩
  · exact apart
  · obtain ⟨_, moved⟩ := d.perform_slice concerns
    rw [moved.own]
    exact (Slice.becomes_perform _ _ a).state_ne_connected concerns other apart

theorem connected_of_reach :
    ((d.perform (.changeRecord id (.reached .connected))).2.slice id).record.state =
      .connected := by
  obtain ⟨_, moved⟩ := d.perform_slice (a := .changeRecord id (.reached .connected)) rfl
  rw [moved.own]
  rfl

theorem connected_perform (ok : a.OfRole id r held) (ends : a ≠ .changeRecord id .ended)
    (moves : ∀ state, a ≠ .changeRecord id (.reached state))
    (connected : (d.slice id).record.state = .connected) :
    ((d.perform a).2.slice id).record.state = .connected := by
  rcases ok with rfl | ⟨concerns, _⟩
  · exact connected
  · obtain ⟨_, moved⟩ := d.perform_slice concerns
    rw [moved.own]
    exact (Slice.becomes_perform _ _ a).state_eq_connected concerns ends moves connected

/-! ### The reports -/

theorem reports_perform (concerns : a.Concerns id) :
    (d.perform a).2.reports id = d.reports id ++ a.call?.toList.filterMap (·.report? id) := by
  obtain ⟨_, moved⟩ := d.perform_slice concerns
  rw [reports, moved.calls, List.filterMap_append, reports]

theorem eq_reportRole {c : Call} {requested accepted : Role} (h : a.call? = some c)
    (reported : c.report? id = some (requested, accepted)) :
    a = .reportRole id requested accepted := by
  cases a with
  | reportRole id' requested' accepted' =>
    cases h
    by_cases same : id' = id
    · subst same
      simp only [Call.report?, if_true, Option.some.injEq, Prod.mk.injEq] at reported
      rw [reported.1, reported.2]
    · simp [Call.report?, same] at reported
  | writeStore w => cases w <;> cases h <;> cases reported
  | _ => first | cases h; cases reported | cases h

theorem reported_of_report (role : Role) :
    ((d.perform (.reportRole id role role)).2.reports id).getLast? = some (role, role) := by
  rw [reports_perform (a := .reportRole id role role) rfl]
  simp [Action.call?, Call.report?]

/-- Only the report of the other role takes the place of the report of a role. -/
theorem reported_perform {role other : Role}
    (roles : role = .master ∧ other = r ∨ role = r ∧ other = .master) (ok : a.OfRole id r held)
    (ne : a ≠ .reportRole id other other) (reported : (d.reports id).getLast? = some (role, role)) :
    ((d.perform a).2.reports id).getLast? = some (role, role) := by
  rcases ok with rfl | ⟨concerns, _, _, _, made⟩
  · exact reported
  rw [reports_perform concerns]
  cases hc : a.call? with
  | none => simpa using reported
  | some c =>
    cases hr : c.report? id with
    | none => simpa [hr] using reported
    | some pair =>
      obtain ⟨requested, accepted⟩ := pair
      have reports := eq_reportRole hc hr
      have same : (requested, accepted) = (role, role) := by
        rcases made _ _ reports with same | same
        · rcases roles with ⟨rfl, _⟩ | ⟨_, rfl⟩
          · exact same
          · cases same
            exact absurd reports ne
        · rcases roles with ⟨_, rfl⟩ | ⟨rfl, _⟩
          · cases same
            exact absurd reports ne
          · exact same
      simp [hr, same]

theorem reports_sayAll (d : Deployment) (lines : List LogLine) (id : Identity) :
    (d.sayAll lines).reports id = d.reports id := by
  simp [reports, sayAll, calls_note, Occurrence.call?]

end Deployment

/-! ## Both at the same time -/

theorem Pool.accepting_submit {τ : Type} (p : Pool τ) (t : τ) :
    (p.submit t).accepting = p.accepting := by
  unfold Pool.submit
  split <;> rfl

namespace Provider

variable (p : Provider) (id : Identity) {r : Role}

theorem submitConnection_of_accepting (o : Order) (accepting : p.connections.accepting = true) :
    p.submitConnection o =
      { p with connections := p.connections.submit (o.assignment p.settings) } :=
  if_pos accepting

/-- The workers of the connection pool, after a promotion and then another role were given to it. -/
def promotedThen (p : Provider) (id : Identity) (r : Role) : Crew :=
  ((p.submitConnection (.role id .master)).submitConnection (.role id r)).connectionCrew

theorem promotedThen_eq (accepting : p.connections.accepting = true) :
    p.promotedThen id r =
      ⟨(p.connections.submit ⟨.role id .master, Connection.changeRole id .master⟩).submit
        ⟨.role id r, Connection.changeRole id r⟩, p.deployment, []⟩ := by
  unfold promotedThen
  rw [p.submitConnection_of_accepting _ accepting, submitConnection_of_accepting]
  · rfl
  · rw [Pool.accepting_submit, accepting]

theorem pending_promotedThen (accepting : p.connections.accepting = true)
    (idle : p.connections.pending = []) :
    (p.promotedThen id r).pool.pending =
      [⟨.role id .master, Connection.changeRole id .master⟩,
        ⟨.role id r, Connection.changeRole id r⟩] := by
  rw [promotedThen_eq p id accepting]
  simp [Pool.pending_submit, Pool.accepting_submit, accepting, idle]

/-! ### Which of two actions wins -/

section outcome

variable {id : Identity} {r : Role} {held : Bool} {c c' : Crew} {moves : List Move}

theorem closed_iff (under : c.Under (Serving id held) (Action.OfOrder id r held))
    (first : c.deeds = []) (played : c.play moves = some c')
    (closes : .closeSession id false ∈ c'.deeds) :
    (c'.deployment.slice id).isOpen = false ↔
      ¬ (held = true ∧ c'.Prevails (.openSession id) (.closeSession id false)) := by
  constructor
  · rintro closed ⟨rfl, before, after, did, last⟩
    have isOpen := under.settled (closed_serving id r true) (· = .closeSession id false)
      (G := fun d => (d.slice id).isOpen = true) (fun _ => open_of_open)
      (fun _ _ _ _ ok other => open_perform ok.1 other) (fun _ _ isOpen => isOpen) played first did
      fun a ha same => last (same ▸ ha)
    exact Bool.false_ne_true (closed.symm.trans isOpen)
  · intro kept
    have settled : ∀ before after, c'.deeds = before ++ .closeSession id false :: after →
        (∀ a ∈ after, ¬ (held = true ∧ a = .openSession id)) →
        (c'.deployment.slice id).isOpen = false := fun before after did last =>
      under.settled (closed_serving id r held) (fun a => held = true ∧ a = .openSession id)
        (G := fun d => (d.slice id).isOpen = false) (fun _ => closed_of_close)
        (fun _ _ _ serving ok other => closed_perform serving ok.1 other) (fun _ _ closed => closed)
        played first did last
    rcases Crew.prevails_or (.openSession id) closes with ⟨before, after, did, last⟩ | opened
    · exact settled before after did fun a ha opens => last (opens.2 ▸ ha)
    · obtain ⟨before, after, did⟩ := List.append_of_mem closes
      exact settled before after did fun a _ opens => kept ⟨opens.1, opened⟩

theorem apart_iff (under : c.Under (Serving id held) (Action.OfOrder id r held))
    (first : c.deeds = []) (played : c.play moves = some c')
    (ends : .changeRecord id .ended ∈ c'.deeds)
    (final : ∀ before after, c'.deeds = before ++ .changeRecord id (.reached .connected) :: after →
      ∀ a ∈ after, ∀ state, a ≠ .changeRecord id (.reached state)) :
    (c'.deployment.slice id).record.state ≠ .connected ↔
      ¬ c'.Prevails (.changeRecord id (.reached .connected)) (.changeRecord id .ended) := by
  constructor
  · rintro apart ⟨before, after, did, last⟩
    refine apart (under.settled (closed_serving id r held)
      (fun a => a = .changeRecord id .ended ∨ ∃ state, a = .changeRecord id (.reached state))
      (G := fun d => (d.slice id).record.state = .connected) (fun _ _ => connected_of_reach)
      (fun _ _ _ _ ok other => ?_) (fun _ _ connected => connected) played first did ?_)
    · rw [not_or, not_exists] at other
      exact connected_perform ok.1 other.1 other.2
    · rintro a ha (rfl | ⟨state, same⟩)
      · exact last ha
      · exact final before after did a ha state same
  · intro kept
    obtain ⟨before, after, did, last⟩ := (Crew.prevails_or _ ends).resolve_right kept
    exact under.settled (closed_serving id r held)
      (· = .changeRecord id (.reached .connected))
      (G := fun d => (d.slice id).record.state ≠ .connected) (fun _ _ => apart_of_end)
      (fun _ _ _ _ ok other => apart_perform ok.1 other) (fun _ _ apart => apart) played first did
      fun a ha same => last (same ▸ ha)

/-- Of the reports of the two roles the later one stays. -/
theorem reported_of_prevails (under : c.Under (Serving id held) (Action.OfOrder id r held))
    (first : c.deeds = []) (played : c.play moves = some c') {role other : Role}
    (roles : role = .master ∧ other = r ∨ role = r ∧ other = .master)
    (later : c'.Prevails (.reportRole id role role) (.reportRole id other other)) :
    (c'.deployment.reports id).getLast? = some (role, role) := by
  obtain ⟨before, after, did, last⟩ := later
  exact under.settled (closed_serving id r held) (· = .reportRole id other other)
    (G := fun d => (d.reports id).getLast? = some (role, role))
    (fun _ _ => reported_of_report role) (fun _ _ _ _ ok ne => reported_perform roles ok.1 ne)
    (fun _ _ reported => by rwa [reports_sayAll]) played first did fun a ha same => last (same ▸ ha)

theorem reported_iff (under : c.Under (Serving id held) (Action.OfOrder id r held))
    (first : c.deeds = []) (played : c.play moves = some c') (demotion : r ≠ .master)
    (reports : .reportRole id r r ∈ c'.deeds) :
    (c'.deployment.reports id).getLast? = some (r, r) ↔
      ¬ c'.Prevails (.reportRole id .master .master) (.reportRole id r r) := by
  constructor
  · intro reported later
    have promoted := reported_of_prevails under first played (.inl ⟨rfl, rfl⟩) later
    rw [reported] at promoted
    exact demotion (congrArg Prod.fst (Option.some.inj promoted))
  · intro kept
    exact reported_of_prevails under first played (.inr ⟨rfl, rfl⟩)
      ((Crew.prevails_or _ reports).resolve_right kept)

/-- Where no promotion is pending and the session was not closed yet, what is still to be done is
the whole demotion, and no promotion. -/
theorem demotion_left (under : c.Under (Serving id held) (Action.OfOrder id r held))
    (first : c.deeds = []) {due : List Action}
    (owes : ∃ e ∈ c.pool.pending, e.rest.Owes (Serving id held) (.closeSession id false :: due))
    {before after : List Move} {v : Crew} (reached : c.play before = some v)
    (gone : ∀ e ∈ v.pool.pending, e.order ≠ .role id .master)
    (untouched : .closeSession id false ∉ v.deeds) (played : v.play after = some c')
    (finished : c'.pool.pending = []) :
    ∃ later, c'.deeds = v.deeds ++ later ∧ (.closeSession id false :: due).Sublist later ∧
      ∀ a ∈ later, ¬ a.Raises id := by
  have closed := closed_serving id r held
  have rest := under.play closed reached
  obtain ⟨_, later, did, kinds⟩ := rest.did closed played
  refine ⟨later, did, ?_, fun a ha => ?_⟩
  · obtain ⟨earlier, left, more, split, done, sub, owes⟩ := under.due closed reached owes
    rw [first, List.nil_append] at done
    subst done
    obtain rfl : earlier = [] := by
      cases earlier with
      | nil => rfl
      | cons a earlier =>
        cases split
        exact absurd (sub.subset (by simp)) untouched
    cases split
    obtain ⟨later', did', sub'⟩ := rest.owed closed played (owes.resolve_left (by simp)) finished
    cases List.append_cancel_left (did.symm.trans did')
    exact sub'
  · obtain ⟨o, ho, ok⟩ := kinds a ha
    obtain ⟨e, he, rfl⟩ := List.mem_map.1 ho
    exact ok.2 (gone e he)

end outcome

theorem under_promotedThen (active : p.deployment.active = true)
    (quiet : p.deployment.faults = .none) (accepting : p.connections.accepting = true)
    (idle : p.connections.pending = []) (demotion : r ≠ .master) :
    (p.promotedThen id r).Under (Serving id (p.deployment.keys.contains id))
      (Action.OfOrder id r (p.deployment.keys.contains id)) := by
  refine ⟨?_, fun e he => ?_⟩
  · rw [promotedThen_eq p id accepting]
    exact ⟨active, quiet, rfl⟩
  · simp only [p.pending_promotedThen id accepting idle, List.mem_cons, List.not_mem_nil,
      or_false] at he
    rcases he with rfl | rfl
    · exact (stays_promotion id).mono fun _ ok => ⟨ok, fun other => absurd rfl other⟩
    · exact ((only_demotion id _ r demotion).mono fun _ ok => ⟨ok.1, fun _ => ok.2⟩).stays

/-- The demotion is pending with all that it will do to the session, the record and the report. -/
theorem owes_promotedThen (accepting : p.connections.accepting = true)
    (idle : p.connections.pending = []) (demotion : r ≠ .master) :
    ∃ e ∈ (p.promotedThen id r).pool.pending,
      e.rest.Owes (Serving id (p.deployment.keys.contains id))
        [.closeSession id false, .changeRecord id .ended, .reportRole id r r] := by
  refine ⟨⟨.role id r, Connection.changeRole id r⟩, ?_, owes_demotion id demotion⟩
  simp [p.pending_promotedThen id accepting idle]

/-- The record becomes connected once, and then the promotion leaves its state alone. -/
theorem unmoved_of_promotedThen (accepting : p.connections.accepting = true)
    (idle : p.connections.pending = []) (demotion : r ≠ .master) {moves : List Move} {c : Crew}
    (played : (p.promotedThen id r).play moves = some c) {before after : List Action}
    (did : c.deeds = before ++ .changeRecord id (.reached .connected) :: after) :
    ∀ a ∈ after, ∀ state, a ≠ .changeRecord id (.reached state) := by
  have pending := p.pending_promotedThen id (r := r) accepting idle
  have first : (p.promotedThen id r).deeds = [] := by rw [p.promotedThen_eq id accepting]
  refine Crew.after_did (.role id .master) played first ?_ (fun e he own => ?_)
    (fun e he other => ?_) did
  · simp [pending, Ne.symm demotion]
  · simp only [pending, List.mem_cons, List.not_mem_nil, or_false] at he
    rcases he with rfl | rfl
    · exact after_promotion id
    · cases own
      exact absurd rfl demotion
  · simp only [pending, List.mem_cons, List.not_mem_nil, or_false] at he
    rcases he with rfl | rfl
    · exact absurd rfl other
    · refine (only_demotion id true r demotion).mono fun a ok => ?_
      have still : ∀ state, a ≠ .changeRecord id (.reached state) :=
        fun state same => ok.2 (.inr (.inl ⟨state, same⟩))
      exact ⟨still, still .connected⟩

/-- Of a promotion and the demotion that follows it the later one wins, for the session, the record
and the report each on its own: once both were carried out, the session is closed unless it was
opened after it was closed, the record is not connected unless it was made so after it was ended,
and the demotion was reported last unless the promotion was reported after it.  All three hold where
the promotion has ended before the demotion closes the session. -/
theorem demotion_wins (active : p.deployment.active = true) (quiet : p.deployment.faults = .none)
    (accepting : p.connections.accepting = true) (idle : p.connections.pending = [])
    (demotion : r ≠ .master) {moves : List Move} {c : Crew}
    (played : (p.promotedThen id r).play moves = some c) (finished : c.pool.pending = []) :
    -- Each of the three is decided by its own pair of actions.
    (c.deployment.sessions.contains id = false ↔ ¬ (p.deployment.keys.contains id = true ∧
        c.Prevails (.openSession id) (.closeSession id false))) ∧
      ((c.deployment.records.read id).state ≠ .connected ↔
        ¬ c.Prevails (.changeRecord id (.reached .connected)) (.changeRecord id .ended)) ∧
      ((c.deployment.reports id).getLast? = some (r, r) ↔
        ¬ c.Prevails (.reportRole id .master .master) (.reportRole id r r)) ∧
      -- All three hold if at some time the promotion is over and the session was not closed yet.
      ∀ before after v, moves = before ++ after → (p.promotedThen id r).play before = some v →
        (∀ e ∈ v.pool.pending, e.order ≠ .role id .master) → .closeSession id false ∉ v.deeds →
        c.deployment.sessions.contains id = false ∧
          (c.deployment.records.read id).state ≠ .connected ∧
          (c.deployment.reports id).getLast? = some (r, r) := by
  have under := p.under_promotedThen id active quiet accepting idle demotion
  have first : (p.promotedThen id r).deeds = [] := by rw [p.promotedThen_eq id accepting]
  have owes := p.owes_promotedThen id accepting idle demotion
  obtain ⟨all, did, sub⟩ := under.owed (closed_serving id r _) played owes finished
  rw [first, List.nil_append] at did
  subst did
  have session := closed_iff under first played (sub.subset (by simp))
  have record := apart_iff under first played (sub.subset (by simp)) fun _ _ did =>
    p.unmoved_of_promotedThen id accepting idle demotion played did
  have report := reported_iff under first played demotion (sub.subset (by simp))
  refine ⟨session, record, report, ?_⟩
  rintro before after v rfl reached gone untouched
  rw [Crew.play_append, reached, Option.bind_some] at played
  obtain ⟨later, did, sub, demoting⟩ := demotion_left under first owes reached gone untouched
    played finished
  have kept : ∀ {a b : Action}, a.Raises id → b ∈ later → ¬ c.Prevails a b :=
    fun promotes mem => Crew.not_prevails did (fun past => demoting _ past promotes) mem
  exact ⟨session.2 fun late => kept (.inl rfl) (sub.subset (by simp)) late.2,
    record.2 (kept (.inr (.inl ⟨_, rfl⟩)) (sub.subset (by simp))),
    report.2 (kept (.inr (.inr rfl)) (sub.subset (by simp)))⟩

/-! ### A promotion that is late -/

/-- A pass has brought the device into the store; role changes are accepted, and nothing fails. -/
def sample : Provider :=
  .fresh .default 16
    (Deployment.sample.after .default [.operation (.order .pass), .change (.plan .none)])

end Provider

/-- Both role changes begin, and the promotion ends. -/
def Move.promoted : List Move :=
  [.take, .take] ++ List.replicate 2 (.go 0) ++ List.replicate 2 (.go 1) ++
    List.replicate 7 (.go 0) ++ [.leave 0]

/-- Both role changes begin; the promotion ends before the demotion closes the session. -/
def Move.inOrder : List Move := Move.promoted ++ (List.replicate 4 (.go 0) ++ [.leave 0])

/-- Both role changes begin, and the demotion ends before the promotion goes on. -/
def Move.late : List Move :=
  [.take, .take] ++ List.replicate 6 (.go 1) ++ [.leave 1] ++ List.replicate 9 (.go 0) ++ [.leave 0]

namespace Provider

theorem demotion_wins_sample :
    ∃ c, (sample.promotedThen .sample .standby).play Move.inOrder = some c ∧
      c.deployment.sessions.contains .sample = false ∧
      (c.deployment.records.read .sample).state ≠ .connected ∧
      (c.deployment.reports .sample).getLast? = some (.standby, .standby) := by
  have begun : ((sample.promotedThen .sample .standby).play Move.promoted).any (fun v =>
      v.pool.pending.all (fun e => e.order != .role .sample .master) &&
        v.deeds.all fun a => !(a matches .closeSession _ _)) = true := by
    decide +kernel
  obtain ⟨v, reached, waits⟩ := (Option.any_eq_true _ _).1 begun
  rw [Bool.and_eq_true, List.all_eq_true, List.all_eq_true] at waits
  have ended : ((sample.promotedThen .sample .standby).play Move.inOrder).any (fun c =>
      c.pool.pending.isEmpty) = true := by
    decide +kernel
  obtain ⟨c, played, finished⟩ := (Option.any_eq_true _ _).1 ended
  have active : sample.deployment.active = true := by decide +kernel
  obtain ⟨_, _, _, wins⟩ := demotion_wins sample .sample active rfl rfl rfl (r := .standby)
    (by decide) played (List.isEmpty_iff.1 finished)
  exact ⟨c, played, wins _ _ v rfl reached (fun e he => by simpa using waits.1 e he)
    fun closed => by simpa using waits.2 _ closed⟩

/-- A promotion that is late wins over the demotion that was ordered after it. -/
theorem promotion_wins_late :
    ∃ c, (sample.promotedThen .sample .standby).play Move.late = some c ∧
      c.pool.isIdle = true ∧ c.deployment.sessions.contains .sample = true ∧
      (c.deployment.records.read .sample).state = .connected ∧
      (c.deployment.reports .sample).getLast? = some (.master, .master) := by
  have check : ((sample.promotedThen .sample .standby).play Move.late).any (fun c =>
      c.pool.isIdle && c.deployment.sessions.contains .sample &&
        decide ((c.deployment.records.read .sample).state = .connected ∧
          (c.deployment.reports .sample).getLast? = some (.master, .master))) = true := by
    decide +kernel
  obtain ⟨c, played, ended⟩ := (Option.any_eq_true _ _).1 check
  simp only [Bool.and_eq_true, decide_eq_true_iff] at ended
  exact ⟨c, played, ended.1.1, ended.1.2, ended.2⟩

end Provider

end Southbound
