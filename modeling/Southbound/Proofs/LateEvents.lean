import Southbound.Proofs.Isolation
import Southbound.Proofs.Link

/-!
# Session events that come late

The session controller publishes an event whenever a session is opened or closed, also when the
provider closes it itself.  A `Delivery` is a deployment together with the events that it has not
heard of yet; they are handled in order and once each, at any time between two steps of a run.

The event of an old session says nothing about a new one.  A provider that promotes a device while
the end of its last session is still to be heard of will take the new session for ended, and leave
it open (`Delivery.orphan_of_late_event`).  As long as it waits with promotions until the end of the
old session was heard of, sessions are open exactly while their records are connected, however late
all other events are (`Delivery.connected_iff_open`).  What carries the argument is that an open
session has no end that is still to be heard of (`Deployment.Heard`).
-/

namespace Southbound

open Connection Deployment Discovery Job Reconciliation

/-! ## Deliveries -/

namespace Deployment

/-- The session events that were published, oldest first. -/
def sessionEvents (d : Deployment) : List SessionEvent := d.history.filterMap (·.sessionEvent?)

end Deployment

/-- A deployment, and how many of the session events that it published were handled. -/
structure Delivery where
  deployment : Deployment
  handled : Nat

/-- A step of a run in which session events are handled some time after they were published. -/
inductive Delivery.Turn
  | step (step : Step)
  /-- The oldest event that was not handled yet is handled. -/
  | deliver

namespace Delivery

/-- The session events that were not handled yet, oldest first. -/
def pending (r : Delivery) : List SessionEvent := r.deployment.sessionEvents.drop r.handled

/-- An event is handled: the provider speaks, and carries out the order that the event becomes. -/
def handle (s : Settings) (d : Deployment) (e : SessionEvent) : Deployment :=
  let (lines, order) := Order.ofSessionEvent e
  match order with
  | some o => ((o.job s).run (d.sayAll lines)).2
  | none => d.sayAll lines

/-- What a turn comes to. -/
def apply (s : Settings) (r : Delivery) : Turn → Delivery
  | .step step => { r with deployment := step.apply s r.deployment }
  | .deliver =>
    match r.pending with
    | [] => r
    | e :: _ => ⟨handle s r.deployment e, r.handled + 1⟩

/-- What some turns come to. -/
def after (s : Settings) (r : Delivery) (turns : List Turn) : Delivery :=
  turns.foldl (apply s) r

/-- The turn may be taken: no device is promoted while the end of its last session is still to be
heard of, sessions can always be closed, and that a session ended is told by its event only. -/
def Admits (r : Delivery) : Turn → Prop
  | .step (.operation (.order (.role id .master))) => ⟨.removed, id⟩ ∉ r.pending
  | .step (.operation (.order (.sessionLost _))) => False
  | .step (.change (.plan f)) => f.Within .sessionsClose
  | _ => True

/-- Each of the turns may be taken when it is. -/
def AdmitsAll (s : Settings) (r : Delivery) : List Turn → Prop
  | [] => True
  | t :: rest => r.Admits t ∧ (r.apply s t).AdmitsAll s rest

end Delivery

/-! ## What actions do to sessions and their events -/

namespace Deployment

theorem sessionEvents_note (d : Deployment) (os : List Occurrence) :
    (d.note os).sessionEvents = d.sessionEvents ++ os.filterMap (·.sessionEvent?) := by
  simp [sessionEvents, note]

theorem sessionEvents_storeChanged (d : Deployment) (events : List StoreEvent) :
    (d.note (events.map .storeChanged)).sessionEvents = d.sessionEvents := by
  simp [sessionEvents_note, Occurrence.sessionEvent?]

theorem sessionEvents_sayAll (d : Deployment) (lines : List LogLine) :
    (d.sayAll lines).sessionEvents = d.sessionEvents := by
  simp [sayAll, sessionEvents_note, Occurrence.sessionEvent?]

/-- What an action can do to the open sessions, and what is published then. -/
inductive SessionsGo (d : Deployment) (a : Action) (d' : Deployment) : Prop
  | same (sessions : d'.sessions = d.sessions) (events : d'.sessionEvents = d.sessionEvents)
  | opened (id : Identity) (opens : a = .openSession id)
    (sessions : d'.sessions = d.sessions.insert id ())
    (events : d'.sessionEvents = d.sessionEvents ++ [⟨.added, id⟩])
  | closed (id : Identity) (force : Bool) (closes : a = .closeSession id force)
    (sessions : d'.sessions = d.sessions.erase id)
    (events : d'.sessionEvents = d.sessionEvents ++ [⟨.removed, id⟩])

theorem SessionsGo.of_same {d d' d'' : Deployment} {a : Action} (h : d'.SessionsGo a d'')
    (sessions : d'.sessions = d.sessions) (events : d'.sessionEvents = d.sessionEvents) :
    d.SessionsGo a d'' := by
  cases h with
  | same hs he => exact .same (hs.trans sessions) (he.trans events)
  | opened id opens hs he => exact .opened id opens (by rw [hs, sessions]) (by rw [he, events])
  | closed id force closes hs he =>
    exact .closed id force closes (by rw [hs, sessions]) (by rw [he, events])

theorem sessionEvents_meet (d : Deployment) (c : Call) (point : FaultPoint) :
    (d.meet c point).sessionEvents = d.sessionEvents := by
  have noted : (d.note [.called c]).sessionEvents = d.sessionEvents := by
    simp [sessionEvents_note, Occurrence.sessionEvent?]
  exact noted

theorem sessionsGo_attempt {d : Deployment} {a : Action} (c : Call) (point : FaultPoint)
    {effect : Deployment → Except CollaboratorError Deployment}
    (h : ∀ d' d'' : Deployment, d'.sessions = d.sessions → d'.sessionEvents = d.sessionEvents →
      effect d' = .ok d'' → d.SessionsGo a d'') :
    d.SessionsGo a (d.attempt c point effect).2 := by
  have events := sessionEvents_meet d c point
  have met : d.SessionsGo a (d.meet c point) := .same rfl events
  rw [attempt_eq]
  cases done : effect (d.meet c point) with
  | ok d' =>
    have went := h (d.meet c point) d' rfl events done
    rcases (d.faults point).next.1 with _ | _ | _ | _ | _ <;> first | exact went | exact met
  | error e => rcases (d.faults point).next.1 with _ | _ | _ | _ | _ <;> exact met

theorem sessionsGo_call {d : Deployment} {a : Action} {α : Type} (c : Call) (point : FaultPoint)
    {effect : Deployment → α × Deployment}
    (sessions : ∀ d' : Deployment, (effect d').2.sessions = d'.sessions)
    (events : ∀ d' : Deployment, (effect d').2.sessionEvents = d'.sessionEvents) :
    d.SessionsGo a (d.call c point effect).2 := by
  have met := sessionEvents_meet d c point
  rw [call_eq]
  split
  · exact .same rfl met
  · exact .same (sessions _) ((events _).trans met)

theorem sessionsGo_look {d : Deployment} {a : Action} {α : Type} (point : FaultPoint)
    (answer : Option Fault → α) : d.SessionsGo a (d.look point answer).2 := by
  rw [look_eq]
  exact .same rfl rfl

theorem sessionsGo_inquire {d : Deployment} {a : Action} {α : Type} (c : Call)
    (reply : Reply α) : d.SessionsGo a (d.inquire c reply).2 := by
  have asked : d.SessionsGo a (d.note [.called c]) := .same rfl (by
    simp [sessionEvents_note, Occurrence.sessionEvent?])
  cases reply <;> exact asked

theorem sessionsGo_write {d d' : Deployment} {a : Action} {w : StoreWrite}
    (h : d.writeStore w = .ok d') : d.SessionsGo a d' := by
  obtain ⟨store, events, _, rfl⟩ := d.of_writeStore h
  exact .same rfl (sessionEvents_storeChanged { d with store := store } events)

theorem sessionsGo_open {d d' : Deployment} {id : Identity} (h : d.openSession id = .ok d') :
    d.SessionsGo (.openSession id) d' := by
  obtain ⟨sessions, seen, opened, rfl⟩ := d.of_openSession h
  obtain ⟨c, -, ⟨-, rfl, rfl⟩ | ⟨-, rfl, rfl⟩⟩ := Sessions.of_openTo opened
  · exact .same rfl ((sessionEvents_note _ _).trans (List.append_nil _))
  · exact .opened id rfl rfl (sessionEvents_note _ _)

theorem sessionsGo_close (d : Deployment) (id : Identity) (force : Bool) :
    d.SessionsGo (.closeSession id force) (d.closeSession id force) := by
  unfold Deployment.closeSession
  obtain ⟨-, closed⟩ | ⟨-, unchanged⟩ := d.sessions.closeTo_cases id force
  · rw [closed]
    exact .closed id force rfl rfl (sessionEvents_note _ _)
  · rw [unchanged]
    exact .same rfl ((sessionEvents_note _ _).trans (List.append_nil _))

/-- Sessions are opened and closed by the actions that say so, and every time it is published. -/
theorem sessionsGo_perform (d : Deployment) (a : Action) : d.SessionsGo a (d.perform a).2 := by
  cases a with
  | log l => exact .same rfl (by simp [perform, Deployment.say, sessionEvents_note,
      Occurrence.sessionEvent?])
  | requestDevices appId =>
    have met := sessionEvents_meet d (.desiredDevices appId) .desiredDevices
    rw [requestDevices_eq]
    rcases (d.faults .desiredDevices).next.1 with _ | _ | _ | _ | _ <;> exact .same rfl met
  | probe id => exact sessionsGo_call _ _ (fun _ => rfl) fun _ => rfl
  | reportRole id requested accepted =>
    refine sessionsGo_call _ _ (fun _ => rfl) fun d' => ?_
    exact (sessionEvents_note _ _).trans (by simp [Occurrence.sessionEvent?, sessionEvents])
  | storeKey id c => exact sessionsGo_attempt _ _ fun _ _ hs he h => by cases h; exact .same hs he
  | removeKey id => exact sessionsGo_attempt _ _ fun _ _ hs he h => by cases h; exact .same hs he
  | openSession id =>
    exact sessionsGo_attempt _ _ fun _ _ hs he h => (sessionsGo_open h).of_same hs he
  | closeSession id force =>
    refine sessionsGo_attempt _ _ fun d' _ hs he h => ?_
    cases h
    exact (sessionsGo_close d' id force).of_same hs he
  | writeStore w =>
    exact sessionsGo_attempt _ _ fun _ _ hs he h => (sessionsGo_write h).of_same hs he
  | lookUp id => exact sessionsGo_look _ _
  | isAvailable id => exact sessionsGo_look _ _
  | isLocalMaster id => exact sessionsGo_look _ _
  | masterOf id => exact sessionsGo_look _ _
  | discoverDetails id reply => exact sessionsGo_inquire _ reply
  | discoverPortDetails id reply => exact sessionsGo_inquire _ reply
  | listPorts id reply => exact sessionsGo_inquire _ reply
  | discoverStatistics id reply => exact sessionsGo_inquire _ reply
  | _ => exact .same rfl rfl

/-! ## No open session has an end that is still to be heard of -/

/-- Of the events that were published, and not handled, none tells the end of the session of a
device. -/
def Unended (handled : Nat) (id : Identity) (d : Deployment) : Prop :=
  ⟨.removed, id⟩ ∉ d.sessionEvents.drop handled

/-- An open session has no end that is still to be heard of. -/
def Heard (handled : Nat) (d : Deployment) : Prop :=
  ∀ id, d.sessions.contains id = true → d.Unended handled id

variable {handled : Nat} {d : Deployment} {a : Action}

theorem Unended.extend {id : Identity} {d' : Deployment} {e : SessionEvent}
    (h : d.Unended handled id) (events : d'.sessionEvents = d.sessionEvents ++ [e])
    (other : e ≠ ⟨.removed, id⟩) : d'.Unended handled id := by
  unfold Unended
  rw [events, List.drop_append]
  intro pending
  rcases List.mem_append.1 pending with earlier | now
  · exact h earlier
  · exact other (List.mem_singleton.1 (List.mem_of_mem_drop now)).symm

/-- Only closing a session can end it. -/
theorem unended_perform {id : Identity} (ne : ∀ force, a ≠ .closeSession id force)
    (h : d.Unended handled id) : (d.perform a).2.Unended handled id := by
  rcases d.sessionsGo_perform a with
    ⟨_, events⟩ | ⟨id', _, _, events⟩ | ⟨id', force, closes, _, events⟩
  · unfold Unended at h ⊢
    rwa [events]
  · exact h.extend events nofun
  · refine h.extend events ?_
    rintro ⟨⟩
    exact ne force closes

/-- A session may be opened when the end of the last one was heard of; anything else may always be
done. -/
theorem heard_perform (opens : ∀ id, a = .openSession id → d.Unended handled id)
    (h : d.Heard handled) : (d.perform a).2.Heard handled := by
  intro id isOpen
  rcases d.sessionsGo_perform a with
    ⟨sessions, events⟩ | ⟨id', rfl, sessions, _⟩ | ⟨id', force, rfl, sessions, _⟩
  · rw [sessions] at isOpen
    have unended := h id isOpen
    unfold Unended at unended ⊢
    rwa [events]
  · refine unended_perform (by simp) ?_
    by_cases same : id = id'
    · exact opens id (by rw [same])
    · rw [sessions, SortedMap.contains, SortedMap.get?_insert_of_ne _ _ same] at isOpen
      exact h id isOpen
  · rw [sessions, SortedMap.contains, SortedMap.get?_erase] at isOpen
    by_cases same : id = id'
    · simp [same] at isOpen
    · rw [if_neg same] at isOpen
      refine unended_perform ?_ (h id isOpen)
      simpa using Ne.symm same

end Deployment

/-! ## What operations do to sessions -/

namespace Job

variable {α : Type} {id : Identity}

/-- The job opens no session. -/
abbrev Unopening (j : Job α) : Prop := j.Only fun a => ∀ id, a ≠ .openSession id

/-- A job about one device opens no session if it does not open the one of the device. -/
theorem Only.unopening {j : Job α} (only : j.Only (Action.Unopening id)) : j.Unopening := by
  refine only.mono ?_
  rintro a ⟨concerns, ne⟩ id' rfl
  cases concerns
  exact ne rfl

theorem unopening_ofAction {a : Action} (ne : ∀ id, a ≠ .openSession id) :
    (ofAction a).Unopening :=
  only_ofAction ne

/-- Sessions are opened on promotion only. -/
theorem unopening_operation (s : Settings) {o : Operation}
    (unpromoted : ∀ id, o ≠ .order (.role id .master)) : (o.job s).Unopening := by
  let K := Kind.only fun a => ∀ id, a ≠ .openSession id
  have logs : ∀ l, K.ok (.log l) := fun _ _ => by simp
  have reads : ∀ appId, K.mem (desiredDevices appId) := fun _ =>
    (unopening_ofAction fun _ => by simp).bind fun _ => unopening_ofAction fun _ => by simp
  have devices : ∀ id device, K.mem (reconcileDevice id device) := fun id device =>
    (only_reconcileDevice id device).unopening
  have torn : ∀ id, K.mem (tearDown id) := fun id => (only_tearDown id).unopening
  refine Kind.mem_operation (K := K) s
    (Kind.mem_reconcileAll logs reads devices (fun _ _ => by simp) (fun _ => by simp) s)
    (Kind.mem_reconcileOne logs reads devices s) (fun id => (only_sessionLost id).unopening)
    (fun e => (only_reactToStore s e).unopening) (fun id role same => ?_)
    (fun id => (only_deviceRemoved id).unopening) torn
    (Kind.mem_tearDownAll (fun _ => by simp) torn) fun id => (only_discoverPorts id).unopening
  refine Kind.mem_changeRole (fun _ => by simp) logs (fun promotion => ?_) fun _ =>
    (only_release id role).unopening
  exact absurd (promotion ▸ same) (unpromoted id)

end Job

namespace Deployment

variable {handled : Nat} {d : Deployment}

theorem heard_run {α : Type} {j : Job α} (unopening : j.Unopening) (h : d.Heard handled) :
    (j.run d).2.Heard handled :=
  unopening.run (P := fun d => d.Heard handled)
    (fun _ _ ne h => heard_perform (fun id opens => absurd opens (ne id)) h) h

/-- A promotion opens the session of its device only. -/
theorem heard_promotion {id : Identity} (unended : d.Unended handled id) (h : d.Heard handled) :
    ((changeRole id .master).run d).2.Heard handled := by
  have only : (answerRole id .master d.active).Only (Action.Unclosing id) :=
    Only.ite (fun _ => only_connect id) fun _ => by simp [Action.Unclosing, Action.Concerns]
  have kept := only.run (P := fun d => d.Heard handled ∧ d.Unended handled id)
    (fun d a ok both => ?_) (d := d) ⟨h, unended⟩
  · rw [run_changeRole]
    exact kept.1
  · refine ⟨heard_perform (fun id' opens => ?_) both.1, unended_perform ok.2 both.2⟩
    have same : id' = id := by
      have concerns := ok.1
      rwa [opens] at concerns
    rw [same]
    exact both.2

theorem heard_change (c : Change) (h : d.Heard handled) : (c.apply d).Heard handled := by
  cases c with
  | remove id =>
    have silent : (d.removeDevice id).sessionEvents = d.sessionEvents :=
      sessionEvents_storeChanged { d with store := (d.store.remove id).1 } (d.store.remove id).2
    intro id' isOpen
    have unended := h id' isOpen
    unfold Unended at unended ⊢
    simpa only [Change.apply, silent] using unended
  | _ => exact h

end Deployment

/-! ## Throughout a run -/

namespace Delivery

variable {s : Settings} {r : Delivery}

/-- What holds at all times while promotions wait. -/
structure Calm (r : Delivery) : Prop where
  settled : r.deployment.Holds .sessionsClose fun v => v.link.Settled
  heard : r.deployment.Heard r.handled

theorem calm_step {step : Step} (admitted : r.Admits (.step step)) (h : r.Calm) :
    (r.apply s (.step step)).Calm := by
  cases step with
  | change c =>
    have orderly : r.deployment.Orderly (.change c) := by
      cases c with
      | plan f => exact admitted
      | _ => trivial
    exact ⟨holds_of_orderly orderly h.settled, heard_change c h.heard⟩
  | operation o =>
    have harmless : ∀ id, o = .order (.sessionLost id) →
        (r.deployment.slice id).isOpen = false := by
      rintro id rfl
      exact admitted.elim
    refine ⟨Link.settled_invariant.operation s o h.settled harmless, ?_⟩
    by_cases promotion : ∃ id, o = .order (.role id .master)
    · obtain ⟨id, rfl⟩ := promotion
      exact heard_promotion admitted h.heard
    · exact heard_run (unopening_operation s fun id same => promotion ⟨id, same⟩) h.heard

theorem calm_handle {e : SessionEvent} {later : List SessionEvent}
    (next : r.pending = e :: later) (h : r.Calm) :
    (Delivery.mk (handle s r.deployment e) (r.handled + 1)).Calm := by
  have due : e ∈ r.deployment.sessionEvents.drop r.handled := by
    rw [show r.deployment.sessionEvents.drop r.handled = e :: later from next]
    exact .head _
  have said : ∀ lines, (r.deployment.sayAll lines).Heard (r.handled + 1) := by
    intro lines id isOpen pending
    rw [sessionEvents_sayAll, ← List.drop_drop] at pending
    exact h.heard id isOpen (List.mem_of_mem_drop pending)
  have settled : ∀ lines, (r.deployment.sayAll lines).Holds .sessionsClose fun v =>
      v.link.Settled :=
    fun _ => ⟨h.settled.within, h.settled.every⟩
  obtain ⟨change, id⟩ := e
  cases change with
  | added => exact ⟨settled _, said _⟩
  | removed =>
    have closed : (r.deployment.slice id).isOpen = false := by
      rw [← Bool.not_eq_true]
      exact fun isOpen => h.heard id isOpen due
    have harmless : ∀ id', Operation.order (.sessionLost id) = .order (.sessionLost id') →
        ((r.deployment.sayAll []).slice id').isOpen = false := by
      rintro id' ⟨⟩
      exact closed
    refine ⟨Link.settled_invariant.operation s (.order (.sessionLost id)) (settled []) harmless, ?_⟩
    exact heard_run (unopening_operation s (o := .order (.sessionLost id)) nofun) (said [])

theorem calm_turn {t : Turn} (admitted : r.Admits t) (h : r.Calm) : (r.apply s t).Calm := by
  cases t with
  | step step => exact calm_step admitted h
  | deliver =>
    unfold apply
    cases next : r.pending with
    | nil => exact h
    | cons e later => exact calm_handle next h

theorem calm_after {turns : List Turn} (admitted : r.AdmitsAll s turns) (h : r.Calm) :
    (r.after s turns).Calm := by
  induction turns generalizing r with
  | nil => exact h
  | cons t rest ih => exact ih admitted.2 (calm_turn admitted.1 h)

/-- However late session events are handled, sessions are open exactly while their records are
connected, as long as promotions wait until the end of the last session was heard of. -/
theorem connected_iff_open (records : r.deployment.records = ∅)
    (sessions : r.deployment.sessions = ∅) (within : r.deployment.faults.Within .sessionsClose)
    {turns : List Turn} (admitted : r.AdmitsAll s turns) (id : Identity) :
    let d := (r.after s turns).deployment
    d.sessions.contains id = true ↔ (d.records.read id).state = .connected := by
  have fresh : r.deployment.Heard r.handled := by
    intro id isOpen
    rw [sessions] at isOpen
    cases isOpen
  have start : r.deployment.Reaches s Orderly r.deployment := .refl
  have calm := calm_after admitted ⟨start.settled records sessions within, fresh⟩
  exact (calm.settled.every id).open_iff

theorem admitsAll_append {first last : List Turn} :
    r.AdmitsAll s (first ++ last) ↔ r.AdmitsAll s first ∧ (r.after s first).AdmitsAll s last := by
  induction first generalizing r with
  | nil => simp [AdmitsAll, after]
  | cons t rest ih => simp [AdmitsAll, after, ih, and_assoc]

/-! ### An event between two sessions -/

/-- The device is promoted and demoted, and then so many events are handled. -/
def Turn.handover (heard : Nat) : List Turn :=
  (Step.promotion ++ [Step.operation (.order (.role .sample .standby))]).map Turn.step ++
    List.replicate heard .deliver

/-- The device is promoted once more, and then all other events are handled. -/
def Turn.reconnection (heard : Nat) : List Turn :=
  Turn.handover heard ++ .step (.operation (.order (.role .sample .master))) ::
    List.replicate (3 - heard) .deliver

/-- A promotion that waits for the end of the last session keeps its session. -/
theorem connected_iff_open_reconnection :
    let d := (after .default ⟨Deployment.sample, 0⟩ (Turn.reconnection 2)).deployment
    d.sessions.contains .sample = true ∧ (d.records.read .sample).state = .connected := by
  have fresh : ⟨.removed, .sample⟩ ∉ (apply .default ⟨Deployment.sample, 0⟩
      (.step (.operation (.order .pass)))).pending := by
    decide +kernel
  have heard : ⟨.removed, .sample⟩ ∉
      (after .default ⟨Deployment.sample, 0⟩ (Turn.handover 2)).pending := by
    decide +kernel
  have admitted : AdmitsAll .default ⟨Deployment.sample, 0⟩ (Turn.reconnection 2) :=
    admitsAll_append.2
      ⟨⟨trivial, fresh, trivial, trivial, trivial, trivial⟩, heard, trivial, trivial⟩
  have isOpen : (after .default ⟨Deployment.sample, 0⟩
      (Turn.reconnection 2)).deployment.sessions.contains .sample = true := by
    decide +kernel
  have agreed := connected_iff_open rfl rfl (Faults.within_none _) admitted .sample
  exact ⟨isOpen, agreed.1 isOpen⟩

/-- The end of a session that is heard of after the next one was opened leaves that one open with a
record that is disconnected, when nothing is left to be heard of. -/
theorem orphan_of_late_event :
    let r := after .default ⟨Deployment.sample, 0⟩ (Turn.reconnection 0)
    r.pending = [] ∧ r.deployment.sessions.contains .sample = true ∧
      (r.deployment.records.read .sample).state = .disconnected := by
  decide +kernel

end Delivery

end Southbound
