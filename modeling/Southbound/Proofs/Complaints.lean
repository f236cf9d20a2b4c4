import Southbound.Proofs.Publications

/-!
# Refusals and what is told of them

Calls are refused, and lines of the log tell of refusals.  An `Account` is kept beside a job, of
the refusals that were not told yet: an action that is refused adds to it, and a line takes off it
what it tells of.  `Job.Balances` says with which account a job ends where every call is answered,
if only by a refusal, and `Job.Balances.run` what that means for a run: lines and refusals
correspond one to one, but for what the account still has.

Most jobs leave the account as they found it (`Job.Even`).  Jobs of that kind are put together by
`Job.Even.bind`, and by `Job.Calls.even` where a call is refused and the refusal is told later.
-/

namespace Southbound

open Connection Deployment Job

/-! ## Refusals and the lines that tell of them -/

/-- A call that was refused, and the words of the refusal. -/
structure Refusal where
  call : Call
  text : String
deriving DecidableEq

/-- Whether a session was to be opened. -/
def Call.isOpening : Call → Bool
  | openSession _ => true
  | _ => false

/-- The refusal, if the answer is one. -/
def Action.refusal? : (a : Action) → a.Answer → Option Refusal
  | .receiveDevices _ appId, .error e => some ⟨.desiredDevices appId, e.message⟩
  | .storeKey id c, .error e => some ⟨.storeKey id c, e.message⟩
  | .removeKey id, .error e => some ⟨.removeKey id, e.message⟩
  | .openSession id, .error e => some ⟨.openSession id, e.message⟩
  | .closeSession id force, .error e => some ⟨.closeSession id force, e.message⟩
  | .writeStore w, .error e => some ⟨(Deployment.storeCall w).1, e.message⟩
  | .discoverDetails id _, .error e => some ⟨.discoverDetails id, e.message⟩
  | .discoverPortDetails id _, .error e => some ⟨.discoverPortDetails id, e.message⟩
  | .listPorts id _, .error e => some ⟨.listPorts id, e.message⟩
  | .discoverStatistics id _, .error e => some ⟨.discoverStatistics id, e.message⟩
  | _, _ => none

/-- Whether the call is of the kind that was attempted on the device. -/
def Attempt.isOf (id : Identity) : Attempt → Call → Bool
  | storeCredentials, .storeKey id' _ => id' == id
  | removeCredentials, .removeKey id' => id' == id
  | openSession, .openSession id' => id' == id
  | closeSession, .closeSession id' force | closeUnreachable, .closeSession id' force =>
    id' == id && !force
  | forceClose, .closeSession id' force => id' == id && force
  | announce, .deviceConnected id' _ | announceAvailable, .deviceConnected id' _ => id' == id
  | markDisconnected, .deviceDisconnected id' => id' == id
  | updatePorts, .updatePorts id' _ => id' == id
  | updateStatistics, .updateStatistics id' _ => id' == id
  | _, _ => false

/-- Whether the call is of the kind that was asked of the driver of the device. -/
def Inquiry.isOf (id : Identity) : Inquiry → Call → Bool
  | description, .discoverDetails id' => id' == id
  | ports, .discoverPortDetails id' | ports, .listPorts id' => id' == id
  | statistics, .discoverStatistics id' => id' == id
  | _, _ => false

namespace LogLine

/-- Whether the line is about a call of this kind that was refused. -/
def isAbout (c : Call) : LogLine → Bool
  | callFailed attempt id _ => attempt.isOf id c
  | discoveryFailed inquiry id _ => inquiry.isOf id c
  | configUnreadable _ => match c with
    | .desiredDevices _ => true
    | _ => false
  | _ => false

/-- Whether the line is about a refusal. -/
def isComplaint : LogLine → Bool
  | callFailed _ _ _ | discoveryFailed _ _ _ | configUnreadable _ => true
  | _ => false

/-- The line tells the operator of the refusal, and ends in its words. -/
structure Tells (l : LogLine) (r : Refusal) : Prop where
  about : l.isAbout r.call = true
  urgent : l.level = .warn ∨ l.level = .error
  words : ∃ start, l.message = start ++ r.text

variable {attempt : Attempt} {inquiry : Inquiry} {id : Identity} {c : Call}

theorem tells_callFailed (h : attempt.isOf id c = true) (e : CollaboratorError) :
    (callFailed attempt id e).Tells ⟨c, e.message⟩ := by
  refine ⟨h, ?_, attempt.text id ++ ": ", rfl⟩
  cases attempt <;> simp [level]

theorem tells_discoveryFailed (h : inquiry.isOf id c = true) (e : DiscoveryError) :
    (discoveryFailed inquiry id e).Tells ⟨c, e.message⟩ :=
  ⟨h, .inl rfl, s!"{inquiry.text} discovery failed for {id}: ", rfl⟩

theorem tells_configUnreadable (appId : String) (e : ConfigReadError) :
    (configUnreadable e).Tells ⟨.desiredDevices appId, e.message⟩ :=
  ⟨rfl, .inr rfl, "cannot read desired devices: ", rfl⟩

end LogLine

/-! ## What the log has of refusals -/

/-- The line about a refusal, if it is one. -/
def Occurrence.complaint? : Occurrence → Option LogLine
  | logged l => if l.isComplaint then some l else none
  | called _ | storeChanged _ | sessionChanged _ => none

namespace Deployment

/-- The lines about refusals, oldest first. -/
def complaints (d : Deployment) : List LogLine := d.history.filterMap (·.complaint?)

variable {d : Deployment}

theorem complaints_note (d : Deployment) (os : List Occurrence) :
    (d.note os).complaints = d.complaints ++ os.filterMap (·.complaint?) := by
  simp [complaints, note]

theorem complaints_quiet {os : List Occurrence} (quiet : os.filterMap (·.complaint?) = [])
    (d : Deployment) : (d.note os).complaints = d.complaints := by
  rw [complaints_note, quiet, List.append_nil]

theorem complaints_meet (d : Deployment) (c : Call) (point : FaultPoint) :
    (d.meet c point).complaints = d.complaints :=
  have quiet : [Occurrence.called c].filterMap (·.complaint?) = [] := rfl
  complaints_quiet quiet d

theorem complaints_call {α : Type} (c : Call) (point : FaultPoint)
    {effect : Deployment → α × Deployment}
    (quiet : ∀ d' : Deployment, (effect d').2.complaints = d'.complaints) :
    (d.call c point effect).2.complaints = d.complaints := by
  have met := complaints_meet d c point
  rw [call_eq]
  split
  · exact met
  · exact (quiet _).trans met

theorem complaints_attempt (c : Call) (point : FaultPoint)
    {effect : Deployment → Except CollaboratorError Deployment}
    (quiet : ∀ d' d'' : Deployment, effect d' = .ok d'' → d''.complaints = d'.complaints) :
    (d.attempt c point effect).2.complaints = d.complaints := by
  have met := complaints_meet d c point
  rw [attempt_eq]
  cases done : effect (d.meet c point) with
  | ok d' =>
    have went := (quiet _ d' done).trans met
    rcases (d.faults point).next.1 with _ | _ | _ | _ | _ <;> first | exact went | exact met
  | error e => rcases (d.faults point).next.1 with _ | _ | _ | _ | _ <;> exact met

theorem complaints_look {α : Type} (point : FaultPoint) (answer : Option Fault → α) :
    (d.look point answer).2.complaints = d.complaints := by
  rw [look_eq]
  rfl

theorem complaints_inquire {α : Type} (c : Call) (reply : Reply α) :
    (d.inquire c reply).2.complaints = d.complaints := by
  have asked : (d.note [.called c]).complaints = d.complaints := complaints_quiet rfl d
  cases reply <;> exact asked

/-- The systems around the provider do not tell of refusals. -/
theorem complaints_perform {a : Action} (other : ∀ l, a ≠ .log l) :
    (d.perform a).2.complaints = d.complaints := by
  cases a with
  | log l => exact absurd rfl (other l)
  | requestDevices appId =>
    have met := complaints_meet d (.desiredDevices appId) .desiredDevices
    rw [requestDevices_eq]
    rcases (d.faults .desiredDevices).next.1 with _ | _ | _ | _ | _ <;> exact met
  | probe id => exact complaints_call _ _ fun _ => rfl
  | reportRole id requested accepted =>
    exact complaints_call _ _ fun d' => complaints_quiet rfl _
  | storeKey id c => exact complaints_attempt _ _ fun _ _ h => by cases h; rfl
  | removeKey id => exact complaints_attempt _ _ fun _ _ h => by cases h; rfl
  | openSession id =>
    refine complaints_attempt _ _ fun _ _ opened => ?_
    obtain ⟨sessions, seen, opens, rfl⟩ := of_openSession _ opened
    refine complaints_quiet ?_ _
    obtain ⟨c, -, ⟨-, -, rfl⟩ | ⟨-, -, rfl⟩⟩ := Sessions.of_openTo opens <;> rfl
  | closeSession id force =>
    refine complaints_attempt _ _ fun d' _ closed => ?_
    obtain rfl := Except.ok.inj closed
    have quiet : (d'.sessions.closeTo id force).2.filterMap (·.complaint?) = [] := by
      obtain ⟨-, same⟩ | ⟨-, same⟩ := d'.sessions.closeTo_cases id force <;> rw [same] <;> rfl
    exact complaints_quiet quiet _
  | writeStore w =>
    refine complaints_attempt _ _ fun _ _ written => ?_
    obtain ⟨store, events, _, rfl⟩ := of_writeStore _ written
    refine complaints_quiet ?_ _
    simp [List.filterMap_map, Occurrence.complaint?]
  | lookUp id => exact complaints_look _ _
  | isAvailable id => exact complaints_look _ _
  | isLocalMaster id => exact complaints_look _ _
  | masterOf id => exact complaints_look _ _
  | discoverDetails id reply => exact complaints_inquire _ reply
  | discoverPortDetails id reply => exact complaints_inquire _ reply
  | listPorts id reply => exact complaints_inquire _ reply
  | discoverStatistics id reply => exact complaints_inquire _ reply
  | _ => rfl

theorem complaints_log (d : Deployment) (l : LogLine) :
    (d.perform (.log l)).2.complaints = d.complaints ++ if l.isComplaint then [l] else [] := by
  show (d.note [.logged l]).complaints = _
  rw [complaints_note]
  by_cases complains : l.isComplaint = true <;> simp [Occurrence.complaint?, complains]

end Deployment

/-! ## Where every call is answered -/

/-- Every call is answered, if only by a refusal. -/
def Hazards.answered : Hazards := fun _ fault => fault ≠ .crash ∧ fault ≠ .hold

/-- The driver answers whatever it is asked, if only by a failure. -/
structure Driver.Answers (driver : Driver) : Prop where
  description : ∀ replies, driver.description = some replies →
    replies.details ≠ .crash ∧ replies.ports ≠ .crash
  ports : driver.ports ≠ some .crash
  portStatistics : driver.portStatistics ≠ some .crash

/-- Every call and every inquiry is answered. -/
structure Deployment.Answers (d : Deployment) : Prop where
  calls : d.faults.Within .answered
  drivers : ∀ id, ((d.drivers.get? id).getD ∅).Answers

namespace Action

/-- What the action can come to where every call is answered. -/
def Yields : (a : Action) → a.Answer → Prop
  | .requestDevices _, ticket => ticket = none
  | .lookUp _, device? => ∀ device, device? = some device → device.driver.Answers
  | _, _ => True

/-- The action is answered where every call is: it waits for nothing, and the reply that it asks a
driver for is given. -/
def isAnswered : Action → Prop
  | receiveDevices ticket _ => ticket = none
  | discoverDetails _ reply => reply ≠ .crash
  | discoverPortDetails _ reply | listPorts _ reply => reply ≠ .crash
  | discoverStatistics _ reply => reply ≠ .crash
  | _ => True

end Action

namespace Deployment

variable {d : Deployment}

theorem drivers_perform (a : Action) : (d.perform a).2.drivers = d.drivers := by
  by_cases about : ∃ id, a.Concerns id
  · obtain ⟨id, concerns⟩ := about
    exact congrArg Setting.drivers (d.perform_slice concerns).2.setting
  · have unconcerned := not_exists.1 about
    cases a with
    | isActive | setActive | registered | receiveDevices | markDesired | prune => rfl
    | requestDevices appId =>
      rw [requestDevices_eq]
      rcases (d.faults .desiredDevices).next.1 with _ | _ | _ | _ | _ <;> rfl
    | log l => exact absurd trivial (unconcerned (.sample))
    | writeStore w => exact absurd rfl (unconcerned w.identity)
    | _ => exact absurd rfl (unconcerned _)

theorem Answers.perform (h : d.Answers) (a : Action) : (d.perform a).2.Answers :=
  ⟨within_perform h.calls a, by rw [drivers_perform]; exact h.drivers⟩

section

variable (h : d.Answers)

include h

theorem Answers.fault (point : FaultPoint) :
    (d.faults point).next.1 ≠ some .crash ∧ (d.faults point).next.1 ≠ some .hold := by
  have planned := (h.calls point).next.1
  exact ⟨fun crash => (planned _ crash).1 rfl, fun hold => (planned _ hold).2 rfl⟩

theorem Answers.call {α : Type} (c : Call) (point : FaultPoint)
    (effect : Deployment → α × Deployment) : ∃ answer, (d.call c point effect).1 = some answer := by
  rw [call_eq, if_neg (h.fault point).1]
  exact ⟨_, rfl⟩

theorem Answers.attempt (c : Call) (point : FaultPoint)
    (effect : Deployment → Except CollaboratorError Deployment) :
    ∃ answer, (d.attempt c point effect).1 = some answer := by
  have fault := (h.fault point).1
  rw [attempt_eq]
  rcases hf : (d.faults point).next.1 with _ | _ | _ | _ | _
  case some.crash => exact absurd hf fault
  all_goals
    dsimp only
    first
      | exact ⟨_, rfl⟩
      | cases effect (d.meet c point) <;> exact ⟨_, rfl⟩

theorem Answers.look {α : Type} (point : FaultPoint) (answer : Option Fault → α) :
    (d.look point answer).1 = some (answer (d.faults point).next.1) := by
  rw [look_eq, Slice.unlessCrash, if_neg (h.fault point).1]

end

theorem inquire_answers {α : Type} (c : Call) {reply : Reply α} (given : reply ≠ .crash) :
    ∃ answer, (d.inquire c reply).1 = some answer := by
  cases reply with
  | crash => exact absurd rfl given
  | _ => exact ⟨_, rfl⟩

theorem Answers.yields (h : d.Answers) {a : Action} (answered : a.isAnswered) :
    d.isReady a = true ∧ ∃ answer, (d.perform a).1 = some answer ∧ a.Yields answer := by
  have any : ∀ {a : Action} (answer : Option a.Answer), (∀ x, a.Yields x) →
      (∃ x, answer = some x) → ∃ x, answer = some x ∧ a.Yields x :=
    fun _ yields ⟨x, hx⟩ => ⟨x, hx, yields x⟩
  cases a with
  | receiveDevices ticket appId =>
    cases answered
    exact ⟨rfl, _, rfl, trivial⟩
  | requestDevices appId =>
    refine ⟨rfl, none, ?_, rfl⟩
    have fault := h.fault .desiredDevices
    rw [requestDevices_eq]
    rcases hf : (d.faults .desiredDevices).next.1 with _ | _ | _ | _ | _
    case some.crash => exact absurd hf fault.1
    case some.hold => exact absurd hf fault.2
    all_goals rfl
  | lookUp id =>
    refine ⟨rfl, _, h.look _ _, fun device found => ?_⟩
    split at found
    · cases found
    · obtain ⟨known, _, rfl⟩ := Option.map_eq_some_iff.1 found
      exact h.drivers id
  | probe id => exact ⟨rfl, any _ (fun _ => trivial) (h.call _ _ _)⟩
  | reportRole => exact ⟨rfl, any _ (fun _ => trivial) (h.call _ _ _)⟩
  | storeKey | removeKey | openSession | closeSession | writeStore =>
    exact ⟨rfl, any _ (fun _ => trivial) (h.attempt _ _ _)⟩
  | isAvailable | isLocalMaster | masterOf => exact ⟨rfl, _, h.look _ _, trivial⟩
  | discoverDetails | discoverPortDetails | listPorts | discoverStatistics =>
    exact ⟨rfl, any _ (fun _ => trivial) (inquire_answers _ answered)⟩
  | _ => exact ⟨rfl, _, rfl, trivial⟩

end Deployment

/-! ## Accounts -/

/-- What is known of the refusals that a job has met with. -/
structure Account where
  /-- The refusals that were not told yet, the latest first. -/
  due : List Refusal
  /-- The refused attempts to open a session, oldest first. -/
  openings : List Refusal

namespace Account

/-- A call was refused. -/
def refused (k : Account) (r : Refusal) : Account where
  due := r :: k.due
  openings := if r.call.isOpening then k.openings ++ [r] else k.openings

/-- The latest refusal that was not told is told. -/
def told (k : Account) : Account := { k with due := k.due.tail }

/-- The account after an action. -/
def after (k : Account) : (a : Action) → a.Answer → Account
  | .log l, _ => if l.isComplaint then k.told else k
  | a, answer => (a.refusal? answer).elim k k.refused

/-- The action tells of nothing but the latest refusal that was not told. -/
def Admits (k : Account) : Action → Prop
  | .log l => l.isComplaint = true → ∃ r, k.due.head? = some r ∧ l.Tells r
  | _ => True

end Account

namespace Job

variable {α β : Type}

/-- Where every call is answered, the job ends as asked, with an account as asked, and tells of
nothing but refusals. -/
def Balances : Job α → Account → (α → Account → Prop) → Prop
  | done a, k, Q => Q a k
  | crashed, _, _ => False
  | act a next, k, Q => a.isAnswered ∧ k.Admits a ∧
      ∀ answer, a.Yields answer → (next (some answer)).Balances (k.after a answer) Q

/-- The refusals that the job meets with when it is run, oldest first. -/
def refusals : Job α → Deployment → List Refusal
  | done _, _ | crashed, _ => []
  | act a next, d =>
    if d.isReady a then
      let (reply, d) := d.perform a
      (reply.bind a.refusal?).toList ++ (next reply).refusals d
    else []

theorem refusals_act {a : Action} {next : Option a.Answer → Job α} {d : Deployment}
    (ready : d.isReady a = true) : (act a next).refusals d =
      ((d.perform a).1.bind a.refusal?).toList ++ (next (d.perform a).1).refusals (d.perform a).2 :=
  if_pos ready

/-- What the lines that a job writes and its refusals make of an account. -/
structure Settled (k : Account) (lines : List LogLine) (refusals : List Refusal) (k' : Account) :
    Prop where
  due : ∃ told, List.Forall₂ LogLine.Tells lines told ∧
    (told ++ k'.due).Perm (k.due ++ refusals)
  openings : k'.openings = k.openings ++ refusals.filter (·.call.isOpening)

theorem Settled.refl (k : Account) : Settled k [] [] k :=
  ⟨⟨[], .nil, by simp⟩, by simp⟩

/-- A call is refused, and then all the rest. -/
theorem Settled.refused {k k' : Account} {r : Refusal} {lines : List LogLine}
    {refusals : List Refusal} (h : Settled (k.refused r) lines refusals k') :
    Settled k lines (r :: refusals) k' := by
  obtain ⟨⟨told, tells, same⟩, openings⟩ := h
  refine ⟨⟨told, tells, same.trans List.perm_middle.symm⟩, ?_⟩
  rw [openings, Account.refused]
  by_cases opening : r.call.isOpening = true <;> simp [opening]

/-- A refusal is told, and then all the rest. -/
theorem Settled.told {k k' : Account} {r : Refusal} {l : LogLine} {lines : List LogLine}
    {refusals : List Refusal} (due : k.due.head? = some r) (tells : l.Tells r)
    (h : Settled k.told lines refusals k') : Settled k (l :: lines) refusals k' := by
  obtain ⟨⟨told, tell, same⟩, openings⟩ := h
  obtain ⟨rest, left⟩ := List.head?_eq_some_iff.1 due
  refine ⟨⟨r :: told, .cons tells tell, ?_⟩, openings⟩
  have untold : k.told.due = rest := by simp [Account.told, left]
  rw [untold] at same
  rw [left]
  exact same.cons r

/-- An action that is no line about a refusal leaves the account to what was refused. -/
theorem Settled.action {k k' : Account} {a : Action} {answer : a.Answer} {lines : List LogLine}
    {refusals : List Refusal} (other : ∀ l, a ≠ .log l)
    (h : Settled (k.after a answer) lines refusals k') :
    Settled k lines ((a.refusal? answer).toList ++ refusals) k' := by
  have left : k.after a answer = (a.refusal? answer).elim k k.refused := by
    cases a with
    | log l => exact absurd rfl (other l)
    | _ => rfl
  rw [left] at h
  cases hr : a.refusal? answer with
  | none => simpa [hr] using h
  | some r => exact Settled.refused (by simpa [hr] using h)

variable {Q : α → Account → Prop}

/-- Run where every call is answered, the job ends as its account says, and its lines about refusals
settle what it was refused. -/
theorem Balances.run {j : Job α} {k : Account} (h : j.Balances k Q) {d : Deployment}
    (answers : d.Answers) : ∃ a d' k' lines, j.run d = (.done a, d') ∧ d'.Answers ∧ Q a k' ∧
      d'.complaints = d.complaints ++ lines ∧ Settled k lines (j.refusals d) k' := by
  induction j generalizing k d with
  | done a => exact ⟨a, d, k, [], rfl, answers, h, by simp, .refl k⟩
  | crashed => exact h.elim
  | act a next ih =>
    obtain ⟨answered, admits, rest⟩ := h
    obtain ⟨ready, answer, given, yields⟩ := answers.yields answered
    obtain ⟨b, d', k', lines, ran, answers', ends, wrote, settled⟩ :=
      ih (some answer) (rest answer yields) (answers.perform a)
    rw [run_act a next d ready, refusals_act ready, given]
    by_cases logs : ∃ l, a = .log l
    · obtain ⟨l, rfl⟩ := logs
      rw [complaints_log] at wrote
      by_cases complains : l.isComplaint = true
      · obtain ⟨r, due, tells⟩ := admits complains
        refine ⟨b, d', k', l :: lines, ran, answers', ends, by simpa [complains] using wrote, ?_⟩
        exact Settled.told due tells
          (by simpa [Account.after, complains, Action.refusal?] using settled)
      · refine ⟨b, d', k', lines, ran, answers', ends, by simpa [complains] using wrote, ?_⟩
        simpa [Account.after, complains, Action.refusal?] using settled
    · have other := not_exists.1 logs
      rw [complaints_perform other] at wrote
      exact ⟨b, d', k', lines, ran, answers', ends, wrote, settled.action other⟩

/-! ## How jobs are put together -/

variable {k : Account}

theorem Balances.mono {Q' : α → Account → Prop} {j : Job α} (h : j.Balances k Q)
    (weaker : ∀ a k', Q a k' → Q' a k') : j.Balances k Q' := by
  induction j generalizing k with
  | done a => exact weaker a k h
  | crashed => exact h
  | act a next ih => exact ⟨h.1, h.2.1, fun answer yields => ih _ (h.2.2 answer yields)⟩

@[simp] theorem balances_done (a : α) : (done a).Balances k Q ↔ Q a k := Iff.rfl

@[simp] theorem balances_bind {R : β → Account → Prop} (j : Job α) (f : α → Job β) :
    (bind j f).Balances k R ↔ j.Balances k fun a k' => (f a).Balances k' R := by
  induction j generalizing k with
  | done a => rfl
  | crashed => rfl
  | act a next ih => simp only [act_bind, Balances, ih]

theorem Balances.contained {j : Job α} (h : j.Balances k Q) :
    j.contained.Balances k fun a? k' => ∃ a, a? = some a ∧ Q a k' := by
  induction j generalizing k with
  | done a => exact ⟨a, rfl, h⟩
  | crashed => exact h.elim
  | act a next ih => exact ⟨h.1, h.2.1, fun answer yields => ih _ (h.2.2 answer yields)⟩

/-- The job ends with the account that it began with. -/
def Even (j : Job α) : Prop := ∀ k, j.Balances k fun _ k' => k' = k

/-- The job tells of the refusal that it comes after, and otherwise ends with the account that it
began with. -/
def TellsOf (r : Refusal) (j : Job α) : Prop :=
  ∀ k : Account, j.Balances (k.refused r) fun _ k' => k' = (k.refused r).told

/-- The job is a call that is answered or refused. -/
def Calls {ε : Type} (c : Call) (message : ε → String) (j : Job (Except ε α)) : Prop :=
  ∀ k, j.Balances k fun answer k' =>
    k' = match answer with
      | .ok _ => k
      | .error e => k.refused ⟨c, message e⟩

theorem Even.balances {j : Job α} {f : α → Job β} {R : β → Account → Prop} (even : j.Even)
    (rest : ∀ a, (f a).Balances k R) : (j >>= f).Balances k R :=
  (balances_bind j f).2 ((even k).mono fun a _ same => same ▸ rest a)

theorem Even.bind {j : Job α} {f : α → Job β} (even : j.Even) (rest : ∀ a, (f a).Even) :
    (j >>= f).Even :=
  fun k => even.balances fun a => rest a k

theorem TellsOf.bind {r : Refusal} {j : Job α} {f : α → Job β} (tells : j.TellsOf r)
    (rest : ∀ a, (f a).Even) : (j >>= f).TellsOf r :=
  fun k => (balances_bind j f).2 ((tells k).mono fun a _ same => same ▸ rest a _)

theorem told_refused {r : Refusal} (other : r.call.isOpening = false) :
    (k.refused r).told = k := by
  simp [Account.refused, Account.told, other]

theorem Calls.balances {ε : Type} {c : Call} {message : ε → String} {j : Job (Except ε α)}
    {f : Except ε α → Job β} {R : β → Account → Prop} (calls : j.Calls c message)
    (ok : ∀ a, (f (.ok a)).Balances k R)
    (refused : ∀ e, (f (.error e)).Balances (k.refused ⟨c, message e⟩) R) :
    (j >>= f).Balances k R := by
  refine (balances_bind j f).2 ((calls k).mono fun answer _ same => ?_)
  cases same
  cases answer with
  | ok a => exact ok a
  | error e => exact refused e

/-- A refusal that is told leaves no trace in the account, unless it is about the opening of a
session. -/
theorem Calls.even {ε : Type} {c : Call} {message : ε → String} {j : Job (Except ε α)}
    {f : Except ε α → Job β} (calls : j.Calls c message) (other : c.isOpening = false)
    (ok : ∀ a, (f (.ok a)).Even) (refused : ∀ e, (f (.error e)).TellsOf ⟨c, message e⟩) :
    (j >>= f).Even := by
  refine fun k => calls.balances (ok · k) fun e => (refused e k).mono fun _ _ same => ?_
  exact same.trans (told_refused other)

/-! ## Single actions -/

theorem even_pure (a : α) : (pure a : Job α).Even := fun _ => rfl

theorem even_ite {c : Prop} [Decidable c] {yes no : Job α} (left : yes.Even) (right : no.Even) :
    (if c then yes else no).Even := by
  split
  · exact left
  · exact right

theorem even_ofAction {a : Action} (answered : a.isAnswered) (silent : ∀ k : Account, k.Admits a)
    (same : ∀ (k : Account) answer, k.after a answer = k) : (ofAction a).Even :=
  fun k => ⟨answered, silent k, fun answer _ => same k answer⟩

theorem even_log {l : LogLine} (plain : l.isComplaint = false) : (log l).Even :=
  even_ofAction trivial (fun _ complains => by simp [plain] at complains)
    fun _ _ => by simp [Account.after, plain]

theorem tellsOf_log {l : LogLine} {r : Refusal} (tells : l.Tells r)
    (complains : l.isComplaint = true) : (log l).TellsOf r :=
  fun _ => ⟨trivial, fun _ => ⟨r, rfl, tells⟩, fun _ _ => by simp [Account.after, complains]⟩

section

variable (id : Identity)

theorem even_isActive : isActive.Even := even_ofAction trivial (fun _ => trivial) fun _ _ => rfl

theorem even_readRecord : (readRecord id).Even :=
  even_ofAction trivial (fun _ => trivial) fun _ _ => rfl

theorem even_changeRecord (c : RecordChange) : (changeRecord id c).Even :=
  even_ofAction trivial (fun _ => trivial) fun _ _ => rfl

theorem even_markDesired (desired : List Identity) : (markDesired desired).Even :=
  even_ofAction trivial (fun _ => trivial) fun _ _ => rfl

theorem even_prune : prune.Even := even_ofAction trivial (fun _ => trivial) fun _ _ => rfl

theorem even_registered : registered.Even :=
  even_ofAction trivial (fun _ => trivial) fun _ _ => rfl

theorem even_probe : (probe id).Even := even_ofAction trivial (fun _ => trivial) fun _ _ => rfl

theorem even_isAvailable : (isAvailable id).Even :=
  even_ofAction trivial (fun _ => trivial) fun _ _ => rfl

theorem even_isLocalMaster : (isLocalMaster id).Even :=
  even_ofAction trivial (fun _ => trivial) fun _ _ => rfl

theorem even_masterOf : (masterOf id).Even :=
  even_ofAction trivial (fun _ => trivial) fun _ _ => rfl

theorem even_reportRole (requested accepted : Role) : (reportRole id requested accepted).Even :=
  even_ofAction trivial (fun _ => trivial) fun _ _ => rfl

theorem even_lookUp : (lookUp id).Even :=
  even_ofAction trivial (fun _ => trivial) fun _ _ => rfl

/-- The driver of a device that is found answers. -/
theorem even_bind_lookUp {f : Option FoundDevice → Job α} (none : (f none).Even)
    (some : ∀ device, device.driver.Answers → (f (some device)).Even) :
    (lookUp id >>= f).Even := fun k => by
  refine ⟨trivial, trivial, fun device? answers => ?_⟩
  cases device? with
  | none => exact none k
  | some device => exact some device (answers device rfl) k

theorem calls_desiredDevices (appId : String) :
    (desiredDevices appId).Calls (.desiredDevices appId) ConfigReadError.message :=
  fun _ => ⟨trivial, trivial, fun | _, rfl => ⟨rfl, trivial, fun | .ok _, _ | .error _, _ => rfl⟩⟩

theorem calls_storeKey (c : Credentials) :
    (storeKey id c).Calls (.storeKey id c) CollaboratorError.message :=
  fun _ => ⟨trivial, trivial, fun | .ok _, _ | .error _, _ => rfl⟩

theorem calls_removeKey : (removeKey id).Calls (.removeKey id) CollaboratorError.message :=
  fun _ => ⟨trivial, trivial, fun | .ok _, _ | .error _, _ => rfl⟩

theorem calls_openSession : (openSession id).Calls (.openSession id) CollaboratorError.message :=
  fun _ => ⟨trivial, trivial, fun | .ok _, _ | .error _, _ => rfl⟩

theorem calls_closeSession (force : Bool) :
    (closeSession id force).Calls (.closeSession id force) CollaboratorError.message :=
  fun _ => ⟨trivial, trivial, fun | .ok _, _ | .error _, _ => rfl⟩

theorem calls_writeStore (w : StoreWrite) :
    (writeStore w).Calls (storeCall w).1 CollaboratorError.message :=
  fun _ => ⟨trivial, trivial, fun | .ok _, _ | .error _, _ => rfl⟩

theorem calls_discoverDetails {reply : Reply (Option Description)} (given : reply ≠ .crash) :
    (discoverDetails id reply).Calls (.discoverDetails id) DiscoveryError.message :=
  fun _ => ⟨given, trivial, fun | .ok _, _ | .error _, _ => rfl⟩

theorem calls_discoverPortDetails {reply : Reply (List Port)} (given : reply ≠ .crash) :
    (discoverPortDetails id reply).Calls (.discoverPortDetails id) DiscoveryError.message :=
  fun _ => ⟨given, trivial, fun | .ok _, _ | .error _, _ => rfl⟩

theorem calls_listPorts {reply : Reply (List Port)} (given : reply ≠ .crash) :
    (listPorts id reply).Calls (.listPorts id) DiscoveryError.message :=
  fun _ => ⟨given, trivial, fun | .ok _, _ | .error _, _ => rfl⟩

theorem calls_discoverStatistics {reply : Reply (List PortStatistics)} (given : reply ≠ .crash) :
    (discoverStatistics id reply).Calls (.discoverStatistics id) DiscoveryError.message :=
  fun _ => ⟨given, trivial, fun | .ok _, _ | .error _, _ => rfl⟩

theorem tellsOf_callFailed {attempt : Attempt} {c : Call} (e : CollaboratorError)
    (about : attempt.isOf id c = true) : (log (.callFailed attempt id e)).TellsOf ⟨c, e.message⟩ :=
  tellsOf_log (LogLine.tells_callFailed about e) rfl

theorem tellsOf_discoveryFailed {inquiry : Inquiry} {c : Call} (e : DiscoveryError)
    (about : inquiry.isOf id c = true) :
    (log (.discoveryFailed inquiry id e)).TellsOf ⟨c, e.message⟩ :=
  tellsOf_log (LogLine.tells_discoveryFailed about e) rfl

section

variable {attempt : Attempt} {c : Call} {j : Job (Except CollaboratorError Unit)}
  (calls : j.Calls c CollaboratorError.message) (other : c.isOpening = false)
  (about : attempt.isOf id c = true)

include calls other about

/-- A call whose refusal is told and changes nothing else. -/
theorem even_warnOnRefusal : (j >>= warnOnRefusal attempt id).Even :=
  calls.even other (fun _ => even_pure ()) fun e => tellsOf_callFailed id e about

theorem Even.afterWarning {f : Unit → Job β} (rest : ∀ u, (f u).Even) :
    (j >>= fun answer => warnOnRefusal attempt id answer >>= f).Even :=
  calls.even other (fun _ => (even_pure ()).bind rest)
    fun e => (tellsOf_callFailed id e about).bind rest

end

end

end Job

end Southbound
