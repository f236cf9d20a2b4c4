import Southbound.Proofs.Dispatch
import Southbound.Proofs.Pass

/-!
# Ports are discovered once per session

While a device answers every probe and its session opens, passes, probes and promotions leave its
session alone.  Then its ports are discovered once, whatever else is refused or changes meanwhile:
as soon as the record says that they are known, neither the driver nor the store is bothered with
ports or counters of the device again.

Jobs that keep to the account of discovery are a kind (`Job.Kind.reporting`), so that passes and
promotions are taken apart by the rules for kinds.  Only where the session of the device is at stake
do the answers matter (`Job.reports_converge`, `Job.reports_connect`), and at the end of a pass the
entry of the device (`Job.reports_entries`).

The main statement, `Deployment.Upkeep.discovered_once`, is about runs in surroundings that may
change at any time.
-/

namespace Southbound

open Connection Deployment Discovery Glimpse Job Reconciliation

open DeviceRecord (knows)

/-- Whether the answer is one that keeps the session of the device: it answers its probe, its
session opens, and the configuration names it. -/
def Action.keepsSession (scheme : String) (id : Identity) : (a : Action) → Option a.Answer → Bool
  | probe id', reply => id' != id || reply == some true
  | openSession id', reply => id' != id || reply.any (·.isOk)
  | receiveDevices _ _, some (.ok devices) => (named scheme devices).contains id
  | _, _ => true

/-- Whether the order is a pass, a probe or a promotion. -/
def Order.isUpkeep : Order → Bool
  | firstPass | pass | probe _ | role _ .master => true
  | role _ _ | sessionLost _ | storeChanged _ => false

namespace Job

variable {α : Type} {scheme : String} {id : Identity} {r? : Option DeviceRecord}

/-! ## The kind of jobs that keep to the account -/

/-- What is reported of the job about discovery, as long as the device keeps its session. -/
def Reports (scheme : String) (id : Identity) (j : Job α) : Prop :=
  ∀ r?, j.Tracks (fun a reply => a.keepsSession scheme id reply = true) id r?
    fun _ r?' seen => Report id (knows r?) seen (knows r?')

/-- The jobs of which that is reported. -/
def Kind.reporting (scheme : String) (id : Identity) : Kind where
  ok a := a.isIdle id = true
  mem j := j.Reports scheme id
  mem_done _ _ := .of_idle (fun _ h => nomatch h) fun _ h => nomatch h
  mem_crashed _ := .of_idle (fun _ h => nomatch h) fun _ h => nomatch h
  mem_act idle later r? v reply _ _ := by
    refine (later reply _).mono fun _ _ seen report => ?_
    rw [Action.knows_recordAfter idle] at report
    exact Report.append (.of_isIdle (g := ⟨v, _, reply⟩) idle) report
  mem_bind hj hf r? := by
    refine (tracks_bind _ _).2 ((hj r?).mono fun result r₁? seen report => ?_)
    cases result with
    | none => exact report
    | some a => exact (hf a r₁?).mono fun _ _ _ later => report.append later
  mem_contained h r? := (tracks_contained _).2 (h r?)

/-! ## Jobs that discovery is part of -/

/-- As long as the device keeps its session, it answers. -/
theorem reports_bind_probe {f : Bool → Job α} (answered : (f true).Reports scheme id) :
    (Job.bind (probe id) f).Reports scheme id := by
  intro r?
  refine (tracks_bind _ _).2 ((tracks_ofAction (.probe id)).2 fun v reply _ answers => ?_)
  have up : reply = some true := by simpa [Action.keepsSession] using answers
  subst up
  refine (answered r?).mono fun _ _ later report => ?_
  have idle : Report id (knows r?) [⟨v, .probe id, some true⟩] (knows r?) := .of_isIdle rfl
  exact idle.append report

/-- As long as the device keeps its session, its session opens. -/
theorem reports_bind_openSession {f : Except CollaboratorError Unit → Job α}
    (opened : (f (.ok ())).Reports scheme id) :
    (Job.bind (openSession id) f).Reports scheme id := by
  intro r?
  refine (tracks_bind _ _).2 ((tracks_ofAction (.openSession id)).2 fun v reply _ answers => ?_)
  have up : reply = some (.ok ()) := by
    rcases reply with _ | e | _
    case some.ok => rfl
    all_goals simp [Action.keepsSession, Except.isOk, Except.toBool] at answers
  subst up
  refine (opened r?).mono fun _ _ later report => ?_
  have idle : Report id (knows r?) [⟨v, .openSession id, some (.ok ())⟩] (knows r?) :=
    .of_isIdle rfl
  exact idle.append report

/-- A look whether the device is available is followed by a dispatch if it is. -/
theorem reports_bind_isAvailable {f : Bool → Job α}
    (shown : ∀ r?, (f true).Tracks (fun a reply => a.keepsSession scheme id reply = true) id r?
      fun _ r?' seen => Dispatches id (knows r?) seen (knows r?'))
    (hidden : (f false).Reports scheme id) :
    (Job.bind (isAvailable id) f).Reports scheme id := by
  intro r?
  refine (tracks_bind _ _).2 (tracks_action id (.isAvailable id) fun v reply => ?_)
  rcases reply with _ | _ | _
  case none => exact .of_idle (List.forall_mem_singleton.2 rfl) (List.forall_mem_singleton.2 rfl)
  case some.true => exact (shown r?).mono fun _ _ later dispatched => dispatched.report_cons
  case some.false =>
    refine (hidden r?).mono fun _ _ later report => ?_
    have idle : Report id (knows r?) [⟨v, .isAvailable id, some false⟩] (knows r?) :=
      .of_idle (List.forall_mem_singleton.2 rfl) (List.forall_mem_singleton.2 rfl)
    exact idle.append report

theorem idle_announceAvailable (placeholder : Description) :
    (announceAvailable id placeholder).Only fun a => a.isIdle id = true := by
  have asked : ∀ driver, (askDetails id driver).Only fun a => a.isIdle id = true := by
    intro driver
    unfold askDetails
    cases driver.description <;>
      simp [forall_except, Option.forall, Action.isIdle, Action.call?, Call.surveys]
  have described : (describe id placeholder).Only fun a => a.isIdle id = true := by
    refine Only.bind (only_ofAction rfl) fun device? => ?_
    cases device? with
    | none => trivial
    | some device => exact (asked device.driver).bind fun found? => by cases found? <;> trivial
  refine described.bind fun d => ?_
  simp [forall_except, Action.isIdle, Action.call?, storeCall, Call.surveys]

/-- A device that answers is discovered if it is available, and announced before that if it is
not. -/
theorem reports_converge (placeholder : Description) :
    (converge id placeholder).Reports scheme id := by
  let K := Kind.reporting scheme id
  have logged : ∀ l, K.mem (log l) := fun _ => Kind.mem_ofAction rfl
  have shown : ∀ available, K.mem (changeRecord id (.shown available)) := fun _ =>
    Kind.mem_ofAction rfl
  have announced : K.mem (announceAvailable id placeholder) :=
    Kind.mem_of_only (idle_announceAvailable placeholder)
  have discovered : K.mem (discoverUnlessKnown id) := fun r? =>
    (tracks_discoverUnlessKnown id).mono fun _ _ _ dispatched => dispatched.toReport
  unfold converge
  simp only [bind_eq, pure_eq]
  refine K.mem_bind (Kind.mem_ofAction rfl) fun found => ?_
  refine Kind.mem_ite (fun _ => logged _) fun _ => ?_
  refine reports_bind_probe (reports_bind_isAvailable (fun r? => ?_) ?_)
  · refine (tracks_bind _ _).2 (tracks_changeRecord id (.shown true) fun v => ?_)
    refine (tracks_discoverUnlessKnown id).mono fun _ _ seen dispatched => ?_
    rw [knows_eq r?]
    exact dispatched.cons rfl rfl
  · refine K.mem_bind (shown false) fun _ => K.mem_bind (Kind.mem_ofAction rfl) fun mastered => ?_
    exact Kind.mem_ite (fun _ => K.mem_bind announced fun _ => discovered) fun _ => logged _

/-- Only the entries of the device itself come near its ports. -/
theorem reports_reconcileDevice (id' : Identity) (device : DesiredDevice) :
    (reconcileDevice id' device).Reports scheme id := by
  by_cases own : id' = id
  · subst own
    let K := Kind.reporting scheme id'
    have registered : K.mem (registerCredentials id' device.credentials) := Kind.mem_of_only (by
      simp [K, Kind.reporting, registerCredentials, forall_except, Action.isIdle, Action.call?,
        Call.surveys])
    have added : K.mem (addIfMissing id') := Kind.mem_of_only (by
      simp [K, Kind.reporting, addIfMissing, warnOnRefusal, forall_except, Action.isIdle,
        Action.call?, storeCall, Call.surveys])
    exact Kind.mem_reconcileDevice_of rfl registered added (reports_converge _)
  · exact Kind.mem_of_only (K := .reporting scheme id)
      ((only_reconcileDevice id' device).mono fun _ only => Action.isIdle_of_other only.1 own)

/-- A promotion leaves the session alone, or opens one. -/
theorem reports_connect (id' : Identity) : (connect id').Reports scheme id := by
  by_cases own : id' = id
  · subst own
    let K := Kind.reporting scheme id'
    have logged : ∀ l, K.mem (log l) := fun _ => Kind.mem_ofAction rfl
    have reported : K.mem (reportRole id' .master .master) := Kind.mem_ofAction rfl
    have reached : ∀ state, K.mem (changeRecord id' (.reached state)) := fun _ =>
      Kind.mem_ofAction rfl
    have announced : K.mem (announceIfMissing id') := Kind.mem_of_only (by
      simp [K, Kind.reporting, announceIfMissing, warnOnRefusal, forall_except, Action.isIdle,
        Action.call?, storeCall, Call.surveys])
    unfold connect
    simp only [bind_eq, pure_eq]
    refine K.mem_bind (Kind.mem_ofAction rfl) fun record => ?_
    refine Kind.mem_ite (fun _ => ?_) fun _ => reports_bind_probe ?_
    · exact K.mem_bind (logged _) fun _ => K.mem_bind reported fun _ => K.mem_done _
    · refine K.mem_bind (reached .connecting) fun _ => reports_bind_openSession ?_
      refine K.mem_bind (reached .connected) fun _ => K.mem_bind announced fun _ => ?_
      exact K.mem_bind reported fun _ => K.mem_bind (logged _) fun _ => K.mem_done _
  · exact Kind.mem_of_only (K := .reporting scheme id)
      ((only_connect id').mono fun _ only => Action.isIdle_of_other only.1 own)

theorem reports_desiredDevices (appId : String) : (desiredDevices appId).Reports scheme id :=
  (Kind.reporting scheme id).mem_bind (Kind.mem_ofAction rfl) fun _ => Kind.mem_ofAction rfl

/-- As long as the device keeps its session, the configuration names it. -/
theorem tracks_readDevices (appId : String) :
    (readDevices appId).Tracks (fun a reply => a.keepsSession scheme id reply = true) id r?
      fun answer _ _ => ∀ devices, answer = some (some devices) → id ∈ named scheme devices := by
  have received : ∀ ticket r₁?, (ofAction (.receiveDevices ticket appId)).Tracks
      (fun a reply => a.keepsSession scheme id reply = true) id r₁?
      fun answer _ _ => ∀ devices, answer = some (.ok devices) → id ∈ named scheme devices := by
    refine fun ticket r₁? => (tracks_ofAction _).2 fun v reply _ names devices given => ?_
    subst given
    simpa [Action.keepsSession] using names
  unfold readDevices desiredDevices
  simp only [bind_eq, pure_eq, tracks_bind]
  refine tracks_of_forall fun ticket r₁? _ => ?_
  cases ticket with
  | none => simp
  | some ticket =>
    refine (received ticket r₁?).mono fun answer r₂? _ given => ?_
    rcases answer with _ | e | devices
    case none => simp
    case some.error =>
      simp only [tracks_bind]
      refine tracks_action id (.log (.configUnreadable e)) fun _ reply => ?_
      cases reply <;> simp
    case some.ok => simpa using given

/-- A pass goes through the devices that the entries name. -/
theorem tracks_reconcileEach {E : (a : Action) → Option a.Answer → Prop}
    (devices : List DesiredDevice) :
    (reconcileEach scheme devices).Tracks E id r? fun ids _ _ =>
      ∀ desired, ids = some desired → desired = named scheme devices := by
  induction devices generalizing r? with
  | nil => simp [reconcileEach, named]
  | cons device rest ih =>
    unfold reconcileEach
    cases hi : identify scheme device with
    | error e =>
      simp only [bind_eq, tracks_bind, named_of_error hi]
      refine tracks_action id (.log (.entrySkipped e)) fun _ reply => ?_
      cases reply with
      | none => simp
      | some _ => exact ih
    | ok id' =>
      have others : ∀ r?, (Job.bind (reconcileEach scheme rest) fun ids =>
          done (id' :: ids)).Tracks E id r? fun ids _ _ =>
            ∀ desired, ids = some desired → desired = named scheme (device :: rest) := by
        refine fun r? => (tracks_bind _ _).2 (ih.mono fun ids _ _ given => ?_)
        cases ids with
        | none => simp
        | some ids => simp [named_of_ok hi, given ids rfl]
      simp only [bind_eq, pure_eq]
      refine (tracks_bind _ _).2 (tracks_of_forall fun outcome r₁? _ => ?_)
      rcases outcome with _ | _ | _
      case none => simp
      case some.none =>
        refine (tracks_bind _ _).2 (tracks_action id (.log (.deviceFailed id')) fun _ reply => ?_)
        cases reply with
        | none => simp
        | some _ => exact others r₁?
      case some.some => exact others r₁?

/-- The end of a pass leaves a device alone that an entry names. -/
theorem tracks_settle {desired : List Identity} (mem : id ∈ desired) :
    (Job.bind (markDesired desired) fun _ => Job.bind prune sayDropped).Tracks
      (fun a reply => a.keepsSession scheme id reply = true) id r?
      fun _ r?' seen => Report id (knows r?) seen (knows r?') := by
  have marked : Action.recordAfter id r? (.markDesired desired) =
      r?.map fun r => { r with desired := true } := by
    simp [Action.recordAfter, mem]
  have kept : Action.recordAfter id (r?.map fun r => { r with desired := true }) .prune =
      r?.map fun r => { r with desired := true } := by
    cases r? <;> simp [Action.recordAfter, DeviceRecord.isKept, Option.filter]
  have same : knows (r?.map fun r => { r with desired := true }) = knows r? := by
    cases r? <;> rfl
  have said := fun dropped => Kind.mem_sayDropped (K := .reporting scheme id) (fun _ => rfl) dropped
  have looked : ∀ a reply, a.call? = none → (∀ id', a ≠ .isAvailable id') → ∀ v,
      Report id (knows r?) [⟨v, a, reply⟩] (knows r?) := fun a reply uncalled unlooked v =>
    .of_idle (List.forall_mem_singleton.2 (surveys_of_uncalled uncalled))
      (List.forall_mem_singleton.2 (unseen_of_unlooked unlooked))
  refine (tracks_bind _ _).2 (tracks_action id (.markDesired desired) fun v reply => ?_)
  have first := looked (.markDesired desired) reply rfl (fun _ => Action.noConfusion) v
  rw [marked]
  cases reply with
  | none => rwa [same]
  | some _ =>
    refine (tracks_bind _ _).2 (tracks_action id .prune fun v' dropped => ?_)
    have second := first.append (looked .prune dropped rfl (fun _ => Action.noConfusion) v')
    rw [kept]
    cases dropped with
    | none => rwa [same]
    | some dropped =>
      refine (said dropped _).mono fun _ _ later report => ?_
      rw [same] at report
      exact second.append report

/-- What a pass does with entries that name the device. -/
theorem reports_entries {devices : List DesiredDevice} (mem : id ∈ named scheme devices) :
    (Job.bind (reconcileEach scheme devices) fun desired =>
      Job.bind (markDesired desired) fun _ => Job.bind prune sayDropped).Reports scheme id := by
  intro r?
  have handled := Kind.mem_reconcileEach (K := .reporting scheme id) (fun _ => rfl)
    reports_reconcileDevice scheme devices r?
  refine (tracks_bind _ _).2 ((handled.and (tracks_reconcileEach devices)).mono
    fun ids r?' seen ⟨report, given⟩ => ?_)
  cases ids with
  | none => exact report
  | some desired =>
    rw [given desired rfl]
    exact (tracks_settle mem).mono fun _ _ later rest => report.append rest

theorem reports_reconcileAll (s : Settings) : (reconcileAll s).Reports s.scheme id := by
  let K := Kind.reporting s.scheme id
  have logged : ∀ l, K.ok (.log l) := fun _ => rfl
  intro r?
  refine (tracks_bind _ _).2 (((Kind.mem_readDevices logged reports_desiredDevices s.appId r?).and
    (tracks_readDevices s.appId)).mono fun answer r?' seen ⟨report, names⟩ => ?_)
  rcases answer with _ | _ | devices
  case none => exact report
  case some.none => simpa using report
  case some.some =>
    have passed := K.mem_bind (Kind.mem_ofAction (logged (.passStarted devices.length))) fun _ =>
      reports_entries (names devices rfl)
    exact (passed r?').mono fun _ _ later rest => report.append rest

theorem reports_reconcileOne (s : Settings) (id' : Identity) :
    (reconcileOne s id').Reports s.scheme id :=
  Kind.mem_reconcileOne (K := .reporting s.scheme id) (fun _ => rfl) reports_desiredDevices
    reports_reconcileDevice s id'

/-- Neither passes nor probes nor promotions end the session of a device that keeps it. -/
theorem reports_order (s : Settings) {o : Order} (upkeep : o.isUpkeep = true) :
    (o.job s).Reports s.scheme id := by
  let K := Kind.reporting s.scheme id
  cases o with
  | firstPass | pass => exact Kind.mem_silently (K := K) (reports_reconcileAll s)
  | probe id' => exact Kind.mem_silently (K := K) (reports_reconcileOne s id')
  | role id' r =>
    cases r with
    | master =>
      exact Kind.mem_changeRole (K := K) rfl (fun _ => rfl) (fun _ => reports_connect id')
        fun demoted => absurd rfl demoted
    | standby | unassigned => cases upkeep
  | sessionLost | storeChanged => cases upkeep

end Job

/-! ## Runs -/

namespace Deployment

variable {s : Settings} {id : Identity} {d d' : Deployment} {seen : List Glimpse}

/-- A run of passes, probes and promotions, one at a time, through which the device keeps its
session: it answers every probe, its session opens, and the configuration names it.  Everything
around the provider may change between two operations, and while one is carried out. -/
inductive Upkeep (s : Settings) (id : Identity) (start : Deployment) :
    List Glimpse → Deployment → Prop
  | refl : Upkeep s id start [] start
  | around {seen : List Glimpse} {d d' : Deployment} (before : Upkeep s id start seen d)
    (records : d'.records = d.records) : Upkeep s id start seen d'
  | order {seen later : List Glimpse} {d d' : Deployment} {o : Order}
    {result : Option (Except RoleError Unit)} (before : Upkeep s id start seen d)
    (upkeep : o.isUpkeep = true) (course : (o.job s).Course id d later result d')
    (keeps : ∀ g ∈ later, g.action.keepsSession s.scheme id g.reply = true) :
    Upkeep s id start (seen ++ later) d'

theorem report_of_course {o : Order} {result : Option (Except RoleError Unit)}
    (upkeep : o.isUpkeep = true) (course : (o.job s).Course id d seen result d')
    (keeps : ∀ g ∈ seen, g.action.keepsSession s.scheme id g.reply = true) :
    Report id (d.records.read id).portsDiscovered seen (d'.records.read id).portsDiscovered := by
  have report := course.tracked keeps (reports_order s upkeep _)
  rwa [knows_eq, knows_eq] at report

namespace Upkeep

theorem report (run : d.Upkeep s id seen d') :
    Report id (d.records.read id).portsDiscovered seen (d'.records.read id).portsDiscovered := by
  induction run with
  | refl => exact .of_idle (fun _ h => nomatch h) fun _ h => nomatch h
  | around _ records ih => rwa [records]
  | order _ upkeep course keeps ih => exact ih.append (report_of_course upkeep course keeps)

/-- An order that ends, with nothing changed meanwhile, is such a run. -/
theorem of_run {o : Order} (upkeep : o.isUpkeep = true)
    (ended : ((o.job s).run d).1.isEnded = true)
    (keeps : ∀ g ∈ (o.job s).glimpses id d, g.action.keepsSession s.scheme id g.reply = true) :
    d.Upkeep s id ((o.job s).glimpses id d) ((o.job s).run d).2 := by
  obtain ⟨_, course⟩ := Job.exists_course_of_ended id ended
  exact .order .refl upkeep course keeps

/-- Once the ports of the device are known they stay known, and it is not asked for ports or
counters again, nor are any brought.  Ports land at most once, and counters are brought at most once
and in the same dispatch.  Until the ports are known every order that finds the device available,
and everything else in favour of discovery, asks for them. -/
theorem discovered_once (run : d.Upkeep s id seen d') :
    ((d.records.read id).portsDiscovered = true →
      (d'.records.read id).portsDiscovered = true ∧ ∀ g ∈ seen, g.surveys id = false) ∧
    seen.countP (·.lands id) ≤ 1 ∧ seen.countP (·.counts id) ≤ 1 ∧
    ((∀ g ∈ seen, g.misses id = true) ∨ Landed id seen) ∧
    ∀ (o : Order) later result d'', o.isUpkeep = true → (o.job s).Course id d' later result d'' →
      (∀ g ∈ later, g.action.keepsSession s.scheme id g.reply = true) →
      (d'.records.read id).portsDiscovered = false → Finds id later → AsksPorts id later := by
  have survey := run.report.survey
  have shape : (∀ g ∈ seen, g.misses id = true) ∨ Landed id seen := by
    cases known : (d.records.read id).portsDiscovered with
    | true =>
      rw [known] at survey
      exact .inl fun g mem => misses_of_idle (survey.2 g mem)
    | false =>
      cases known' : (d'.records.read id).portsDiscovered with
      | true =>
        rw [known, known'] at survey
        exact .inr survey
      | false =>
        rw [known, known'] at survey
        exact .inl survey
  have once : seen.countP (·.lands id) ≤ 1 ∧ seen.countP (·.counts id) ≤ 1 := by
    rcases shape with missed | landed
    · obtain ⟨lands, counts⟩ := countP_of_misses missed
      omega
    · obtain ⟨lands, counts⟩ := landed.countP
      omega
  refine ⟨fun known => ?_, once.1, once.2, shape, ?_⟩
  · rwa [known] at survey
  · intro o later result d'' upkeep course keeps unknown found
    exact (report_of_course upkeep course keeps).asks unknown (.inr found)

/-- The first pass over the device of the sample asks for its port and brings it into the store; a
pass after that leaves the port alone. -/
theorem discovered_once_sample :
    ∃ first d₁ second d₂, sample.Upkeep .default .sample first d₁ ∧ AsksPorts .sample first ∧
      first.countP (·.lands .sample) = 1 ∧ d₁.Upkeep .default .sample second d₂ ∧
      second ≠ [] ∧ ∀ g ∈ second, g.surveys .sample = false := by
  let d := sample.after .default [.operation (.order .pass)]
  have ends : (((Order.pass.job .default).run sample).1.isEnded) = true := by decide +kernel
  have keeps : ∀ g ∈ (Order.pass.job .default).glimpses .sample sample,
      g.action.keepsSession Settings.default.scheme .sample g.reply = true := by
    decide +kernel
  have lands : ((Order.pass.job .default).glimpses .sample sample).countP (·.lands .sample) =
      1 := by
    decide +kernel
  have first : sample.Upkeep .default .sample _ d := .of_run (o := .pass) rfl ends keeps
  have second : d.Upkeep .default .sample _ _ :=
    .of_run (o := .pass) rfl (by decide +kernel) (by decide +kernel)
  obtain ⟨result, course⟩ := Job.exists_course_of_ended .sample ends
  obtain ⟨-, -, -, -, asks⟩ := discovered_once (.refl : sample.Upkeep .default .sample [] sample)
  obtain ⟨idle, -⟩ := discovered_once second
  exact ⟨_, d, _, _, first, asks .pass _ result _ rfl course keeps (by decide +kernel)
    (by decide +kernel), lands, second, by decide +kernel, (idle (by decide +kernel)).2⟩

end Upkeep

end Deployment

end Southbound
