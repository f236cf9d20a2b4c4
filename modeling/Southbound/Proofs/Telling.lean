import Southbound.Proofs.Complaints

/-!
# Every refusal is told

A call that is refused does not end the operation that made it.  The operator is told of it in a
line that ends in the words of the refusal, and only the one who ordered a promotion is told as
well, if the session could not be opened.  `Request.tells` says so for whole operations, whatever
the calls and the drivers refuse: the lines about refusals and the refusals correspond one to one.

All jobs leave the account of refusals as they found it (`Job.Even`), and only a promotion ends
otherwise than well.
-/

namespace Southbound

open Connection Deployment Discovery Job Reconciliation

/-! ## The provider's jobs -/

section

variable (id : Identity)

/-! ### Connections -/

theorem even_registerCredentials (c : Credentials) : (registerCredentials id c).Even := by
  refine (even_changeRecord id _).bind fun record => ?_
  split
  · exact even_pure ()
  · refine (calls_storeKey id c).even rfl (fun _ => ?_) fun e =>
      tellsOf_callFailed id e (by simp [Attempt.isOf])
    exact (even_log rfl).bind fun _ => (even_changeRecord id _).bind fun _ => even_pure ()

theorem even_disconnectIfStored : (disconnectIfStored id).Even := by
  refine (even_lookUp id).bind fun device? => ?_
  split
  · exact even_warnOnRefusal id (calls_writeStore _) rfl (by simp [Attempt.isOf, storeCall])
  · exact even_pure ()

theorem even_abandon : (abandon id).Even :=
  (even_changeRecord id _).bind fun _ => (even_changeRecord id _).bind fun _ =>
    (even_disconnectIfStored id).bind fun _ =>
      even_warnOnRefusal id (calls_removeKey id) rfl (by simp [Attempt.isOf])

theorem even_announceIfMissing : (announceIfMissing id).Even := by
  refine (even_lookUp id).bind fun device? => ?_
  split
  · exact (even_readRecord id).bind fun _ =>
      even_warnOnRefusal id (calls_writeStore _) rfl (by simp [Attempt.isOf, storeCall])
  · exact even_pure ()

/-- What a promotion has to report: nothing but an attempt to open the session that was refused,
which was told like every other refusal. -/
def Promoted (k : Account) (result : Except RoleError Unit) (k' : Account) : Prop :=
  (k' = k ∧ result = .ok ()) ∨ ∃ e : CollaboratorError,
    k' = (k.refused ⟨.openSession id, e.message⟩).told ∧
      result = .error (.connectionFailure id e.message)

theorem balances_connect (k : Account) : (connect id).Balances k (Promoted id k) := by
  have well : ∀ {j : Job Unit}, j.Even →
      (j >>= fun _ => pure (.ok ())).Balances k (Promoted id k) :=
    fun even => even.balances fun _ => .inl ⟨rfl, rfl⟩
  refine (even_readRecord id).balances fun record => ?_
  split
  · exact (even_log rfl).balances fun _ => well (even_reportRole id _ _)
  · refine (even_probe id).balances fun answers => ?_
    split
    · refine (even_changeRecord id _).balances fun _ => ?_
      refine (calls_openSession id).balances (fun _ => ?_) fun e => ?_
      · exact (even_changeRecord id _).balances fun _ => (even_announceIfMissing id).balances
          fun _ => (even_reportRole id _ _).balances fun _ => well (even_log rfl)
      · refine (even_abandon id).balances fun _ => (balances_bind _ _).2 ?_
        refine (tellsOf_callFailed id e (by simp [Attempt.isOf]) k).mono fun _ k' told => ?_
        exact .inr ⟨e, told, rfl⟩
    · exact well (even_log rfl)

theorem even_release (role : Role) : (release id role).Even := by
  refine (even_readRecord id).bind fun record => ?_
  refine .afterWarning id (calls_closeSession id false) rfl (by simp [Attempt.isOf]) fun _ => ?_
  refine (even_changeRecord id _).bind fun _ => (even_reportRole id _ _).bind fun _ => ?_
  refine (even_log rfl).bind fun _ => ?_
  split
  · exact even_disconnectIfStored id
  · exact even_pure ()

/-- The device is shown unavailable, which is told in either case. -/
theorem even_disconnect {l : LogLine} (plain : l.isComplaint = false) :
    (writeStore (.disconnect id) >>= fun
      | .ok () => log l
      | .error e => log (.callFailed .markDisconnected id e)).Even :=
  (calls_writeStore _).even rfl (fun _ => even_log plain) fun e =>
    tellsOf_callFailed id e (by simp [Attempt.isOf, storeCall])

theorem even_markUnreachable : (markUnreachable id).Even := by
  refine (even_readRecord id).bind fun record => ?_
  have rest := (even_changeRecord id .ended).bind fun _ =>
    even_disconnect id (l := .unreachable id) rfl
  split
  · exact .afterWarning id (calls_closeSession id false) rfl (by simp [Attempt.isOf]) fun _ => rest
  · exact (even_pure ()).bind fun _ => rest

theorem even_sessionLost : (sessionLost id).Even := by
  refine (even_changeRecord id _).bind fun _ => (even_lookUp id).bind fun device? => ?_
  split
  · exact even_log rfl
  · exact even_disconnect id rfl

theorem even_deviceRemoved : (deviceRemoved id).Even :=
  (even_log rfl).bind fun _ =>
    .afterWarning id (calls_closeSession id true) rfl (by simp [Attempt.isOf]) fun _ =>
      (even_changeRecord id _).bind fun _ => even_pure ()

theorem even_tearDown : (tearDown id).Even :=
  .afterWarning id (calls_removeKey id) rfl (by simp [Attempt.isOf]) fun _ =>
    .afterWarning id (calls_closeSession id true) rfl (by simp [Attempt.isOf]) fun _ =>
      (even_changeRecord id _).bind fun _ => (even_changeRecord id _).bind fun _ => even_pure ()

theorem even_tearDownEach (ids : List Identity) : (tearDownEach ids).Even := by
  induction ids with
  | nil => exact even_pure ()
  | cons id rest ih => exact (even_tearDown id).bind fun _ => ih

theorem even_tearDownAll : tearDownAll.Even := even_registered.bind even_tearDownEach

/-! ### Discovery -/

section

variable {driver : Driver} (answers : driver.Answers)

include answers

theorem even_askDetails : (askDetails id driver).Even := by
  unfold askDetails
  split
  next => exact (even_log rfl).bind fun _ => even_pure none
  next replies asked =>
    refine (calls_discoverDetails id (answers.description _ asked).1).even rfl (fun found => ?_)
      fun e => ?_
    · cases found with
      | none => exact (even_log rfl).bind fun _ => even_pure none
      | some d => exact even_pure (some d)
    · exact (tellsOf_discoveryFailed id e (by simp [Inquiry.isOf])).bind fun _ => even_pure none

theorem even_askPorts : (askPorts id driver).Even := by
  have told : ∀ {c : Call}, Inquiry.ports.isOf id c = true → ∀ e : DiscoveryError,
      (portsOf id (.error e)).TellsOf ⟨c, e.message⟩ :=
    fun about e => (tellsOf_discoveryFailed id e about).bind fun _ => even_pure []
  unfold askPorts
  split
  next replies _ asked =>
    exact (calls_discoverPortDetails id (answers.description _ asked).2).even rfl
      (fun ports => even_pure ports) (told (by simp [Inquiry.isOf]))
  next reply _ asked =>
    have given : reply ≠ .crash := fun crash => answers.ports (crash ▸ asked)
    exact (calls_listPorts id given).even rfl (fun ports => even_pure ports)
      (told (by simp [Inquiry.isOf]))
  next => exact (even_log rfl).bind fun _ => even_pure []

theorem even_bringPorts : (bringPorts id driver).Even := by
  refine (even_askPorts id answers).bind fun ports => ?_
  split
  · refine (calls_writeStore _).even rfl (fun _ => ?_) fun e =>
      tellsOf_callFailed id e (by simp [Attempt.isOf, storeCall])
    exact (even_changeRecord id _).bind fun _ => even_pure ()
  · exact even_pure ()

theorem even_bringStatistics : (bringStatistics id driver).Even := by
  refine (even_readRecord id).bind fun record => ?_
  split
  · split
    next => exact even_log rfl
    next reply asked =>
      have given : reply ≠ .crash := fun crash => answers.portStatistics (crash ▸ asked)
      refine (calls_discoverStatistics id given).even rfl (fun statistics => ?_) fun e =>
        tellsOf_discoveryFailed id e (by simp [Inquiry.isOf])
      exact even_warnOnRefusal id (calls_writeStore _) rfl (by simp [Attempt.isOf, storeCall])
  · exact even_log rfl

end

theorem even_describe (placeholder : Description) : (describe id placeholder).Even := by
  refine even_bind_lookUp id (even_pure _) fun device answers => ?_
  refine (even_askDetails id answers).bind fun found => ?_
  cases found <;> exact even_pure _

theorem even_announceAvailable (placeholder : Description) :
    (announceAvailable id placeholder).Even := by
  refine (even_describe id placeholder).bind fun d => ?_
  refine (calls_writeStore _).even rfl (fun _ => ?_) fun e =>
    tellsOf_callFailed id e (by simp [Attempt.isOf, storeCall])
  exact (even_changeRecord id _).bind fun _ => even_pure ()

theorem even_discoverPorts : (discoverPorts id).Even := by
  refine (even_isLocalMaster id).bind fun mastered => ?_
  split
  · refine (even_isAvailable id).bind fun available => ?_
    split
    · exact even_bind_lookUp id (even_log rfl) fun device answers =>
        (even_bringPorts id answers).bind fun _ => even_bringStatistics id answers
    · exact even_log rfl
  · exact even_log rfl

/-! ### Reconciliation -/

theorem even_discoverUnlessKnown : (discoverUnlessKnown id).Even := by
  refine (even_readRecord id).bind fun record => ?_
  split
  · exact even_discoverPorts id
  · exact even_pure ()

theorem even_converge (placeholder : Description) : (converge id placeholder).Even := by
  refine (even_lookUp id).bind fun device? => ?_
  split
  · exact even_log rfl
  · refine (even_probe id).bind fun reachable => (even_isAvailable id).bind fun available => ?_
    refine (even_changeRecord id _).bind fun _ => ?_
    split
    next =>
      refine (even_isLocalMaster id).bind fun mastered => ?_
      split
      · exact (even_announceAvailable id placeholder).bind fun _ => even_discoverUnlessKnown id
      · exact even_log rfl
    next => exact even_discoverUnlessKnown id
    next => exact even_markUnreachable id
    next => exact even_pure ()

theorem even_addIfMissing : (addIfMissing id).Even := by
  refine (even_lookUp id).bind fun device? => ?_
  split
  · exact even_warnOnRefusal id (calls_writeStore _) rfl (by simp [Attempt.isOf, storeCall])
  · exact even_pure ()

theorem even_reconcileDevice (device : DesiredDevice) : (reconcileDevice id device).Even :=
  (even_changeRecord id _).bind fun _ => (even_registerCredentials id device.credentials).bind
    fun _ => (even_addIfMissing id).bind fun _ => even_converge id _

/-- Nothing breaks down while a device is handled, so the pass has nothing to say about that. -/
theorem even_reconcileEach (scheme : String) (devices : List DesiredDevice) :
    (reconcileEach scheme devices).Even := by
  induction devices with
  | nil => exact even_pure []
  | cons device rest ih =>
    rw [reconcileEach]
    split
    next => exact (even_log rfl).bind fun _ => ih
    next id _ =>
      refine fun k => (balances_bind _ _).2 ?_
      refine (even_reconcileDevice id device k).contained.mono fun ended? k' ended => ?_
      obtain ⟨_, rfl, rfl⟩ := ended
      exact (even_pure ()).bind (fun _ => ih.bind fun ids => even_pure (id :: ids)) _

theorem even_sayDropped (ids : List Identity) : (sayDropped ids).Even := by
  induction ids with
  | nil => exact even_pure ()
  | cons id rest ih => exact (even_log rfl).bind fun _ => ih

theorem even_readDevices (appId : String) : (readDevices appId).Even :=
  (calls_desiredDevices appId).even rfl (fun devices => even_pure (some devices)) fun e =>
    (tellsOf_log (LogLine.tells_configUnreadable appId e) rfl).bind fun _ => even_pure none

theorem even_reconcileAll (s : Settings) : (reconcileAll s).Even := by
  refine (even_readDevices s.appId).bind fun devices? => ?_
  cases devices? with
  | none => exact even_pure ()
  | some devices =>
    exact (even_log rfl).bind fun _ => (even_reconcileEach s.scheme devices).bind fun desired =>
      (even_markDesired desired).bind fun _ => even_prune.bind even_sayDropped

theorem even_reconcileOne (s : Settings) : (reconcileOne s id).Even := by
  refine (even_readDevices s.appId).bind fun devices? => ?_
  cases devices? with
  | none => exact even_pure ()
  | some devices =>
    dsimp only
    split
    · exact even_reconcileDevice id _
    · exact even_log rfl

/-! ### Orders -/

theorem even_reactToStore (s : Settings) (e : StoreEvent) : (Order.reactToStore s e).Even := by
  refine (even_masterOf e.identity).bind fun master => ?_
  refine even_ite ((even_isLocalMaster e.identity).bind fun isLocal => ?_) ?_
  all_goals
    refine even_ite ?_ (even_pure ())
    cases e.change with
    | added => exact even_discoverPorts e.identity
    | removed => exact even_deviceRemoved e.identity
    | updated => exact even_pure ()

end

/-! ## Whole operations -/

/-- What the provider can be asked to do. -/
inductive Request
  | operation (o : Operation)
  | announceAvailable (id : Identity) (placeholder : Description)

namespace Request

/-- How the request is carried out. -/
def job (s : Settings) : Request → Job (Except RoleError Unit)
  | operation o => o.job s
  | announceAvailable id placeholder =>
    Order.silently (Discovery.announceAvailable id placeholder)

/-- The device that is to be promoted, if that is the request. -/
def promotes? : Request → Option Identity
  | operation (.order (.role id .master)) => some id
  | _ => none

/-- The result that these refusals call for: only a session that could not be opened is an error,
in the words of its refusal, and only of a promotion. -/
def Results (r : Request) (refusals : List Refusal) (result : Except RoleError Unit) : Prop :=
  refusals.filter (·.call.isOpening) = [] ∧ result = .ok () ∨
    ∃ id text, r.promotes? = some id ∧
      refusals.filter (·.call.isOpening) = [⟨.openSession id, text⟩] ∧
      result = .error (.connectionFailure id text)

/-- The account after a request. -/
def Reported (r : Request) (k : Account) (result : Except RoleError Unit) (k' : Account) : Prop :=
  (k' = k ∧ result = .ok ()) ∨ ∃ id, r.promotes? = some id ∧ Promoted id k result k'

theorem reported_of_even (r : Request) (k : Account) {j : Job Unit} (even : j.Even) :
    (Order.silently j).Balances k (r.Reported k) :=
  even.balances fun _ => .inl ⟨rfl, rfl⟩

theorem balances_changeRole (id : Identity) (role : Role) (k : Account) :
    (changeRole id role).Balances k ((operation (.order (.role id role))).Reported k) := by
  refine even_isActive.balances fun active => ?_
  split
  · cases role with
    | master => exact (balances_connect id k).mono fun _ _ promoted => .inr ⟨id, rfl, promoted⟩
    | standby => exact reported_of_even _ k (even_release id .standby)
    | unassigned => exact reported_of_even _ k (even_release id .unassigned)
  · exact reported_of_even _ k (even_log (l := .roleIgnored role id) rfl)

theorem balances_job (s : Settings) (r : Request) (k : Account) :
    (r.job s).Balances k (r.Reported k) := by
  cases r with
  | announceAvailable id placeholder =>
    exact reported_of_even _ k (even_announceAvailable id placeholder)
  | operation o =>
    cases o with
    | deviceRemoved id => exact reported_of_even _ k (even_deviceRemoved id)
    | tearDown id => exact reported_of_even _ k (even_tearDown id)
    | tearDownAll => exact reported_of_even _ k even_tearDownAll
    | discoverPorts id => exact reported_of_even _ k (even_discoverPorts id)
    | order o =>
      cases o with
      | firstPass | pass => exact reported_of_even _ k (even_reconcileAll s)
      | probe id => exact reported_of_even _ k (even_reconcileOne id s)
      | sessionLost id => exact reported_of_even _ k (even_sessionLost id)
      | storeChanged e => exact reported_of_even _ k (even_reactToStore s e)
      | role id role => exact balances_changeRole id role k

/-- Where every call is answered, a request comes to its end, whatever is refused on the way.  Its
lines about refusals and the refusals it met with correspond one to one, and only a session that
could not be opened makes the result an error. -/
theorem tells (s : Settings) (r : Request) {d : Deployment} (answers : d.Answers) :
    ∃ result d' lines told, (r.job s).run d = (.done result, d') ∧
      d'.complaints = d.complaints ++ lines ∧ List.Forall₂ LogLine.Tells lines told ∧
      told.Perm ((r.job s).refusals d) ∧ r.Results ((r.job s).refusals d) result := by
  obtain ⟨result, d', k', lines, ran, -, reported, wrote, ⟨told, tells, same⟩, openings⟩ :=
    (balances_job s r ⟨[], []⟩).run answers
  simp only [List.nil_append] at same openings
  refine ⟨result, d', lines, told, ran, wrote, tells, ?_⟩
  have well : k' = ⟨[], []⟩ → result = .ok () → told.Perm ((r.job s).refusals d) ∧
      r.Results ((r.job s).refusals d) result := by
    rintro rfl rfl
    exact ⟨by simpa using same, .inl ⟨openings.symm, rfl⟩⟩
  rcases reported with ⟨paid, ended⟩ | ⟨id, promotes, ⟨paid, ended⟩ | ⟨e, rfl, ended⟩⟩
  · exact well paid ended
  · exact well paid ended
  · exact ⟨by simpa [Account.refused, Account.told] using same,
      .inr ⟨id, e.message, promotes, openings.symm, ended⟩⟩

end Request

/-- The session cannot be opened, and the credentials cannot be taken back. -/
def Faults.sullen : Faults :=
  (Faults.none.plan (.openSession .sample) ⟨[], some (.refuse (.session "closed"))⟩).plan
    (.removeKey .sample) ⟨[], some (.refuse (.credentials "read-only"))⟩

/-- The device answers, but no session can be opened to it. -/
def Deployment.sullen : Deployment := { Deployment.sample with faults := .sullen }

/-- Both refusals of a promotion that fails are told, and the first of them is its result. -/
theorem Request.tells_sullen :
    Deployment.sullen.Answers ∧ ∃ d' lines,
      ((operation (.order (.role .sample .master))).job .default).run .sullen =
        (.done (.error (.connectionFailure .sample "protocol session error: closed")), d') ∧
      d'.complaints = lines ∧ lines.length = 2 := by
  have calls : Faults.sullen.Within .answered := by
    refine ((Faults.within_none _).plan fun fault planned => ?_).plan fun fault planned => ?_
    · obtain rfl : fault = .refuse (.session "closed") := by simpa using planned
      exact ⟨nofun, nofun⟩
    · obtain rfl : fault = .refuse (.credentials "read-only") := by simpa using planned
      exact ⟨nofun, nofun⟩
  have drivers : ∀ id, ((Deployment.sullen.drivers.get? id).getD ∅).Answers := by
    intro id
    have driver := SortedMap.get?_insert (∅ : SortedMap Identity Driver) .sample id
      (CapabilitySet.empty.insert (.ports (.answer [⟨1, "uplink", true, 1000⟩])))
    rw [show Deployment.sullen.drivers.get? id = _ from driver]
    split <;> exact ⟨nofun, nofun, nofun⟩
  have answers : Deployment.sullen.Answers := ⟨calls, drivers⟩
  have met : ((operation (.order (.role .sample .master))).job .default).refusals .sullen =
      [⟨.openSession .sample, "protocol session error: closed"⟩,
        ⟨.removeKey .sample, "credential store error: read-only"⟩] := by
    decide +kernel
  obtain ⟨result, d', lines, told, ran, wrote, tells, same, results⟩ :=
    tells .default (operation (.order (.role .sample .master))) answers
  rw [met] at same results
  have opening : [(⟨.openSession .sample, "protocol session error: closed"⟩ : Refusal),
      ⟨.removeKey .sample, "credential store error: read-only"⟩].filter (·.call.isOpening) =
        [⟨.openSession .sample, "protocol session error: closed"⟩] := rfl
  rcases results with ⟨unopened, -⟩ | ⟨id, text, -, opened, rfl⟩
  · exact absurd (opening.symm.trans unopened) (List.cons_ne_nil _ _)
  · obtain ⟨⟨⟩, -⟩ := List.cons.inj (opening.symm.trans opened)
    exact ⟨answers, d', lines, ran, wrote, tells.length_eq.trans same.length_eq⟩

end Southbound
