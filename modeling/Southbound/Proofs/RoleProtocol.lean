import Southbound.Proofs.Glimpses
import Southbound.Proofs.Isolation
import Southbound.Proofs.Link

/-!
# The role protocol

Mastership is told of a role once the provider has done what the role asks for: a session is open
when the role of master is reported, and none is when another role is.  `RoleProtocol` says which
calls are made for a role, and in what order, whatever is refused; sessions can always be closed.

When the record says that the device is connected it can be trusted (`Deployment.Reaches.attached`).
-/

namespace Southbound

open Connection Discovery Glimpse Job Reconciliation

/-! ## What is seen of a role -/

/-- The call is a report to the mastership service. -/
def Call.isReport : Call → Bool
  | reportRole _ _ _ => true
  | _ => false

namespace Glimpse

/-- The reports that were made to the mastership service. -/
def reports (seen : List Glimpse) : List Call := (calls seen).filter (·.isReport)

@[simp] theorem reports_nil : reports [] = [] := rfl

@[simp] theorem reports_cons (g : Glimpse) (seen : List Glimpse) :
    reports (g :: seen) = g.action.call?.toList.filter (·.isReport) ++ reports seen := by
  simp [reports]

@[simp] theorem reports_append (seen later : List Glimpse) :
    reports (seen ++ later) = reports seen ++ reports later := by
  simp [reports]

/-- Where no reports were made, no glimpse is one. -/
theorem forall_of_unreported {seen : List Glimpse} (silent : reports seen = []) {id : Identity}
    {requested accepted : Role} {P : Glimpse → Prop} :
    ∀ g ∈ seen, g.action = .reportRole id requested accepted → P g := by
  intro g h reported
  have call : .reportRole id requested accepted ∈ reports seen :=
    List.mem_filter.2 ⟨mem_calls h (by rw [reported]; rfl), rfl⟩
  rw [silent] at call
  cases call

end Glimpse

/-- Whether a role is acknowledged: every role but that of master is, and that of master if the
device was connected or could be. -/
def Role.Acknowledged (role : Role) (id : Identity) (before : Slice) (seen : List Glimpse) : Prop :=
  role ≠ .master ∨ before.record.state = .connected ∨
    Answered seen (.probe id) true ∧ Answered seen (.openSession id) (.ok ())

/-- What follows when the session could not be opened. -/
structure Abandoned (id : Identity) (before after : Slice) (seen : List Glimpse) : Prop where
  unreported : reports seen = []
  not_live : after.record.state.isLive = false
  forgotten : after.record.credentials = none
  key_removed : .removeKey id ∈ calls seen
  disconnected_iff : .deviceDisconnected id ∈ calls seen ↔ before.stored?.isSome = true

/-- How a role is answered, by what is held about the device before and after, by the result and by
what the device sees. -/
structure RoleProtocol (id : Identity) (role : Role) (before after : Slice)
    (result : Except RoleError Unit) (seen : List Glimpse) : Prop where
  /-- The role is reported once, and as it was asked for. -/
  reported : role.Acknowledged id before seen →
    reports seen = [.reportRole id role role]
  unreported : ¬ role.Acknowledged id before seen → reports seen = []
  /-- When the role is reported, a session is open if it is that of master, and none otherwise. -/
  open_iff : ∀ g ∈ seen, g.action = .reportRole id role role →
    (g.slice.isOpen = true ↔ role = .master)
  /-- Any other role than master takes a session to be closed, a report and, for a device that was
  connected, a write to the store, in that order. -/
  released : role ≠ .master → calls seen =
    [.closeSession id false, .reportRole id role role] ++
      if before.record.state = .connected ∧ before.stored?.isSome = true then
        [.deviceDisconnected id]
      else []
  error_iff : (∃ e, result = .error e) ↔ ∃ e, Answered seen (.openSession id) (.error e)
  abandoned : ∀ e, result = .error e → Abandoned id before after seen

/-- Calls may be refused, but nothing breaks down and sessions can be closed. -/
def Hazards.refusals : Hazards
  | .closeSession _, _ => False
  | _, .refuse _ => True
  | _, _ => False

namespace RoleProtocol

variable {id : Identity} {role : Role} {before after : Slice} {seen : List Glimpse}

/-- A role that calls for no session is answered well if the right calls were made and the session
was closed when the role was reported. -/
theorem of_demotion (demotion : role ≠ .master)
    (released : calls seen = [.closeSession id false, .reportRole id role role] ++
      if before.record.state = .connected ∧ before.stored?.isSome = true then
        [.deviceDisconnected id]
      else [])
    (closed : ∀ g ∈ seen, g.action = .reportRole id role role → g.slice.isOpen = false) :
    RoleProtocol id role before after (.ok ()) seen where
  reported _ := by
    rw [reports, released]
    split <;> rfl
  unreported declined := absurd (.inl demotion) declined
  open_iff g h reported := by simp [closed g h reported, demotion]
  released _ := released
  error_iff := by
    refine iff_of_false (by simp) ?_
    rintro ⟨e, answered⟩
    have opened := answered.mem_calls rfl
    rw [released] at opened
    split at opened <;> simp at opened
  abandoned e failed := nomatch failed

/-- The role of master is acknowledged, and a session is open when it is reported. -/
theorem of_acknowledged (acknowledged : Role.master.Acknowledged id before seen)
    (reported : reports seen = [.reportRole id .master .master])
    (opened : ∀ g ∈ seen, g.action = .reportRole id .master .master → g.slice.isOpen = true)
    (unfailed : ∀ e, ¬ Answered seen (.openSession id) (.error e)) :
    RoleProtocol id .master before after (.ok ()) seen where
  reported _ := reported
  unreported declined := absurd acknowledged declined
  open_iff g h reported := by simp [opened g h reported]
  released demotion := absurd rfl demotion
  error_iff := iff_of_false (by simp) fun ⟨e, failed⟩ => unfailed e failed
  abandoned e failed := nomatch failed

/-- The role of master is not acknowledged. -/
theorem of_declined {result : Except RoleError Unit}
    (declined : ¬ Role.master.Acknowledged id before seen)
    (silent : reports seen = [])
    (error_iff : (∃ e, result = .error e) ↔ ∃ e, Answered seen (.openSession id) (.error e))
    (abandoned : ∀ e, result = .error e → Abandoned id before after seen) :
    RoleProtocol id .master before after result seen where
  reported acknowledged := absurd acknowledged declined
  unreported _ := silent
  open_iff := forall_of_unreported silent
  released demotion := absurd rfl demotion
  error_iff := error_iff
  abandoned := abandoned

end RoleProtocol

namespace Job

variable {id : Identity} {v : Slice}

theorem observes_disconnectIfStored :
    (disconnectIfStored id).Observes .refusals id v fun reply v' seen =>
      reply = some () ∧ (v' = v ∨ v' = v.disconnect) ∧
        calls seen = if v.stored?.isSome = true then [.deviceDisconnected id] else [] := by
  cases stored : v.stored? <;>
    simp [disconnectIfStored, warnOnRefusal, Hazards.refusals, Action.call?, Slice.found?, stored,
      Deployment.storeCall]

theorem observes_release {role : Role} (demotion : role ≠ .master) :
    (release id role).Observes .refusals id v fun reply v' seen =>
      reply = some () ∧ RoleProtocol id role v v' (.ok ()) (⟨v, .isActive, some true⟩ :: seen) := by
  have followed : (release id role).Observes .refusals id v fun reply _ seen => reply = some () ∧
      (calls seen = [.closeSession id false, .reportRole id role role] ++
        if v.record.state = .connected ∧ v.stored?.isSome = true then [.deviceDisconnected id]
        else []) ∧
      ∀ g ∈ seen, g.action = .reportRole id role role → g.slice.isOpen = false := by
    have closed : ((v.setOpen false).change .ended).isOpen = false := rfl
    have stored : (((v.setOpen false).change .ended).accept role).stored? = v.stored? := rfl
    simp only [release, warnOnRefusal, pure_eq, bind_eq, List.cons_append, List.nil_append,
      observes_bind, calls_append, List.mem_append, observes_ite, observes_done, calls_nil,
      List.append_nil, List.not_mem_nil, or_false, true_and, reduceCtorEq, false_and, observes_log,
      calls_cons, Action.call?, Option.toList_none, List.mem_cons, ensures_log, observes_reportRole,
      Option.toList_some, ensures_reportRole, Hazards.refusals, imp_self, observes_changeRecord,
      ensures_changeRecord, observes_closeSession, ensures_closeSession, false_implies,
      implies_true, false_or, observes_readRecord, List.cons.injEq, forall_eq_or_imp, forall_const,
      right_eq_ite_iff, List.ne_cons_self, imp_false, not_and, Bool.not_eq_true,
      Option.isSome_eq_false_iff, Option.isNone_iff_eq_none, forall_eq, and_true,
      ensures_readRecord, closed]
    refine ⟨fun connected => observes_disconnectIfStored.mono fun reply _ seen h => ?_, ?_⟩
    · obtain ⟨replied, _, disconnected⟩ := h
      rw [stored] at disconnected
      refine ⟨replied, by simp [disconnected, connected], forall_of_unreported ?_⟩
      rw [reports, disconnected]
      split <;> rfl
    · exact fun apart connected => absurd connected apart
  refine followed.mono fun reply v' seen h => ?_
  obtain ⟨replied, released, closed⟩ := h
  refine ⟨replied, .of_demotion demotion ?_ ?_⟩
  · exact released
  · simpa using closed

theorem observes_abandon :
    (abandon id).Observes .refusals id v fun reply v' seen =>
      reply = some () ∧ v'.record.state.isLive = false ∧ v'.record.credentials = none ∧
        calls seen = (if v.stored?.isSome = true then [.deviceDisconnected id] else []) ++
          [.removeKey id] := by
  let w := (v.change .ended).change .credentialsRevoked
  have ended : w.record.state.isLive = false := by
    show v.record.ended.state.isLive = false
    cases h : v.record.state <;> simp [DeviceRecord.ended, h, ConnectionState.isLive]
  have stored : w.stored? = v.stored? := rfl
  simp only [abandon, bind_eq, observes_bind, observes_changeRecord, ensures_changeRecord]
  refine observes_disconnectIfStored.mono fun reply w' seen h => ?_
  obtain ⟨rfl, outcome, disconnected⟩ := h
  have record : w'.record = w.record := by rcases outcome with rfl | rfl <;> rfl
  have forgotten : w'.record.state.isLive = false ∧ w'.record.credentials = none := by
    rw [record]
    exact ⟨ended, rfl⟩
  have unkeyed : (w'.setKey none).record = w'.record := rfl
  rw [show ((v.change .ended).change .credentialsRevoked).stored? = v.stored? from rfl]
    at disconnected
  simp [warnOnRefusal, Hazards.refusals, Action.call?, forgotten, disconnected, unkeyed]

theorem observes_announceIfMissing :
    (announceIfMissing id).Observes .refusals id v fun reply v' seen =>
      reply = some () ∧ v'.isOpen = v.isOpen ∧
        (calls seen = [] ∨ ∃ d, calls seen = [.deviceConnected id d]) := by
  cases stored : v.stored? <;>
    simp [announceIfMissing, warnOnRefusal, Hazards.refusals, Action.call?, Slice.found?, stored,
      Deployment.storeCall, Slice.announce]

theorem observes_connect (h : v.link.Attached) :
    (connect id).Observes .refusals id v fun reply v' seen =>
      ∃ result, reply = some result ∧
        RoleProtocol id .master v v' result (⟨v, .isActive, some true⟩ :: seen) := by
  by_cases connected : v.record.state = .connected
  · have opened : v.isOpen = true := h connected
    have confirmed : RoleProtocol id .master v (v.accept .master) (.ok ())
        [⟨v, .isActive, some true⟩, ⟨v, .readRecord id, some v.record⟩,
          ⟨v, .log (.masterConfirmed id), some ()⟩,
          ⟨v, .reportRole id .master .master, some ()⟩] := by
      refine .of_acknowledged (.inr (.inl connected)) rfl ?_ ?_
      · simpa using opened
      · simp
    simpa [connect, connected, Hazards.refusals] using confirmed
  · simp only [connect, pure_eq, bind_eq, observes_bind, observes_ite, observes_done,
      Option.some.injEq, List.append_nil, exists_eq_left', reduceCtorEq, false_and, exists_const,
      observes_reportRole, ensures_reportRole, Hazards.refusals, imp_self, true_and, observes_log,
      List.cons_append, List.nil_append, ensures_log, observes_openSession, ensures_openSession,
      forall_const, observes_changeRecord, ensures_changeRecord, Bool.not_eq_true, observes_probe,
      ensures_probe, observes_readRecord, ensures_readRecord, connected, false_implies,
      not_false_eq_true]
    refine ⟨fun answers => ⟨fun e => ?refused, fun c _ => ?opened, fun _ => ?unkeyed⟩,
      fun silent => ?unreachable⟩
    case unreachable =>
      refine .of_declined ?_ rfl ?_ ?_
      · simp [Role.Acknowledged, connected, silent]
      · simp
      · simp
    case opened =>
      refine observes_announceIfMissing.mono fun reply v' seen announced => ?_
      obtain ⟨rfl, same, written⟩ := announced
      have opened : v'.isOpen = true := same
      have unreported : reports seen = [] := by
        rcases written with written | ⟨d, written⟩ <;> simp [reports, written, Call.isReport]
      have unopened : ∀ r, ¬ Answered seen (.openSession id) r := not_answered_of_calls rfl <| by
        rcases written with written | ⟨d, written⟩ <;> simp [written]
      refine .of_acknowledged ?_ ?_ ?_ ?_
      · simp [Role.Acknowledged, answers]
      · simp [Action.call?, unreported, Call.isReport]
      · simpa [opened, or_imp, forall_and] using forall_of_unreported unreported
      · simp [unopened]
    -- a session that is refused and one that has no key are given up alike
    all_goals
      refine observes_abandon.mono fun reply v' seen abandoned => ?_
      obtain ⟨rfl, not_live, forgotten, written⟩ := abandoned
      have unreported : reports seen = [] := by
        rw [reports, written]
        split <;> rfl
      have unopened : ∀ r, ¬ Answered seen (.openSession id) r := not_answered_of_calls rfl <| by
        rw [written]
        split <;> simp
      refine .of_declined ?_ ?_ ?_ fun _ _ => ⟨?_, not_live, forgotten, ?_, ?_⟩
      · simp [Role.Acknowledged, connected, unopened]
      · simp [Action.call?, unreported, Call.isReport]
      · simp
      · simp [Action.call?, unreported, Call.isReport]
      · simp [Action.call?, written]
      · have stored : (v.change (.reached .connecting)).stored? = v.stored? := rfl
        simp [Action.call?, written, stored]

/-- Whether role changes are accepted is asked first. -/
theorem glimpses_changeRole (role : Role) (d : Deployment) :
    (changeRole id role).glimpses id d = ⟨d.slice id, .isActive, some d.active⟩ ::
      (answerRole id role d.active).glimpses id d := by
  cases role <;> rfl

theorem observes_answerRole (role : Role) (h : v.link.Attached) :
    (answerRole id role true).Observes .refusals id v fun reply v' seen =>
      ∃ result, reply = some result ∧
        RoleProtocol id role v v' result (⟨v, .isActive, some true⟩ :: seen) := by
  have released : ∀ demoted : Role, demoted ≠ .master →
      (Job.bind (release id demoted) fun _ => done (.ok () : Except RoleError Unit)).Observes
        .refusals id v fun reply v' seen => ∃ result, reply = some result ∧
          RoleProtocol id demoted v v' result (⟨v, .isActive, some true⟩ :: seen) := by
    intro demoted demotion
    rw [observes_bind]
    refine (observes_release demotion).mono fun reply v' seen h => ?_
    obtain ⟨rfl, followed⟩ := h
    simpa using followed
  cases role with
  | master => exact observes_connect h
  | standby => exact released .standby (by decide)
  | unassigned => exact released .unassigned (by decide)

end Job

/-! ## Roles in the course of a run -/

namespace Deployment

variable {s : Settings} {admits : Deployment → Step → Prop} {start d : Deployment}

/-- After any run of whole operations, and whatever is refused as long as sessions can be closed, a
role is answered by the role protocol. -/
theorem Reaches.follows_role_protocol (records : start.records = ∅)
    (reached : start.Reaches s admits d) (active : d.active = true)
    (within : d.faults.Within .refusals) (id : Identity) (role : Role) :
    ∃ result d', (changeRole id role).run d = (.done result, d') ∧
      d'.calls = d.calls ++ Glimpse.calls ((changeRole id role).glimpses id d) ∧
      RoleProtocol id role (d.slice id) (d'.slice id) result
        ((changeRole id role).glimpses id d) := by
  obtain ⟨_, v, d', ran, moved, result, rfl, followed⟩ :=
    run_of_observes (observes_answerRole role (reached.attached records id)) within
  rw [glimpses_changeRole, run_changeRole, active]
  refine ⟨result, d', ran, ?_, ?_⟩
  · rw [calls_cons]
    exact moved.calls
  · rw [moved.own]
    exact followed

end Deployment

/-- The device is connected, its session is reported lost, and from then on no session is
granted. -/
def Step.relapse : List Step :=
  Step.promotion ++ [.operation (.order (.sessionLost .sample)),
    .change (.plan
      (Faults.none.plan (.openSession .sample) ⟨[], some (.refuse (.session "busy"))⟩))]

/-- Whether the job ended with an error. -/
def Progress.isError {ε α : Type} : Progress (Except ε α) → Bool
  | done (.error _) => true
  | _ => false

namespace Deployment

/-- A device that is not granted a session is given up: its credentials are revoked, the store is
told, and nothing is reported. -/
theorem follows_role_protocol_relapse :
    let d := sample.after .default Step.relapse
    let seen := (changeRole .sample .master).glimpses .sample d
    ∃ e d', (changeRole .sample .master).run d = (.done (.error e), d') ∧
      d'.calls = d.calls ++ Glimpse.calls seen ∧
      RoleProtocol .sample .master (d.slice .sample) (d'.slice .sample) (.error e) seen := by
  have reached : sample.Reaches .default (fun _ _ => True) (sample.after .default Step.relapse) :=
    Reaches.refl.after ⟨trivial, trivial, trivial, trivial, trivial⟩
  have within : (sample.after .default Step.relapse).faults.Within .refusals := by
    refine (Faults.within_none _).plan fun fault planned => ?_
    obtain rfl : fault = .refuse (.session "busy") := by simpa using planned
    trivial
  obtain ⟨result, d', ran, called, followed⟩ :=
    reached.follows_role_protocol rfl (by decide +kernel) within .sample .master
  have refused :
      ((changeRole .sample .master).run (sample.after .default Step.relapse)).1.isError = true := by
    decide +kernel
  rw [ran] at refused
  cases result with
  | ok => cases refused
  | error e => exact ⟨e, d', ran, called, followed⟩

end Deployment

end Southbound
