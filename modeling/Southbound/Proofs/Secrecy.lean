import Mathlib.Data.List.Forall2
import Southbound.Proofs.Masking

/-!
# Secrets do not leave

Two runs in which devices have different secrets look the same, but for the secrets themselves: the
same is logged, published and answered, the same calls are made in the same order, and the same is
held about every device.  All that matters about two secrets is whether they are equal, because the
provider compares those that configuration gives with those it remembers.  So a `Renaming` relates
the credentials of the two runs in such a way that equal ones stand for equal ones.

`Deployment.Renamed` says that two deployments differ by a renaming, `Job.Agrees` that two jobs do
the same in such deployments.  Jobs that are told of no secret agree with themselves, and they are
taken apart like any other kind of jobs (`Job.Kind.discreet`).  What is left are passes, where the
jobs of the two runs are given different credentials.
-/

namespace Southbound

open Connection Discovery Job Reconciliation
open Southbound.Text

/-! ## Other secrets -/

/-- Which credentials of a second run stand for which of a first one: equal ones for equal ones, and
different ones for different ones. -/
structure Renaming where
  rel : Credentials → Credentials → Prop
  injective : ∀ {a a' b b'}, rel a a' → rel b b' → (a = b ↔ a' = b')

section relations

variable (ρ : Renaming)

/-- Whether a key is given, which is then preferred to the password. -/
def DesiredDevice.hasKey (device : DesiredDevice) : Bool :=
  (device.sshKey.map trimmed).any (· != "")

/-- The devices differ in their secrets. -/
structure DesiredDevice.Renamed (device device' : DesiredDevice) : Prop where
  address : device.address = device'.address
  port : device.port = device'.port
  username : device.username = device'.username
  hasKey : device.hasKey = device'.hasKey
  credentials : ρ.rel device.credentials device'.credentials

/-- The same failure, or desired devices that differ in their secrets. -/
inductive AnswersRenamed : (answer answer' : Except ConfigReadError (List DesiredDevice)) → Prop
  | failed (e : ConfigReadError) : AnswersRenamed (.error e) (.error e)
  | listed {devices devices' : List DesiredDevice}
    (renamed : List.Forall₂ (DesiredDevice.Renamed ρ) devices devices') :
    AnswersRenamed (.ok devices) (.ok devices')

/-- The configurations of an application differ in secrets. -/
def ConfigSource.Renamed (appId : String) (c c' : ConfigSource) : Prop :=
  AnswersRenamed ρ (c.desiredDevices appId) (c'.desiredDevices appId)

/-- The records differ in the secret that is remembered. -/
structure DeviceRecord.Renamed (r r' : DeviceRecord) : Prop where
  masked : r.masked = r'.masked
  credentials : ∀ {c c'}, r.credentials = some c → r'.credentials = some c' → ρ.rel c c'

/-- The changes differ in the secret that is to be remembered. -/
inductive RecordChange.Renamed : (c c' : RecordChange) → Prop
  | same (c : RecordChange) (other : ∀ k, c ≠ .credentialsStored k) : RecordChange.Renamed c c
  | stored {k k' : Credentials} (masked : k.masked = k'.masked) (related : ρ.rel k k') :
    RecordChange.Renamed (.credentialsStored k) (.credentialsStored k')

/-- The deployments differ in secrets. -/
structure Deployment.Renamed (s : Settings) (d d' : Deployment) : Prop where
  masked : d.masked = d'.masked
  records : ∀ id, (d.records.read id).Renamed ρ (d'.records.read id)
  config : d.config.Renamed ρ s.appId d'.config

end relations

variable {ρ : Renaming}

/-- Without the secret, credentials tell who logs in, and whether with a key. -/
theorem DesiredDevice.credentials_masked (device : DesiredDevice) : device.credentials.masked =
    if device.hasKey then .key device.username "" else .password device.username "" := by
  unfold credentials hasKey
  cases device.sshKey.map trimmed with
  | none => rfl
  | some key => by_cases blank : key = "" <;> simp [blank, Credentials.masked]

theorem DesiredDevice.Renamed.masked {device device' : DesiredDevice}
    (h : device.Renamed ρ device') : device.credentials.masked = device'.credentials.masked := by
  rw [credentials_masked, credentials_masked, h.hasKey, h.username]

namespace DeviceRecord.Renamed

variable {r r' : DeviceRecord}

/-- Whether the record remembers certain credentials does not depend on the secret. -/
theorem remembers_iff (h : r.Renamed ρ r') {c c' : Credentials} (related : ρ.rel c c') :
    r.credentials = some c ↔ r'.credentials = some c' := by
  have masked : r.credentials.map Credentials.masked = r'.credentials.map Credentials.masked :=
    congrArg DeviceRecord.credentials h.masked
  rcases first : r.credentials with _ | a <;> rcases second : r'.credentials with _ | a'
  · simp
  · simp [first, second] at masked
  · simp [first, second] at masked
  · simpa using ρ.injective (h.credentials first second) related

theorem apply (h : r.Renamed ρ r') {c c' : RecordChange} (same : c.Renamed ρ c') :
    (c.apply r).Renamed ρ (c'.apply r') := by
  have masked : ∀ {c c' : RecordChange}, c.masked = c'.masked →
      (c.apply r).masked = (c'.apply r').masked := by
    intro c c' same
    rw [← Deployment.apply_masked, ← Deployment.apply_masked, same, h.masked]
  cases same with
  | same c other =>
    refine ⟨masked rfl, fun first second => ?_⟩
    cases c with
    | credentialsStored k => exact absurd rfl (other k)
    | credentialsRevoked => cases first
    | _ => exact h.credentials first second
  | stored same related =>
    refine ⟨masked (congrArg RecordChange.credentialsStored same), fun first second => ?_⟩
    cases first
    cases second
    exact related

end DeviceRecord.Renamed

/-! ## Actions -/

namespace Deployment

/-- Actions do not change the configuration. -/
theorem config_perform (d : Deployment) (a : Action) : (d.perform a).2.config = d.config := by
  by_cases about : ∃ id, a.Concerns id
  · obtain ⟨id, concerns⟩ := about
    exact congrArg Setting.config (d.perform_slice concerns).2.setting
  · cases a with
    | isActive | setActive | markDesired | prune | registered | receiveDevices => rfl
    | requestDevices appId =>
      rw [requestDevices_eq]
      rcases (d.faults .desiredDevices).next.1 with _ | _ | _ | _ | _ <;> rfl
    | log l => exact absurd ⟨.sample, trivial⟩ about
    | writeStore w => exact absurd ⟨w.identity, rfl⟩ about
    | _ => exact absurd ⟨_, rfl⟩ about

/-- A record remembers only credentials that it was told to remember. -/
theorem remembered_of_perform {d : Deployment} {a : Action}
    (other : ∀ id k, a ≠ .changeRecord id (.credentialsStored k)) {id : Identity} {c : Credentials}
    (remembers : ((d.perform a).2.records.read id).credentials = some c) :
    (d.records.read id).credentials = some c := by
  -- what can happen to the record is read off what can happen to the slice
  have follows := d.follows_perform a id
  have before : (d.slice id).record.credentials = (d.records.read id).credentials := rfl
  have after : ((d.perform a).2.slice id).record.credentials = some c := remembers
  rw [← before]
  generalize (d.perform a).2.slice id = v' at follows after
  generalize d.slice id = v at follows
  rcases follows with _ | ⟨concerns, becomes⟩ | desired | _
  · exact after
  · rcases becomes with _ | ⟨id', change⟩ | _ | _ | _ | _ | _ | _
    case changed =>
      cases change with
      | credentialsStored k => exact absurd rfl (other id' k)
      | credentialsRevoked => cases after
      | _ => exact after
    all_goals exact after
  · rcases recorded : v.record? with _ | r <;> simp_all [Slice.record]
  · rcases recorded : v.record? with _ | r
    · simp_all [Slice.record]
    · by_cases kept : r.isKept = true <;> simp_all [Slice.record, Option.filter, DeviceRecord.fresh]

namespace Renamed

variable {s : Settings} {d d' : Deployment}

theorem of_perform (h : d.Renamed ρ s d') {a a' : Action}
    (masked : (d.perform a).2.masked = (d'.perform a').2.masked)
    (other : ∀ id k, a ≠ .changeRecord id (.credentialsStored k))
    (other' : ∀ id k, a' ≠ .changeRecord id (.credentialsStored k)) :
    (d.perform a).2.Renamed ρ s (d'.perform a').2 where
  masked := masked
  records id := by
    refine ⟨?_, fun first second => ?_⟩
    · rw [← read_masked, ← read_masked, masked]
    · exact (h.records id).credentials (remembered_of_perform other first)
        (remembered_of_perform other' second)
  config := by
    rw [config_perform, config_perform]
    exact h.config

/-- An action that is told of no secret and tells of none does the same in both deployments. -/
theorem perform_public (h : d.Renamed ρ s d') {a : Action} (pub : a.isPublic = true) :
    (d.perform a).1 = (d'.perform a).1 ∧ (d.perform a).2.Renamed ρ s (d'.perform a).2 := by
  have both : ((d.perform a).1, (d.perform a).2.masked) =
      ((d'.perform a).1, (d'.perform a).2.masked) := by
    rw [← perform_masked d pub, ← perform_masked d' pub, h.masked]
  obtain ⟨answers, masked⟩ := Prod.mk.inj both
  have other : ∀ id k, a ≠ .changeRecord id (.credentialsStored k) := by
    rintro id k rfl
    cases pub
  exact ⟨answers, h.of_perform masked other other⟩

/-- Storing credentials goes the same way whatever the secret. -/
theorem perform_storeKey (h : d.Renamed ρ s d') (id : Identity) {c c' : Credentials}
    (masked : c.masked = c'.masked) :
    (d.perform (.storeKey id c)).1 = (d'.perform (.storeKey id c')).1 ∧
      (d.perform (.storeKey id c)).2.Renamed ρ s (d'.perform (.storeKey id c')).2 := by
  have stored : ∀ (d : Deployment) (c : Credentials), d.masked.perform (.storeKey id c.masked) =
      ((d.perform (.storeKey id c)).1, (d.perform (.storeKey id c)).2.masked) := fun d c =>
    d.attempt_ok_masked (.storeKey id c) (.storeKey id) (·.storeKey id c) (·.storeKey id c.masked)
      fun d => d.storeKey_masked id c
  have both : ((d.perform (.storeKey id c)).1, (d.perform (.storeKey id c)).2.masked) =
      ((d'.perform (.storeKey id c')).1, (d'.perform (.storeKey id c')).2.masked) := by
    rw [← stored, ← stored, h.masked, masked]
  obtain ⟨answers, masked⟩ := Prod.mk.inj both
  exact ⟨answers, h.of_perform masked (fun _ _ => by simp) fun _ _ => by simp⟩

/-- Records that differ in secrets do so after changes that do. -/
theorem change (h : d.Renamed ρ s d') (id : Identity) {c c' : RecordChange}
    (same : c.Renamed ρ c') :
    Deployment.Renamed ρ s { d with records := d.records.change id c }
      { d' with records := d'.records.change id c' } := by
  have masks : c.masked = c'.masked := by
    rcases same with _ | ⟨masked, _⟩
    · rfl
    · exact congrArg RecordChange.credentialsStored masked
  have records : ∀ {d : Deployment} {c : RecordChange},
      Deployment.masked { d with records := d.records.change id c } =
        { d.masked with records := d.masked.records.change id c.masked } := by
    intro d c
    rw [change_masked]
    rfl
  refine ⟨?_, fun id' => ?_, h.config⟩
  · rw [records, records, h.masked, masks]
  · show ((d.records.change id c).read id').Renamed ρ ((d'.records.change id c').read id')
    rw [Records.read_change, Records.read_change]
    split
    · exact (h.records id).apply same
    · exact h.records id'

theorem isReady (h : d.Renamed ρ s d') (a : Action) : d.isReady a = d'.isReady a := by
  have masked : ∀ d : Deployment, d.masked.isReady a = d.isReady a := by
    intro d
    cases a <;> rfl
  rw [← masked d, ← masked d', h.masked]

end Renamed

end Deployment

/-! ## Jobs that do the same -/

/-- The jobs came equally far. -/
inductive Progress.Agrees {α β : Type} (R : α → β → Prop) : Progress α → Progress β → Prop
  | done {a : α} {b : β} (same : R a b) : Progress.Agrees R (.done a) (.done b)
  | crashed : Progress.Agrees R .crashed .crashed
  | waiting (rest : Job α) (rest' : Job β) : Progress.Agrees R (.waiting rest) (.waiting rest')

namespace Job

variable {α β γ δ : Type} {s : Settings} {R : α → β → Prop}

/-- In deployments that differ in secrets the jobs come equally far and end with related results. -/
def Agrees (ρ : Renaming) (s : Settings) (R : α → β → Prop) (j : Job α) (j' : Job β) : Prop :=
  ∀ d d' : Deployment, d.Renamed ρ s d' →
    Progress.Agrees R (j.run d).1 (j'.run d').1 ∧ (j.run d).2.Renamed ρ s (j'.run d').2

theorem agrees_done {a : α} {b : β} (same : R a b) : (done a).Agrees ρ s R (done b) :=
  fun _ _ h => ⟨.done same, h⟩

theorem Agrees.bind {Q : γ → δ → Prop} {j : Job α} {j' : Job β} {f : α → Job γ} {f' : β → Job δ}
    (first : j.Agrees ρ s R j') (next : ∀ a b, R a b → (f a).Agrees ρ s Q (f' b)) :
    (Job.bind j f).Agrees ρ s Q (Job.bind j' f') := by
  intro d d' h
  obtain ⟨progress, after⟩ := first d d' h
  rw [run_bind, run_bind]
  generalize j.run d = r at progress after ⊢
  generalize j'.run d' = r' at progress after ⊢
  obtain ⟨p, d₁⟩ := r
  obtain ⟨p', d₁'⟩ := r'
  rcases progress with same | _ | ⟨rest, rest'⟩
  · exact next _ _ same _ _ after
  · exact ⟨.crashed, after⟩
  · exact ⟨.waiting _ _, after⟩

theorem Agrees.contained {j j' : Job α} (h : j.Agrees ρ s Eq j') :
    j.contained.Agrees ρ s Eq j'.contained := by
  intro d d' renamed
  obtain ⟨progress, after⟩ := h d d' renamed
  rw [run_contained, run_contained]
  generalize j.run d = r at progress after ⊢
  generalize j'.run d' = r' at progress after ⊢
  obtain ⟨p, d₁⟩ := r
  obtain ⟨p', d₁'⟩ := r'
  rcases progress with same | _ | ⟨rest, rest'⟩
  · exact ⟨.done (congrArg some same), after⟩
  · exact ⟨.done rfl, after⟩
  · exact ⟨.waiting _ _, after⟩

theorem agrees_ofAction (a a' : Action) {R : a.Answer → a'.Answer → Prop}
    (ready : ∀ d d' : Deployment, d.Renamed ρ s d' → d.isReady a = d'.isReady a')
    (performed : ∀ d d' : Deployment, d.Renamed ρ s d' →
      Option.Rel R (d.perform a).1 (d'.perform a').1 ∧
        (d.perform a).2.Renamed ρ s (d'.perform a').2) :
    (ofAction a).Agrees ρ s R (ofAction a') := by
  intro d d' h
  by_cases isReady : d.isReady a = true
  · have isReady' : d'.isReady a' = true := ready d d' h ▸ isReady
    obtain ⟨answered, after⟩ := performed d d' h
    rw [ofAction, ofAction, run_act _ _ _ isReady, run_act _ _ _ isReady']
    generalize d.perform a = r at answered after ⊢
    generalize d'.perform a' = r' at answered after ⊢
    obtain ⟨answer, d₁⟩ := r
    obtain ⟨answer', d₁'⟩ := r'
    rcases answered with same | _
    · exact ⟨.done same, after⟩
    · exact ⟨.crashed, after⟩
  · have isReady' : ¬ d'.isReady a' = true := ready d d' h ▸ isReady
    simp only [ofAction, run, isReady, isReady']
    exact ⟨.waiting _ _, h⟩

theorem agrees_readRecord (id : Identity) :
    (readRecord id).Agrees ρ s (DeviceRecord.Renamed ρ) (readRecord id) :=
  agrees_ofAction (.readRecord id) (.readRecord id) (fun _ _ _ => rfl) fun _ _ h =>
    ⟨.some (h.records id), h⟩

theorem agrees_changeRecord (id : Identity) {c c' : RecordChange} (same : c.Renamed ρ c') :
    (changeRecord id c).Agrees ρ s (DeviceRecord.Renamed ρ) (changeRecord id c') :=
  agrees_ofAction (.changeRecord id c) (.changeRecord id c') (fun _ _ _ => rfl) fun _ _ h =>
    ⟨.some ((h.change id same).records id), h.change id same⟩

theorem agrees_storeKey (id : Identity) {c c' : Credentials} (masked : c.masked = c'.masked) :
    (storeKey id c).Agrees ρ s Eq (storeKey id c') := by
  refine agrees_ofAction (.storeKey id c) (.storeKey id c') (fun _ _ _ => rfl) fun d d' h => ?_
  obtain ⟨answers, after⟩ := h.perform_storeKey id masked
  refine ⟨?_, after⟩
  rw [answers]
  rcases (d'.perform (.storeKey id c')).1 with _ | answer
  · exact .none
  · exact .some rfl

theorem agrees_receiveDevices (ticket : Option Nat) :
    (ofAction (.receiveDevices ticket s.appId)).Agrees ρ s (AnswersRenamed ρ)
      (ofAction (.receiveDevices ticket s.appId)) :=
  agrees_ofAction (.receiveDevices ticket s.appId) (.receiveDevices ticket s.appId)
    (fun _ _ h => h.isReady _) fun _ _ h => ⟨.some h.config, h⟩

end Job

/-! ### Jobs that are told of no secret -/

/-- The jobs that do the same in deployments that differ in secrets. -/
def Job.Kind.discreet (ρ : Renaming) (s : Settings) : Job.Kind where
  ok a := a.isPublic = true
  mem j := j.Agrees ρ s Eq j
  mem_done _ := agrees_done rfl
  mem_crashed := fun _ _ h => ⟨.crashed, h⟩
  mem_act {α a next} pub later := by
    intro d d' h
    obtain ⟨answers, after⟩ := h.perform_public pub
    by_cases ready : d.isReady a = true
    · have ready' : d'.isReady a = true := h.isReady a ▸ ready
      rw [run_act _ _ _ ready, run_act _ _ _ ready', answers]
      exact later _ _ _ after
    · have ready' : ¬ d'.isReady a = true := h.isReady a ▸ ready
      simp only [run, ready, ready']
      exact ⟨.waiting _ _, h⟩
  mem_bind first next := first.bind fun a b same => same ▸ next a
  mem_contained h := h.contained

namespace Job.Kind

variable {s : Settings} {α : Type} {id : Identity}

/-- A job that looks at a record and not at its secret. -/
theorem discreet_read {f : DeviceRecord → Job α} (blind : ∀ r, f r.masked = f r)
    (later : ∀ r, (discreet ρ s).mem (f r)) :
    (discreet ρ s).mem (Job.bind (readRecord id) f) := by
  refine (agrees_readRecord id).bind fun r r' h => ?_
  -- both runs go on as they would with the masked record
  rw [← blind r', ← h.masked, blind r]
  exact later r

/-- A job that changes a record and goes on regardless. -/
theorem discreet_change {c : RecordChange} (other : ∀ k, c ≠ .credentialsStored k) {k : Job α}
    (later : (discreet ρ s).mem k) :
    (discreet ρ s).mem (Job.bind (changeRecord id c) fun _ => k) :=
  (agrees_changeRecord id (.same c other)).bind fun _ _ _ => later

theorem discreet_step (a : Action) {f : a.Answer → Job α} (pub : a.isPublic = true)
    (later : ∀ answer, (discreet ρ s).mem (f answer)) :
    (discreet ρ s).mem (Job.bind (ofAction a) f) :=
  (discreet ρ s).mem_bind (mem_ofAction pub) later

theorem discreet_log (l : LogLine) : (discreet ρ s).mem (log l) := mem_ofAction (a := .log l) rfl

theorem discreet_warn (attempt : Attempt) (answer : Except CollaboratorError Unit) :
    (discreet ρ s).mem (warnOnRefusal attempt id answer) := by
  cases answer with
  | ok _ => exact agrees_done rfl
  | error e => exact discreet_log _

/-! ### What is done to a device -/

variable (ρ s id)

theorem discreet_disconnectIfStored : (discreet ρ s).mem (disconnectIfStored id) := by
  refine discreet_step (.lookUp id) rfl fun device? => ?_
  refine mem_ite (fun _ => ?_) fun _ => (discreet ρ s).mem_done _
  exact discreet_step (.writeStore _) rfl (discreet_warn _)

theorem discreet_abandon : (discreet ρ s).mem (abandon id) := by
  refine discreet_change (by simp) (discreet_change (by simp) ?_)
  refine (discreet ρ s).mem_bind (discreet_disconnectIfStored ρ s id) fun _ => ?_
  exact discreet_step (.removeKey id) rfl (discreet_warn _)

theorem discreet_announceIfMissing : (discreet ρ s).mem (announceIfMissing id) := by
  refine discreet_step (.lookUp id) rfl fun device? => ?_
  refine mem_ite (fun _ => ?_) fun _ => (discreet ρ s).mem_done _
  refine discreet_read (fun _ => rfl) fun record => ?_
  exact discreet_step (.writeStore _) rfl (discreet_warn _)

theorem discreet_connect : (discreet ρ s).mem (connect id) := by
  refine discreet_read (fun _ => rfl) fun record => ?_
  refine mem_ite (fun _ => ?_) fun _ => discreet_step (.probe id) rfl fun reachable => ?_
  · exact mem_of_only (by simp [discreet, Action.isPublic])
  refine mem_ite (fun _ => discreet_change (by simp) ?_) fun _ => ?_
  · refine discreet_step (.openSession id) rfl fun answer => ?_
    rcases answer with e | _
    · refine (discreet ρ s).mem_bind (discreet_abandon ρ s id) fun _ => ?_
      exact mem_of_only (by simp [discreet, Action.isPublic])
    · refine discreet_change (by simp) ?_
      refine (discreet ρ s).mem_bind (discreet_announceIfMissing ρ s id) fun _ => ?_
      exact mem_of_only (by simp [discreet, Action.isPublic])
  · exact mem_of_only (by simp [discreet, Action.isPublic])

theorem discreet_release (role : Role) : (discreet ρ s).mem (release id role) := by
  refine discreet_read (fun _ => rfl) fun record => ?_
  refine discreet_step (.closeSession id false) rfl fun answer => ?_
  refine (discreet ρ s).mem_bind (discreet_warn _ answer) fun _ => discreet_change (by simp) ?_
  refine discreet_step (.reportRole id role role) rfl fun _ => ?_
  refine discreet_step (.log _) rfl fun _ => ?_
  exact mem_ite (fun _ => discreet_disconnectIfStored ρ s id) fun _ => (discreet ρ s).mem_done _

theorem discreet_markUnreachable : (discreet ρ s).mem (markUnreachable id) := by
  refine discreet_read (fun _ => rfl) fun record => mem_ite (fun _ => ?connected) fun _ => ?apart
  case connected =>
    refine discreet_step (.closeSession id false) rfl fun answer => ?_
    refine (discreet ρ s).mem_bind (discreet_warn _ answer) fun _ => ?_
    exact discreet_change (by simp)
      (mem_of_only (by simp [forall_except, discreet, Action.isPublic]))
  case apart =>
    exact discreet_change (by simp)
      (mem_of_only (by simp [forall_except, discreet, Action.isPublic]))

theorem discreet_sessionLost : (discreet ρ s).mem (sessionLost id) :=
  discreet_change (by simp) (mem_of_only (by simp [forall_except, discreet, Action.isPublic]))

theorem discreet_deviceRemoved : (discreet ρ s).mem (deviceRemoved id) := by
  refine discreet_step (.log _) rfl fun _ => ?_
  refine discreet_step (.closeSession id true) rfl fun answer => ?_
  refine (discreet ρ s).mem_bind (discreet_warn _ answer) fun _ => ?_
  exact discreet_change (by simp) (agrees_done rfl)

theorem discreet_tearDown : (discreet ρ s).mem (tearDown id) := by
  refine discreet_step (.removeKey id) rfl fun removed => ?_
  refine (discreet ρ s).mem_bind (discreet_warn _ removed) fun _ => ?_
  refine discreet_step (.closeSession id true) rfl fun closed => ?_
  refine (discreet ρ s).mem_bind (discreet_warn _ closed) fun _ => ?_
  exact discreet_change (by simp) (discreet_change (by simp) (agrees_done rfl))

/-! ### Discovery -/

theorem discreet_announceAvailable (placeholder : Description) :
    (discreet ρ s).mem (announceAvailable id placeholder) := by
  have asked : ∀ driver, (discreet ρ s).mem (askDetails id driver) := by
    intro driver
    refine mem_of_only ?_
    unfold askDetails
    cases driver.description <;> simp [forall_except, Option.forall, discreet, Action.isPublic]
  have described : (discreet ρ s).mem (describe id placeholder) := by
    refine discreet_step (.lookUp id) rfl fun device? => ?_
    rcases device? with _ | device
    · exact agrees_done rfl
    · refine (discreet ρ s).mem_bind (asked device.driver) fun found? => ?_
      rcases found? with _ | found <;> exact agrees_done rfl
  refine (discreet ρ s).mem_bind described fun d => ?_
  refine discreet_step (.writeStore (.connect id d)) rfl fun answer => ?_
  rcases answer with e | _
  · exact discreet_log _
  · exact discreet_change (by simp) (agrees_done rfl)

theorem discreet_bringPorts (driver : Driver) : (discreet ρ s).mem (bringPorts id driver) := by
  have asked : (discreet ρ s).mem (askPorts id driver) := by
    refine mem_of_only ?_
    unfold askPorts
    cases driver.description <;> cases driver.ports <;>
      simp [portsOf, forall_except, discreet, Action.isPublic]
  refine (discreet ρ s).mem_bind asked fun list => ?_
  refine mem_ite (fun _ => ?_) fun _ => agrees_done rfl
  refine discreet_step (.writeStore (.ports id list)) rfl fun answer => ?_
  rcases answer with e | _
  · exact discreet_log _
  · exact discreet_change (by simp) (agrees_done rfl)

theorem discreet_bringStatistics (driver : Driver) :
    (discreet ρ s).mem (bringStatistics id driver) := by
  refine discreet_read (fun _ => rfl) fun record => mem_ite (fun _ => ?_) fun _ => discreet_log _
  refine mem_of_only ?_
  cases driver.portStatistics <;>
    simp [warnOnRefusal, forall_except, discreet, Action.isPublic]

theorem discreet_discoverPorts : (discreet ρ s).mem (discoverPorts id) := by
  refine discreet_step (.isLocalMaster id) rfl fun mastered => ?_
  refine mem_ite (fun _ => ?_) fun _ => discreet_log _
  refine discreet_step (.isAvailable id) rfl fun available => ?_
  refine mem_ite (fun _ => ?_) fun _ => discreet_log _
  refine discreet_step (.lookUp id) rfl fun device? => ?_
  rcases device? with _ | device
  · exact discreet_log _
  · exact (discreet ρ s).mem_bind (discreet_bringPorts ρ s id device.driver) fun _ =>
      discreet_bringStatistics ρ s id device.driver

theorem discreet_discoverUnlessKnown : (discreet ρ s).mem (discoverUnlessKnown id) :=
  discreet_read (fun _ => rfl) fun _ =>
    mem_ite (fun _ => discreet_discoverPorts ρ s id) fun _ => agrees_done rfl

/-! ### Passes, once the device is registered -/

theorem discreet_addIfMissing : (discreet ρ s).mem (addIfMissing id) := by
  refine discreet_step (.lookUp id) rfl fun device? => ?_
  refine mem_ite (fun _ => ?_) fun _ => (discreet ρ s).mem_done _
  exact discreet_step (.writeStore _) rfl (discreet_warn _)

theorem public_of_looks {a : Action} (looks : a.Looks id) : a.isPublic = true := by
  have isLook := looks.2
  cases a <;> first | rfl | cases isLook

theorem discreet_converge (placeholder : Description) :
    (discreet ρ s).mem (converge id placeholder) := by
  refine mem_converge_of (fun a looks => public_of_looks id looks)
    (fun available k later => discreet_change (by simp) later) rfl placeholder ?_
    (discreet_discoverUnlessKnown ρ s id) (discreet_markUnreachable ρ s id)
  refine discreet_step (.isLocalMaster id) rfl fun mastered => ?_
  refine mem_ite (fun _ => ?_) fun _ => discreet_log _
  exact (discreet ρ s).mem_bind (discreet_announceAvailable ρ s id placeholder) fun _ =>
    discreet_discoverUnlessKnown ρ s id

theorem discreet_reactToStore (e : StoreEvent) : (discreet ρ s).mem (Order.reactToStore s e) :=
  mem_reactToStore_of s (fun _ looks => public_of_looks _ looks)
    (discreet_discoverPorts ρ s e.identity) (discreet_deviceRemoved ρ s e.identity)

end Job.Kind

/-! ## Passes with other secrets -/

section passes

open Job.Kind

variable {s : Settings} {id : Identity}

theorem agrees_desiredDevices :
    (desiredDevices s.appId).Agrees ρ s (AnswersRenamed ρ) (desiredDevices s.appId) := by
  have asked : (ofAction (.requestDevices s.appId)).Agrees ρ s Eq
      (ofAction (.requestDevices s.appId)) := mem_ofAction (K := discreet ρ s) rfl
  refine asked.bind fun ticket ticket' same => ?_
  rw [← same]
  exact agrees_receiveDevices ticket

theorem agrees_withDevices {f : List DesiredDevice → Job Unit}
    (later : ∀ devices devices', List.Forall₂ (DesiredDevice.Renamed ρ) devices devices' →
      (f devices).Agrees ρ s Eq (f devices')) :
    (withDevices s f).Agrees ρ s Eq (withDevices s f) := by
  have read : (readDevices s.appId).Agrees ρ s
      (Option.Rel (List.Forall₂ (DesiredDevice.Renamed ρ))) (readDevices s.appId) := by
    refine agrees_desiredDevices.bind fun answer answer' same => ?_
    rcases same with e | renamed
    · exact Agrees.bind (discreet_log (.configUnreadable e)) fun _ _ _ => agrees_done .none
    · exact agrees_done (.some renamed)
  refine read.bind fun devices? devices?' same => ?_
  rcases same with renamed | _
  · exact later _ _ renamed
  · exact agrees_done rfl

/-- Credentials are stored unless they are remembered, whatever the secret. -/
theorem agrees_registerCredentials (id : Identity) {c c' : Credentials}
    (masked : c.masked = c'.masked) (related : ρ.rel c c') :
    (registerCredentials id c).Agrees ρ s Eq (registerCredentials id c') := by
  refine (agrees_changeRecord id (.same .seen (by simp))).bind fun r r' h => ?_
  have state : r.state = r'.state := by
    have masked : r.masked.state = r'.masked.state := by rw [h.masked]
    exact masked
  -- the one place where the provider looks at a secret: it asks whether two are equal
  have skipped : r.state ≠ .unregistered ∧ r.credentials = some c ↔
      r'.state ≠ .unregistered ∧ r'.credentials = some c' := by
    rw [state, h.remembers_iff related]
  by_cases skips : r.state ≠ .unregistered ∧ r.credentials = some c
  · rw [if_pos skips, if_pos (skipped.1 skips)]
    exact agrees_done rfl
  rw [if_neg skips, if_neg (mt skipped.2 skips)]
  refine (agrees_storeKey id masked).bind fun answer answer' same => ?_
  subst same
  rcases answer with e | _
  · exact discreet_log _
  · refine Agrees.bind (discreet_log (.credentialsStored id)) fun _ _ _ => ?_
    exact (agrees_changeRecord id (.stored masked related)).bind fun _ _ _ => agrees_done rfl

theorem agrees_reconcileDevice (id : Identity) {device device' : DesiredDevice}
    (h : device.Renamed ρ device') :
    (reconcileDevice id device).Agrees ρ s Eq (reconcileDevice id device') := by
  refine (agrees_changeRecord id (.same .desired (by simp))).bind fun _ _ _ => ?_
  refine (agrees_registerCredentials id h.masked h.credentials).bind fun _ _ _ => ?_
  exact Agrees.bind (discreet_addIfMissing ρ s id) fun _ _ _ => discreet_converge ρ s id _

theorem agrees_reconcileSafely (id : Identity) {device device' : DesiredDevice}
    (h : device.Renamed ρ device') :
    (reconcileSafely id device).Agrees ρ s Eq (reconcileSafely id device') := by
  refine (agrees_reconcileDevice id h).contained.bind fun outcome outcome' same => ?_
  rw [← same]
  exact mem_ite (K := discreet ρ s) (fun _ => discreet_log _) fun _ => agrees_done rfl

theorem DesiredDevice.Renamed.identify_eq {device device' : DesiredDevice}
    (h : device.Renamed ρ device') (scheme : String) :
    identify scheme device = identify scheme device' := by
  rw [identify, identify, h.address, h.port]

/-- The entries take their turns, one in each run at a time. -/
theorem agrees_reconcileEach (scheme : String) {devices devices' : List DesiredDevice}
    (renamed : List.Forall₂ (DesiredDevice.Renamed ρ) devices devices') :
    (reconcileEach scheme devices).Agrees ρ s Eq (reconcileEach scheme devices') := by
  induction renamed with
  | nil => exact agrees_done rfl
  | @cons device device' _ _ first _ ih =>
    rcases found : identify scheme device with e | id
    · have found' := (first.identify_eq scheme).symm.trans found
      rw [reconcileEach_of_error found, reconcileEach_of_error found']
      exact Agrees.bind (discreet_log (.entrySkipped e)) fun _ _ _ => ih
    · have found' := (first.identify_eq scheme).symm.trans found
      rw [reconcileEach_of_ok found, reconcileEach_of_ok found']
      refine (agrees_reconcileSafely id first).bind fun _ _ _ => ih.bind fun ids ids' same => ?_
      exact agrees_done (congrArg (id :: ·) same)

theorem agrees_passOver {devices devices' : List DesiredDevice}
    (renamed : List.Forall₂ (DesiredDevice.Renamed ρ) devices devices') :
    (passOver s devices).Agrees ρ s Eq (passOver s devices') := by
  unfold passOver
  rw [renamed.length_eq]
  refine Agrees.bind (discreet_log (.passStarted devices'.length)) fun _ _ _ => ?_
  refine (agrees_reconcileEach s.scheme renamed).bind fun ids ids' same => ?_
  rw [← same]
  refine discreet_step (.markDesired ids) rfl fun _ => discreet_step .prune rfl fun dropped => ?_
  induction dropped with
  | nil => exact agrees_done rfl
  | cons id rest ih => exact discreet_step (.log _) rfl fun _ => ih

theorem agrees_passOverOne (id : Identity) {devices devices' : List DesiredDevice}
    (renamed : List.Forall₂ (DesiredDevice.Renamed ρ) devices devices') :
    (passOverOne s id devices).Agrees ρ s Eq (passOverOne s id devices') := by
  unfold passOverOne
  induction renamed with
  | nil => exact discreet_log _
  | @cons device device' _ _ first _ ih =>
    have named : names s.scheme id device = names s.scheme id device' := by
      rw [names, names, first.identify_eq]
    rw [List.find?_cons, List.find?_cons, ← named]
    rcases names s.scheme id device with _ | _
    · exact ih
    · exact agrees_reconcileDevice id first

/-- Every operation does the same in deployments that differ in secrets. -/
theorem agrees_operation (ρ : Renaming) (s : Settings) (o : Operation) :
    (o.job s).Agrees ρ s Eq (o.job s) :=
  mem_operation (K := discreet ρ s) s (agrees_withDevices fun _ _ => agrees_passOver)
    (fun id => agrees_withDevices fun _ _ => agrees_passOverOne id)
    (discreet_sessionLost ρ s) (discreet_reactToStore ρ s)
    (fun id role _ => mem_changeRole rfl (fun _ => rfl) (fun _ => discreet_connect ρ s id)
      fun _ => discreet_release ρ s id role)
    (discreet_deviceRemoved ρ s) (discreet_tearDown ρ s)
    (mem_tearDownAll rfl (discreet_tearDown ρ s)) (discreet_discoverPorts ρ s)

end passes

/-! ## Runs -/

/-- The steps are the same, but for the secrets in a configuration. -/
inductive Step.Renamed (ρ : Renaming) (s : Settings) : (step step' : Step) → Prop
  | same (step : Step) (other : ∀ c, step ≠ .change (.configure c)) : Step.Renamed ρ s step step
  | configured {c c' : ConfigSource} (renamed : c.Renamed ρ s.appId c') :
    Step.Renamed ρ s (.change (.configure c)) (.change (.configure c'))

namespace Deployment

variable {s : Settings} {d d' : Deployment}

/-- How far the operations of a run came, and what they answered. -/
def outcomes (s : Settings) (d : Deployment) : List Step → List (Progress (Except RoleError Unit))
  | [] => []
  | .operation o :: rest => ((o.job s).run d).1 :: (Step.apply s d (.operation o)).outcomes s rest
  | .change c :: rest => (c.apply d).outcomes s rest

theorem masked_change (d : Deployment) {c : Change} (other : ∀ source, c ≠ .configure source) :
    (c.apply d).masked = c.apply d.masked := by
  cases c with
  | configure source => exact absurd rfl (other source)
  | remove id =>
    have plain : ((d.store.remove id).2.map Occurrence.storeChanged).map Occurrence.masked =
        (d.store.remove id).2.map Occurrence.storeChanged := by
      simp [Occurrence.masked]
    exact masked_note_plain { d with store := (d.store.remove id).1 } plain
  | _ => rfl

theorem Renamed.step (h : d.Renamed ρ s d') {step step' : Step} (same : step.Renamed ρ s step') :
    (step.apply s d).Renamed ρ s (step'.apply s d') := by
  rcases same with ⟨_, other⟩ | renamed
  · rcases step with o | c
    · exact (agrees_operation ρ s o d d' h).2
    · have other : ∀ source, c ≠ .configure source := fun source same => other source (same ▸ rfl)
      have masked : (c.apply d).masked = (c.apply d').masked := by
        rw [masked_change d other, masked_change d' other, h.masked]
      cases c with
      | configure source => exact absurd rfl (other source)
      | _ => exact ⟨masked, h.records, h.config⟩
  · exact ⟨h.masked, h.records, renamed⟩

theorem Renamed.outcomes (h : d.Renamed ρ s d') {steps steps' : List Step}
    (same : List.Forall₂ (Step.Renamed ρ s) steps steps') :
    List.Forall₂ (Progress.Agrees Eq) (d.outcomes s steps) (d'.outcomes s steps') := by
  induction same generalizing d d' with
  | nil => exact .nil
  | @cons step _ _ _ first _ ih =>
    have later := ih (h.step first)
    rcases first with ⟨_, other⟩ | renamed
    · rcases step with o | c
      · exact .cons (agrees_operation ρ s o d d' h).1 later
      · exact later
    · exact later

theorem Renamed.after (h : d.Renamed ρ s d') {steps steps' : List Step}
    (same : List.Forall₂ (Step.Renamed ρ s) steps steps') :
    (d.after s steps).Renamed ρ s (d'.after s steps') := by
  induction same generalizing d d' with
  | nil => exact h
  | cons first _ ih => exact ih (h.step first)

/-- A provider that starts afresh with other secrets. -/
theorem renamed_fresh (node : NodeId) {devices devices' : List DesiredDevice}
    (renamed : List.Forall₂ (DesiredDevice.Renamed ρ) devices devices') :
    (fresh node devices).Renamed ρ s (fresh node devices') where
  masked := rfl
  records _ := ⟨rfl, fun first _ => by cases first⟩
  config := .listed renamed

/-- Secrets do not leave.  Take two runs of the same steps that start alike and are configured
alike, except that the secrets of the second run are those of the first under other names.  Then the
operations of the two runs come equally far with the same answers, and afterwards everything that is
held, and everything that was seen so far, is the same once secrets are blanked. -/
theorem same_but_for_secrets (ρ : Renaming) (s : Settings) {d d' : Deployment}
    {steps steps' : List Step} (start : d.Renamed ρ s d')
    (same : List.Forall₂ (Step.Renamed ρ s) steps steps') :
    (d.after s steps).masked = (d'.after s steps').masked ∧
      List.Forall₂ (Progress.Agrees Eq) (d.outcomes s steps) (d'.outcomes s steps') :=
  ⟨(start.after same).masked, start.outcomes same⟩

end Deployment

/-! ### A password that changes -/

/-- A device that is logged in to with a password. -/
def DesiredDevice.withPassword (password : String) : DesiredDevice :=
  ⟨"10.0.0.1", 830, "admin", password, none⟩

/-- The device is equipped with a driver, answers and is promoted. -/
def Step.commission : List Step :=
  [.change (.activate true),
    .change (.equip .sample
      (CapabilitySet.empty.insert (.ports (.answer [⟨1, "uplink", true, 1000⟩])))),
    .change (.reach ((∅ : SortedSet Identity).insert .sample ())), .change (.claim .sample)] ++
  Step.promotion

/-- The device is promoted, and then its password changes. -/
def Step.changingTo (password : String) : List Step :=
  Step.commission ++
    [.change (.configure (.listed [.withPassword password])), .operation (.order .pass)]

/-- Two passwords that stand for two others. -/
def Renaming.sample : Renaming where
  rel c c' := (c = .password "admin" "secret" ∧ c' = .password "admin" "hidden") ∨
    (c = .password "admin" "rotated" ∧ c' = .password "admin" "changed")
  injective := by
    rintro a a' b b' (⟨rfl, rfl⟩ | ⟨rfl, rfl⟩) (⟨rfl, rfl⟩ | ⟨rfl, rfl⟩) <;> simp

namespace Deployment

/-- In the two runs the credential store holds different passwords in the end, and nobody else can
tell. -/
theorem same_but_for_secrets_rotation :
    let d := fresh (.ofSmall 1) [.withPassword "secret"]
    let d' := fresh (.ofSmall 1) [.withPassword "hidden"]
    let steps := Step.changingTo "rotated"
    let steps' := Step.changingTo "changed"
    ((d.after .default steps).keys.get? .sample = some (.password "admin" "rotated") ∧
      (d'.after .default steps').keys.get? .sample = some (.password "admin" "changed") ∧
      (d.after .default steps).sessions.contains .sample = true) ∧
    (d.after .default steps).masked = (d'.after .default steps').masked ∧
      List.Forall₂ (Progress.Agrees Eq) (d.outcomes .default steps)
        (d'.outcomes .default steps') := by
  intro d d' steps steps'
  have renamed : ∀ {password password'}, Renaming.sample.rel (.password "admin" password)
      (.password "admin" password') → List.Forall₂ (DesiredDevice.Renamed .sample)
        [.withPassword password] [.withPassword password'] :=
    fun related => .cons ⟨rfl, rfl, rfl, rfl, related⟩ .nil
  have first := renamed (.inl ⟨rfl, rfl⟩)
  have second := renamed (.inr ⟨rfl, rfl⟩)
  have alike : List.Forall₂ (Step.Renamed .sample .default) Step.commission Step.commission := by
    refine List.forall₂_same.2 fun step mem => .same step fun c => ?_
    rintro rfl
    simp [Step.commission, Step.promotion] at mem
  have same : List.Forall₂ (Step.Renamed .sample .default) steps steps' :=
    List.rel_append alike (.cons (.configured (.listed second)) (.cons (.same _ (by simp)) .nil))
  exact ⟨by decide +kernel, same_but_for_secrets .sample .default (renamed_fresh _ first) same⟩

end Deployment

end Southbound
