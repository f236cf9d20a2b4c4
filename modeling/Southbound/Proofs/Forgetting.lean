import Southbound.Proofs.Isolation
import Southbound.Proofs.Link

/-!
# Devices are forgotten

A pass drops the record of a device that configuration no longer lists, unless the record is live.
A live record must therefore stand for a session: a record that is connected has an open session
(`Link.Attached`), and an attempt to connect is brought to an end in the operation that makes it
(`Link.Concluded`).  Both hold between two operations, whatever is refused or breaks down, as long
as opening a session does not break down; so the next pass forgets every device that is neither
listed nor has a session (`Deployment.Reaches.forgets`).  An attempt to open a session that breaks
down leaves a record that is connecting, and passes keep it (`Deployment.unforgotten`).
-/

namespace Southbound

open Deployment Job Reconciliation

/-! ## A pass and the devices that it does not name -/

/-- The action changes nothing that is held about the device. -/
def Action.Elsewhere (id : Identity) (a : Action) : Prop :=
  ∀ d : Deployment, (d.perform a).2.slice id = d.slice id

namespace Job

variable {id id' : Identity} {α : Type}

theorem elsewhere_of_concerns {a : Action} (concerns : a.Concerns id') (ne : id ≠ id') :
    a.Elsewhere id := fun d => (d.perform_slice concerns).2.others id ne

theorem elsewhere_readDevices (appId : String) (id : Identity) :
    (readDevices appId).Only (Action.Elsewhere id) := by
  refine Kind.mem_readDevices (K := .only (Action.Elsewhere id)) (fun _ _ => rfl)
    (fun appId => ?_) appId
  have asks : Action.Elsewhere id (.requestDevices appId) := fun d => by
    obtain ⟨d', performed, slices, _⟩ := d.perform_requestDevices appId
    rw [performed, slices]
  exact (only_ofAction asks).bind fun _ => only_ofAction fun _ => rfl

theorem slice_of_elsewhere {j : Job α} (only : j.Only (Action.Elsewhere id)) (d : Deployment) :
    (j.run d).2.slice id = d.slice id :=
  only.run (P := fun d' => d'.slice id = d.slice id)
    (fun d' _ elsewhere same => (elsewhere d').trans same) rfl

/-- A configuration that is asked without trouble is read. -/
theorem readDevices_untroubled {appId : String} {d : Deployment} {devices : List DesiredDevice}
    (untroubled : (d.faults .desiredDevices).next.1 = none)
    (config : d.config.desiredDevices appId = .ok devices) :
    ∃ d₁, (readDevices appId).run d = (.done (some devices), d₁) := by
  let d₁ := d.meet (.desiredDevices appId) .desiredDevices
  have performed : d.perform (.requestDevices appId) = (some none, d₁) := by
    rw [requestDevices_eq, untroubled]
  have answered : (Job.desiredDevices appId).run d = (.done (.ok devices), d₁) :=
    (run_bind_ofAction rfl performed).trans (by rw [← config]; rfl)
  refine ⟨d₁, ?_⟩
  unfold readDevices
  rw [bind_eq, run_bind, answered]
  rfl

/-- Whatever goes wrong at single entries, a pass goes through all of them, and leaves alone the
devices that none of them names. -/
theorem run_reconcileEach_unnamed (scheme : String) {devices : List DesiredDevice}
    (unnamed : ∀ device ∈ devices, names scheme id device = false) (d : Deployment) :
    ∃ d', (reconcileEach scheme devices).run d = (.done (named scheme devices), d') ∧
      d'.slice id = d.slice id := by
  induction devices generalizing d with
  | nil => exact ⟨d, rfl, rfl⟩
  | cons device rest ih =>
    obtain ⟨other, others⟩ := List.forall_mem_cons.1 unnamed
    cases identified : identify scheme device with
    | error e =>
      obtain ⟨d', ran, same⟩ := ih others (d.say (.entrySkipped e))
      exact ⟨d', run_reconcileEach_of_error identified ran, same⟩
    | ok id' =>
      have ne : id ≠ id' := by
        rintro rfl
        simp [names_iff.2 identified] at other
      have apart : (reconcileSafely id' device).Only (Action.Elsewhere id) :=
        (only_reconcileSafely id' device).mono fun _ concerns => elsewhere_of_concerns concerns ne
      obtain ⟨d₁, handled⟩ := run_reconcileSafely id' device d
      obtain ⟨d', ran, same⟩ := ih others d₁
      have kept := slice_of_elsewhere apart d
      rw [handled] at kept
      exact ⟨d', run_reconcileEach_of_ok identified handled ran, same.trans kept⟩

end Job

/-- What the end of a pass drops. -/
theorem Records.dropped_of_unlive {m : Records} {desired : List Identity} {id : Identity}
    (unlisted : desired.contains id = false) (unlive : (m.read id).state.isLive = false) :
    (m.markDesired desired).prune.get? id = none := by
  rw [prune, markDesired, SortedMap.get?_filter, SortedMap.get?_map]
  rw [read] at unlive
  cases recorded : m.get? id with
  | none => rfl
  | some r =>
    rw [recorded, Option.getD_some] at unlive
    simp only [Option.map_some, Option.filter, DeviceRecord.isKept, unlisted, unlive]
    rfl

namespace Deployment

variable {s : Settings} {id : Identity} {start d d₁ : Deployment} {devices : List DesiredDevice}

/-- A pass whose configuration could be read forgets every device that configuration does not list
and whose record is not live. -/
theorem forgotten_of_unlive (read : (readDevices s.appId).run d = (.done (some devices), d₁))
    (unnamed : ∀ device ∈ devices, names s.scheme id device = false)
    (unlive : (d.records.read id).state.isLive = false) :
    ∃ d', (reconcileAll s).run d = (.done (), d') ∧ d'.records.get? id = none := by
  have kept := slice_of_elsewhere (elsewhere_readDevices s.appId id) d
  rw [read] at kept
  obtain ⟨d₂, handled, same⟩ :=
    run_reconcileEach_unnamed s.scheme unnamed (d₁.say (.passStarted devices.length))
  have record : d₂.records.read id = d.records.read id :=
    congrArg (fun v : Slice => v.record?.getD .fresh) (same.trans kept)
  have unlisted : (named s.scheme devices).contains id = false := by
    rw [Bool.eq_false_iff, ne_eq, List.contains_iff_mem, mem_named_iff]
    rintro ⟨device, listed, identified⟩
    exact Bool.false_ne_true ((unnamed device listed).symm.trans (names_iff.2 identified))
  exact ⟨_, run_reconcileAll_of_handled read handled,
    Records.dropped_of_unlive unlisted (by rwa [record])⟩

namespace Reaches

/-- As long as opening a session does not break down, no record is connecting between two
operations, and a pass whose configuration can be read forgets every device that configuration does
not list and that has no open session. -/
theorem forgets (records : start.records = ∅) (within : start.faults.Within .openingsEnd)
    (reached : start.Reaches s (Planned .openingsEnd) d) :
    (∀ id, (d.records.read id).state ≠ .connecting) ∧
      ∀ id devices d₁, (readDevices s.appId).run d = (.done (some devices), d₁) →
        (∀ device ∈ devices, names s.scheme id device = false) →
        d.sessions.contains id = false →
        ∃ d', (reconcileAll s).run d = (.done (), d') ∧ d'.records.get? id = none := by
  have concluded := reached.concluded records within
  have attached := reached.attached records
  refine ⟨concluded.every, fun id devices d₁ read unnamed closed => ?_⟩
  have unconnected : (d.records.read id).state ≠ .connected := fun connected =>
    Bool.false_ne_true (closed.symm.trans (attached id connected))
  have unconnecting : (d.records.read id).state ≠ .connecting := concluded.every id
  refine forgotten_of_unlive read unnamed ?_
  cases state : (d.records.read id).state <;> simp_all [ConnectionState.isLive]

end Reaches

end Deployment

/-! ### A device that is no longer listed -/

/-- The device is promoted and demoted, and then configuration no longer lists it. -/
def Step.departure : List Step :=
  Step.promotion ++
    [.operation (.order (.role .sample .standby)), .change (.configure (.listed []))]

/-- Opening a session breaks down. -/
def Faults.collapsing : Faults := Faults.none.plan (.openSession .sample) ⟨[], some .crash⟩

/-- The promotion breaks down, and then configuration no longer lists the device. -/
def Step.collapse : List Step :=
  [.operation (.order .pass), .change (.plan .collapsing),
    .operation (.order (.role .sample .master)), .change (.configure (.listed []))]

namespace Deployment

/-- A device that had a session is forgotten after it. -/
theorem forgets_departure :
    let d := Deployment.sample.after .default Step.departure
    (d.records.read .sample).state = .disconnected ∧
      ∃ d', (reconcileAll .default).run d = (.done (), d') ∧ d'.records.get? .sample = none := by
  intro d
  have state : (d.records.read .sample).state = .disconnected := by decide +kernel
  have closed : d.sessions.contains .sample = false := by decide +kernel
  have reached : Deployment.sample.Reaches .default (Planned .openingsEnd) d :=
    Reaches.refl.after ⟨trivial, trivial, trivial, trivial, trivial⟩
  have config : d.config = .listed [] := rfl
  obtain ⟨d₁, read⟩ : ∃ d₁, (readDevices Settings.default.appId).run d = (.done (some []), d₁) :=
    readDevices_untroubled (by decide +kernel) (by rw [config]; rfl)
  have forgets := Reaches.forgets rfl (Faults.within_none _) reached
  exact ⟨state, forgets.2 .sample [] d₁ read nofun closed⟩

/-- An attempt to open a session that breaks down leaves a record that is connecting, and the next
pass keeps it although the device is not listed and has no session. -/
theorem unforgotten :
    let d := Deployment.sample.after .default Step.collapse
    Deployment.sample.Reaches .default (Planned fun _ _ => True) d ∧
      (d.records.read .sample).state = .connecting ∧ d.sessions.contains .sample = false ∧
      (∃ d₁, (readDevices Settings.default.appId).run d = (.done (some []), d₁)) ∧
      (((reconcileAll .default).run d).2.records.get? .sample).isSome = true := by
  intro d
  have reached : Deployment.sample.Reaches .default (Planned fun _ _ => True) d :=
    Reaches.refl.after ⟨trivial, fun _ _ _ => trivial, trivial, trivial, trivial⟩
  have config : d.config = .listed [] := rfl
  have read : ∃ d₁, (readDevices Settings.default.appId).run d = (.done (some []), d₁) :=
    readDevices_untroubled (by decide +kernel) (by rw [config]; rfl)
  exact ⟨reached, by decide +kernel, by decide +kernel, read, by decide +kernel⟩

end Deployment

end Southbound
