import Southbound.Proofs.Backing
import Southbound.Proofs.Convergence
import Southbound.Proofs.RoleProtocol

/-!
# What is skipped is not missing

The provider does not do again what its records say was done: a key that was stored is not stored
again, ports that were discovered are not discovered again, and a device that is connected is only
confirmed.  That is sound because the records are right whatever failed before.

For keys, `Deployment.Reaches.registration_sound` says so after any run in which nothing breaks
down.  `Deployment.Reaches.recovers` is about everything at once: from whatever state a run of
failures left behind, one pass and one promotion in which nothing fails bring a device to where it
should be (`Deployment.Recovered`).  Of what may have failed before only two things are left out: a
breakdown while a session is closed, after which a key that was removed would be remembered, and a
look into the store that misses the device.
-/

namespace Southbound

open Connection Deployment Discovery Glimpse Job Reconciliation

/-! ## Keys that are stored again -/

/-- Calls may be refused, but nothing breaks down. -/
def Hazards.unbroken : Hazards := fun _ fault => fault ≠ .crash

/-- The key that is asked for is held and remembered afterwards, or it was refused and nothing
changed. -/
theorem Job.observes_registerCredentials {id : Identity} {v : Slice} (c : Credentials)
    (remembered : v.link.Remembered) :
    (registerCredentials id c).Observes .unbroken id v fun reply v' seen =>
      reply = some () ∧
        ((v'.key? = some c ∧ ∃ r, v'.record? = some r ∧ r.credentials = some c) ∨
          (∃ e, Answered seen (.storeKey id c) (.error e)) ∧ v' = v.change .seen) := by
  have skipped : v.record.credentials = some c → v.key? = some c := remembered c
  simp only [registerCredentials, pure_eq, bind_eq, observes_bind, observes_ite,
    observes_changeRecord, ensures_changeRecord]
  refine ⟨fun known => ⟨rfl, .inl ⟨skipped known.2, _, rfl, known.2⟩⟩, fun _ => ?_⟩
  have stored : ∃ r, ((v.setKey (some c)).change (.credentialsStored c)).record? = some r ∧
      r.credentials = some c := ⟨_, rfl, rfl⟩
  simpa [Hazards.unbroken] using ⟨rfl, stored⟩

namespace Deployment

variable {s : Settings} {start d : Deployment}

/-- The slice of the device before and after, where nothing else is held about any device. -/
theorem Moves.keys_eq {d d' : Deployment} {id : Identity} {v : Slice} {cs : List Call}
    (moved : d.Moves id v cs d') (same : v.key? = d.keys.get? id) : d'.keys = d.keys := by
  refine SortedMap.ext fun id' => ?_
  by_cases own : id' = id
  · subst own
    exact (congrArg Slice.key? moved.own).trans same
  · exact congrArg Slice.key? (moved.others id' own)

/-- After any run in which calls are refused but nothing breaks down, the credential store holds
what the records remember.  Hence credentials that are to be stored are held and remembered
afterwards, or the credential store refused them and holds what it held, as the record does. -/
theorem Reaches.registration_sound (records : start.records = ∅)
    (within : start.faults.Within .unbroken) (reached : start.Reaches s (Planned .unbroken) d) :
    (∀ id r c, d.records.get? id = some r → r.credentials = some c →
      d.keys.get? id = some c) ∧
    ∀ id c, ∃ d', (registerCredentials id c).run d = (.done (), d') ∧
      ((d'.keys.get? id = some c ∧
          ∃ r, d'.records.get? id = some r ∧ r.credentials = some c) ∨
        (∃ e, Answered ((registerCredentials id c).glimpses id d) (.storeKey id c) (.error e)) ∧
          d'.keys = d.keys ∧ d'.records.get? id = some (d.records.read id)) := by
  have held : d.Holds .unbroken fun v => v.link.Remembered :=
    reached.remembered_of_planned (fun _ crashes => crashes rfl) records within
  refine ⟨fun id r c recorded remembers => ?_, fun id c => ?_⟩
  · have own : (d.slice id).record = r := by simp [Slice.record, slice, recorded]
    refine held.every id c ?_
    show (d.slice id).record.credentials = some c
    rw [own, remembers]
  · obtain ⟨_, v, d', ran, moved, rfl, outcome⟩ :=
      run_of_observes (observes_registerCredentials c (held.every id)) held.within
    refine ⟨d', ran, ?_⟩
    rcases outcome with ⟨key, r, recorded, remembers⟩ | ⟨refused, rfl⟩
    · exact .inl ⟨(congrArg Slice.key? moved.own).trans key, r,
        (congrArg Slice.record? moved.own).trans recorded, remembers⟩
    · exact .inr ⟨refused, moved.keys_eq rfl, congrArg Slice.record? moved.own⟩

end Deployment

/-- The device is connected; then its password changes, and the credential store refuses the new
one. -/
def Step.rotation : List Step :=
  Step.promotion ++ [.change (.configure (.listed [⟨"10.0.0.1", 830, "admin", "rotated", none⟩])),
    .change (.plan
      (Faults.none.plan (.storeKey .sample) ⟨[], some (.refuse (.credentials "read-only"))⟩)),
    .operation (.order .pass)]

namespace Deployment

/-- A password that is refused again leaves the old one held and remembered. -/
theorem registration_sound_rotation :
    let d := sample.after .default Step.rotation
    (∃ r, d.records.get? .sample = some r ∧ r.credentials = some (.password "admin" "secret")) ∧
      d.keys.get? .sample = some (.password "admin" "secret") ∧
      ∃ d', (registerCredentials .sample (.password "admin" "rotated")).run d = (.done (), d') ∧
        d'.keys = d.keys ∧ d'.records.get? .sample = some (d.records.read .sample) := by
  have within : (Faults.none.plan (.storeKey .sample)
      ⟨[], some (.refuse (.credentials "read-only"))⟩).Within .unbroken := by
    refine (Faults.within_none _).plan fun fault planned => ?_
    obtain rfl : fault = .refuse (.credentials "read-only") := by simpa using planned
    exact nofun
  have reached : sample.Reaches .default (Planned .unbroken)
      (sample.after .default Step.rotation) :=
    Reaches.refl.after ⟨trivial, trivial, trivial, within, trivial, trivial⟩
  have remembers : ((sample.after .default Step.rotation).records.get? .sample).any
      (·.credentials == some (.password "admin" "secret")) = true := by
    decide +kernel
  have kept : ((registerCredentials .sample (.password "admin" "rotated")).run
      (sample.after .default Step.rotation)).2.keys.get? .sample =
        some (.password "admin" "secret") := by
    decide +kernel
  obtain ⟨r, recorded, same⟩ := (Option.any_eq_true _ _).1 remembers
  obtain ⟨held, registered⟩ := reached.registration_sound rfl (Faults.within_none _)
  have same : r.credentials = some (.password "admin" "secret") := eq_of_beq same
  obtain ⟨d', ran, outcome⟩ := registered .sample (.password "admin" "rotated")
  rw [ran] at kept
  refine ⟨⟨r, recorded, same⟩, held _ _ _ recorded same, d', ran, ?_⟩
  rcases outcome with ⟨rotated, -⟩ | ⟨-, keys, record⟩
  · exact absurd (kept.symm.trans rotated) (by decide)
  · exact ⟨keys, record⟩

end Deployment

/-! ## Devices that are brought back -/

namespace Slice

variable {v : Slice} {id : Identity} {c : Credentials}

theorem record_counted (v : Slice) : v.counted.record = v.record := by
  unfold counted
  split <;> rfl

/-- Where discovery is due or was done, ports are known afterwards. -/
theorem portsDiscovered_discovered (master : v.isMaster = true) (available : v.available = true)
    (listing : v.listing ≠ []) : v.discovered.record.portsDiscovered = true := by
  unfold discovered
  by_cases known : v.record.portsDiscovered = true
  · simp [known]
  · rw [if_pos ⟨by simpa using known, master, available⟩, record_counted]
    rcases hl : v.driver.listed? with _ | _ | ⟨port, others⟩
    · simp [Slice.listing, hl] at listing
    · simp [Slice.listing, hl] at listing
    · simp [brought, hl, change, record, RecordChange.apply]

theorem portsDiscovered_converged (placeholder : Description) (answers : v.answers = true)
    (master : v.isMaster = true) (listing : v.listing ≠ []) (told : v.driver.told? ≠ none) :
    (v.converged placeholder).record.portsDiscovered = true := by
  unfold converged
  rw [answers]
  cases shown : v.available with
  | true => exact portsDiscovered_discovered (v := v.change _) master shown listing
  | false =>
    obtain ⟨d, byDefault, appeared⟩ := (v.change (.shown false)).exists_appeared_eq placeholder told
    simp only [master, if_true]
    rw [appeared]
    exact portsDiscovered_discovered (v := ((v.change (.shown false)).announce d).change _) master
      ((available_announce _ d).trans byDefault) listing

/-- What a promotion needs: the key is held, the record is right about the session, and the ports of
the device are known and stored. -/
structure Ready (v : Slice) (c : Credentials) : Prop where
  key : v.key? = some c
  attached : v.link.Attached
  discovered : v.record.portsDiscovered = true
  available : v.available = true
  ports : v.ports ≠ []

/-- A pass makes a device ready that answers and that this node masters, whatever its records say,
as long as they are right. -/
theorem ready_reconciled (remembered : v.link.Remembered) (attached : v.link.Attached)
    (backed : v.standing.Backed) (answers : v.answers = true) (master : v.isMaster = true)
    (listing : v.listing ≠ []) (told : v.driver.told? ≠ none) :
    (reconciled id v c).Ready c := by
  have answers' : (entry id v c).answers = true := (answers_entry v id c).trans answers
  have master' : (entry id v c).isMaster = true := (isMaster_entry v id c).trans master
  have listing' : (entry id v c).listing ≠ [] := by rwa [listing_entry]
  have told' : (entry id v c).driver.told? ≠ none := by rwa [driver_entry]
  constructor
  case key => exact key?_reconciled v id c remembered
  case attached =>
    rw [reconciled, link_converged, answers', if_neg (by simp), link_entry]
    unfold Link.register
    split
    · exact attached
    · exact (Link.attached_kept .none).stored c attached
  case discovered => exact portsDiscovered_converged _ answers' master' listing' told'
  case available =>
    rw [reconciled, available_converged _ _ fun _ => told', answers', master']
    simp
  case ports =>
    rw [reconciled, ports_converged _ _ fun _ => told', answers', master', portsDiscovered_entry,
      ports_entry]
    cases known : v.record.portsDiscovered with
    | false => simp [listing']
    | true =>
      obtain ⟨stored, hs, ports⟩ := backed.ports known
      have stored : v.stored? = some stored := hs
      simpa [Slice.ports, stored] using ports

end Slice

/-- Where a device is ready, a promotion in which nothing fails opens its session and tells so. -/
theorem Job.ensures_connect {id : Identity} {v : Slice} {c : Credentials} (ready : v.Ready c)
    (answers : v.answers = true) :
    (connect id).Ensures .none id v fun reply v' _ => reply = some (.ok ()) ∧ v'.Ready c ∧
      v'.isOpen = true ∧ v'.record.state = .connected ∧ v'.accepted? = some .master := by
  obtain ⟨key, attached, discovered, available, ports⟩ := ready
  by_cases connected : v.record.state = .connected
  · have confirmed : (v.accept .master).Ready c := ⟨key, attached, discovered, available, ports⟩
    have opened : v.isOpen = true := attached connected
    have accepted : (v.accept .master).accepted? = some .master := rfl
    simpa [connect, connected, Hazards.none] using ⟨confirmed, opened, connected, accepted⟩
  · let w := ((v.change (.reached .connecting)).setOpen true).change (.reached .connected)
    have confirmed : (w.accept .master).Ready c := ⟨key, fun _ => rfl, discovered, available, ports⟩
    have opened : (w.accept .master).isOpen = true := rfl
    have state : (w.accept .master).record.state = .connected := rfl
    have accepted : (w.accept .master).accepted? = some .master := rfl
    obtain ⟨stored, hs, -⟩ := (Option.any_eq_true _ _).1 available
    have announced : (announceIfMissing id).Ensures .none id w fun reply v' _ =>
        reply = some () ∧ v' = w := by
      have stored : w.stored? = some stored := hs
      simp [announceIfMissing, Hazards.none, Slice.found?, stored]
    have keyed : (v.change (.reached .connecting)).key? = some c := key
    simp only [connect, pure_eq, bind_eq, ensures_bind, ensures_ite, ensures_readRecord, connected,
      ensures_probe, answers, ensures_changeRecord, ensures_openSession, Hazards.none, keyed,
      false_implies, implies_true, true_implies, true_and, and_true, not_true_eq_false,
      not_false_eq_true, reduceCtorEq]
    intro _ _
    refine announced.mono fun reply v' _ outcome => ?_
    obtain ⟨rfl, rfl⟩ := outcome
    simpa [Hazards.none] using ⟨confirmed, opened, state, accepted⟩

/-! ### Throughout a run -/

/-- Calls may fail in any way, but nothing breaks down while a session is closed, and a look into
the store finds what is there. -/
def Hazards.recoverable : Hazards
  | .closeSession _, fault => fault ≠ .crash
  | .lookUp _, fault => fault ≠ .absent
  | _, _ => True

namespace Deployment

/-- The step may be taken: nobody but the provider writes to the store, and only what one can
recover from is to go wrong. -/
def Recoverable (_ : Deployment) : Step → Prop
  | .change (.remove _) => False
  | .change (.plan f) => f.Within .recoverable
  | _ => True

theorem honest_of_recoverable (point : FaultPoint) {fault : Fault}
    (hazard : Hazards.recoverable point fault) : Hazards.honest point fault := by
  cases point <;> trivial

theorem planned_of_recoverable {d : Deployment} {step : Step} (admitted : d.Recoverable step) :
    d.Planned .recoverable step := by
  rcases step with o | c
  · trivial
  · rcases c with _ | _ | _ | _ | _ | _ | _ | _ | f
    all_goals trivial

theorem undisturbed_of_recoverable {d : Deployment} {step : Step} (admitted : d.Recoverable step) :
    d.Undisturbed step := by
  rcases step with o | c
  · trivial
  · cases c
    case plan f => exact Faults.Within.mono admitted fun point _ => honest_of_recoverable point
    all_goals trivial

/-- The device is connected and mastered, and everything about it is in place. -/
structure Recovered (d : Deployment) (id : Identity) (c : Credentials) : Prop where
  key : d.keys.get? id = some c
  session : d.sessions.contains id = true
  connected : (d.records.read id).state = .connected
  discovered : (d.records.read id).portsDiscovered = true
  available : d.store.isAvailable id = true
  ports : d.storedPorts id ≠ []
  accepted : d.mastership.accepted.get? id = some .master

variable {s : Settings} {start d : Deployment} {id : Identity}

/-- From whatever state a run left behind in which only the provider wrote to the store, a pass and
a promotion in which nothing fails bring back every device that one entry names, that answers, that
this node masters and whose driver lists ports. -/
theorem Reaches.recovers (records : start.records = ∅) (within : start.faults.Within .recoverable)
    (reached : start.Reaches s Recoverable d) (quiet : d.faults = .none) (active : d.active = true)
    {devices : List DesiredDevice} (config : d.config.desiredDevices s.appId = .ok devices)
    {device : DesiredDevice} (only : devices.filter (names s.scheme id) = [device])
    (answers : d.reachable.contains id = true) (master : d.mastership.isLocalMaster id = true)
    (ports : d.listedPorts id ≠ [])
    (tells : ∀ driver, d.drivers.get? id = some driver → driver.told? ≠ none) :
    ∃ d₁ d₂, (reconcileAll s).run d = (.done (), d₁) ∧
      (changeRole id .master).run d₁ = (.done (.ok ()), d₂) ∧
      d₂.Recovered id device.credentials := by
  have remembered : (d.slice id).link.Remembered :=
    ((reached.mono fun _ _ => planned_of_recoverable).remembered_of_planned
      (fun _ crashes => crashes rfl) records within).every id
  have backed : (d.slice id).standing.Backed :=
    ((reached.mono fun _ _ => undisturbed_of_recoverable).backed records
      (within.mono fun point _ => honest_of_recoverable point)).every id
  have told : (d.slice id).driver.told? ≠ none := by
    show ((d.drivers.get? id).getD ∅).told? ≠ none
    cases hd : d.drivers.get? id with
    | none => exact fun broken => nomatch broken
    | some driver => exact tells driver hd
  -- the pass
  obtain ⟨d₁, ran, carried⟩ := carries_reconcileAll s quiet config
  have wants : wanted s.scheme devices id = [device.credentials] := by simp [wanted, only]
  have ne : wanted s.scheme devices id ≠ [] := by simp [wants]
  have became : d₁.slice id = (d.slice id).reconciled id device.credentials := by
    rw [carried.slices, contains_named_iff.2 ne, Slice.marked_foldl_reconciled _ id ne, wants]
    rfl
  have ready : (d₁.slice id).Ready device.credentials := by
    rw [became]
    exact Slice.ready_reconciled remembered (reached.attached records id) backed answers master
      ports told
  -- the promotion
  have answers' : (d₁.slice id).answers = true :=
    (congrArg (·.reachable.contains id) carried.setting).trans answers
  have active' : d₁.active = true := (congrArg Setting.active carried.setting).trans active
  obtain ⟨_, v, _, d₂, ran', moved, rfl, ready', opened, connected, accepted⟩ :=
    run_of_ensures (ensures_connect ready answers') (carried.quiet ▸ Faults.within_none _)
  rw [← moved.own] at ready' opened connected accepted
  refine ⟨d₁, d₂, ran, ?_, ready'.key, opened, connected, ready'.discovered, ready'.available,
    ready'.ports, accepted⟩
  rw [run_changeRole, active']
  exact ran'

end Deployment

/-- The device lost its session and was not granted another one, so that its key was removed. -/
def Step.setback : List Step :=
  Step.relapse ++ [.operation (.order (.role .sample .master)), .change (.plan .none)]

namespace Deployment

/-- The device that was given up is brought back with a new key. -/
theorem recovers_setback :
    let d := sample.after .default Step.setback
    d.keys.get? .sample = none ∧ (d.records.read .sample).state ≠ .connected ∧
      ∃ d₁ d₂, (reconcileAll .default).run d = (.done (), d₁) ∧
        (changeRole .sample .master).run d₁ = (.done (.ok ()), d₂) ∧
        d₂.Recovered .sample (.password "admin" "secret") := by
  have within : (Faults.none.plan (.openSession .sample)
      ⟨[], some (.refuse (.session "busy"))⟩).Within .recoverable :=
    (Faults.within_none _).plan fun _ _ => trivial
  have reached : sample.Reaches .default Recoverable (sample.after .default Step.setback) :=
    Reaches.refl.after ⟨trivial, trivial, trivial, within, trivial, Faults.within_none _, trivial⟩
  have config : (sample.after .default Step.setback).config.desiredDevices
      Settings.default.appId = .ok [⟨"10.0.0.1", 830, "admin", "secret", none⟩] :=
    toOption_eq_some_iff.1 (by decide +kernel)
  have answering : ∀ entry ∈ (sample.after .default Step.setback).drivers.toList,
      entry.2.told? ≠ none := by
    decide +kernel
  have only : [⟨"10.0.0.1", 830, "admin", "secret", none⟩].filter
      (names Settings.default.scheme .sample) = [⟨"10.0.0.1", 830, "admin", "secret", none⟩] := by
    decide +kernel
  have unkeyed : (sample.after .default Step.setback).keys.get? .sample = none := by decide +kernel
  have apart : ((sample.after .default Step.setback).records.read .sample).state ≠ .connected := by
    decide +kernel
  have active : (sample.after .default Step.setback).active = true := by decide +kernel
  have answers : (sample.after .default Step.setback).reachable.contains .sample = true := by
    decide +kernel
  have master : (sample.after .default Step.setback).mastership.isLocalMaster .sample = true := by
    decide +kernel
  have ports : (sample.after .default Step.setback).listedPorts .sample ≠ [] := by decide +kernel
  exact ⟨unkeyed, apart, reached.recovers rfl (Faults.within_none _) rfl active config only answers
    master ports fun driver h => answering (.sample, driver) ((SortedMap.mem_toList_iff _).2 h)⟩

end Deployment

end Southbound
