import Southbound.Proofs.Idempotence
import Southbound.Proofs.Run

/-!
# A probe right after a pass

A pass handles every entry that names a device, one after the other; a probe of one device
(`reconcileOne`) handles the first of them only.  After a pass the device is at rest, so the probe
can do no more than to store credentials, and it does that exactly if the first entry of the device
does not give the credentials of the last one (`Job.reconcileOne_after_pass`).  Where the entries
agree, the probe only asks and nothing changes; where they do not, the probe takes back what the
pass had decided (`Job.reconcileOne_overrules`).
-/

namespace Southbound

open Connection Deployment Job Reconciliation

namespace Reconciliation

/-- The first entry of a device is the one that a probe finds. -/
theorem head?_wanted (scheme : String) (devices : List DesiredDevice) (id : Identity) :
    (wanted scheme devices id).head? =
      (devices.find? (names scheme id)).map (·.credentials) := by
  rw [wanted, List.head?_map, List.head?_filter]

end Reconciliation

/-! ## Credentials that are stored once more -/

namespace Deployment

/-- The credential store holds the credentials of a device, and the record of the device says so. -/
def holding (d : Deployment) (id : Identity) (c : Credentials) : Deployment :=
  { d.storeKey id c with records := d.records.change id (.credentialsStored c) }

theorem moves_holding (d : Deployment) (id : Identity) (c : Credentials) :
    d.Moves id ((d.slice id).holding c) [] (d.holding id c) := by
  have stored := moves_storeKey d id c
  have recorded := moves_changeRecord (d.storeKey id c) id (.credentialsStored c)
  rw [stored.own] at recorded
  exact stored.trans recorded

theorem withoutHistory_holding (d : Deployment) (id : Identity) (c : Credentials) :
    (d.holding id c).withoutHistory = d.withoutHistory.holding id c := rfl

/-- Two ways to move one device to the same slice differ in what was seen only. -/
theorem Moves.withoutHistory_eq {d d₁ d₂ : Deployment} {id : Identity} {v : Slice}
    {cs₁ cs₂ : List Call} (one : d.Moves id v cs₁ d₁) (other : d.Moves id v cs₂ d₂)
    (quiet : d.faults = .none) : d₁.withoutHistory = d₂.withoutHistory := by
  refine withoutHistory_eq_of_slices (fun id' => ?_) (one.setting.trans other.setting.symm)
    ((one.quiet quiet).trans (other.quiet quiet).symm)
  by_cases own : id' = id
  · rw [own, one.own, other.own]
  · rw [one.others id' own, other.others id' own]

end Deployment

/-! ## The probe -/

namespace Job

variable {id : Identity}

/-- A probe of a device at rest. -/
theorem run_reconcileOne (s : Settings) {d : Deployment} (quiet : d.faults = .none)
    {devices : List DesiredDevice} (config : d.config.desiredDevices s.appId = .ok devices)
    {device : DesiredDevice} (found : devices.find? (names s.scheme id) = some device)
    (rests : (d.slice id).Resting id) :
    ∃ (reply : Option Unit) (d' : Deployment),
      (reconcileOne s id).run d = (reply.elim .crashed .done, d') ∧
      d'.withoutHistory = (if (d.slice id).record.credentials = some device.credentials then d
        else d.holding id device.credentials).withoutHistory ∧
      ∃ cs, d'.calls = d.calls ++ cs ∧ cs.filter (·.isCommand) =
        if (d.slice id).record.credentials = some device.credentials then []
        else [.storeKey id device.credentials] := by
  obtain ⟨d₁, read, asked⟩ :=
    run_readDevices s.appId (C := fun c => c.isQuestion = true) quiet rfl
  obtain ⟨questions, seen, asks⟩ := asked.calls
  have same : d₁.slice id = d.slice id := asked.slices id
  obtain ⟨reply, v, cs, d₂, ran, moved, rfl, commands⟩ :=
    run_of_ensures (commands_reconcileDevice (same ▸ rests) device)
      (asked.quiet ▸ Faults.within_none _)
  refine ⟨reply, d₂, ?_, ?_, questions ++ cs, ?_, ?_⟩
  · unfold reconcileOne
    rw [bind_eq, run_bind, read, config]
    simp only [Except.toOption, found]
    exact ran
  · have untouched := asked.withoutHistory_eq quiet fun _ => rfl
    rw [← same]
    split at moved
    case isTrue known =>
      rw [if_pos known, ← untouched]
      exact moved.withoutHistory_eq (.refl d₁ id) asked.quiet
    case isFalse unknown =>
      rw [if_neg unknown, withoutHistory_holding, ← untouched, ← withoutHistory_holding]
      exact moved.withoutHistory_eq (moves_holding d₁ id _) asked.quiet
  · rw [moved.calls, seen, List.append_assoc]
  · rw [List.filter_append, filter_isCommand_eq_nil asks, List.nil_append, commands, same]

/-- Right after a pass in which nothing fails, a probe of a device that is configured does nothing
but to ask if the first entry of the device gives the credentials that the last one gives.  If it
does not, the probe stores them, and nothing else changes. -/
theorem reconcileOne_after_pass (s : Settings) (d : Deployment) (quiet : d.faults = .none)
    {devices : List DesiredDevice} (config : d.config.desiredDevices s.appId = .ok devices)
    {first last : Credentials} (heads : (wanted s.scheme devices id).head? = some first)
    (ends : (wanted s.scheme devices id).getLast? = some last) :
    ∃ (d₁ : Deployment) (reply : Option Unit) (d₂ : Deployment),
      (reconcileAll s).run d = (.done (), d₁) ∧
      (reconcileOne s id).run d₁ = (reply.elim .crashed .done, d₂) ∧
      d₂.withoutHistory = (if first = last then d₁ else d₁.holding id first).withoutHistory ∧
      ∃ cs, d₂.calls = d₁.calls ++ cs ∧
        cs.filter (·.isCommand) = if first = last then [] else [.storeKey id first] := by
  obtain ⟨d₁, passed, carried⟩ := carries_reconcileAll s quiet config
  have ne : wanted s.scheme devices id ≠ [] := by
    rintro unwanted
    rw [unwanted] at heads
    cases heads
  obtain ⟨rests, -⟩ := resting_of_carries carried ne
  have stored : (d₁.slice id).record.credentials = some last := by
    rw [carried.slices, contains_named_iff.2 ne, Slice.marked_foldl_reconciled _ id ne,
      Slice.credentials_foldl_reconciled _ id ne, ← List.getLast?_eq_some_getLast ne, ends]
  have config₁ : d₁.config.desiredDevices s.appId = .ok devices := by
    rw [carried.config, config]
  rw [head?_wanted] at heads
  obtain ⟨device, found, rfl⟩ := Option.map_eq_some_iff.1 heads
  obtain ⟨reply, d₂, probed, becomes, cs, seen, commands⟩ :=
    run_reconcileOne s carried.quiet config₁ found rests
  simp only [stored, Option.some.injEq, eq_comm (a := last)] at becomes commands
  exact ⟨d₁, reply, d₂, passed, probed, becomes, cs, seen, commands⟩

/-- A probe of the device of the sample, right after a pass. -/
theorem reconcileOne_after_pass_sample :
    ∃ d₁ d₂, (reconcileAll .default).run .sample = (.done (), d₁) ∧
      ((reconcileOne .default .sample).run d₁).2 = d₂ ∧ d₂.withoutHistory = d₁.withoutHistory := by
  have heads : (wanted Settings.default.scheme [⟨"10.0.0.1", 830, "admin", "secret", none⟩]
      .sample).head? = some (.password "admin" "secret") := by
    decide +kernel
  have ends : (wanted Settings.default.scheme [⟨"10.0.0.1", 830, "admin", "secret", none⟩]
      .sample).getLast? = some (.password "admin" "secret") := by
    decide +kernel
  obtain ⟨d₁, reply, d₂, passed, probed, same, _⟩ :=
    reconcileOne_after_pass .default .sample rfl rfl heads ends
  exact ⟨d₁, d₂, passed, by rw [probed], same⟩

end Job

/-- The device of the sample is configured twice, with two passwords. -/
def Deployment.twoEntries : Deployment :=
  { Deployment.sample with
    config := .listed [⟨"10.0.0.1", 830, "admin", "first", none⟩,
      ⟨" 10.0.0.1", 830, "admin", "last", none⟩] }

namespace Job

/-- The pass leaves the last password of the device in the credential store, and a probe right after
it puts the first one back. -/
theorem reconcileOne_overrules :
    let d₁ := ((reconcileAll .default).run .twoEntries).2
    let d₂ := ((reconcileOne .default .sample).run d₁).2
    d₁.keys.get? .sample = some (.password "admin" "last") ∧
      d₂.keys.get? .sample = some (.password "admin" "first") ∧
      (d₂.calls.drop d₁.calls.length).filter (·.isCommand) =
        [.storeKey .sample (.password "admin" "first")] := by
  decide +kernel

end Job

end Southbound
