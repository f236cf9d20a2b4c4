import Southbound.Proofs.Pass

/-!
# What a device is announced with

Before a device is announced as available, what its driver tells is compared with the stored
description, and the stored one is announced if they say the same.  The comparison makes no
difference (`Discovery.describe_eq`): what is announced is what the driver told, or the placeholder
if it told nothing, and never details that the store had and the device no longer has.

This rests on `Description.sameDetails` being equality up to availability: two descriptions say the
same exactly if they become equal once both are made available, or both unavailable.  A field that
the comparison left out would be announced as it was stored before.
-/

namespace Southbound

open Discovery Job

/-! ## Descriptions that say the same -/

namespace Description

/-- Availability is the only thing that does not count. -/
theorem sameDetails_iff_withAvailability (a b : Description) (available : Bool) :
    a.sameDetails b = true ↔ a.withAvailability available = b.withAvailability available := by
  rw [sameDetails_iff]
  constructor
  · intro same
    rw [← same]
    rfl
  · intro same
    calc a.withAvailability b.availableByDefault
        = (a.withAvailability available).withAvailability b.availableByDefault := rfl
      _ = (b.withAvailability available).withAvailability b.availableByDefault := by rw [same]
      _ = b := rfl

theorem sameDetails_equivalence : Equivalence fun a b : Description => a.sameDetails b = true := by
  have kernel : (fun a b : Description => a.sameDetails b = true) =
      fun a b => a.withAvailability true = b.withAvailability true :=
    funext fun a => funext fun b => propext (a.sameDetails_iff_withAvailability b true)
  rw [kernel]
  exact ⟨fun _ => rfl, Eq.symm, Eq.trans⟩

/-- Of two descriptions that say the same it does not matter which is made available. -/
theorem withAvailability_ite_sameDetails (found stored : Description) (available : Bool) :
    (if found.sameDetails stored then stored else found).withAvailability available =
      found.withAvailability available := by
  split
  · next same => exact ((found.sameDetails_iff_withAvailability stored available).1 same).symm
  · rfl

end Description

/-! ## The description that is announced -/

/-- The description that a device which was looked up is announced with, if nobody compares what the
driver tells with what is stored. -/
def Discovery.describeAnew (id : Identity) (placeholder : Description) : Job Description := do
  match ← lookUp id with
  | none => return placeholder.withAvailability true
  | some device =>
    let told? ← askDetails id device.driver
    return (told?.getD placeholder).withAvailability true

/-- What the driver of a stored device tells about it, if it tells anything. -/
def Deployment.told? (d : Deployment) (id : Identity) : Option Description :=
  (d.find? id).bind (·.driver.told?.join)

/-- The comparison with the stored description makes no difference. -/
theorem Discovery.describe_eq (id : Identity) (placeholder : Description) :
    describe id placeholder = describeAnew id placeholder := by
  unfold describe describeAnew
  simp only [bind_eq]
  congr 1
  funext device?
  cases device? with
  | none => rfl
  | some device =>
    refine congrArg (Job.bind (askDetails id device.driver)) (funext fun told? => ?_)
    cases told? with
    | none => rfl
    | some found => exact congrArg done (Description.withAvailability_ite_sameDetails ..)

/-- The same when the device is seen by itself. -/
theorem Slice.description?_eq (v : Slice) (placeholder : Description) :
    v.description? placeholder =
      ((v.found?.map (·.driver.told?)).getD (some none)).map fun told? =>
        (told?.getD placeholder).withAvailability true := by
  unfold description? found?
  cases v.stored? with
  | none => rfl
  | some known =>
    simp only [Option.map_some, Option.getD_some]
    refine congrArg (v.driver.told?.map ·) (funext fun told? => ?_)
    cases told? with
    | none => rfl
    | some found => exact Description.withAvailability_ite_sameDetails ..

namespace Deployment

variable {d : Deployment} {id : Identity}

/-- What is announced if the driver does not break down. -/
theorem description?_slice (placeholder : Description)
    (told : ∀ device, d.find? id = some device → device.driver.told? ≠ none) :
    (d.slice id).description? placeholder =
      some (((d.told? id).getD placeholder).withAvailability true) := by
  have found : (d.slice id).found? = d.find? id := rfl
  rw [Slice.description?_eq, found, Deployment.told?]
  cases looked : d.find? id with
  | none => rfl
  | some device =>
    obtain ⟨told?, ht⟩ := Option.ne_none_iff_exists'.1 (told device looked)
    simp [ht]

end Deployment

namespace Discovery

theorem run_askDetails (id : Identity) (driver : Driver) (d : Deployment) :
    ((askDetails id driver).run d).1 = driver.told?.elim .crashed .done := by
  unfold askDetails Driver.told?
  cases driver.description with
  | none => rfl
  | some replies =>
    obtain ⟨details, ports⟩ := replies
    rcases details with (_ | found) | e | _ <;> rfl

theorem run_describe {id : Identity} {d : Deployment} (placeholder : Description)
    (looked : (d.perform (.lookUp id)).1 = some (d.find? id))
    (told : ∀ device, d.find? id = some device → device.driver.told? ≠ none) :
    ((describe id placeholder).run d).1 =
      .done (((d.told? id).getD placeholder).withAvailability true) := by
  have look : (lookUp id).run d = (.done (d.find? id), (d.perform (.lookUp id)).2) := by
    rw [lookUp, ofAction, run_act _ _ _ rfl, looked]
    rfl
  rw [describe_eq, describeAnew, bind_eq, run_bind, look, Deployment.told?]
  cases hd : d.find? id with
  | none => rfl
  | some device =>
    obtain ⟨told?, ht⟩ := Option.ne_none_iff_exists'.1 (told device hd)
    have asked := run_askDetails id device.driver (d.perform (.lookUp id)).2
    rw [ht] at asked
    simp only [bind_eq, run_bind]
    generalize (askDetails id device.driver).run _ = r at asked ⊢
    obtain ⟨progress, d'⟩ := r
    obtain rfl : progress = .done told? := asked
    simp [ht, run]

/-- When nothing fails, that is the description that the store has then. -/
theorem run_announceAvailable {id : Identity} {d : Deployment} (placeholder : Description)
    (quiet : d.faults = .none)
    (told : ∀ device, d.find? id = some device → device.driver.told? ≠ none) :
    ∃ known, ((announceAvailable id placeholder).run d).2.store.get? id = some known ∧
      known.description = ((d.told? id).getD placeholder).withAvailability true ∧
      known.available = true := by
  have within : d.faults.Within .none := quiet ▸ Faults.within_none _
  obtain ⟨reply, v, cs, d', ran, moved, outcome⟩ :=
    run_of_ensures (ensures_appeared id placeholder (v := d.slice id)) within
  rw [Deployment.description?_slice placeholder told] at outcome
  obtain ⟨-, broken, -⟩ | ⟨description, -, announced, rfl⟩ := outcome
  · cases broken
  · cases announced
    rw [ran]
    refine ⟨_, congrArg Slice.stored? moved.own, ?_⟩
    cases (d.slice id).stored? <;> exact ⟨rfl, rfl⟩

/-- A device is announced with what its driver tells, or with the placeholder if the device is not
stored, its driver cannot describe it or tells nothing.  What the store had makes no difference,
because descriptions that are taken for the same are the same but for availability. -/
theorem announced_as_told (id : Identity) (placeholder : Description) :
    (∀ d : Deployment, (d.perform (.lookUp id)).1 = some (d.find? id) →
      (∀ device, d.find? id = some device → device.driver.told? ≠ none) →
      ((describe id placeholder).run d).1 =
        .done (((d.told? id).getD placeholder).withAvailability true)) ∧
    -- Whatever fails or happens meanwhile, nothing is asked or answered otherwise.
    describe id placeholder = describeAnew id placeholder ∧
    -- The store is told the same.
    (∀ d : Deployment, d.faults = .none →
      (∀ device, d.find? id = some device → device.driver.told? ≠ none) →
      ∃ known, ((announceAvailable id placeholder).run d).2.store.get? id = some known ∧
        known.description = ((d.told? id).getD placeholder).withAvailability true ∧
        known.available = true) ∧
    (Equivalence fun a b : Description => a.sameDetails b = true) ∧
    ∀ (a b : Description) (available : Bool), a.sameDetails b = true ↔
      a.withAvailability available = b.withAvailability available :=
  ⟨fun _ => run_describe placeholder, describe_eq id placeholder,
    fun _ => run_announceAvailable placeholder, Description.sameDetails_equivalence,
    Description.sameDetails_iff_withAvailability⟩

/-- The device of the sample is stored with one serial number, and its driver tells another. -/
def swapped : Deployment :=
  let described (serial : String) : Description :=
    { Description.placeholder .sample with serialNumber := serial }
  { Deployment.sample with
    store := (∅ : DeviceStore).insert .sample ⟨described "A1", false, [], []⟩
    drivers := (∅ : SortedMap Identity Driver).insert .sample
      (CapabilitySet.empty.insert (.description ⟨.answer (some (described "B2")), .answer []⟩)) }

/-- The device is announced with the serial number that it has now. -/
theorem announced_as_told_swapped :
    let told := { Description.placeholder .sample with serialNumber := "B2" }
    ((describe .sample (.placeholder .sample)).run swapped).1 =
        .done (told.withAvailability true) ∧
      ∃ known, ((announceAvailable .sample (.placeholder .sample)).run swapped).2.store.get?
          .sample = some known ∧
        known.description = told.withAvailability true ∧ known.available = true := by
  intro told
  have found : swapped.find? .sample = some
      ⟨{ Description.placeholder .sample with serialNumber := "A1" },
        CapabilitySet.empty.insert (.description ⟨.answer (some told), .answer []⟩)⟩ := by
    simp [swapped, Deployment.find?, told]
  have answers : ∀ device, swapped.find? .sample = some device → device.driver.told? ≠ none := by
    rw [found]
    rintro _ ⟨⟩
    exact Option.some_ne_none _
  have tells : swapped.told? .sample = some told := by
    rw [Deployment.told?, found]
    rfl
  have announced := announced_as_told .sample (.placeholder .sample)
  rw [← Option.getD_some (a := told) (b := .placeholder .sample), ← tells]
  exact ⟨announced.1 swapped rfl answers, announced.2.2.1 swapped rfl answers⟩

end Discovery

end Southbound
