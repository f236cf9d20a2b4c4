import Southbound.Proofs.Run

/-!
# Jobs that write to the device store

What the driver of a device tells is fixed: `Driver.told?` is the description and `Driver.listed?`
the list of ports that asking it comes to.  The provider writes to the store in a few small jobs.
Whatever goes wrong in one of them, it leaves the slice of its device alone or makes its write
together with the change of the record that belongs to the write, so a record never claims what the
store did not take.  The statements below say this job by job, and statements about larger jobs are
put together from them.
-/

namespace Southbound

open Connection Discovery Job Reconciliation

/-! ## What a driver tells -/

/-- Whether the call only asks for something. -/
def Call.isQuestion : Call → Bool
  | desiredDevices _ | probe _ | discoverDetails _ | discoverPortDetails _ | listPorts _
  | discoverStatistics _ => true
  | storeKey _ _ | removeKey _ | openSession _ | closeSession _ _ | deviceConnected _ _
  | deviceDisconnected _ | updatePorts _ _ | updateStatistics _ _ | reportRole _ _ _ => false

/-- What an inquiry comes to: nothing if it breaks down, and a failure is taken for an empty
answer. -/
def Reply.outcome? {α : Type} (empty : α) : Reply α → Option α
  | answer a => some a
  | failure _ => some empty
  | crash => none

namespace Driver

/-- The description that asking the driver comes to; `none` if it breaks down. -/
def told? (driver : Driver) : Option (Option Description) :=
  match driver.description with
  | none => some none
  | some replies => replies.details.outcome? none

/-- The ports that asking the driver comes to; `none` if it breaks down. -/
def listed? (driver : Driver) : Option (List Port) :=
  match driver.description, driver.ports with
  | some replies, _ => replies.ports.outcome? []
  | none, some reply => reply.outcome? []
  | none, none => some []

/-- The calls that asking for a description takes. -/
def tellCalls (driver : Driver) (id : Identity) : List Call :=
  match driver.description with
  | some _ => [.discoverDetails id]
  | none => []

/-- The calls that asking for the ports takes. -/
def listCalls (driver : Driver) (id : Identity) : List Call :=
  match driver.description, driver.ports with
  | some _, _ => [.discoverPortDetails id]
  | none, some _ => [.listPorts id]
  | none, none => []

end Driver

namespace Slice

/-- What a device is announced with that just became available; `none` if the driver breaks
down. -/
def description? (v : Slice) (placeholder : Description) : Option Description :=
  match v.stored? with
  | none => some (placeholder.withAvailability true)
  | some known => v.driver.told?.map fun
    | none => placeholder.withAvailability true
    | some found =>
      (if found.sameDetails known.description then known.description else found).withAvailability
        true

theorem availableByDefault_of_description? {v : Slice} {placeholder d : Description}
    (h : v.description? placeholder = some d) : d.availableByDefault = true := by
  unfold description? at h
  cases hs : v.stored? with
  | none =>
    simp only [hs, Option.some.injEq] at h
    rw [← h]
    rfl
  | some known =>
    simp only [hs, Option.map_eq_some_iff] at h
    obtain ⟨found?, _, h⟩ := h
    cases found? <;> (rw [← h]; rfl)

/-- Ports were brought into the store, or nothing was done. -/
def Brings (v v' : Slice) : Prop :=
  v' = v ∨ ∃ list, list ≠ [] ∧ v.stored?.isSome ∧ v' = (v.bring list).change .portsDiscovered

/-- Counters were brought into the store, or nothing was done. -/
def Counts (v v' : Slice) : Prop := v' = v ∨ ∃ list, v' = v.count list

end Slice

namespace Job

variable {α β : Type} {p : Hazards} {id : Identity} {v : Slice}

/-! ## Inquiries -/

@[simp] theorem ensures_warnOnRefusal (attempt : Attempt) (r : Except CollaboratorError Unit)
    {Q : Post Unit} : (warnOnRefusal attempt id r).Ensures p id v Q ↔ Q (some ()) v [] := by
  cases r <;> simp [warnOnRefusal]

@[simp] theorem ensures_askDetails (driver : Driver) {Q : Post (Option Description)} :
    (askDetails id driver).Ensures p id v Q ↔ Q driver.told? v (driver.tellCalls id) := by
  unfold askDetails Driver.told? Driver.tellCalls
  cases driver.description with
  | none => simp
  | some replies =>
    obtain ⟨details, ports⟩ := replies
    rcases details with (_ | found) | e | _ <;> simp [Reply.outcome?]

@[simp] theorem ensures_askPorts (driver : Driver) {Q : Post (List Port)} :
    (askPorts id driver).Ensures p id v Q ↔ Q driver.listed? v (driver.listCalls id) := by
  unfold askPorts Driver.listed? Driver.listCalls
  cases driver.description with
  | none =>
    cases driver.ports with
    | none => simp
    | some reply => cases reply <;> simp [Reply.outcome?, portsOf]
  | some replies =>
    obtain ⟨details, ports⟩ := replies
    cases ports <;> simp [Reply.outcome?, portsOf]

theorem ensures_describe (placeholder : Description) {Q : Post Description} :
    (describe id placeholder).Ensures p id v Q ↔
      (p (.lookUp id) .crash → Q none v []) ∧
      (p (.lookUp id) .absent → Q (some (placeholder.withAvailability true)) v []) ∧
      Q (v.description? placeholder) v
        (if v.stored?.isSome then v.driver.tellCalls id else []) := by
  unfold describe Slice.description?
  cases hs : v.stored? with
  | none => simp [Slice.found?, hs]
  | some known =>
    cases ht : v.driver.told? with
    | none => simp [Slice.found?, hs, ht]
    | some found? => cases found? <;> simp [Slice.found?, hs, ht]

/-! ## Writes -/

/-- A device is announced with a description that says it is available. -/
theorem ensures_announceAvailable (placeholder : Description) :
    (announceAvailable id placeholder).Ensures p id v fun _ v' _ =>
      v' = v ∨ ∃ d, d.availableByDefault = true ∧ v' = (v.announce d).change (.announced d) := by
  have announced : ∀ d : Description, d.availableByDefault = true →
      ∃ d', d'.availableByDefault = true ∧
        (v.announce d).change (.announced d) = (v.announce d').change (.announced d') :=
    fun d h => ⟨d, h, rfl⟩
  simp only [announceAvailable, bind_eq, pure_eq, ensures_bind, ensures_describe,
    ensures_writeConnect, ensures_changeRecord, ensures_log, ensures_done, true_or, implies_true,
    true_and]
  refine ⟨fun _ => .inr (announced _ rfl), ?_⟩
  cases hd : v.description? placeholder with
  | none => trivial
  | some d => simpa using .inr (announced d (Slice.availableByDefault_of_description? hd))

theorem ensures_bringPorts (driver : Driver) :
    (bringPorts id driver).Ensures p id v fun _ v' _ => v.Brings v' := by
  have unchanged : v.Brings v := .inl rfl
  simp only [bringPorts, bind_eq, pure_eq, ensures_bind, ensures_askPorts]
  cases driver.listed? with
  | none => exact unchanged
  | some list =>
    simp only [ensures_ite, ensures_bind, ensures_writePorts, ensures_changeRecord, ensures_done,
      ensures_log, unchanged, implies_true, true_and, and_true]
    intro h stored
    exact .inr ⟨list, by simpa using h, stored, rfl⟩

theorem ensures_bringStatistics (driver : Driver) :
    (bringStatistics id driver).Ensures p id v fun _ v' _ => v.Counts v' := by
  have unchanged : v.Counts v := .inl rfl
  simp only [bringStatistics, bind_eq, ensures_bind, ensures_readRecord, ensures_ite, ensures_log,
    unchanged, implies_true, and_true]
  intro _
  cases driver.portStatistics with
  | none => simpa using unchanged
  | some reply =>
    cases reply with
    | answer list =>
      have counted : v.Counts (v.count list) := .inr ⟨list, rfl⟩
      simp [unchanged, counted]
    | failure e => simpa using unchanged
    | crash => simpa using unchanged

/-- Ports come first, then counters. -/
theorem ensures_discoverPorts :
    (discoverPorts id).Ensures p id v fun _ v' _ => ∃ v₁, v.Brings v₁ ∧ v₁.Counts v' := by
  have unchanged : ∃ v₁, v.Brings v₁ ∧ v₁.Counts v := ⟨v, .inl rfl, .inl rfl⟩
  simp only [discoverPorts, bind_eq, ensures_bind, ensures_isLocalMaster, ensures_isAvailable,
    ensures_lookUp, ensures_ite, ensures_log, unchanged, implies_true, true_and, and_true]
  intro _ _
  cases v.found? with
  | none => simpa using unchanged
  | some device =>
    rw [ensures_bind]
    refine (ensures_bringPorts device.driver).mono fun reply v₁ _ brought => ?_
    cases reply with
    | none => exact ⟨v₁, brought, .inl rfl⟩
    | some _ =>
      exact (ensures_bringStatistics device.driver).mono fun _ _ _ counted =>
        ⟨v₁, brought, counted⟩

theorem Slice.found?_eq_none : v.found? = none ↔ v.stored? = none := by
  simp [Slice.found?]

theorem ensures_addIfMissing :
    (addIfMissing id).Ensures p id v fun _ v' _ => v' = v ∨
      (v.stored? = none ∨ p (.lookUp id) .absent) ∧ v' = v.announce (.placeholder id) := by
  simp only [addIfMissing, bind_eq, pure_eq, ensures_bind, ensures_lookUp, ensures_ite]
  simp +contextual [Slice.found?_eq_none]

theorem ensures_announceIfMissing :
    (announceIfMissing id).Ensures p id v fun _ v' _ => v' = v ∨
      (v.stored? = none ∨ p (.lookUp id) .absent) ∧
        v' = v.announce (v.record.lastDescription.getD (.placeholder id)) := by
  simp only [announceIfMissing, bind_eq, pure_eq, ensures_bind, ensures_lookUp, ensures_ite]
  simp +contextual [Slice.found?_eq_none]

theorem ensures_disconnectIfStored :
    (disconnectIfStored id).Ensures p id v fun _ v' _ => v' = v ∨ v' = v.disconnect := by
  simp [disconnectIfStored]

/-- The record forgets the session and the credentials before the systems are told. -/
theorem ensures_abandon :
    (abandon id).Ensures p id v fun _ v' _ =>
      ∃ w, (w = (v.change .ended).change .credentialsRevoked ∨
          w = ((v.change .ended).change .credentialsRevoked).disconnect) ∧
        (v' = w ∨ v' = w.setKey none) := by
  simp only [abandon, bind_eq, ensures_bind, ensures_changeRecord]
  refine ensures_disconnectIfStored.mono fun reply w _ disconnected => ?_
  cases reply with
  | none => exact ⟨w, disconnected, .inl rfl⟩
  | some _ =>
    simp only [ensures_removeKey, ensures_warnOnRefusal]
    exact ⟨fun _ => ⟨w, disconnected, .inl rfl⟩, fun _ _ => ⟨w, disconnected, .inl rfl⟩,
      ⟨w, disconnected, .inr rfl⟩⟩

end Job

end Southbound
