import Southbound.Proofs.Isolation

/-!
# Secrets that are left out

A deployment is masked by blanking the secrets in it: those in the records, in the credential store
and in the calls that stored them.  The configuration, where secrets come from, is left out as a
whole.  What is left is what one may know without knowing a secret.

An action that is given no secret and answers none does to a masked deployment what it does to the
deployment, and answers the same (`Deployment.perform_masked`).  So it is enough to look at the few
actions that tell of credentials or are told of them.
-/

namespace Southbound

open Job

/-! ## Masks -/

/-- The credentials with a blank secret. -/
def Credentials.masked : Credentials → Credentials
  | password user _ => password user ""
  | key user _ => key user ""

@[simp] theorem Credentials.username_masked (c : Credentials) : c.masked.username = c.username := by
  cases c <;> rfl

/-- The record with a blank secret. -/
def DeviceRecord.masked (r : DeviceRecord) : DeviceRecord :=
  { r with credentials := r.credentials.map .masked }

/-- The change with a blank secret. -/
def RecordChange.masked : RecordChange → RecordChange
  | credentialsStored c => credentialsStored c.masked
  | c => c

/-- The call with a blank secret. -/
def Call.masked : Call → Call
  | storeKey id c => storeKey id c.masked
  | c => c

/-- What is seen, with a blank secret. -/
def Occurrence.masked : Occurrence → Occurrence
  | called c => called c.masked
  | o => o

namespace Deployment

/-- The deployment with blank secrets and without its configuration. -/
def masked (d : Deployment) : Deployment :=
  { d with
    records := d.records.map fun _ r => r.masked
    keys := d.keys.map fun _ c => c.masked
    config := .listed []
    history := d.history.map .masked }

/-! ## What masks leave alone -/

section effects

variable (d : Deployment)

theorem masked_note (os : List Occurrence) :
    (d.note os).masked = d.masked.note (os.map .masked) := by
  simp [masked, note]

/-- What is seen of the systems tells of no secret, except for a key that is stored. -/
theorem masked_note_plain {os : List Occurrence} (plain : os.map .masked = os) :
    (d.note os).masked = d.masked.note os := by
  rw [masked_note, plain]

theorem masked_say (l : LogLine) : (d.say l).masked = d.masked.say l := masked_note d _

theorem read_masked (id : Identity) :
    d.masked.records.read id = (d.records.read id).masked := by
  simp only [Records.read, masked, SortedMap.get?_map]
  cases d.records.get? id <;> rfl

theorem apply_masked (r : DeviceRecord) (c : RecordChange) :
    c.masked.apply r.masked = (c.apply r).masked := by
  cases c <;> rfl

theorem change_masked (id : Identity) (c : RecordChange) :
    d.masked.records.change id c.masked = (d.records.change id c).map fun _ r => r.masked := by
  refine SortedMap.ext fun id' => ?_
  rw [Records.change, Records.change, read_masked, apply_masked]
  simp only [masked, SortedMap.get?_insert, SortedMap.get?_map]
  split <;> rfl

theorem storeKey_masked (id : Identity) (c : Credentials) :
    d.masked.storeKey id c.masked = (d.storeKey id c).masked := by
  have keys : d.masked.keys.insert id c.masked =
      (d.keys.insert id c).map fun _ c => c.masked := by
    refine SortedMap.ext fun id' => ?_
    simp only [masked, SortedMap.get?_insert, SortedMap.get?_map]
    split <;> rfl
  rw [storeKey, keys]
  rfl

theorem removeKey_masked (id : Identity) : d.masked.removeKey id = (d.removeKey id).masked := by
  have keys : d.masked.keys.erase id = (d.keys.erase id).map fun _ c => c.masked := by
    refine SortedMap.ext fun id' => ?_
    simp only [masked, SortedMap.get?_erase, SortedMap.get?_map]
    split <;> rfl
  rw [removeKey, keys]
  rfl

theorem openSession_masked (id : Identity) :
    d.masked.openSession id = (d.openSession id).map .masked := by
  have key : d.masked.keys.get? id = (d.keys.get? id).map .masked :=
    SortedMap.get?_map d.keys _ id
  have opened : d.masked.sessions.openTo d.masked.keys id = d.sessions.openTo d.keys id := by
    unfold Sessions.openTo
    rw [key]
    cases d.keys.get? id <;> simp [masked]
  have plain : ∀ r, d.sessions.openTo d.keys id = .ok r → r.2.map .masked = r.2 := by
    rintro ⟨sessions, seen⟩ h
    obtain ⟨c, -, ⟨-, -, rfl⟩ | ⟨-, -, rfl⟩⟩ := Sessions.of_openTo h <;> rfl
  unfold openSession
  rw [opened]
  rcases found : d.sessions.openTo d.keys id with e | ⟨sessions, seen⟩
  · rfl
  · exact congrArg Except.ok (masked_note_plain { d with sessions } (plain _ found)).symm

theorem closeSession_masked (id : Identity) (force : Bool) :
    d.masked.closeSession id force = (d.closeSession id force).masked := by
  have plain : (d.sessions.closeTo id force).2.map .masked = (d.sessions.closeTo id force).2 := by
    obtain ⟨-, same⟩ | ⟨-, same⟩ := d.sessions.closeTo_cases id force <;> rw [same] <;> rfl
  exact (masked_note_plain { d with sessions := (d.sessions.closeTo id force).1 } plain).symm

theorem writeStore_masked (w : StoreWrite) :
    d.masked.writeStore w = (d.writeStore w).map .masked := by
  have store : d.masked.store = d.store := rfl
  unfold writeStore
  rw [store]
  rcases d.store.write w with e | ⟨store, events⟩
  · rfl
  · have plain : (events.map Occurrence.storeChanged).map Occurrence.masked =
        events.map Occurrence.storeChanged := by
      simp [Occurrence.masked]
    exact congrArg Except.ok (masked_note_plain { d with store } plain).symm

theorem acceptRole_masked (id : Identity) (requested accepted : Role) :
    d.masked.acceptRole id requested accepted = (d.acceptRole id requested accepted).masked :=
  (masked_say { d with mastership := d.mastership.accept id accepted } _).symm

end effects

section calls

variable (d : Deployment)

theorem meet_masked (c : Call) (point : FaultPoint) :
    d.masked.meet c.masked point = (d.meet c point).masked := by
  have seen : (d.note [.called c]).masked = d.masked.note [.called c.masked] := masked_note d _
  unfold meet
  rw [← seen]
  rfl

theorem call_masked {α : Type} (c : Call) (point : FaultPoint)
    (effect : Deployment → α × Deployment)
    (same : ∀ d : Deployment, effect d.masked = ((effect d).1, (effect d).2.masked)) :
    d.masked.call c.masked point effect =
      ((d.call c point effect).1, (d.call c point effect).2.masked) := by
  have faults : d.masked.faults = d.faults := rfl
  rw [call_eq, call_eq, meet_masked, faults]
  split
  · rfl
  · rw [same]

theorem attempt_masked (c : Call) (point : FaultPoint)
    (effect effect' : Deployment → Except CollaboratorError Deployment)
    (same : ∀ d : Deployment, effect' d.masked = (effect d).map .masked) :
    d.masked.attempt c.masked point effect' =
      ((d.attempt c point effect).1, (d.attempt c point effect).2.masked) := by
  have faults : d.masked.faults = d.faults := rfl
  rw [attempt_eq, attempt_eq, meet_masked, faults, same]
  rcases (d.faults point).next.1 with _ | _ | _ | _ | _ <;>
    rcases effect (d.meet c point) with _ | _ <;> rfl

theorem attempt_ok_masked (c : Call) (point : FaultPoint) (effect effect' : Deployment → Deployment)
    (same : ∀ d : Deployment, effect' d.masked = (effect d).masked) :
    d.masked.attempt c.masked point (fun d => .ok (effect' d)) =
      ((d.attempt c point fun d => .ok (effect d)).1,
        (d.attempt c point fun d => .ok (effect d)).2.masked) :=
  d.attempt_masked c point _ _ fun d => congrArg Except.ok (same d)

theorem look_masked {α : Type} (point : FaultPoint) (answer : Option Fault → α) :
    d.masked.look point answer =
      ((d.look point answer).1, (d.look point answer).2.masked) := by
  rw [look_eq, look_eq]
  rfl

theorem inquire_masked {α : Type} (c : Call) (reply : Reply α) :
    d.masked.inquire c.masked reply =
      ((d.inquire c reply).1, (d.inquire c reply).2.masked) := by
  have seen : (d.note [.called c]).masked = d.masked.note [.called c.masked] := masked_note d _
  unfold inquire
  rw [← seen]
  cases reply <;> rfl

theorem requestDevices_masked (appId : String) :
    d.masked.perform (.requestDevices appId) =
      ((d.perform (.requestDevices appId)).1, (d.perform (.requestDevices appId)).2.masked) := by
  have met : d.masked.meet (.desiredDevices appId) .desiredDevices =
      (d.meet (.desiredDevices appId) .desiredDevices).masked :=
    d.meet_masked (.desiredDevices appId) _
  have faults : d.masked.faults = d.faults := rfl
  rw [requestDevices_eq, requestDevices_eq, met, faults]
  rcases (d.faults .desiredDevices).next.1 with _ | _ | _ | _ | _ <;> rfl

end calls

end Deployment

/-! ## Actions that are given no secret and answer none -/

/-- The action tells of no credentials and is told of none. -/
def Action.isPublic : Action → Bool
  | readRecord _ | changeRecord _ _ | storeKey _ _ | receiveDevices _ _ => false
  | _ => true

namespace Records

variable (m : Records)

theorem markDesired_masked (desired : List Identity) :
    markDesired (m.map fun _ r => r.masked) desired =
      (m.markDesired desired).map fun _ r => r.masked := by
  refine SortedMap.ext fun id => ?_
  simp only [markDesired, SortedMap.get?_map]
  cases m.get? id <;> rfl

theorem keys_masked : (SortedMap.map m fun _ r => r.masked).keys = m.keys := by
  simp [SortedMap.keys, SortedMap.map]

theorem filter_masked (keep : DeviceRecord → Bool) (blind : ∀ r, keep r.masked = keep r) :
    (SortedMap.map m fun _ r => r.masked).filter (fun _ r => keep r) =
      (m.filter fun _ r => keep r).map fun _ r => r.masked := by
  refine SortedMap.ext fun id => ?_
  simp only [SortedMap.get?_map, SortedMap.get?_filter]
  cases m.get? id with
  | none => rfl
  | some r => by_cases kept : keep r = true <;> simp [Option.filter, blind, kept]

end Records

namespace Deployment

variable (d : Deployment)

/-- An action that is given no secret and answers none does the same to a masked deployment. -/
theorem perform_masked {a : Action} (pub : a.isPublic = true) :
    d.masked.perform a = ((d.perform a).1, (d.perform a).2.masked) := by
  cases a with
  | readRecord | changeRecord | storeKey | receiveDevices => cases pub
  | isActive | setActive => rfl
  | log l => exact congrArg (some (), ·) (masked_say d l).symm
  | markDesired desired =>
    have marked := d.records.markDesired_masked desired
    simp only [perform]
    simp [masked, marked]
  | prune =>
    have pruned := d.records.filter_masked (·.isKept) fun _ => rfl
    have prunable := d.records.filter_masked (!·.isKept) fun _ => rfl
    simp only [perform, Records.prune, Records.prunable]
    simp [masked, pruned, prunable, Records.keys_masked]
  | registered =>
    have registered := d.records.filter_masked (·.state != .unregistered) fun _ => rfl
    simp only [perform, Records.registered]
    simp [masked, registered, Records.keys_masked]
  | requestDevices appId => exact d.requestDevices_masked appId
  | probe id =>
    exact d.call_masked (.probe id) _ (fun d => (d.reachable.contains id, d)) fun _ => rfl
  | reportRole id requested accepted =>
    exact d.call_masked (.reportRole id requested accepted) _
      (fun d => ((), d.acceptRole id requested accepted))
      fun d => congrArg ((), ·) (d.acceptRole_masked id requested accepted)
  | removeKey id =>
    exact d.attempt_ok_masked (.removeKey id) _ (·.removeKey id) (·.removeKey id)
      fun d => d.removeKey_masked id
  | openSession id =>
    exact d.attempt_masked (.openSession id) _ _ _ fun d => d.openSession_masked id
  | closeSession id force =>
    exact d.attempt_ok_masked (.closeSession id force) _ (·.closeSession id force)
      (·.closeSession id force) fun d => d.closeSession_masked id force
  | writeStore w =>
    have call : (storeCall w).1.masked = (storeCall w).1 := by
      cases w <;> rfl
    have written := d.attempt_masked (storeCall w).1 (storeCall w).2 (·.writeStore w)
      (·.writeStore w) fun d => d.writeStore_masked w
    rwa [call] at written
  | lookUp id => exact d.look_masked (.lookUp id) _
  | isAvailable id => exact d.look_masked (.isAvailable id) _
  | isLocalMaster id => exact d.look_masked (.isLocalMaster id) _
  | masterOf id => exact d.look_masked (.masterOf id) _
  | discoverDetails id reply => exact d.inquire_masked (.discoverDetails id) reply
  | discoverPortDetails id reply => exact d.inquire_masked (.discoverPortDetails id) reply
  | listPorts id reply => exact d.inquire_masked (.listPorts id) reply
  | discoverStatistics id reply => exact d.inquire_masked (.discoverStatistics id) reply

end Deployment

end Southbound
