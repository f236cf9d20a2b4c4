import Southbound.DeviceStore
import Southbound.Session

/-!
# Published events as a log

The arbiter of mastership and the coordinator never see the device store or the sessions
themselves.  They see what is published, and rebuild from it which devices there are and which
sessions are open.  That works only if the events are a faithful log: nothing is left out, nothing
is told twice, and every event is of the right kind.

`SortedMap.replay` is what such an observer does.  It starts from a map, follows one entry after
the other, and gives up at an entry that cannot be true of the map it has: an addition of a key
that is there, an update or a removal of one that is not.

The device store and the session controller are both a `Publisher`, a state that answers requests
one after the other and publishes events with each.  One request keeps the observer's map in step
with the state (`DeviceStore.replay_answer`, `SessionController.replay_answer`); by induction so
does any number of them (`Publisher.replay_serve`), and `published_events_replay` puts the two
together for observers that were there from the start.
-/

namespace Southbound

/-! ## Following a log -/

/-- What an entry of a log says happened to one key. -/
inductive MapChange (α : Type)
  | added (a : α)
  | updated (a : α)
  | removed

namespace SortedMap

variable {κ α : Type} [Ord κ] [Std.TransOrd κ] [Std.LawfulEqOrd κ]

/-- The map after one entry, if the entry can be true of it. -/
def follow (m : SortedMap κ α) : κ × MapChange α → Option (SortedMap κ α)
  | (k, .added a) => if m.contains k then none else some (m.insert k a)
  | (k, .updated a) => if m.contains k then some (m.insert k a) else none
  | (k, .removed) => if m.contains k then some (m.erase k) else none

/-- The map after a whole log, oldest entry first. -/
def replay (m : SortedMap κ α) (log : List (κ × MapChange α)) : Option (SortedMap κ α) :=
  log.foldlM follow m

@[simp] theorem replay_nil (m : SortedMap κ α) : m.replay [] = some m := rfl

@[simp] theorem replay_singleton (m : SortedMap κ α) (e : κ × MapChange α) :
    m.replay [e] = m.follow e := by
  simp [replay]

theorem replay_append (m : SortedMap κ α) (now later : List (κ × MapChange α)) :
    m.replay (now ++ later) = m.replay now >>= fun m => m.replay later :=
  List.foldlM_append

theorem follow_added {m : SortedMap κ α} {k : κ} (absent : m.get? k = none) (a : α) :
    m.follow (k, .added a) = some (m.insert k a) := by
  simp [follow, contains, absent]

theorem follow_updated {m : SortedMap κ α} {k : κ} {old : α} (present : m.get? k = some old)
    (a : α) : m.follow (k, .updated a) = some (m.insert k a) := by
  simp [follow, contains, present]

theorem follow_removed {m : SortedMap κ α} {k : κ} {old : α} (present : m.get? k = some old) :
    m.follow (k, .removed) = some (m.erase k) := by
  simp [follow, contains, present]

end SortedMap

/-! ## Publishers -/

/-- A system that publishes events with the requests it answers. -/
structure Publisher (σ ρ ε : Type) where
  /-- The state after a request, and what is published with it. -/
  answer : σ → ρ → σ × List ε

namespace Publisher

variable {σ ρ ε κ α : Type}

/-- The state after requests, and all that is published with them, oldest first. -/
def serve (p : Publisher σ ρ ε) : σ → List ρ → σ × List ε
  | s, [] => (s, [])
  | s, r :: rs =>
    let (s, now) := p.answer s r
    let (s, later) := p.serve s rs
    (s, now ++ later)

/-- If what is published with one request keeps a view of the state in step, so does what is
published with any number of requests. -/
theorem replay_serve [Ord κ] [Std.TransOrd κ] [Std.LawfulEqOrd κ] {p : Publisher σ ρ ε}
    {view : σ → SortedMap κ α} {entry : ε → κ × MapChange α}
    (step : ∀ s r, (view s).replay ((p.answer s r).2.map entry) = some (view (p.answer s r).1))
    (s : σ) (rs : List ρ) :
    (view s).replay ((p.serve s rs).2.map entry) = some (view (p.serve s rs).1) := by
  induction rs generalizing s with
  | nil => rfl
  | cons r rs ih =>
    simp only [serve, List.map_append, SortedMap.replay_append, step, Option.bind_eq_bind,
      Option.bind_some]
    exact ih (p.answer s r).1

end Publisher

/-! ## The device store -/

/-- What the device store is asked to do. -/
inductive StoreRequest
  | write (w : StoreWrite)
  | remove (id : Identity)
deriving DecidableEq

/-- What a store event says about its device. -/
def StoreEvent.entry (e : StoreEvent) : Identity × MapChange Annotations :=
  (e.identity,
    match e.change with
    | .added => .added e.annotations
    | .updated => .updated e.annotations
    | .removed => .removed)

namespace DeviceStore

/-- The devices with the remarks of their current descriptions. -/
def remarks (s : DeviceStore) : SortedMap Identity Annotations :=
  s.map fun _ known => known.description.annotations

/-- The store as a publisher.  A refused write changes and publishes nothing. -/
def publisher : Publisher DeviceStore StoreRequest StoreEvent where
  answer s
    | .write w =>
      match s.write w with
      | .ok written => written
      | .error _ => (s, [])
    | .remove id => s.remove id

theorem get?_remarks {s : DeviceStore} {id : Identity} {known? : Option StoredDevice}
    (found : s.get? id = known?) :
    s.remarks.get? id = known?.map (·.description.annotations) :=
  found ▸ SortedMap.get?_map ..

theorem remarks_insert (s : DeviceStore) (id : Identity) (known : StoredDevice) :
    remarks (s.insert id known) = s.remarks.insert id known.description.annotations :=
  SortedMap.map_insert ..

/-- A write to a device that keeps its description does not show. -/
theorem remarks_insert_same {s : DeviceStore} {id : Identity} {known known' : StoredDevice}
    (present : s.get? id = some known) (same : known'.description = known.description) :
    remarks (s.insert id known') = s.remarks := by
  rw [remarks_insert, same]
  exact SortedMap.insert_of_get? (get?_remarks present)

theorem replay_connect (s : DeviceStore) (id : Identity) (d : Description) :
    s.remarks.replay ((s.connect id d).2.map StoreEvent.entry)
      = some (remarks (s.connect id d).1) := by
  cases found : s.get? id with
  | none =>
    simpa [connect, found, StoreEvent.entry, remarks_insert]
      using SortedMap.follow_added (get?_remarks found) d.annotations
  | some known =>
    simpa [connect, found, StoreEvent.entry, remarks_insert]
      using SortedMap.follow_updated (get?_remarks found) d.annotations

/-- What needs the device to be there is done only when it is. -/
theorem exists_of_present {β : Type} {s : DeviceStore} {id : Identity}
    {f : StoredDevice → Except CollaboratorError β} {b : β} (done : s.present id >>= f = .ok b) :
    ∃ known, s.get? id = some known ∧ f known = .ok b := by
  cases found : s.get? id with
  | none => simp [present, found, bind, Except.bind] at done
  | some known => exact ⟨known, rfl, by simpa [present, found, bind, Except.bind] using done⟩

theorem replay_write {s s' : DeviceStore} {w : StoreWrite} {events : List StoreEvent}
    (written : s.write w = .ok (s', events)) :
    s.remarks.replay (events.map StoreEvent.entry) = some s'.remarks := by
  cases w with
  | connect id d =>
    have connected : s.connect id d = (s', events) := Except.ok.inj written
    simpa [connected] using replay_connect s id d
  | disconnect id =>
    obtain ⟨known, found, same⟩ := exists_of_present written
    obtain ⟨rfl, rfl⟩ := Prod.mk.inj (Except.ok.inj same)
    -- the event repeats the remarks that are there already
    simpa [StoreEvent.entry, remarks_insert]
      using SortedMap.follow_updated (get?_remarks found) known.description.annotations
  | ports id ports =>
    obtain ⟨known, found, same⟩ := exists_of_present written
    obtain ⟨rfl, rfl⟩ := Prod.mk.inj (Except.ok.inj same)
    simp [remarks_insert_same found]
  | statistics id statistics =>
    obtain ⟨known, found, same⟩ := exists_of_present written
    obtain ⟨rfl, rfl⟩ := Prod.mk.inj (Except.ok.inj same)
    simp [remarks_insert_same found]

theorem replay_remove (s : DeviceStore) (id : Identity) :
    s.remarks.replay ((s.remove id).2.map StoreEvent.entry) = some (remarks (s.remove id).1) := by
  cases found : s.get? id with
  | none => simp [remove, found]
  | some known =>
    simpa [remove, found, StoreEvent.entry, remarks, SortedMap.map_erase]
      using SortedMap.follow_removed (get?_remarks found)

/-- What is published with one request to the store is true of it before, and leads to what is
true of it afterwards. -/
theorem replay_answer (s : DeviceStore) (r : StoreRequest) :
    s.remarks.replay ((publisher.answer s r).2.map StoreEvent.entry)
      = some (remarks (publisher.answer s r).1) := by
  cases r with
  | write w =>
    cases written : s.write w with
    | ok result => simpa [publisher, written] using replay_write written
    | error e => simp [publisher, written]
  | remove id => exact replay_remove s id

end DeviceStore

/-! ## The session controller -/

/-- The credential store and the sessions that depend on it. -/
structure SessionController where
  keys : Keys
  sessions : Sessions

/-- What the credential store and the session controller are asked to do. -/
inductive SessionRequest
  | storeKey (id : Identity) (c : Credentials)
  | removeKey (id : Identity)
  | openTo (id : Identity)
  | close (id : Identity) (force : Bool)

/-- What a session event says about its session. -/
def SessionEvent.entry (e : SessionEvent) : Identity × MapChange Unit :=
  (e.identity,
    match e.change with
    | .added => .added ()
    | .removed => .removed)

namespace SessionController

/-- No keys, no sessions. -/
def idle : SessionController := ⟨∅, ∅⟩

/-- The session controller as a publisher.  A session without a key is refused, which changes and
publishes nothing. -/
def publisher : Publisher SessionController SessionRequest SessionEvent where
  answer c
    | .storeKey id key => ({ c with keys := c.keys.insert id key }, [])
    | .removeKey id => ({ c with keys := c.keys.erase id }, [])
    | .openTo id =>
      match c.sessions.openTo c.keys id with
      | .ok (sessions, seen) => ({ c with sessions }, seen.filterMap (·.sessionEvent?))
      | .error _ => (c, [])
    | .close id force =>
      let (sessions, seen) := c.sessions.closeTo id force
      ({ c with sessions }, seen.filterMap (·.sessionEvent?))

theorem replay_openTo {s s' : Sessions} {keys : Keys} {id : Identity} {seen : List Occurrence}
    (opened : s.openTo keys id = .ok (s', seen)) :
    s.replay ((seen.filterMap (·.sessionEvent?)).map SessionEvent.entry) = some s' := by
  obtain ⟨c, -, ⟨-, rfl, rfl⟩ | ⟨shut, rfl, rfl⟩⟩ := Sessions.of_openTo opened
  · rfl
  · have absent : s.get? id = none := by simpa [SortedMap.contains] using shut
    simpa [Occurrence.sessionEvent?, SessionEvent.entry] using SortedMap.follow_added absent ()

theorem replay_closeTo (s : Sessions) (id : Identity) (force : Bool) :
    s.replay (((s.closeTo id force).2.filterMap (·.sessionEvent?)).map SessionEvent.entry)
      = some (s.closeTo id force).1 := by
  obtain ⟨isOpen, closed⟩ | ⟨-, unchanged⟩ := s.closeTo_cases id force
  · obtain ⟨_, found⟩ := Option.isSome_iff_exists.1 isOpen
    simpa [closed, Occurrence.sessionEvent?, SessionEvent.entry] using
      SortedMap.follow_removed found
  · rw [unchanged]
    rfl

/-- What is published with one request to the session controller is true of the sessions before,
and leads to the sessions afterwards. -/
theorem replay_answer (c : SessionController) (r : SessionRequest) :
    c.sessions.replay ((publisher.answer c r).2.map SessionEvent.entry)
      = some (publisher.answer c r).1.sessions := by
  cases r with
  | storeKey id key => rfl
  | removeKey id => rfl
  | openTo id =>
    cases opened : c.sessions.openTo c.keys id with
    | ok result =>
      obtain ⟨sessions, seen⟩ := result
      simpa [publisher, opened] using replay_openTo opened
    | error e => simp [publisher, opened]
  | close id force => exact replay_closeTo c.sessions id force

end SessionController

/-! ## Observers from the start -/

/-- Whatever the device store and the session controller are asked, served or refused, an observer
that follows all that they publish from the start never meets an event that cannot be true, and
ends with the devices now in the store and their current remarks, and with the open sessions. -/
theorem published_events_replay :
    (∀ requests : List StoreRequest,
      SortedMap.replay ∅ ((DeviceStore.publisher.serve ∅ requests).2.map StoreEvent.entry)
        = some (DeviceStore.remarks (DeviceStore.publisher.serve ∅ requests).1)) ∧
    ∀ requests : List SessionRequest,
      SortedMap.replay ∅
          ((SessionController.publisher.serve .idle requests).2.map SessionEvent.entry)
        = some (SessionController.publisher.serve .idle requests).1.sessions :=
  ⟨Publisher.replay_serve DeviceStore.replay_answer ∅,
    Publisher.replay_serve SessionController.replay_answer SessionController.idle⟩

/-- A device comes, is disconnected and leaves; so does its session.  What is refused before and
after, and what is written silently, is not published. -/
example :
    let id : Identity :=
      ⟨⟨"netconf", by decide, by decide⟩, .v4 #v[10, 0, 0, 1], 830, by decide⟩
    let d := Description.placeholder id
    let store := DeviceStore.publisher.serve ∅ [.write (.disconnect id), .write (.connect id d),
      .write (.ports id []), .write (.disconnect id), .remove id, .remove id]
    let controller := SessionController.publisher.serve .idle [.openTo id,
      .storeKey id (.password "admin" "secret"), .openTo id, .openTo id, .close id false,
      .removeKey id, .openTo id]
    store = (∅, [⟨.added, id, d.annotations⟩, ⟨.updated, id, d.annotations⟩,
      ⟨.removed, id, d.annotations⟩]) ∧
    controller.1.sessions = ∅ ∧ controller.2 = [⟨.added, id⟩, ⟨.removed, id⟩] := by
  decide +kernel

end Southbound
