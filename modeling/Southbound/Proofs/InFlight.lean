import Southbound.Proofs.Disconnection
import Southbound.Proofs.Overtaking
import Southbound.Proofs.Revocation

/-!
# A promotion that is under way

A role change that was begun before the shutdown is not held up by it: it asks only once whether
role changes are accepted, and the devices are torn down before the connection pool is finished.  So
a promotion may go on after its device was torn down, and then it may call for a session, take the
record for connected or report the role (`Provider.promotion_outlives_teardown`).

The teardown starts with the key of the device, and this is what bounds the damage
(`Provider.promotion_overtaken`).  Without the key no session can be opened, so that none is open in
the end; and the role is reported only if the session was seen open before the teardown ended it.
What can be wrong in the end is the record of this one device, if its promotion took it for
connected after the teardown had taken the session for ended.
-/

namespace Southbound

open Connection Discovery Job Reconciliation

/-! ## What follows from an action -/

namespace Slice.Follows

variable {v v' : Slice} {id : Identity} {a : Action}

/-- A record becomes live only where an action says so. -/
theorem state_of_live (follows : v.Follows id a v') {state : ConnectionState}
    (reached : v'.link.state = state) (live : state.isLive = true) :
    v.link.state = state ∨ a = .changeRecord id (.reached state) := by
  subst reached
  cases follows with
  | same => exact .inl rfl
  | marked desired =>
    cases hr : v.record? <;> simp [link, record, hr]
  | pruned =>
    cases hr : v.record? with
    | none => simp [link, record, hr]
    | some r =>
      cases kept : r.isKept with
      | true => simp [link, record, hr, Option.filter, kept]
      | false =>
        simp [link, record, hr, Option.filter, kept, DeviceRecord.fresh,
          ConnectionState.isLive] at live
  | about concerns becomes =>
    cases becomes with
    | changed id' c =>
      cases concerns
      cases c with
      | reached state => exact .inr rfl
      | ended => exact absurd rfl (v.link.ended_ne_of_isLive live)
      | credentialsStored c =>
        refine .inl (v.link.state_of_remember c rfl ?_)
        intro stored
        rw [stored] at live
        cases live
      | _ => exact .inl rfl
    | _ => exact .inl rfl

/-- A session is opened only with a key. -/
theorem isOpen_of_key (follows : v.Follows id a v') (isOpen : v'.isOpen = true) :
    v.isOpen = true ∨ a = .openSession id ∧ v.key?.isSome = true := by
  cases follows with
  | same | marked | pruned => exact .inl isOpen
  | about concerns becomes =>
    cases becomes with
    | opened id' key =>
      cases concerns
      exact .inr ⟨rfl, key⟩
    | closed => cases isOpen
    | _ => exact .inl isOpen

/-- Where no record is dropped and none forgets a key, what is registered stays so. -/
theorem registered (follows : v.Follows id a v') (keyless : a.isKeyless = true)
    (h : v.link.state ≠ .unregistered) : v'.link.state ≠ .unregistered := by
  cases follows with
  | same => exact h
  | marked desired =>
    cases hr : v.record? <;> simpa [link, record, hr] using h
  | pruned => cases keyless
  | about concerns becomes =>
    cases becomes with
    | changed id' c =>
      cases c with
      | reached state =>
        rintro rfl
        cases keyless
      | ended => exact mt (Link.state_ended_eq_unregistered (l := v.link)).1 h
      | credentialsStored c =>
        have kept : (v.link.remember c).state = v.link.state := if_neg h
        exact kept ▸ h
      | _ => exact h
    | _ => exact h

/-- Where no key is stored none is held later. -/
theorem key_eq_none (follows : v.Follows id a v') (keyless : a.isKeyless = true)
    (h : v.key? = none) : v'.key? = none := by
  cases follows with
  | same | marked | pruned => exact h
  | about concerns becomes =>
    cases becomes with
    | keyStored => cases keyless
    | keyRemoved => rfl
    | _ => exact h

end Slice.Follows

namespace Deployment

variable {d : Deployment} {id : Identity}

/-- As long as nothing goes wrong a session is opened exactly if there is a key. -/
theorem answer_openSession (id : Identity) (quiet : d.faults = .none) :
    (d.perform (.openSession id)).1 = some (.ok ()) ∧ (d.slice id).key?.isSome = true ∨
      (∃ e, (d.perform (.openSession id)).1 = some (.error e)) ∧ (d.slice id).key? = none := by
  obtain ⟨answered, _⟩ := d.perform_slice (show (Action.openSession id).Concerns id from rfl)
  have calm : d.faultOf (.openSession id) = none := faultOf_of_quiet quiet _
  rw [answered, calm]
  cases key : (d.slice id).key? with
  | none =>
    refine .inr ⟨⟨.session s!"no credentials for {id}", ?_⟩, rfl⟩
    simp [Slice.perform, Slice.attempt, Slice.openTo, key]
  | some c => exact .inl ⟨by simp [Slice.perform, Slice.attempt, Slice.openTo, key], rfl⟩

theorem removes_perform (quiet : d.faults = .none) :
    ((d.perform (.removeKey id)).2.slice id).key? = none := by
  obtain ⟨_, moved⟩ := d.perform_slice (show (Action.removeKey id).Concerns id from rfl)
  rw [moved.own, faultOf_of_quiet quiet]
  rfl

theorem ends_perform (d : Deployment) (id : Identity) :
    ((d.perform (.changeRecord id .ended)).2.slice id).link.state ≠ .connected := by
  obtain ⟨_, moved⟩ := d.perform_slice (show (Action.changeRecord id .ended).Concerns id from rfl)
  rw [moved.own]
  exact Link.unconnected_ended (d.slice id).link

end Deployment

/-! ## What was done when -/

/-- Every deed is one that may follow those before it. -/
def Everywhere (R : List Deed → Deed → Prop) (deeds : List Deed) : Prop :=
  ∀ earlier x later, deeds = earlier ++ x :: later → R earlier x

/-- One of the deeds follows those before it in this way. -/
def Somewhere (R : List Deed → Deed → Prop) (deeds : List Deed) : Prop :=
  ∃ earlier x later, deeds = earlier ++ x :: later ∧ R earlier x

section order

variable {R : List Deed → Deed → Prop} {deeds : List Deed} {x : Deed}

theorem Everywhere.concat (h : Everywhere R deeds) (last : R deeds x) :
    Everywhere R (deeds ++ [x]) := by
  intro earlier y later split
  rcases split_concat split with ⟨rfl, rfl, _⟩ | ⟨rest, _, before⟩
  · exact last
  · exact h earlier y rest before

theorem Somewhere.mono {deeds' : List Deed} (h : Somewhere R deeds) (grown : deeds <+: deeds') :
    Somewhere R deeds' := by
  obtain ⟨earlier, y, later, rfl, related⟩ := h
  obtain ⟨more, rfl⟩ := grown
  exact ⟨earlier, y, later ++ more, by simp, related⟩

theorem Somewhere.last (related : R deeds x) : Somewhere R (deeds ++ [x]) :=
  ⟨deeds, x, [], rfl, related⟩

end order

namespace Deed

variable (id : Identity) (x : Deed)

/-- The shutdown removes the key of the device; its teardown begins. -/
def Revokes : Prop := x.party = .shutdown ∧ x.action = .removeKey id

/-- The shutdown takes the session of the device for ended. -/
def Ends : Prop := x.party = .shutdown ∧ x.action = .changeRecord id .ended

/-- A session was opened. -/
def Opens : Prop :=
  x.action = .openSession id ∧ (x.before.perform (.openSession id)).1 = some (.ok ())

/-- A worker takes the session of the device for open. -/
def Connects : Prop :=
  x.party = .worker .connections ∧ x.action = .changeRecord id (.reached .connected)

/-- The session of the device was seen to be open: it was opened, or the record was read and said
so. -/
def Sees : Prop :=
  x.Opens id ∨ x.action = .readRecord id ∧ (x.before.records.read id).state = .connected

/-- After the teardown began no session is opened, and the role is reported only if the session was
seen to be open before the teardown ended it. -/
structure Fits (earlier : List Deed) (x : Deed) : Prop where
  locked : (∃ y ∈ earlier, y.Revokes id) → x.action = .openSession id →
    ∃ e, (x.before.perform (.openSession id)).1 = some (.error e)
  seen : x.action = .reportRole id .master .master →
    Somewhere (fun before y => y.Sees id ∧ ∀ z ∈ before, ¬ z.Ends id) earlier

end Deed

namespace Scene

variable {s s' : Scene}

/-- Such a deed was done. -/
def Did (P : Deed → Prop) (s : Scene) : Prop := ∃ x ∈ s.deeds, P x

theorem did_perform {P : Deed → Prop} {party : Party} {a : Action} :
    (s.perform party a).Did P ↔ s.Did P ∨ P ⟨party, s.deployment, a⟩ := by
  simp [Did, perform, or_and_right, exists_or]

theorem Did.mono {P : Deed → Prop} (did : s.Did P) (grown : s.deeds <+: s'.deeds) : s'.Did P := by
  obtain ⟨x, hx, done⟩ := did
  exact ⟨x, grown.subset hx, done⟩

end Scene

/-! ## Who may do what -/

/-- An action of a promotion. -/
def Action.Promotes (id : Identity) : Action → Prop
  | isActive | log _ => True
  | readRecord id' | probe id' | openSession id' | removeKey id' | lookUp id'
  | reportRole id' _ _ => id' = id
  | writeStore w => w.identity = id
  | changeRecord id' (.reached state) => id' = id ∧ state.isLive = true
  | changeRecord id' .ended | changeRecord id' .credentialsRevoked => id' = id
  | _ => False

/-- A promotion leaves other devices alone. -/
theorem Action.Promotes.slice_eq {id id' : Identity} {a : Action} {d : Deployment}
    (promotes : a.Promotes id) (other : id' ≠ id) : (d.perform a).2.slice id' = d.slice id' := by
  by_cases asked : a = .isActive
  · rw [asked]
    rfl
  · have concerns : a.Concerns id := by
      cases a with
      | isActive => exact absurd rfl asked
      | log => trivial
      | changeRecord id' c =>
        cases c <;> first | exact promotes.elim | exact promotes.1 | exact promotes
      | _ => first | exact promotes.elim | exact promotes
    exact (d.perform_slice concerns).2.others id' other

/-- The session was seen to be open before the teardown ended it. -/
def Scene.Seen (id : Identity) (s : Scene) : Prop :=
  Somewhere (fun earlier x => x.Sees id ∧ ∀ y ∈ earlier, ¬ y.Ends id) s.deeds

/-- A promotion took the record for connected after the teardown had ended the session. -/
def Scene.Revived (id : Identity) (s : Scene) : Prop :=
  Somewhere (fun earlier x => x.Connects id ∧ ∃ y ∈ earlier, y.Ends id) s.deeds

/-- A promotion takes the record for connected once it opened a session, and reports the role once
it saw the session open; the shutdown removes the key before it ends the session. -/
def Party.Flies (id : Identity) (s : Scene) : Party → Action → Prop
  | worker .connections, a => a.Promotes id ∧
    (a = .changeRecord id (.reached .connected) → s.Did (Deed.Opens id)) ∧
    (a = .reportRole id .master .master → s.Seen id)
  | shutdown, a =>
    a = .registered ∨ a.Tears ∧ (a = .changeRecord id .ended → s.Did (Deed.Revokes id))
  | worker .events, _ => False

/-- What the key of a device that is torn down, its session and its record have to do with what was
done.  All other devices are left alone by the promotion. -/
structure Scene.Flying (id : Identity) (s : Scene) : Prop where
  quiet : s.deployment.faults = .none
  bound : ∀ id', (s.deployment.slice id').isOpen = true →
    (s.deployment.slice id').link.state ≠ .unregistered
  keyed : (s.deployment.slice id).link.Keyed
  revoked : s.Did (Deed.Revokes id) → (s.deployment.slice id).key? = none
  ended : s.Did (Deed.Ends id) → s.Did (Deed.Revokes id)
  others : ∀ id', id' ≠ id → (s.deployment.slice id').link.state ≠ .connecting
  opened : s.Did (Deed.Opens id) → (s.deployment.slice id).link.state ≠ .unregistered
  revived : s.Did (Deed.Ends id) → (s.deployment.slice id).link.state = .connected → s.Revived id
  order : Everywhere (Deed.Fits id) s.deeds

/-- What a promotion does before it takes the record for connected it may do at any time. -/
theorem Action.Promotes.flies {id : Identity} {s : Scene} {a : Action} (promotes : a.Promotes id)
    (unconnecting : a ≠ .changeRecord id (.reached .connected))
    (unreported : a ≠ .reportRole id .master .master) : (Party.worker .connections).Flies id s a :=
  ⟨promotes, fun same => absurd same unconnecting, fun same => absurd same unreported⟩

namespace Party.Flies

variable {id : Identity} {s : Scene} {party : Party} {a : Action}

theorem keyless (flies : party.Flies id s a) : a.isKeyless = true := by
  rcases party with ⟨_ | _⟩ | _
  · exact flies.elim
  · obtain ⟨promotes, _⟩ := flies
    cases a with
    | changeRecord id' c =>
      cases c with
      | reached state =>
        obtain ⟨_, live⟩ := promotes
        cases state <;> first | rfl | cases live
      | _ => rfl
    | storeKey | prune => exact promotes.elim
    | _ => rfl
  · rcases flies with rfl | ⟨tears, _⟩
    · rfl
    · cases a with
      | changeRecord id' c => cases c <;> first | rfl | exact tears.elim
      | storeKey | prune => exact tears.elim
      | _ => rfl

/-- Only a promotion opens a session. -/
theorem promotes_of_opens {id' : Identity} (flies : party.Flies id s (.openSession id')) :
    id' = id := by
  rcases party with ⟨_ | _⟩ | _
  · exact flies.elim
  · exact flies.1
  · rcases flies with h | ⟨tears, _⟩
    · cases h
    · exact tears.elim

/-- Only a promotion takes a record for live. -/
theorem promotes_of_reached {id' : Identity} {state : ConnectionState}
    (flies : party.Flies id s (.changeRecord id' (.reached state))) :
    id' = id ∧ party = .worker .connections := by
  rcases party with ⟨_ | _⟩ | _
  · exact flies.elim
  · exact ⟨flies.1.1, rfl⟩
  · rcases flies with h | ⟨tears, _⟩
    · cases h
    · exact tears.elim

end Party.Flies

namespace Scene.Flying

variable {id : Identity} {s s' : Scene} {party : Party} {a : Action}

theorem unmoved (unmoved : s.Unmoved s') (h : s.Flying id) : s'.Flying id := by
  obtain ⟨d', deeds'⟩ := s'
  obtain ⟨slices, _, faults, _, _, rfl⟩ := unmoved
  have same := slices id
  refine ⟨faults ▸ h.quiet, fun id' => ?_, same ▸ h.keyed, fun did => same ▸ h.revoked did, h.ended,
    fun id' => ?_, fun did => same ▸ h.opened did, fun did => ?_, h.order⟩
  · exact slices id' ▸ h.bound id'
  · exact slices id' ▸ h.others id'
  · exact same ▸ h.revived did

theorem perform (h : s.Flying id) (flies : party.Flies id s a) :
    (s.perform party a).Flying id := by
  have keyless := flies.keyless
  have follows : ∀ id', (s.deployment.slice id').Follows id' a
      ((s.perform party a).deployment.slice id') := s.deployment.follows_perform a
  refine
    { quiet := Deployment.quiet_perform h.quiet a
      bound := fun id' isOpen => ?bound
      keyed := Deployment.keyed_perform keyless h.keyed
      revoked := fun did => ?revoked
      ended := fun did => ?ended
      others := fun id' other connecting => ?others
      opened := fun did => ?opened
      revived := fun did connected => ?revived
      order := h.order.concat ⟨?locked, ?seen⟩ }
  case bound =>
    refine (follows id').registered keyless ?_
    rcases (follows id').isOpen_of_key isOpen with before | ⟨rfl, key⟩
    · exact h.bound id' before
    · obtain rfl := flies.promotes_of_opens
      exact h.keyed key
  case revoked =>
    rcases did_perform.1 did with before | ⟨rfl, rfl⟩
    · exact (follows id).key_eq_none keyless (h.revoked before)
    · exact Deployment.removes_perform h.quiet
  case ended =>
    rcases did_perform.1 did with before | ⟨rfl, rfl⟩
    · exact did_perform.2 (.inl (h.ended before))
    · rcases flies with other | ⟨_, revoked⟩
      · cases other
      · exact did_perform.2 (.inl (revoked rfl))
  case others =>
    rcases (follows id').state_of_live connecting rfl with before | rfl
    · exact h.others id' other before
    · exact other flies.promotes_of_reached.1
  case opened =>
    refine (follows id).registered keyless ?_
    rcases did_perform.1 did with before | ⟨rfl, answered⟩
    · exact h.opened before
    · rcases Deployment.answer_openSession id h.quiet with ⟨_, key⟩ | ⟨⟨e, refused⟩, _⟩
      · exact h.keyed key
      · exact absurd (refused.symm.trans answered) (by simp)
  case revived =>
    rcases did_perform.1 did with before | ⟨rfl, rfl⟩
    · rcases (follows id).state_of_live connected rfl with already | rfl
      · exact (h.revived before already).mono ⟨_, rfl⟩
      · exact .last ⟨⟨flies.promotes_of_reached.2, rfl⟩, before⟩
    · exact absurd connected (Deployment.ends_perform s.deployment id)
  case locked =>
    rintro before rfl
    rcases Deployment.answer_openSession id h.quiet with ⟨_, key⟩ | ⟨refused, _⟩
    · rw [h.revoked before] at key
      cases key
    · exact refused
  case seen =>
    rintro rfl
    rcases party with ⟨_ | _⟩ | _
    · exact flies.elim
    · exact flies.2.2 rfl
    · rcases flies with other | ⟨tears, _⟩
      · cases other
      · exact tears.elim

end Scene.Flying

namespace Scene

variable {id : Identity} {s s' : Scene} {party : Party} {a : Action}

/-- Without a key the session stays closed. -/
structure Locked (id : Identity) (s : Scene) : Prop where
  unkeyed : (s.deployment.slice id).key? = none
  closed : s.deployment.Closed id

/-- Without a key a promotion that opened no session will not take the record for connected. -/
structure Barred (id : Identity) (s : Scene) : Prop where
  unkeyed : (s.deployment.slice id).key? = none
  unopened : ¬ s.Did (Deed.Opens id)
  unconnected : (s.deployment.slice id).link.state ≠ .connected

theorem Locked.perform (h : s.Locked id) (flies : party.Flies id s a) :
    (s.perform party a).Locked id := by
  have follows := s.deployment.follows_perform a id
  refine ⟨follows.key_eq_none flies.keyless h.unkeyed, Bool.eq_false_iff.2 fun isOpen => ?_⟩
  rcases follows.isOpen_of_key isOpen with before | ⟨_, key⟩
  · exact absurd h.closed (by simp [Deployment.Closed, before])
  · simp [h.unkeyed] at key

theorem Barred.perform (h : s.Barred id) (quiet : s.deployment.faults = .none)
    (flies : party.Flies id s a) : (s.perform party a).Barred id := by
  have follows := s.deployment.follows_perform a id
  refine ⟨follows.key_eq_none flies.keyless h.unkeyed, fun did => ?_, fun connected => ?_⟩
  · rcases did_perform.1 did with before | ⟨_, opened⟩
    · exact h.unopened before
    · rcases Deployment.answer_openSession id quiet with ⟨_, key⟩ | ⟨⟨e, refused⟩, _⟩
      · simp [h.unkeyed] at key
      · exact absurd (refused.symm.trans opened) (by simp)
  · rcases follows.state_of_live connected rfl with before | rfl
    · exact h.unconnected before
    · obtain ⟨_, rfl⟩ := flies.promotes_of_reached
      exact h.unopened (flies.2.1 rfl)

theorem Locked.unmoved (unmoved : s.Unmoved s') (h : s.Locked id) : s'.Locked id := by
  obtain ⟨unkeyed, closed⟩ := h
  rw [Deployment.Closed, ← unmoved.slices] at closed
  exact ⟨unmoved.slices id ▸ unkeyed, closed⟩

theorem Barred.unmoved (unmoved : s.Unmoved s') (h : s.Barred id) : s'.Barred id :=
  ⟨unmoved.slices id ▸ h.unkeyed, fun did => h.unopened (by rwa [Did, unmoved.deeds] at did),
    unmoved.slices id ▸ h.unconnected⟩

end Scene

/-- What a party relies on: a promotion on nobody else connecting its device, the shutdown on the
promotion leaving other devices alone and doing little without a key. -/
def Party.FliesBeside (id : Identity) : Party → Scene → Scene → Prop
  | worker .events, _, _ => True
  | worker .connections, s, s' => s.deeds <+: s'.deeds ∧
    ((s.deployment.slice id).link.state ≠ .connecting →
      (s'.deployment.slice id).link.state ≠ .connecting) ∧
    (¬ s.Did (Deed.Connects id) → ¬ s'.Did (Deed.Connects id))
  | shutdown, s, s' => s.deeds <+: s'.deeds ∧
    (∀ id', id' ≠ id → s'.deployment.slice id' = s.deployment.slice id') ∧
    (s.Locked id → s'.Locked id) ∧ (s.Barred id → s'.Barred id)

namespace Party.FliesBeside

variable {id : Identity} {s s' s'' : Scene} {party other : Party} {a : Action}

theorem trans (h : party.FliesBeside id s s') (h' : party.FliesBeside id s' s'') :
    party.FliesBeside id s s'' := by
  rcases party with ⟨_ | _⟩ | _
  · trivial
  · exact ⟨h.1.trans h'.1, h'.2.1 ∘ h.2.1, h'.2.2 ∘ h.2.2⟩
  · exact ⟨h.1.trans h'.1, fun id' other => (h'.2.1 id' other).trans (h.2.1 id' other),
      h'.2.2.1 ∘ h.2.2.1, h'.2.2.2 ∘ h.2.2.2⟩

theorem of_unmoved (unmoved : s.Unmoved s') : party.FliesBeside id s s' := by
  have grown : s.deeds <+: s'.deeds := ⟨[], by rw [unmoved.deeds, List.append_nil]⟩
  rcases party with ⟨_ | _⟩ | _
  · trivial
  · refine ⟨grown, fun h => unmoved.slices id ▸ h, fun h did => h ?_⟩
    rwa [Scene.Did, unmoved.deeds] at did
  · exact ⟨grown, fun id' _ => unmoved.slices id', .unmoved unmoved, .unmoved unmoved⟩

theorem of_flies (quiet : s.deployment.faults = .none) (flies : party.Flies id s a)
    (meets : other.Meets (fun _ => False) party) : other.FliesBeside id s (s.perform party a) := by
  have grown : s.deeds <+: (s.perform party a).deeds := ⟨_, rfl⟩
  rcases other with ⟨_ | _⟩ | _
  · trivial
  · have alone : party ≠ .worker .connections := by
      rintro rfl
      exact meets.elim (fun apart => apart rfl) fun crowded => crowded
    refine ⟨grown, fun before connecting => ?_, fun before did => ?_⟩
    · rcases (s.deployment.follows_perform a id).state_of_live connecting rfl with same | rfl
      · exact before same
      · obtain ⟨_, rfl⟩ := flies.promotes_of_reached
        exact alone rfl
    · rcases Scene.did_perform.1 did with earlier | ⟨own, _⟩
      · exact before earlier
      · exact alone own
  · rcases party with ⟨_ | _⟩ | _
    · exact flies.elim
    · exact ⟨grown, fun id' other => flies.1.slice_eq other, (·.perform flies),
        (·.perform quiet flies)⟩
    · exact meets.elim

end Party.FliesBeside

/-- A promotion of a device beside its teardown. -/
def Accord.inFlight (id : Identity) : Accord where
  inv := Scene.Flying id
  ok party s a := party.Flies id s a
  rely := Party.FliesBeside id
  crowded _ := False
  rely_refl _ s := .of_unmoved (.refl s)
  rely_trans := .trans
  unmoved unmoved h := ⟨h.unmoved unmoved, fun _ => .of_unmoved unmoved⟩
  keeps := .perform
  respects inv flies meets := .of_flies inv.quiet flies meets

/-! ## The promotion -/

/-- An action of a promotion that neither calls for a session nor takes the record for live, and
does not report the role. -/
def Action.Trails (id : Identity) : Action → Prop
  | isActive | log _ => True
  | readRecord id' | probe id' | removeKey id' | lookUp id' => id' = id
  | writeStore w => w.identity = id
  | changeRecord id' .ended | changeRecord id' .credentialsRevoked => id' = id
  | _ => False

theorem Action.Trails.promotes {id : Identity} {a : Action} (trails : a.Trails id) :
    a.Promotes id := by
  cases a with
  | changeRecord id' c => cases c <;> first | exact trails | exact trails.elim
  | _ => first | exact trails | exact trails.elim

/-- The record is not connecting.  Perhaps it was not taken for connected so far, and perhaps the
session was seen to be open in time. -/
structure Scene.Steady (id : Identity) (fresh seen : Prop) (s : Scene) : Prop where
  settled : (s.deployment.slice id).link.state ≠ .connecting
  fresh : fresh → ¬ s.Did (Deed.Connects id)
  seen : seen → s.Seen id

section promotion

open Job

variable {id : Identity} {s s' : Scene} {fresh seen : Prop}

theorem steady_kept : (Accord.inFlight id).Kept (.worker .connections)
    (fun a => a.Trails id ∨ seen ∧ a = .reportRole id .master .master)
    (Scene.Steady id fresh seen) where
  later later h := by
    obtain ⟨grown, settled, unconnected⟩ := later.rely
    exact ⟨settled h.settled, fun f => unconnected (h.fresh f), fun r => (h.seen r).mono grown⟩
  perform {s a} inv h okay := by
    have idle : ∀ state, a ≠ .changeRecord id (.reached state) := by
      rintro state rfl
      rcases okay with trails | ⟨_, reports⟩
      · exact trails
      · cases reports
    refine ⟨⟨?_, fun reached => absurd reached (idle _), fun report => ?_⟩, fun connecting => ?_,
      fun f did => ?_, fun r => (h.seen r).mono ⟨_, rfl⟩⟩
    · rcases okay with trails | ⟨_, rfl⟩
      · exact trails.promotes
      · rfl
    · subst report
      rcases okay with trails | ⟨r, _⟩
      · exact trails.elim
      · exact h.seen r
    · rcases (s.deployment.follows_perform a id).state_of_live connecting rfl with same | reached
      · exact h.settled same
      · exact idle _ reached
    · rcases Scene.did_perform.1 did with before | ⟨_, reached⟩
      · exact h.fresh f before
      · exact idle _ reached

/-- A job that neither takes the record for live nor reports the role without cause leaves the
record as it should be. -/
theorem assures_steady {α : Type} {j : Job α} (h : s.Steady id fresh seen)
    (only : j.Only fun a => a.Trails id ∨ seen ∧ a = .reportRole id .master .master) :
    j.Assures (.inFlight id) (.worker .connections) s
      fun _ s' => (s'.deployment.slice id).link.state ≠ .connecting :=
  (only.assures steady_kept h).mono fun _ _ _ h => h.settled

/-- A session that could not be opened leaves a record that ended. -/
theorem assures_abandon {f : Unit → Job (Except RoleError Unit)} (inv : s.Flying id)
    (only : ∀ u, (f u).Only (Action.Trails id)) :
    (Job.bind (abandon id) f).Assures (.inFlight id) (.worker .connections) s
      fun _ s' => (s'.deployment.slice id).link.state ≠ .connecting := by
  simp only [abandon, bind_eq, Job.bind_assoc]
  refine .bind inv (assures_ofAction fun s₁ later =>
    ⟨Action.Promotes.flies rfl (by simp) (by simp), fun s₂ later' => ?_⟩)
  have ended : s₂.Steady id False False := by
    refine ⟨later'.rely.2.1 fun connecting => ?_, False.elim, False.elim⟩
    have moved := (s₁.deployment.perform_slice
      (show (Action.changeRecord id .ended).Concerns id from rfl)).2
    rw [Scene.perform, moved.own] at connecting
    exact (s₁.deployment.slice id).link.ended_ne_of_isLive rfl connecting
  dsimp only [Deployment.perform]
  have warned : ∀ attempt reply, (warnOnRefusal attempt id reply).Only (Action.Trails id) := by
    rintro attempt (e | _) <;> simp [warnOnRefusal, Action.Trails]
  suffices rest : Only (Action.Trails id) _ from assures_steady ended (rest.mono fun _ => .inl)
  refine .bind (by simp [Action.Trails]) fun _ => ?_
  refine .bind ?_ fun _ => ?_
  · simp [disconnectIfStored, warned, Action.Trails, StoreWrite.identity]
  refine .bind (by simp [Action.Trails]) fun _ => ?_
  exact .bind (warned _ _) only

/-- Once the session is open the promotion may be completed. -/
theorem assures_open (inv : s.Flying id) (opened : s.Did (Deed.Opens id)) (seen : s.Seen id)
    {f : DeviceRecord → Job (Except RoleError Unit)}
    (only : ∀ r, (f r).Only fun a => a.Trails id ∨ True ∧ a = .reportRole id .master .master) :
    (Job.bind (changeRecord id (.reached .connected)) f).Assures (.inFlight id)
      (.worker .connections) s
      fun _ s' => (s'.deployment.slice id).link.state ≠ .connecting := by
  refine .bind inv (assures_ofAction fun s₁ later => ?_)
  obtain ⟨grown, _⟩ := later.rely
  refine ⟨⟨⟨rfl, rfl⟩, fun _ => opened.mono grown, fun reports => ?_⟩, fun s₂ later' => ?_⟩
  · cases reports
  have connected : s₂.Steady id False True := by
    refine ⟨later'.rely.2.1 fun connecting => ?_, False.elim, fun _ => ?_⟩
    · have moved := (s₁.deployment.perform_slice
        (show (Action.changeRecord id (.reached .connected)).Concerns id from rfl)).2
      rw [Scene.perform, moved.own] at connecting
      cases connecting
    · exact seen.mono (grown.trans (.trans ⟨_, rfl⟩ later'.rely.1))
  exact assures_steady connected (only _)

theorem assures_connect (inv : s.Flying id) (h : s.Steady id True False) :
    (connect id).Assures (.inFlight id) (.worker .connections) s
      fun _ s' => (s'.deployment.slice id).link.state ≠ .connecting := by
  simp only [connect, pure_eq, bind_eq]
  refine .bind inv (assures_ofAction fun s₁ later => ?_)
  have h := steady_kept.later later h
  refine ⟨Action.Promotes.flies rfl (by simp) (by simp), fun s₂ later' => ?_⟩
  have h₂ := (steady_kept.perform (a := .readRecord id) later.inv h (.inl rfl)).2
  have h₂ := steady_kept.later later' h₂
  dsimp only [Deployment.perform]
  split
  · next connected =>
    -- had the teardown ended the session before, only this promotion could have taken it for open
    have seen : s₂.Seen id := by
      refine Somewhere.mono (.last ⟨.inr ⟨rfl, connected⟩, fun y hy ends => ?_⟩) later'.rely.1
      obtain ⟨earlier, x, rest, split, connects, _⟩ := later.inv.revived ⟨y, hy, ends⟩ connected
      exact h.fresh trivial ⟨x, by simp [split], connects⟩
    have h : s₂.Steady id False True := ⟨h₂.settled, False.elim, fun _ => seen⟩
    exact assures_steady h (by simp [Action.Trails])
  · refine .after steady_kept later'.inv h₂ (by simp [Action.Trails]) (fun _ h => h.settled)
      fun reachable s₃ inv h => ?_
    split
    · refine .bind inv (assures_ofAction fun s₄ later => ?_)
      refine ⟨Action.Promotes.flies ⟨rfl, rfl⟩ (by simp) (by simp), fun s₅ later' => ?_⟩
      dsimp only [Deployment.perform]
      refine .bind later'.inv (assures_ofAction fun s₆ later => ?_)
      refine ⟨Action.Promotes.flies rfl (by simp) (by simp), fun s₇ later' => ?_⟩
      rcases Deployment.answer_openSession id later.inv.quiet with
        ⟨answered, key⟩ | ⟨⟨e, refused⟩, _⟩
      · have opens : Deed.Opens id ⟨.worker .connections, s₆.deployment, .openSession id⟩ :=
          ⟨rfl, answered⟩
        -- there was a key, so that the teardown has not even begun
        have seen : s₇.Seen id := by
          refine Somewhere.mono (.last ⟨.inl opens, fun y hy ends => ?_⟩) later'.rely.1
          rw [later.inv.revoked (later.inv.ended ⟨y, hy, ends⟩)] at key
          cases key
        have opened : s₇.Did (Deed.Opens id) :=
          Scene.Did.mono (Scene.did_perform.2 (.inr opens)) later'.rely.1
        rw [answered]
        exact assures_open later'.inv opened seen fun _ => by
          simp [announceIfMissing, warnOnRefusal, forall_except, Action.Trails, StoreWrite.identity]
      · rw [refused]
        exact assures_abandon later'.inv fun _ => by simp [Action.Trails]
    · exact assures_steady h (by simp [Action.Trails])

/-- A promotion that finds out whether role changes are accepted keeps to the accord, whatever the
answer. -/
theorem assures_promotion (settings : Settings) (inv : s.Flying id) (h : s.Steady id True False) :
    ((Order.role id .master).job settings).Assures (.inFlight id) (.worker .connections) s
      fun _ s' => (s'.deployment.slice id).link.state ≠ .connecting := by
  have asks : Job.isActive.Only fun a =>
      a.Trails id ∨ False ∧ a = .reportRole id .master .master :=
    only_ofAction (.inl trivial)
  refine .after steady_kept inv h asks (fun _ h => h.settled) fun active s₁ inv h => ?_
  cases active
  · exact assures_steady h (by simp [Action.Trails])
  · exact assures_connect inv h

end promotion

/-! ## The teardown -/

/-- The device is disconnected, as far as this depends on its teardown.  Its promotion may take it
for connected after the session was taken for ended, and only if it opened a session before. -/
structure Scene.LaidBeside (id : Identity) (s : Scene) (id' : Identity) : Prop where
  closed : s.deployment.Closed id'
  unconnected : id' ≠ id → (s.deployment.slice id').link.state ≠ .connected
  unkeyed : id' = id → (s.deployment.slice id).key? = none
  ended : id' = id → s.Did (Deed.Ends id) ∨ s.Barred id

/-- All devices are disconnected but those that are still to be torn down. -/
def Scene.LaidAllBut (id : Identity) (rest : List Identity) (s : Scene) : Prop :=
  ∀ id', id' ∈ rest ∨ s.LaidBeside id id'

/-- The device is next, and its key was removed. -/
structure Scene.Unlocked (id id' : Identity) (rest : List Identity) (s : Scene) : Prop where
  laid : s.LaidAllBut id (id' :: rest)
  unkeyed : id' = id → (s.deployment.slice id).key? = none
  revoked : id' = id → s.Did (Deed.Revokes id)

/-- The session of the device is closed, too. -/
structure Scene.ShutBeside (id id' : Identity) (rest : List Identity) (s : Scene) : Prop
    extends s.Unlocked id id' rest where
  closed : s.deployment.Closed id'

section teardown

open Job

variable {s s' : Scene} {id id' : Identity} {rest : List Identity} {a : Action}

/-- A device without a key stays closed while the shutdown does nothing, and the others anyway. -/
theorem closed_beside (beside : Party.shutdown.FliesBeside id s s')
    (unkeyed : id' = id → (s.deployment.slice id).key? = none) (closed : s.deployment.Closed id') :
    s'.deployment.Closed id' := by
  obtain ⟨_, others, locked, _⟩ := beside
  by_cases own : id' = id
  · subst own
    exact (locked ⟨unkeyed rfl, closed⟩).closed
  · rw [Deployment.Closed, others id' own]
    exact closed

namespace Scene.LaidBeside

theorem beside (h : s.LaidBeside id id') (beside : Party.shutdown.FliesBeside id s s') :
    s'.LaidBeside id id' := by
  have closed := closed_beside beside h.unkeyed h.closed
  obtain ⟨grown, others, locked, barred⟩ := beside
  refine ⟨closed, fun other => others id' other ▸ h.unconnected other, ?_, fun own =>
    (h.ended own).imp (·.mono grown) barred⟩
  rintro rfl
  exact (locked ⟨h.unkeyed rfl, h.closed⟩).unkeyed

theorem perform (inv : s.Flying id) (h : s.LaidBeside id id') (tears : a.Tears)
    (flies : Party.shutdown.Flies id s a) : (s.perform .shutdown a).LaidBeside id id' := by
  have follows := s.deployment.follows_perform a
  refine ⟨Deployment.stays_closed ?_ h.closed, fun other => ?_, fun own =>
    (follows id).key_eq_none flies.keyless (h.unkeyed own), fun own => (h.ended own).imp (fun did =>
      did_perform.2 (.inl did)) (·.perform inv.quiet flies)⟩
  · rintro rfl
    exact tears
  · rcases (follows id').state_of_tears tears with same | ended
    · exact same ▸ h.unconnected other
    · exact ended ▸ Link.unconnected_ended (s.deployment.slice id').link

end Scene.LaidBeside

/-- The shutdown may do what is clerical. -/
theorem Action.Clerical.flies (clerical : a.Clerical) : Party.shutdown.Flies id s a := by
  refine .inr ⟨clerical.tears, ?_⟩
  rintro rfl
  exact clerical.elim

theorem Scene.LaidAllBut.perform (inv : s.Flying id) (h : s.LaidAllBut id rest) (tears : a.Tears)
    (flies : Party.shutdown.Flies id s a) : (s.perform .shutdown a).LaidAllBut id rest :=
  fun id' => (h id').imp_right (·.perform inv tears flies)

theorem laidAllBut_kept :
    (Accord.inFlight id).Kept .shutdown Action.Clerical (Scene.LaidAllBut id rest) where
  later later h id' := (h id').imp_right (·.beside later.rely)
  perform inv h clerical := ⟨clerical.flies, h.perform inv clerical.tears clerical.flies⟩

theorem unlocked_kept :
    (Accord.inFlight id).Kept .shutdown Action.Clerical (Scene.Unlocked id id' rest) where
  later later h := by
    refine ⟨laidAllBut_kept.later later h.laid, fun own => later.inv.revoked ?_, fun own => ?_⟩
    all_goals exact (h.revoked own).mono later.rely.1
  perform {s a} inv h clerical := by
    have flies : Party.shutdown.Flies id s a := clerical.flies
    refine ⟨flies, h.laid.perform inv clerical.tears flies, fun own => ?_, fun own => ?_⟩
    · exact (s.deployment.follows_perform a id).key_eq_none flies.keyless (h.unkeyed own)
    · exact Scene.did_perform.2 (.inl (h.revoked own))

theorem shutBeside_kept :
    (Accord.inFlight id).Kept .shutdown Action.Clerical (Scene.ShutBeside id id' rest) where
  later later h :=
    ⟨unlocked_kept.later later h.toUnlocked, closed_beside later.rely h.unkeyed h.closed⟩
  perform {s a} inv h clerical := by
    obtain ⟨flies, unlocked⟩ := unlocked_kept.perform inv h.toUnlocked clerical
    refine ⟨flies, unlocked, Deployment.stays_closed ?_ h.closed⟩
    rintro rfl
    exact clerical

theorem Scene.LaidAllBut.revoked (inv : s.Flying id) (h : s.LaidAllBut id (id' :: rest)) :
    (s.perform .shutdown (.removeKey id')).Unlocked id id' rest := by
  refine ⟨h.perform inv trivial (.inr ⟨trivial, nofun⟩), ?_, ?_⟩
  · rintro rfl
    exact Deployment.removes_perform inv.quiet
  · rintro rfl
    exact Scene.did_perform.2 (.inr ⟨rfl, rfl⟩)

theorem Scene.ShutBeside.ended (inv : s.Flying id) (h : s.ShutBeside id id' rest)
    (flies : Party.shutdown.Flies id s (.changeRecord id' .ended)) :
    (s.perform .shutdown (.changeRecord id' .ended)).LaidAllBut id rest := by
  intro id''
  by_cases own : id'' = id'
  · subst own
    refine .inr ⟨Deployment.stays_closed nofun h.closed, fun _ => Deployment.ends_perform _ _,
      fun own => ?_, ?_⟩
    · exact (s.deployment.follows_perform _ id).key_eq_none flies.keyless (h.unkeyed own)
    · rintro rfl
      exact .inl (Scene.did_perform.2 (.inr ⟨rfl, rfl⟩))
  · have laid := h.laid.perform (a := .changeRecord id' .ended) inv trivial flies
    exact (laid id'').imp_left fun mem => (List.mem_cons.1 mem).resolve_left own

theorem inFlight_tearsDown : (Accord.inFlight id).TearsDown (Scene.LaidAllBut id)
    (Scene.Unlocked id) (Scene.ShutBeside id) where
  kept _ := laidAllBut_kept
  kept_revoked _ _ := unlocked_kept
  kept_shut _ _ := shutBeside_kept
  removes _ _ _ inv h := ⟨.inr ⟨trivial, nofun⟩, h.revoked inv⟩
  closes id' rest s inv h := by
    have flies : Party.shutdown.Flies id s (.closeSession id' true) := .inr ⟨trivial, nofun⟩
    refine ⟨flies, ⟨h.laid.perform inv trivial flies, fun own => ?_, fun own => ?_⟩, ?_⟩
    · exact (s.deployment.follows_perform _ id).key_eq_none flies.keyless (h.unkeyed own)
    · exact Scene.did_perform.2 (.inl (h.revoked own))
    · exact Deployment.closes_perform (inv.quiet ▸ Faults.within_none _) true
  ends id' rest s inv h := by
    have flies : Party.shutdown.Flies id s (.changeRecord id' .ended) := by
      refine .inr ⟨trivial, ?_⟩
      rintro ⟨⟩
      exact h.revoked rfl
    exact ⟨flies, h.ended inv flies⟩

/-- What is not registered when the devices are listed needs no teardown. -/
theorem Scene.Flying.laidBeside (inv : s.Flying id)
    (fresh : (s.deployment.slice id').link.state = .unregistered) : s.LaidBeside id id' := by
  have closed : s.deployment.Closed id' := by
    simpa [Deployment.Closed] using mt (inv.bound id') (not_not_intro fresh)
  have unkeyed : id' = id → (s.deployment.slice id).key? = none := by
    rintro rfl
    exact Option.not_isSome_iff_eq_none.1 fun key => inv.keyed key fresh
  refine ⟨closed, fun _ => by simp [fresh], unkeyed, ?_⟩
  rintro rfl
  exact .inr ⟨unkeyed rfl, fun did => inv.opened did fresh, by simp [fresh]⟩

theorem inFlight_ends : (Accord.inFlight id).Ends
    (fun s => (s.deployment.slice id).link.state ≠ .connecting) (Scene.LaidAllBut id []) where
  left_later later := later.rely.2.1
  torn_later := laidAllBut_kept.later
  lists {s ids} inv perm := by
    have flies : Party.shutdown.Flies id s .registered := .inl rfl
    have inv' := inv.perform flies
    refine ⟨flies, inFlight_tearsDown.assures_tearDownEach inv' fun id' => ?_⟩
    by_cases fresh : (s.deployment.slice id').link.state = .unregistered
    · exact .inr (inv'.laidBeside fresh)
    · exact .inl (perm.mem_iff.2 (Records.mem_registered_iff.2 fresh))

end teardown

/-! ## Shutdowns beside a promotion -/

/-- What a shutdown leaves behind that returned while a promotion of the device was under way. -/
structure Closing.Overtaken (id : Identity) (c : Closing) : Prop where
  closed : ∀ id', c.deployment.sessions.contains id' = false
  settled : ∀ id', (c.deployment.records.read id').state ≠ .connecting
  /-- A record is connected only if the promotion took it for connected after the teardown took the
  session for ended. -/
  connected : ∀ id', (c.deployment.records.read id').state = .connected →
    id' = id ∧ c.scene.Revived id
  order : Everywhere (Deed.Fits id) c.deeds

namespace Provider

variable {p : Provider} {id : Identity} {start : Deployment}

/-- A promotion that waits or was just begun keeps to the accord. -/
theorem harmony_of_promotion (quiet : p.deployment.faults = .none)
    (concluded : ∀ id', (p.deployment.slice id').link.Concluded)
    (bound : ∀ id', (p.deployment.slice id').isOpen = true →
      (p.deployment.slice id').link.state ≠ .unregistered)
    (keyed : (p.deployment.slice id).link.Keyed) (idle : p.events.pending = [])
    (promoting : p.connections.pending = [(Order.role id .master).assignment p.settings]) :
    p.closing.Harmony (.inFlight id)
      (fun s => (s.deployment.slice id).link.state ≠ .connecting) (Scene.LaidAllBut id []) := by
  have undone : ∀ P, ¬ p.closing.scene.Did P := fun P ⟨_, h, _⟩ => List.not_mem_nil h
  have inv : p.closing.scene.Flying id := by
    refine ⟨quiet, bound, keyed, fun did => (undone _ did).elim,
      fun did => (undone _ did).elim, fun id' _ => concluded id',
      fun did => (undone _ did).elim, fun did => (undone _ did).elim,
      fun earlier x later split => ?_⟩
    have split : [] = earlier ++ x :: later := split
    simp at split
  have steady : p.closing.scene.Steady id True False :=
    ⟨concluded id, fun _ => undone _, False.elim⟩
  refine ⟨inv, fun b e he => ?_, fun b => .inr ?_, fun done => ?_, nofun, nofun, nofun⟩
  · cases b with
    | events =>
      have he : e ∈ p.events.pending := he
      rw [idle] at he
      cases he
    | connections =>
      have he : e ∈ p.connections.pending := he
      rw [promoting, List.mem_singleton] at he
      subst he
      exact (assures_promotion p.settings inv steady).mono fun _ _ _ h _ => h
  · cases b with
    | events => exact Nat.le_trans (Nat.le_of_eq (congrArg List.length idle)) (Nat.zero_le 1)
    | connections => exact Nat.le_of_eq (congrArg List.length promoting)
  · have done : p.connections.pending = [] := done
    rw [promoting] at done
    cases done

/-- A shutdown that is called while a promotion is under way leaves no session open and no record
connecting when it returns, in whatever order the two take turns; no session was opened after the
key of the device was removed, and the role was reported only if the session was seen open in time.
The record may be connected. -/
theorem promotion_overtaken (records : start.records = ∅)
    (within : start.faults.Within .openingsEnd)
    (reached : start.Reaches p.settings (Deployment.Planned .openingsEnd) p.deployment)
    (quiet : p.deployment.faults = .none)
    (bound : ∀ id', p.deployment.sessions.contains id' = true →
      (p.deployment.records.read id').state ≠ .unregistered)
    (keyed : (p.deployment.slice id).link.Keyed) (idle : p.events.pending = [])
    (promoting : p.connections.pending = [(Order.role id .master).assignment p.settings])
    {moves : List Closing.Move} {c : Closing} (played : p.closing.play moves = some c)
    (stopped : c.stage = .stopped) : c.Overtaken id := by
  have concluded := (reached.concluded records within).every
  have returned : c.provider.Stopped := Closing.stopped_play played rfl stopped
  have harmony := harmony_of_promotion quiet concluded bound keyed idle promoting
  obtain ⟨inv, left, laid⟩ :=
    harmony.returned inFlight_ends played stopped (Pool.isIdle_iff.1 returned.connections_idle)
  have laid : ∀ id', c.scene.LaidBeside id id' := fun id' => (laid id').resolve_left nofun
  refine ⟨fun id' => (laid id').closed, fun id' => ?_, fun id' connected => ?_, inv.order⟩
  · by_cases own : id' = id
    · exact own ▸ left
    · exact inv.others id' own
  · obtain rfl : id' = id :=
      Decidable.byContradiction fun other => (laid id').unconnected other connected
    refine ⟨rfl, ?_⟩
    rcases (laid id').ended rfl with did | barred
    · exact inv.revived did connected
    · exact absurd connected barred.unconnected

end Provider

/-- The promotion opens the session, the device is torn down, and the promotion is completed. -/
def Closing.overtaking : List Closing.Move :=
  [.take .connections] ++ List.replicate 5 (.go .connections 0) ++ [.begin, .list [.sample]] ++
    List.replicate 4 .tear ++ [.finish] ++ List.replicate 4 (.go .connections 0) ++
    [.leave .connections 0, .stop]

namespace Provider

theorem reaches_sample :
    Deployment.sample.Reaches .default Deployment.Orderly sample.deployment :=
  Deployment.Reaches.refl.after ⟨trivial, Faults.within_none _, trivial⟩

theorem play_overtaking : ∃ c, (sample.submitConnection
      (.role .sample .master)).closing.play Closing.overtaking = some c ∧ c.stage = .stopped ∧
    (c.deployment.records.read .sample).state = .connected ∧
    c.deeds.filterMap (·.action.call?) = [.probe .sample, .openSession .sample,
      .removeKey .sample, .closeSession .sample true, .reportRole .sample .master .master] := by
  have check : ((sample.submitConnection (.role .sample .master)).closing.play
      Closing.overtaking).any (fun c => (c.stage matches .stopped) && decide
        ((c.deployment.records.read .sample).state = .connected ∧
          c.deeds.filterMap (·.action.call?) = [.probe .sample, .openSession .sample,
            .removeKey .sample, .closeSession .sample true,
            .reportRole .sample .master .master])) = true := by
    decide +kernel
  obtain ⟨c, played, ended⟩ := (Option.any_eq_true _ _).1 check
  rw [Bool.and_eq_true, decide_eq_true_iff] at ended
  refine ⟨c, played, ?_, ended.2⟩
  have stopped := ended.1
  split at stopped
  · assumption
  · cases stopped

theorem promotion_overtaken_sample :
    (sample.deployment.records.read .sample).state = .keyStored ∧ ∃ c, (sample.submitConnection
        (.role .sample .master)).closing.play Closing.overtaking = some c ∧
      c.Overtaken .sample := by
  have registered : (sample.deployment.records.read .sample).state = .keyStored := by
    decide +kernel
  have fresh : Deployment.sample.records = ∅ ∧ Deployment.sample.sessions = ∅ := ⟨rfl, rfl⟩
  have settled := (reaches_sample.settled fresh.1 fresh.2 (Faults.within_none _)).every
  have reached : Deployment.sample.Reaches sample.settings (Deployment.Planned .openingsEnd)
      sample.deployment :=
    Deployment.Reaches.refl.after ⟨trivial, Faults.within_none _, trivial⟩
  have quiet : sample.deployment.faults = .none := rfl
  have idle : sample.events.pending = [] ∧ sample.connections.pending = [] := ⟨rfl, rfl⟩
  have accepting : sample.connections.accepting = true := rfl
  obtain ⟨c, played, stopped, _⟩ := play_overtaking
  refine ⟨registered, c, played, ?_⟩
  -- what is known of the sample is enough from here on
  generalize sample = p at *
  let promotion := (Order.role .sample .master).assignment p.settings
  have promoting : (p.connections.submit promotion).pending = [promotion] := by
    simp [Pool.pending_submit, accepting, idle.2]
  rw [p.submitConnection_of_accepting _ accepting] at played
  refine promotion_overtaken (p := { p with connections := p.connections.submit promotion })
    fresh.1 (Faults.within_none _) reached quiet (fun id' isOpen unregistered => ?_)
    (fun _ unregistered => ?_) idle.1 promoting played stopped
  · exact absurd (((settled id').open_iff.1 isOpen).symm.trans unregistered) nofun
  · exact absurd (registered.symm.trans unregistered) nofun

/-- A promotion that opened its session in time takes the record for connected and reports the role
after the device was torn down. -/
theorem promotion_outlives_teardown :
    Deployment.sample.Reaches .default Deployment.Orderly sample.deployment ∧
    sample.deployment.faults = .none ∧ ∃ c, (sample.submitConnection
        (.role .sample .master)).closing.play Closing.overtaking = some c ∧ c.stage = .stopped ∧
      (c.deployment.records.read .sample).state = .connected ∧
      c.deeds.filterMap (·.action.call?) = [.probe .sample, .openSession .sample,
        .removeKey .sample, .closeSession .sample true, .reportRole .sample .master .master] :=
  ⟨reaches_sample, rfl, play_overtaking⟩

end Provider

end Southbound
