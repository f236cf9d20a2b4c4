import Southbound.Proofs.Backing
import Southbound.Proofs.Overtaking

/-!
# A session that breaks while ports are discovered

The event pool may look for the ports of a device while it handles the loss of its session.  Both
orders write the store and the flag of the record, and in opposite directions: discovery writes the
ports and then sets the flag, the loss takes the flag back and then disconnects the device.  A flag
that is set at the end is borne out by the store unless the loss came in between: it took the flag
back before discovery set it, and disconnected the device after discovery had found it available
(`Provider.flag_borne_out`).  Then the flag stays, and the next pass brings the device back without
its ports (`Provider.flag_outlives_loss`).

Discovery relies on two things it learns on the way, that the store shows the device available and
that it took the ports.  What another worker can do to either is limited, so what is learned lasts
(`Moment.Lasts`), and a job that does an action only where something lasting is known makes that
known at the end (`Crew.Under.awaited`).
-/

namespace Southbound

open Connection Deployment Discovery Job

/-! ## What is known at a moment -/

/-- A moment of an interleaving. -/
structure Moment where
  deployment : Deployment
  /-- What was done until then, oldest first. -/
  deeds : List Action

/-- The moment that the workers have come to. -/
def Crew.moment (c : Crew) : Moment := ⟨c.deployment, c.deeds⟩

namespace Moment

/-- The moment after an action. -/
def after (m : Moment) (a : Action) : Moment := ⟨(m.deployment.perform a).2, m.deeds ++ [a]⟩

/-- The moment after some lines for the operator. -/
def saying (m : Moment) (lines : List LogLine) : Moment := ⟨m.deployment.sayAll lines, m.deeds⟩

/-- One moment comes after another, and only actions of a certain kind were done in between. -/
inductive Later (ok : Action → Prop) (m : Moment) : Moment → Prop
  | refl : Later ok m m
  | after {m' : Moment} {a : Action} (before : Later ok m m') (okay : ok a) :
    Later ok m (m'.after a)
  | saying {m' : Moment} (before : Later ok m m') (lines : List LogLine) :
    Later ok m (m'.saying lines)

/-- What is known stays true, whatever is done of a certain kind. -/
structure Lasts (ok : Action → Prop) (K : Moment → Prop) : Prop where
  after : ∀ {m a}, ok a → K m → K (m.after a)
  saying : ∀ {m} lines, K m → K (m.saying lines)

variable {ok : Action → Prop} {K : Moment → Prop} {m m' m'' : Moment}

theorem Later.trans (first : Later ok m m') (second : Later ok m' m'') : Later ok m m'' := by
  induction second with
  | refl => exact first
  | after _ okay ih => exact ih.after okay
  | saying _ lines ih => exact ih.saying lines

theorem Lasts.later (lasts : Lasts ok K) (h : K m) (later : Later ok m m') : K m' := by
  induction later with
  | refl => exact h
  | after _ okay ih => exact lasts.after okay ih
  | saying _ lines ih => exact lasts.saying lines ih

end Moment

/-! ## Jobs that do an action only where something is known -/

namespace Job

variable {α β : Type} {ok : Action → Prop} {b : Action} {K : Moment → Prop} {m m' : Moment}

/-- Started at a moment, the job does a certain action only where something is known, and ends as
asked; others may do actions of a certain kind at any time. -/
def Awaits (ok : Action → Prop) (b : Action) (K : Moment → Prop) :
    Job α → Moment → (α → Moment → Prop) → Prop
  | done a, m, Q => Q a m
  | crashed, _, _ => True
  | act a next, m, Q => ∀ m', m.Later ok m' →
      (a = b → K m') ∧ (next (m'.deployment.perform a).1).Awaits ok b K (m'.after a) Q

theorem awaits_bind {j : Job α} {f : α → Job β} {Q : β → Moment → Prop} :
    (bind j f).Awaits ok b K m Q ↔ j.Awaits ok b K m fun a m' => (f a).Awaits ok b K m' Q := by
  induction j generalizing m with
  | done a => rfl
  | crashed => rfl
  | act a next ih => simp only [act_bind, Awaits, ih]

theorem Awaits.mono {j : Job α} {Q Q' : α → Moment → Prop} (h : j.Awaits ok b K m Q)
    (weaker : ∀ a m', Q a m' → Q' a m') : j.Awaits ok b K m Q' := by
  induction j generalizing m with
  | done a => exact weaker a m h
  | crashed => trivial
  | act a next ih => exact fun m' later => ⟨(h m' later).1, ih _ (h m' later).2⟩

/-- What others do in the meantime was reckoned with. -/
theorem Awaits.later {j : Job α} (h : j.Awaits ok b K m fun _ _ => True) (later : m.Later ok m') :
    j.Awaits ok b K m' fun _ _ => True := by
  cases j with
  | done a => trivial
  | crashed => trivial
  | act a next => exact fun m'' later' => h m'' (later.trans later')

theorem awaits_ofAction {a : Action} {Q : a.Answer → Moment → Prop}
    (known : ∀ m', m.Later ok m' → a = b → K m')
    (answered : ∀ m' answer, m.Later ok m' → (m'.deployment.perform a).1 = some answer →
      Q answer (m'.after a)) : (ofAction a).Awaits ok b K m Q := by
  refine fun m' later => ⟨known m' later, ?_⟩
  cases h : (m'.deployment.perform a).1 with
  | none => trivial
  | some answer => exact answered m' answer later h

/-- A job that does other things keeps what lasts. -/
theorem awaits_of_only {j : Job α} (only : j.Only fun a => ok a ∧ a ≠ b) {S : Moment → Prop}
    (lasts : Moment.Lasts ok S) (h : S m) : j.Awaits ok b K m fun _ m' => S m' := by
  induction j generalizing m with
  | done a => exact h
  | crashed => trivial
  | act a next ih =>
    obtain ⟨⟨okay, other⟩, rest⟩ := only
    exact fun m' later => ⟨fun same => absurd same other,
      ih _ (rest _) (lasts.after okay (lasts.later h later))⟩

end Job

/-- An action that the orders do only where something lasting is known makes that known. -/
theorem Crew.Under.awaited {P : Deployment → Prop} {ok : Action → Prop} {c c' : Crew}
    (closed : Crew.Closed P fun _ => ok) {b : Action} {K : Moment → Prop}
    (lasts : Moment.Lasts ok K) {moves : List Move} (played : c.play moves = some c')
    (h : c.Under P fun _ => ok) (first : c.deeds = [])
    (awaits : ∀ e ∈ c.pool.pending, e.rest.Awaits ok b K c.moment fun _ _ => True)
    (did : b ∈ c'.deeds) : K c'.moment := by
  let I := fun c : Crew => c.Under P (fun _ => ok) ∧
    (∀ e ∈ c.pool.pending, e.rest.Awaits ok b K c.moment fun _ _ => True) ∧
    (b ∈ c.deeds → K c.moment)
  have step : ∀ c c' : Crew, c.Next c' → I c → I c' := by
    rintro c c' step ⟨under, awaits, known⟩
    refine ⟨under.next closed step, ?_⟩
    cases step with
    | took pending deployment deeds =>
      have same : c'.moment = c.moment := by simp [moment, deployment, deeds]
      rw [pending, deeds, same]
      exact ⟨awaits, known⟩
    | @went before after o a next pending pending' deployment deeds =>
      have passed : c'.moment = c.moment.after a := by
        simp [moment, Moment.after, deployment, deeds]
      obtain ⟨okay, _⟩ := under.ok_of_went pending
      have own := awaits ⟨o, .act a next⟩ (by simp [pending]) c.moment .refl
      have later : c.moment.Later ok (c.moment.after a) := .after .refl okay
      rw [pending', deeds, passed]
      refine ⟨fun e he => ?_, fun did => lasts.after okay ?_⟩
      · rcases List.mem_append.1 he with earlier | he
        · exact (awaits e (by simp [pending, earlier])).later later
        · rcases List.mem_cons.1 he with rfl | others
          · exact own.2
          · exact (awaits e (by simp [pending, others])).later later
      · rcases List.mem_append.1 did with already | now
        · exact known already
        · exact own.1 (List.mem_singleton.1 now).symm
    | @left before after e lines pending ended pending' deployment deeds =>
      have passed : c'.moment = c.moment.saying lines := by
        simp [moment, Moment.saying, deployment, deeds]
      have later : c.moment.Later ok (c.moment.saying lines) := .saying .refl lines
      rw [pending', deeds, passed]
      refine ⟨fun e he => (awaits e ?_).later later, fun did => lasts.saying lines (known did)⟩
      rcases List.mem_append.1 he with earlier | others
      · simp [pending, earlier]
      · simp [pending, others]
  exact (play_keeps step played ⟨h, awaits, fun did => by simp [first] at did⟩).2.2 did

/-! ## What the two orders do -/

namespace Action

/-- An action about the device that neither announces it nor empties its list of ports while the
store shows it available. -/
def Spares (id : Identity) (a : Action) : Prop :=
  a.Concerns id ∧ ∀ w, a = .writeStore w → w = .disconnect id ∨
    (∃ list, list ≠ [] ∧ w = .ports id list) ∨ ∃ list, w = .statistics id list

/-- An action of the kind that does not set the flag. -/
def Unflagging (id : Identity) (a : Action) : Prop :=
  a.Spares id ∧ a ≠ .changeRecord id .portsDiscovered

end Action

namespace Slice

/-- What an attempt leaves is what was there, or its effect. -/
theorem attempt_outcome (v : Slice) (fault : Option Fault)
    (outcome : Except CollaboratorError Slice) :
    ((v.attempt fault outcome).1 ≠ some (.ok ()) ∧ (v.attempt fault outcome).2 = v) ∨
      outcome = .ok (v.attempt fault outcome).2 := by
  cases outcome with
  | ok v' =>
    rcases fault with _ | _ | _ | _ | _ <;>
      first | exact .inr rfl | exact .inl ⟨by simp [attempt], rfl⟩
  | error e => rcases fault with _ | _ | _ | _ | _ <;> exact .inl ⟨by simp [attempt], rfl⟩

theorem entry_of_write {v v' : Slice} {w : StoreWrite} (h : v.write w = .ok v') :
    ∃ known, w.entry v.stored? = .ok known ∧ v'.stored? = some known := by
  cases entered : w.entry v.stored? with
  | error e => simp [write, entered, Except.map] at h
  | ok known =>
    rw [write, entered] at h
    cases h
    exact ⟨known, rfl, rfl⟩

/-- Only writes to the store change the store entry. -/
theorem Becomes.stored_eq {v v' : Slice} {a : Action} (h : v.Becomes a v')
    (other : ∀ w, a ≠ .writeStore w) : v'.stored? = v.stored? := by
  cases h with
  | written w known => exact absurd rfl (other w)
  | _ => rfl

/-- Only the change that sets the flag sets it. -/
theorem Becomes.unflagged {v v' : Slice} {id : Identity} {a : Action} (h : v.Becomes a v')
    (concerns : a.Concerns id) (other : a ≠ .changeRecord id .portsDiscovered)
    (unflagged : v.record.portsDiscovered = false) : v'.record.portsDiscovered = false := by
  cases h with
  | changed id' c =>
    cases concerns
    rw [record_change]
    cases c with
    | portsDiscovered => exact absurd rfl other
    | ended => rfl
    | _ => exact unflagged
  | _ => exact unflagged

end Slice

namespace Deployment

variable {d : Deployment} {id : Identity}

/-- A write to the store takes effect if it is answered so, and may have no effect otherwise. -/
theorem written (d : Deployment) {w : StoreWrite} (concerns : w.identity = id) :
    let known? := (d.slice id).stored?
    let known'? := ((d.perform (.writeStore w)).2.slice id).stored?
    ((d.perform (.writeStore w)).1 ≠ some (.ok ()) ∧ known'? = known?) ∨
      ∃ known, w.entry known? = .ok known ∧ known'? = some known := by
  have about : (Action.writeStore w).Concerns id := concerns
  obtain ⟨answered, moved⟩ := d.perform_slice about
  simp only [answered, moved.own]
  rcases (d.slice id).attempt_outcome (d.faultOf (.writeStore w)) ((d.slice id).write w) with
    ⟨refused, same⟩ | effective
  · exact .inl ⟨refused, congrArg Slice.stored? same⟩
  · exact .inr (Slice.entry_of_write effective)

/-- What the two orders can make of the store entry of the device. -/
theorem stored_perform (d : Deployment) {a : Action} (spares : a.Spares id) :
    let known? := (d.slice id).stored?
    let known'? := ((d.perform a).2.slice id).stored?
    known'? = known? ∨ (a = .writeStore (.disconnect id) ∧ known'? = known?.map .gone) ∨
      (∃ list, list ≠ [] ∧ known'? = known?.map (·.withPorts list)) ∨
      ∃ list, known'? = known?.map (·.withStatistics list) := by
  obtain ⟨concerns, writes⟩ := spares
  by_cases write : ∃ w, a = .writeStore w
  · obtain ⟨w, rfl⟩ := write
    dsimp only
    rcases d.written concerns with ⟨_, same⟩ | ⟨known', entered, stored⟩
    · exact .inl same
    · rw [stored]
      refine .inr ?_
      generalize (d.slice id).stored? = known? at entered ⊢
      rcases writes w rfl with rfl | ⟨list, filled, rfl⟩ | ⟨list, rfl⟩ <;>
        rcases known? with _ | known <;> cases entered
      · exact .inl ⟨rfl, rfl⟩
      · exact .inr (.inl ⟨list, filled, rfl⟩)
      · exact .inr (.inr ⟨list, rfl⟩)
  · obtain ⟨_, moved⟩ := d.perform_slice concerns
    refine .inl ?_
    rw [moved.own]
    exact (Slice.becomes_perform _ _ a).stored_eq fun w same => write ⟨w, same⟩

/-- Only disconnecting the device makes it unavailable. -/
theorem available_perform {a : Action} (spares : a.Spares id)
    (other : a ≠ .writeStore (.disconnect id)) (available : (d.slice id).available = true) :
    ((d.perform a).2.slice id).available = true := by
  rw [Slice.available] at available ⊢
  rcases d.stored_perform spares with same | ⟨gone, _⟩ | ⟨list, _, brought⟩ | ⟨list, counted⟩
  · rwa [same]
  · exact absurd gone other
  · rw [brought, Option.any_map]
    exact available
  · rw [counted, Option.any_map]
    exact available

/-- A device that has ports as long as it is available keeps them so long. -/
theorem ports_perform {a : Action} (spares : a.Spares id) {known : StoredDevice}
    (stored : (d.slice id).stored? = some known)
    (supplied : known.available = true → known.ports ≠ []) :
    ∃ known', ((d.perform a).2.slice id).stored? = some known' ∧
      (known'.available = true → known'.ports ≠ []) := by
  rcases d.stored_perform spares with same | ⟨_, gone⟩ | ⟨list, filled, brought⟩ | ⟨list, counted⟩
  · exact ⟨known, same.trans stored, supplied⟩
  · exact ⟨known.gone, by rw [gone, stored]; rfl, fun available => nomatch available⟩
  · exact ⟨known.withPorts list, by rw [brought, stored]; rfl, fun _ => filled⟩
  · exact ⟨known.withStatistics list, by rw [counted, stored]; rfl, supplied⟩

end Deployment

/-! ## What discovery learns -/

namespace Moment

variable {id : Identity} {m : Moment}

/-- The store showed the device available when discovery looked, and still does unless it was
disconnected since. -/
def Looked (id : Identity) (m : Moment) : Prop :=
  .isAvailable id ∈ m.deeds ∧ ((m.deployment.slice id).available = true ∨
    [.isAvailable id, .writeStore (.disconnect id)].Sublist m.deeds)

/-- Besides, the store took ports, and has some as long as it shows the device available. -/
def Supplied (id : Identity) (m : Moment) : Prop :=
  m.Looked id ∧ ∃ known, (m.deployment.slice id).stored? = some known ∧
    (known.available = true → known.ports ≠ [])

theorem lasts_looked (id : Identity) : Lasts (Action.Spares id) (Looked id) where
  after {m a} spares h := by
    obtain ⟨looked, shown⟩ := h
    refine ⟨List.mem_append_left _ looked, ?_⟩
    rcases shown with available | disconnected
    · by_cases same : a = .writeStore (.disconnect id)
      · subst same
        exact .inr ((List.singleton_sublist.2 looked).append (.refl _))
      · exact .inl (available_perform spares same available)
    · exact .inr (disconnected.trans (List.sublist_append_left _ _))
  saying _ h := h

theorem lasts_supplied (id : Identity) : Lasts (Action.Spares id) (Supplied id) where
  after spares h := by
    obtain ⟨looked, known, stored, supplied⟩ := h
    exact ⟨(lasts_looked id).after spares looked, ports_perform spares stored supplied⟩
  saying _ h := h

theorem lasts_true (ok : Action → Prop) : Lasts ok fun _ => True :=
  ⟨fun _ _ => trivial, fun _ _ => trivial⟩

/-- A look that finds the device available. -/
theorem looked_of_look (told : (m.deployment.perform (.isAvailable id)).1 = some true) :
    (m.after (.isAvailable id)).Looked id := by
  have about : (Action.isAvailable id).Concerns id := rfl
  obtain ⟨answered, moved⟩ := m.deployment.perform_slice about
  refine ⟨by simp [after], .inl ?_⟩
  rw [answered] at told
  show ((m.deployment.perform (.isAvailable id)).2.slice id).available = true
  rw [moved.own]
  simp only [Slice.perform, Slice.unlessCrash] at told ⊢
  split at told
  · cases told
  · exact Option.some.inj told

/-- Ports that the store took. -/
theorem Looked.supplied (h : m.Looked id) {list : List Port} (filled : list ≠ [])
    (took : (m.deployment.perform (.writeStore (.ports id list))).1 = some (.ok ())) :
    (m.after (.writeStore (.ports id list))).Supplied id := by
  have spares : (Action.writeStore (.ports id list)).Spares id :=
    ⟨rfl, fun w same => .inr (.inl ⟨list, filled, (Action.writeStore.inj same).symm⟩)⟩
  have about : (StoreWrite.ports id list).identity = id := rfl
  refine ⟨(lasts_looked id).after spares h, ?_⟩
  rcases m.deployment.written about with ⟨refused, _⟩ | ⟨known', entered, stored⟩
  · exact absurd took refused
  · refine ⟨known', stored, fun _ => ?_⟩
    cases before : (m.deployment.slice id).stored? with
    | none =>
      rw [before] at entered
      cases entered
    | some known =>
      rw [before] at entered
      cases entered
      exact filled

end Moment

/-! ## The two orders -/

section orders

variable (id : Identity)

theorem unflagging_askPorts (driver : Driver) :
    (askPorts id driver).Only (Action.Unflagging id) := by
  unfold askPorts
  cases driver.description <;> cases driver.ports <;>
    simp [portsOf, forall_except, Action.Unflagging, Action.Spares, Action.Concerns]

theorem unflagging_bringStatistics (driver : Driver) :
    (bringStatistics id driver).Only (Action.Unflagging id) := by
  cases h : driver.portStatistics <;>
    simp [bringStatistics, h, warnOnRefusal, forall_except, Action.Unflagging, Action.Spares,
      Action.Concerns, StoreWrite.identity]

theorem unflagging_sessionLost : (sessionLost id).Only (Action.Unflagging id) := by
  simp [sessionLost, forall_except, Action.Unflagging, Action.Spares, Action.Concerns,
    StoreWrite.identity]

theorem unflagging_deviceRemoved : (deviceRemoved id).Only (Action.Unflagging id) := by
  simp [deviceRemoved, warnOnRefusal, forall_except, Action.Unflagging, Action.Spares,
    Action.Concerns]

theorem Action.Looks.unflagging {a : Action} (h : a.Looks id) : a.Unflagging id := by
  obtain ⟨concerns, looks⟩ := h
  cases a with
  | log | lookUp | isAvailable | isLocalMaster | masterOf =>
    exact ⟨⟨concerns, by simp⟩, by simp⟩
  | _ => cases looks

theorem spares_bringPorts (driver : Driver) : (bringPorts id driver).Only (Action.Spares id) := by
  refine ((unflagging_askPorts id driver).mono fun _ h => h.1).bind fun list => ?_
  simp [forall_except, Action.Spares, Action.Concerns, StoreWrite.identity]

theorem spares_discoverPorts : (discoverPorts id).Only (Action.Spares id) := by
  have looks : ∀ a : Action, a.Looks id → (ofAction a).Only (Action.Spares id) := fun a h =>
    only_ofAction (h.unflagging id).1
  refine (looks (.isLocalMaster id) ⟨rfl, rfl⟩).bind fun mastered => ?_
  refine Only.ite (fun _ => ?_) fun _ => looks (.log _) ⟨trivial, rfl⟩
  refine (looks (.isAvailable id) ⟨rfl, rfl⟩).bind fun available => ?_
  refine Only.ite (fun _ => ?_) fun _ => looks (.log _) ⟨trivial, rfl⟩
  refine (looks (.lookUp id) ⟨rfl, rfl⟩).bind fun device? => ?_
  cases device? with
  | none => exact looks (.log _) ⟨trivial, rfl⟩
  | some device =>
    exact (spares_bringPorts id device.driver).bind fun _ =>
      (unflagging_bringStatistics id device.driver).mono fun _ h => h.1

theorem spares_reactToStore (s : Settings) (e : StoreEvent) :
    (Order.reactToStore s e).Only (Action.Spares e.identity) :=
  Kind.mem_reactToStore_of (K := .only (Action.Spares e.identity)) s
    (fun _ h => (h.unflagging _).1) (spares_discoverPorts e.identity)
    ((unflagging_deviceRemoved e.identity).mono fun _ h => h.1)

end orders

/-- Whatever is done to the device in the meantime, the job sets the flag only once the store took
ports. -/
abbrev Job.Careful {α : Type} (id : Identity) (j : Job α) (m : Moment) : Prop :=
  j.Awaits (Action.Spares id) (.changeRecord id .portsDiscovered) (Moment.Supplied id) m
    fun _ _ => True

section careful

variable {α β : Type} {id : Identity} {m : Moment}

theorem careful_of_only {j : Job α} (only : j.Only (Action.Unflagging id)) (m : Moment) :
    j.Careful id m :=
  awaits_of_only only (Moment.lasts_true _) trivial

/-- A job that looks first, and then goes on with the answer. -/
theorem careful_look {a : Action} (looks : a.Looks id) {f : a.Answer → Job β}
    (rest : ∀ m' answer, m.Later (Action.Spares id) m' →
      (m'.deployment.perform a).1 = some answer → (f answer).Careful id (m'.after a)) :
    (Job.bind (ofAction a) f).Careful id m :=
  awaits_bind.2 (awaits_ofAction (fun _ _ same => absurd same (looks.unflagging id).2) rest)

theorem careful_ite {c : Prop} [Decidable c] {yes no : Job α} (left : yes.Careful id m)
    (right : no.Careful id m) : (if c then yes else no).Careful id m := by
  split
  · exact left
  · exact right

theorem careful_log (l : LogLine) (m : Moment) : (log l).Careful id m :=
  careful_of_only (only_ofAction (a := .log l) (Action.Looks.unflagging id ⟨trivial, rfl⟩)) m

theorem careful_bringPorts (driver : Driver) (looked : m.Looked id) :
    (bringPorts id driver).Careful id m := by
  refine awaits_bind.2 ?_
  refine (awaits_of_only (unflagging_askPorts id driver) (Moment.lasts_looked id) looked).mono
    fun list m₁ looked => ?_
  cases list with
  | nil => trivial
  | cons port rest =>
    refine awaits_bind.2
      (awaits_ofAction (fun _ _ same => nomatch same) fun m₂ reply later took => ?_)
    cases reply with
    | error e => exact careful_log _ _
    | ok _ =>
      have looked := (Moment.lasts_looked id).later looked later
      have supplied := looked.supplied (List.cons_ne_nil port rest) took
      refine awaits_bind.2 (awaits_ofAction (fun m₃ later _ => ?_) fun _ _ _ _ => trivial)
      exact (Moment.lasts_supplied id).later supplied later

theorem careful_discoverPorts (m : Moment) : (discoverPorts id).Careful id m := by
  refine careful_look (a := .isLocalMaster id) ⟨rfl, rfl⟩ fun m₁ mastered _ _ => ?_
  cases mastered with
  | false => exact careful_log _ _
  | true =>
    refine careful_look (a := .isAvailable id) ⟨rfl, rfl⟩ fun m₂ available _ told => ?_
    cases available with
    | false => exact careful_log _ _
    | true =>
      have found : (Action.lookUp id).Looks id := ⟨rfl, rfl⟩
      refine careful_look found fun m₃ device? later _ => ?_
      have looked := (Moment.lasts_looked id).later (Moment.looked_of_look told) later
      have looked := (Moment.lasts_looked id).after (found.unflagging id).1 looked
      cases device? with
      | none => exact careful_log _ _
      | some device =>
        refine awaits_bind.2 ((careful_bringPorts device.driver looked).mono fun _ m₄ _ => ?_)
        exact careful_of_only (unflagging_bringStatistics id device.driver) m₄

theorem careful_reactToStore (s : Settings) (e : StoreEvent) (m : Moment) :
    (Order.reactToStore s e).Careful e.identity m := by
  refine careful_look (a := .masterOf e.identity) ⟨rfl, rfl⟩ fun m₁ master _ _ => ?_
  refine careful_ite (careful_look (a := .isLocalMaster e.identity) ⟨rfl, rfl⟩
    fun m₂ isLocal _ _ => ?_) ?_
  all_goals
    refine careful_ite ?_ trivial
    cases e.change with
    | added => exact careful_discoverPorts _
    | removed => exact careful_of_only (unflagging_deviceRemoved e.identity) _
    | updated => trivial

end careful

/-! ## Both at the same time -/

/-- The workers of the event pool. -/
def Provider.eventCrew (p : Provider) : Crew := ⟨p.events, p.deployment, []⟩

section unflagged

variable {d : Deployment} {id : Identity}

theorem unflagged_of_end :
    ((d.perform (.changeRecord id .ended)).2.slice id).record.portsDiscovered = false := by
  have about : (Action.changeRecord id .ended).Concerns id := rfl
  rw [(d.perform_slice about).2.own]
  rfl

theorem unflagged_perform {a : Action} (concerns : a.Concerns id)
    (other : a ≠ .changeRecord id .portsDiscovered)
    (unflagged : (d.slice id).record.portsDiscovered = false) :
    ((d.perform a).2.slice id).record.portsDiscovered = false := by
  obtain ⟨_, moved⟩ := d.perform_slice concerns
  rw [moved.own]
  exact (Slice.becomes_perform _ _ a).unflagged concerns other unflagged

end unflagged

namespace Provider

variable (p : Provider) (s : Settings) (e : StoreEvent)

variable {moves : List Move} {c : Crew}

/-- Neither order touches another device, and neither sets the flag without care. -/
theorem careful_pending
    (pending : p.events.pending.Perm
      [(Order.storeChanged e).assignment s, (Order.sessionLost e.identity).assignment s]) :
    ∀ entry ∈ p.eventCrew.pool.pending, entry.rest.Only (Action.Spares e.identity) ∧
      entry.rest.Careful e.identity p.eventCrew.moment := by
  have lost := unflagging_sessionLost e.identity
  intro entry he
  have either := pending.mem_iff.1 he
  simp only [List.mem_cons, List.not_mem_nil, or_false] at either
  rcases either with rfl | rfl
  · exact ⟨(spares_reactToStore s e).bind fun _ => trivial,
      awaits_bind.2 ((careful_reactToStore s e _).mono fun _ _ _ => trivial)⟩
  · exact ⟨(lost.mono fun _ h => h.1).bind fun _ => trivial,
      awaits_bind.2 ((careful_of_only lost _).mono fun _ _ _ => trivial)⟩

theorem closed_spares (id : Identity) :
    Crew.Closed (fun _ => True) fun _ => Action.Spares id :=
  ⟨fun _ _ _ _ _ => trivial, fun _ _ _ => trivial⟩

theorem under_spares
    (pending : p.events.pending.Perm
      [(Order.storeChanged e).assignment s, (Order.sessionLost e.identity).assignment s]) :
    p.eventCrew.Under (fun _ => True) fun _ => Action.Spares e.identity :=
  ⟨trivial, fun entry he => (p.careful_pending s e pending entry he).1.stays⟩

/-- The loss of the session takes the flag back, so a flag that is set at the end was set after
that. -/
theorem set_after_loss
    (pending : p.events.pending.Perm
      [(Order.storeChanged e).assignment s, (Order.sessionLost e.identity).assignment s])
    (played : p.eventCrew.play moves = some c) (ended : c.pool.pending = [])
    (flag : (c.deployment.records.read e.identity).portsDiscovered = true) :
    [.changeRecord e.identity .ended,
      .changeRecord e.identity .portsDiscovered].Sublist c.deeds := by
  have under := p.under_spares s e pending
  have owes : ∃ entry ∈ p.eventCrew.pool.pending,
      entry.rest.Owes (fun _ => True) [.changeRecord e.identity .ended] :=
    ⟨_, pending.mem_iff.2 (.tail _ (.head _)), leads_bind.2 (leads_bind.2 leads_last)⟩
  have took : .changeRecord e.identity .ended ∈ c.deeds := by
    obtain ⟨_, did, sub⟩ := under.owed (closed_spares e.identity) played owes ended
    exact did ▸ List.mem_append_right _ (sub.subset (.head _))
  by_contra apart
  obtain ⟨before, after, did⟩ := List.append_of_mem took
  have last : ∀ a ∈ after, a ≠ .changeRecord e.identity .portsDiscovered := by
    rintro a ha rfl
    rw [did] at apart
    exact apart (((List.singleton_sublist.2 ha).cons_cons _).trans
      (List.sublist_append_right before _))
  have unflagged := under.settled (closed_spares e.identity)
    (· = .changeRecord e.identity .portsDiscovered)
    (G := fun d => (d.slice e.identity).record.portsDiscovered = false)
    (fun _ _ => unflagged_of_end)
    (fun _ _ _ _ spares other => unflagged_perform spares.1 other) (fun _ _ h => h) played rfl
    did last
  exact Bool.false_ne_true (unflagged.symm.trans flag)

/-- Where an order that follows a store event and the loss of the session of the same device are
carried out at the same time, a flag that is set at the end is borne out by the store, which shows
the device available with ports; or else the device was disconnected after discovery had found it
available, and discovery set the flag after the loss had taken it back. -/
theorem flag_borne_out
    (pending : p.events.pending.Perm
      [(Order.storeChanged e).assignment s, (Order.sessionLost e.identity).assignment s])
    {moves : List Move} {c : Crew} (played : p.eventCrew.play moves = some c)
    (ended : c.pool.pending = [])
    (flag : (c.deployment.records.read e.identity).portsDiscovered = true) :
    (∃ known, c.deployment.store.get? e.identity = some known ∧ known.available = true ∧
        known.ports ≠ []) ∨
      c.deployment.store.isAvailable e.identity = false ∧
        [.isAvailable e.identity, .writeStore (.disconnect e.identity)].Sublist c.deeds ∧
        [.changeRecord e.identity .ended,
          .changeRecord e.identity .portsDiscovered].Sublist c.deeds := by
  have order := p.set_after_loss s e pending played ended flag
  have set : .changeRecord e.identity .portsDiscovered ∈ c.deeds := order.subset (by simp)
  obtain ⟨⟨_, shown⟩, known, stored, supplied⟩ := (p.under_spares s e pending).awaited
    (closed_spares e.identity) (Moment.lasts_supplied e.identity) played rfl
    (fun entry he => (p.careful_pending s e pending entry he).2) set
  have stored : c.deployment.store.get? e.identity = some known := stored
  have isAvailable : c.deployment.store.isAvailable e.identity = known.available := by
    rw [DeviceStore.isAvailable, stored]
    rfl
  cases available : known.available with
  | true => exact .inl ⟨known, stored, available, supplied available⟩
  | false =>
    rcases shown with shown | disconnected
    · exact absurd (shown.symm.trans (isAvailable.trans available)) (by simp)
    · exact .inr ⟨isAvailable.trans available, disconnected, order⟩

/-! ### A loss in the midst of discovery -/

/-- The device comes to the store. -/
def arrival : StoreEvent := ⟨.added, .sample, (Description.placeholder .sample).annotations⟩

/-- A provider that was told that the device came to the store and that its session broke. -/
def shaken (d : Deployment) : Provider :=
  ((fresh .default 16 d).submitEvent (.storeChanged arrival)).submitEvent (.sessionLost .sample)

theorem pending_shaken (d : Deployment) : (shaken d).events.pending =
    [(Order.storeChanged arrival).assignment .default,
      (Order.sessionLost .sample).assignment .default] := by
  let pool := (fresh .default 16 d).events
  have events : (shaken d).events =
      (pool.submit ((Order.storeChanged arrival).assignment .default)).submit
        ((Order.sessionLost .sample).assignment .default) := rfl
  have accepting : pool.accepting = true := rfl
  have idle : pool.pending = [] := rfl
  simp [events, Pool.pending_submit, Pool.accepting_submit, accepting, idle]

end Provider

/-- A pass discovers the port of the device; after it calls go wrong as planned. -/
def Step.passBefore (f : Faults) : List Step := [.operation (.order .pass), .change (.plan f)]

/-- The store refuses to disconnect the device. -/
def Faults.clinging : Faults :=
  Faults.none.plan (.deviceDisconnected .sample) ⟨[], some (.refuse (.store "busy"))⟩

/-- Discovery writes the ports, the loss of the session is handled, and discovery goes on. -/
def Move.overlapping : List Move :=
  [.take, .take] ++ List.replicate 7 (.go 0) ++ List.replicate 4 (.go 1) ++ [.leave 1] ++
    List.replicate 3 (.go 0) ++ [.leave 0]

namespace Provider

/-- Where the store refuses to disconnect the device, the flag is borne out although the loss was
handled in the midst of discovery. -/
theorem flag_borne_out_clinging :
    let p := shaken (Deployment.sample.after .default (Step.passBefore .clinging))
    ∃ c, p.eventCrew.play Move.overlapping = some c ∧
      (c.deployment.records.read .sample).portsDiscovered = true ∧
      ∃ known, c.deployment.store.get? .sample = some known ∧ known.available = true ∧
        known.ports ≠ [] := by
  intro p
  have check : (p.eventCrew.play Move.overlapping).any (fun c =>
      c.pool.pending.isEmpty && (c.deployment.records.read .sample).portsDiscovered &&
        c.deployment.store.isAvailable .sample) = true := by
    decide +kernel
  obtain ⟨c, played, ended⟩ := (Option.any_eq_true _ _).1 check
  simp only [Bool.and_eq_true, List.isEmpty_iff] at ended
  obtain ⟨⟨idle, flag⟩, available⟩ := ended
  have borneOut := flag_borne_out p .default arrival (.of_eq (pending_shaken _)) played idle flag
  exact ⟨c, played, flag, borneOut.resolve_right fun gone =>
    Bool.false_ne_true (gone.1.symm.trans available)⟩

/-- A session that breaks after discovery wrote the ports leaves a flag that the store does not bear
out, and the next pass brings the device back without ports. -/
theorem flag_outlives_loss :
    let p := shaken (Deployment.sample.after .default (Step.passBefore .none))
    Deployment.sample.Reaches .default Undisturbed p.deployment ∧
      ∃ c, p.eventCrew.play Move.overlapping = some c ∧ c.pool.isIdle = true ∧
        (c.deployment.records.read .sample).portsDiscovered = true ∧
        c.deployment.store.isAvailable .sample = false ∧
        ∃ known, ((Order.pass.job .default).run c.deployment).2.store.get? .sample = some known ∧
          known.available = true ∧ known.ports = [] := by
  intro p
  have reached : Deployment.sample.Reaches .default Undisturbed
      (Deployment.sample.after .default (Step.passBefore .none)) :=
    Reaches.refl.after ⟨trivial, Faults.within_none _, trivial⟩
  have check : (p.eventCrew.play Move.overlapping).any (fun c =>
      c.pool.isIdle && (c.deployment.records.read .sample).portsDiscovered &&
        !c.deployment.store.isAvailable .sample &&
        (((Order.pass.job .default).run c.deployment).2.store.get? .sample).any fun known =>
          known.available && known.ports.isEmpty) = true := by
    decide +kernel
  obtain ⟨c, played, ended⟩ := (Option.any_eq_true _ _).1 check
  simp only [Bool.and_eq_true, Bool.not_eq_true', Option.any_eq_true, List.isEmpty_iff] at ended
  obtain ⟨⟨⟨idle, flag⟩, unavailable⟩, known, stored, available, ports⟩ := ended
  exact ⟨reached, c, played, idle, flag, unavailable, known, stored, available, ports⟩

end Provider

end Southbound
