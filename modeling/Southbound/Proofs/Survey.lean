import Southbound.Proofs.Course
import Southbound.Proofs.Run

/-!
# What may be seen of discovery

Ports of a device are discovered once per session.  `Survey id known seen known'` says what the
device may see on the way from one state of that knowledge to another: no success as long as the
ports are not known, nothing about ports or counters once they are, and in between a single dispatch
in which the ports land (`Glimpse.Landed`).  A `Report` adds that a driver was asked for the ports
if the device was found fit for it (`Glimpse.Finds`).

Both go through when what was seen is put together (`Survey.append`, `Report.append`), and an action
that has nothing to do with discovery keeps to them (`Report.of_isIdle`).
-/

namespace Southbound

open Connection Deployment Discovery Glimpse Job Reconciliation

/-! ## What is seen of discovery -/

namespace Call

/-- Whether a driver is asked for the ports of the device. -/
def asksPorts (id : Identity) : Call → Bool
  | discoverPortDetails id' | listPorts id' => id' == id
  | _ => false

/-- Whether the store is told of counters of the device. -/
def bringsCounters (id : Identity) : Call → Bool
  | updateStatistics id' _ => id' == id
  | _ => false

/-- Whether the call is about ports or counters of the device. -/
def surveys (id : Identity) : Call → Bool
  | discoverPortDetails id' | listPorts id' | discoverStatistics id' | updatePorts id' _
  | updateStatistics id' _ => id' == id
  | _ => false

end Call

/-- Whether the driver has a way to tell the ports. -/
def Driver.offersPorts (driver : Driver) : Bool := driver.description.isSome || driver.ports.isSome

namespace Glimpse

/-- Whether it is a call about ports or counters of the device. -/
def surveys (id : Identity) (g : Glimpse) : Bool := g.action.call?.any (·.surveys id)

/-- Whether the store is told of counters of the device. -/
def counts (id : Identity) (g : Glimpse) : Bool := g.action.call?.any (·.bringsCounters id)

/-- Whether the store took ports of the device. -/
def lands (id : Identity) : Glimpse → Bool
  | ⟨_, .writeStore (.ports id' _), some (.ok _)⟩ => id' == id
  | _ => false

/-- Whether it leaves the device without ports and counters. -/
def misses (id : Identity) (g : Glimpse) : Bool := !g.lands id && !g.counts id

/-- Whether it belongs to what discovery does from the moment the ports landed until it tells of
counters. -/
def tallies (id : Identity) : Glimpse → Bool
  | ⟨_, .changeRecord id' .portsDiscovered, _⟩ | ⟨_, .readRecord id', _⟩
  | ⟨_, .discoverStatistics id' _, _⟩ => id' == id
  | ⟨_, .log _, _⟩ => true
  | _ => false

/-- Whether the device was found available. -/
def shows (id : Identity) : Glimpse → Bool
  | ⟨_, .isAvailable id', some true⟩ => id' == id
  | _ => false

/-- Whether it is in favour of discovery: what was looked up is that the device is available, that
it is mastered here or that it has a driver which offers its ports. -/
def favours (id : Identity) : Glimpse → Bool
  | ⟨_, .isAvailable id', reply⟩ | ⟨_, .isLocalMaster id', reply⟩ =>
    id' != id || reply == some true
  | ⟨_, .lookUp id', reply⟩ => id' != id || reply.any (·.any (·.driver.offersPorts))
  | _ => true

/-- A driver was asked for the ports of the device. -/
def AsksPorts (id : Identity) (seen : List Glimpse) : Prop :=
  ∃ c ∈ calls seen, c.asksPorts id = true

/-- At some time the device was found available, and from then on everything was in favour of
discovery. -/
def Finds (id : Identity) : List Glimpse → Prop
  | [] => False
  | g :: seen => (g.shows id = true ∧ ∀ g' ∈ seen, g'.favours id = true) ∨ Finds id seen

instance decidableFinds (id : Identity) : (seen : List Glimpse) → Decidable (Finds id seen)
  | [] => .isFalse fun h => h
  | g :: seen =>
    have := decidableFinds id seen
    inferInstanceAs (Decidable
      ((g.shows id = true ∧ ∀ g' ∈ seen, g'.favours id = true) ∨ Finds id seen))

/-- What may be seen after ports of the device landed: the rest of the dispatch up to the moment
when it tells of counters, that moment unless the dispatch ends before, and then nothing about ports
or counters. -/
inductive Concludes (id : Identity) : List Glimpse → Prop
  | idle {seen : List Glimpse} (idle : ∀ g ∈ seen, g.surveys id = false) : Concludes id seen
  | counted {g : Glimpse} {seen : List Glimpse} (counts : g.counts id = true)
    (idle : ∀ g ∈ seen, g.surveys id = false) : Concludes id (g :: seen)
  | tallied {g : Glimpse} {seen : List Glimpse} (tallies : g.tallies id = true)
    (rest : Concludes id seen) : Concludes id (g :: seen)

/-- Ports of the device landed once.  Its counters were brought after that only, at most once, and
in the same dispatch. -/
inductive Landed (id : Identity) : List Glimpse → Prop
  | intro {before after : List Glimpse} {g : Glimpse} (missed : ∀ m ∈ before, m.misses id = true)
    (lands : g.lands id = true) (concludes : Concludes id after) : Landed id (before ++ g :: after)

variable {id : Identity} {g : Glimpse} {seen later : List Glimpse}

theorem surveys_of_lands (h : g.lands id = true) : g.surveys id = true := by
  unfold lands at h
  split at h
  · exact h
  · cases h

theorem surveys_of_counts (h : g.counts id = true) : g.surveys id = true := by
  obtain ⟨c, called, brings⟩ := (Option.any_eq_true _ _).1 h
  refine (Option.any_eq_true _ _).2 ⟨c, called, ?_⟩
  unfold Call.bringsCounters at brings
  split at brings
  · exact brings
  · cases brings

theorem not_counts_of_lands (h : g.lands id = true) : g.counts id = false := by
  unfold lands at h
  split at h
  · rfl
  · cases h

theorem misses_of_idle (h : g.surveys id = false) : g.misses id = true := by
  have lands : g.lands id = false :=
    Bool.eq_false_iff.2 fun lands => Bool.noConfusion (h.symm.trans (surveys_of_lands lands))
  have counts : g.counts id = false :=
    Bool.eq_false_iff.2 fun counts => Bool.noConfusion (h.symm.trans (surveys_of_counts counts))
  simp [misses, lands, counts]

theorem surveys_of_uncalled (uncalled : g.action.call? = none) : g.surveys id = false := by
  simp [surveys, uncalled]

theorem unseen_of_unlooked (unlooked : ∀ id', g.action ≠ .isAvailable id') :
    g.shows id = false := by
  unfold shows
  split
  · exact absurd rfl (unlooked _)
  · rfl

theorem misses_of_tallies (h : g.tallies id = true) : g.misses id = true := by
  unfold tallies at h
  split at h <;> first | rfl | cases h

theorem not_finds (unseen : ∀ g ∈ seen, g.shows id = false) : ¬ Finds id seen := by
  induction seen with
  | nil => exact fun h => h
  | cons g rest ih =>
    obtain ⟨first, later⟩ := List.forall_mem_cons.1 unseen
    rintro (⟨shows, -⟩ | h)
    · exact Bool.noConfusion (first.symm.trans shows)
    · exact ih later h

theorem finds_append (h : Finds id (seen ++ later)) : Finds id seen ∨ Finds id later := by
  induction seen with
  | nil => exact .inr h
  | cons g rest ih =>
    rcases h with ⟨shows, favour⟩ | h
    · exact .inl (.inl ⟨shows, fun g' mem => favour g' (List.mem_append_left _ mem)⟩)
    · exact (ih h).imp_left .inr

theorem AsksPorts.append_left (h : AsksPorts id seen) (later : List Glimpse) :
    AsksPorts id (seen ++ later) := by
  obtain ⟨c, mem, asks⟩ := h
  exact ⟨c, by simp [mem], asks⟩

theorem AsksPorts.append_right (h : AsksPorts id later) (seen : List Glimpse) :
    AsksPorts id (seen ++ later) := by
  obtain ⟨c, mem, asks⟩ := h
  exact ⟨c, by simp [mem], asks⟩

theorem countP_of_misses (h : ∀ g ∈ seen, g.misses id = true) :
    seen.countP (·.lands id) = 0 ∧ seen.countP (·.counts id) = 0 := by
  simp only [misses, Bool.and_eq_true, Bool.not_eq_true'] at h
  exact ⟨List.countP_eq_zero.2 fun g mem => by simp [(h g mem).1],
    List.countP_eq_zero.2 fun g mem => by simp [(h g mem).2]⟩

theorem Concludes.nil : Concludes id [] := .idle fun _ h => nomatch h

theorem Concludes.once (counts : g.counts id = true) : Concludes id [g] :=
  .counted counts fun _ h => nomatch h

theorem Concludes.append (h : Concludes id seen) (idle : ∀ g ∈ later, g.surveys id = false) :
    Concludes id (seen ++ later) := by
  induction h with
  | idle idle' => exact .idle (List.forall_mem_append.2 ⟨idle', idle⟩)
  | counted counts idle' => exact .counted counts (List.forall_mem_append.2 ⟨idle', idle⟩)
  | tallied tallies _ ih => exact .tallied tallies ih

theorem Concludes.countP (h : Concludes id seen) :
    seen.countP (·.lands id) = 0 ∧ seen.countP (·.counts id) ≤ 1 := by
  induction h with
  | idle idle =>
    obtain ⟨lands, counts⟩ := countP_of_misses fun g mem => misses_of_idle (idle g mem)
    omega
  | @counted g seen counts idle =>
    obtain ⟨lands', counts'⟩ := countP_of_misses fun g mem => misses_of_idle (idle g mem)
    have unlanded : g.lands id = false := Bool.eq_false_iff.2 fun lands =>
      Bool.noConfusion ((not_counts_of_lands lands).symm.trans counts)
    simp only [List.countP_cons, counts, unlanded, if_true, Bool.false_eq_true, if_false]
    omega
  | @tallied g seen tallies _ ih =>
    have missed := misses_of_tallies tallies
    simp only [misses, Bool.and_eq_true, Bool.not_eq_true'] at missed
    simp only [List.countP_cons, missed, Bool.false_eq_true, if_false]
    omega

/-- Ports landed once, and counters were brought at most once. -/
theorem Landed.countP (h : Landed id seen) :
    seen.countP (·.lands id) = 1 ∧ seen.countP (·.counts id) ≤ 1 := by
  obtain ⟨missed, lands, concludes⟩ := h
  obtain ⟨landed, counted⟩ := countP_of_misses missed
  obtain ⟨landed', counted'⟩ := concludes.countP
  simp only [List.countP_append, List.countP_cons, lands, not_counts_of_lands lands, if_true,
    Bool.false_eq_true, if_false]
  omega

end Glimpse

/-- Whether the record says that the ports of the device are known. -/
def DeviceRecord.knows (r? : Option DeviceRecord) : Bool := r?.any (·.portsDiscovered)

open DeviceRecord (knows)

theorem knows_eq (r? : Option DeviceRecord) : knows r? = (r?.getD .fresh).portsDiscovered := by
  cases r? <;> rfl

/-! ## The account of discovery -/

/-- What a device may see of discovery while its record goes from one state of knowledge to another:
nothing once the ports are known, no success before. -/
def Survey (id : Identity) (known : Bool) (seen : List Glimpse) (known' : Bool) : Prop :=
  match known, known' with
  | true, _ => known' = true ∧ ∀ g ∈ seen, g.surveys id = false
  | false, true => Landed id seen
  | false, false => ∀ g ∈ seen, g.misses id = true

/-- The account of discovery, and that the driver was asked if the ports became known or the device
was found fit for it. -/
structure Report (id : Identity) (known : Bool) (seen : List Glimpse) (known' : Bool) : Prop where
  survey : Survey id known seen known'
  asks : known = false → known' = true ∨ Finds id seen → AsksPorts id seen

section account

variable {id : Identity} {known known' known'' : Bool} {seen later : List Glimpse}

theorem Survey.of_idle (idle : ∀ g ∈ seen, g.surveys id = false) :
    Survey id known seen known := by
  cases known with
  | true => exact ⟨rfl, idle⟩
  | false => exact fun g mem => misses_of_idle (idle g mem)

theorem Survey.append (first : Survey id known seen known')
    (rest : Survey id known' later known'') : Survey id known (seen ++ later) known'' := by
  cases known with
  | true =>
    obtain ⟨rfl, idle⟩ := first
    exact ⟨rest.1, List.forall_mem_append.2 ⟨idle, rest.2⟩⟩
  | false =>
    cases known' with
    | true =>
      obtain ⟨rfl, idle⟩ := rest
      obtain ⟨missed, lands, concludes⟩ := first
      rw [List.append_assoc, List.cons_append]
      exact Landed.intro missed lands (concludes.append idle)
    | false =>
      cases known'' with
      | false => exact List.forall_mem_append.2 ⟨first, rest⟩
      | true =>
        obtain ⟨missed, lands, concludes⟩ := rest
        rw [← List.append_assoc]
        exact Landed.intro (List.forall_mem_append.2 ⟨first, missed⟩) lands concludes

namespace Report

theorem of_idle (idle : ∀ g ∈ seen, g.surveys id = false)
    (unseen : ∀ g ∈ seen, g.shows id = false) : Report id known seen known where
  survey := .of_idle idle
  asks unknown found := by
    rcases found with known | found
    · exact Bool.noConfusion (unknown.symm.trans known)
    · exact absurd found (not_finds unseen)

theorem append (first : Report id known seen known') (rest : Report id known' later known'') :
    Report id known (seen ++ later) known'' where
  survey := first.survey.append rest.survey
  asks unknown found := by
    cases known' with
    | true => exact (first.asks unknown (.inl rfl)).append_left later
    | false =>
      rcases found with known | found
      · exact (rest.asks rfl (.inl known)).append_right seen
      · rcases finds_append found with found | found
        · exact (first.asks unknown (.inr found)).append_left later
        · exact (rest.asks rfl (.inr found)).append_right seen

end Report

end account

/-! ## Actions that have nothing to do with discovery -/

namespace Action

/-- Whether the action leaves alone what is known about the ports of the device, makes no call about
them, and does not look whether the device is available. -/
def isIdle (id : Identity) : Action → Bool
  | changeRecord id' .portsDiscovered | changeRecord id' .ended | isAvailable id' => id' != id
  | markDesired _ | prune => false
  | a => !a.call?.any (·.surveys id)

variable {id : Identity} {a : Action}

theorem isIdle_of_other {id' : Identity} (concerns : a.Concerns id') (ne : id' ≠ id) :
    a.isIdle id = true := by
  cases a with
  | log => rfl
  | writeStore w =>
    cases concerns
    cases w <;> simp_all [isIdle, call?, storeCall, Call.surveys, StoreWrite.identity]
  | changeRecord id'' c =>
    cases concerns
    cases c <;> simp [isIdle, call?, ne]
  | isActive | setActive | markDesired | prune | registered | requestDevices | receiveDevices =>
    exact concerns.elim
  | _ =>
    cases concerns
    simp [isIdle, call?, Call.surveys, ne]

theorem knows_recordAfter (idle : a.isIdle id = true) (r? : Option DeviceRecord) :
    knows (a.recordAfter id r?) = knows r? := by
  cases a with
  | changeRecord id' c =>
    by_cases own : id' = id
    · subst own
      rw [recordAfter, if_pos rfl, knows_eq r?]
      cases c <;> first | rfl | simp [isIdle] at idle
    · rw [recordAfter, if_neg own]
  | markDesired | prune => cases idle
  | _ => rfl

end Action

theorem Report.of_isIdle {id : Identity} {g : Glimpse} {known : Bool}
    (idle : g.action.isIdle id = true) : Report id known [g] known := by
  have quiet : g.surveys id = false ∧ g.shows id = false := by
    obtain ⟨v, a, reply⟩ := g
    cases a with
    | isAvailable id' =>
      have other : (id' == id) = false := by simpa [Action.isIdle] using idle
      rcases reply with _ | _ | _ <;> simp [surveys, shows, Action.call?, other]
    | _ => simp_all [Action.isIdle, surveys, shows, Action.call?]
  exact .of_idle (List.forall_mem_singleton.2 quiet.1) (List.forall_mem_singleton.2 quiet.2)

/-! ## Dispatches -/

/-- Discovery keeps to the account.  If all that it looks up is in its favour, it asks. -/
structure Dispatches (id : Identity) (known : Bool) (seen : List Glimpse) (known' : Bool) : Prop
    extends Report id known seen known' where
  fit : known = false → (∀ g ∈ seen, g.favours id = true) → AsksPorts id seen

namespace Dispatches

variable {id : Identity} {seen : List Glimpse} {known known' : Bool}

/-- A dispatch that only looked, and was not favoured. -/
theorem of_unfit (looked : ∀ g ∈ seen, g.surveys id = false) (unfound : ¬ Finds id seen)
    (unfit : ∃ g ∈ seen, g.favours id = false) : Dispatches id known seen known where
  survey := .of_idle looked
  asks unknown found := by
    rcases found with known | found
    · exact Bool.noConfusion (unknown.symm.trans known)
    · exact absurd found unfound
  fit _ favoured := by
    obtain ⟨g, mem, unfit⟩ := unfit
    exact Bool.noConfusion (unfit.symm.trans (favoured g mem))

/-- A dispatch that found everything in its favour but perhaps the driver. -/
theorem of_fit {v v' v'' : Slice}
    {device : FoundDevice} (survey : Survey id false seen known')
    (asks : device.driver.offersPorts = true ∨ known' = true → AsksPorts id seen)
    (unseen : ∀ g ∈ seen, g.shows id = false) :
    Dispatches id false (⟨v, .isLocalMaster id, some true⟩ :: ⟨v', .isAvailable id, some true⟩ ::
      ⟨v'', .lookUp id, some (some device)⟩ :: seen) known' := by
  have looked : ∀ g ∈ [(⟨v, .isLocalMaster id, some true⟩ : Glimpse),
      ⟨v', .isAvailable id, some true⟩, ⟨v'', .lookUp id, some (some device)⟩],
      g.surveys id = false := by
    simp [surveys, Action.call?]
  have asks' := fun fit => (asks fit).append_right [(⟨v, .isLocalMaster id, some true⟩ : Glimpse),
    ⟨v', .isAvailable id, some true⟩, ⟨v'', .lookUp id, some (some device)⟩]
  have offers : (⟨v'', .lookUp id, some (some device)⟩ : Glimpse).favours id = true →
      device.driver.offersPorts = true := by
    simp [favours]
  refine ⟨⟨(Survey.of_idle looked).append survey, fun _ found => ?_⟩, fun _ favoured => ?_⟩
  · rcases found with known | found
    · exact asks' (.inr known)
    · have favoured : ∀ g ∈ [(⟨v'', .lookUp id, some (some device)⟩ : Glimpse)] ++ seen,
          g.favours id = true := by
        simpa [Finds, shows, not_finds unseen] using found
      exact asks' (.inl (offers (favoured _ (.head _))))
  · exact asks' (.inl (offers (favoured _ (.tail _ (.tail _ (.head _))))))

theorem nil : Dispatches id true [] true where
  survey := ⟨rfl, by simp⟩
  asks := Bool.noConfusion
  fit := Bool.noConfusion

/-- What does not matter to discovery may come before it. -/
theorem cons {g : Glimpse}
    (idle : g.surveys id = false) (unseen : g.shows id = false)
    (h : Dispatches id known seen known') : Dispatches id known (g :: seen) known' where
  toReport := Report.append (.of_idle (List.forall_mem_singleton.2 idle)
    (List.forall_mem_singleton.2 unseen)) h.toReport
  fit unknown favoured := (h.fit unknown (List.forall_mem_cons.1 favoured).2).append_right [g]

/-- The device was looked at before discovery. -/
theorem report_cons {v : Slice} {reply : Option Bool} (h : Dispatches id known seen known') :
    Report id known (⟨v, .isAvailable id, reply⟩ :: seen) known' where
  survey := Survey.append (.of_idle (List.forall_mem_singleton.2 rfl)) h.survey
  asks unknown found := by
    have asks : AsksPorts id seen := by
      rcases found with known | ⟨-, favoured⟩ | found
      · exact h.asks unknown (.inl known)
      · exact h.fit unknown favoured
      · exact h.asks unknown (.inr found)
    exact asks.append_right [⟨v, .isAvailable id, reply⟩]

end Dispatches

end Southbound
