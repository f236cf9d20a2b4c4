import Southbound.Proofs.Survey

/-!
# Dispatches keep to the account

A dispatch looks three times (whether the device is mastered here, whether it is available, and for
its driver), brings the ports and then the counters.  `Job.tracks_discoverPorts` says that what is
seen of it keeps to the account of `Southbound.Proofs.Survey`, whatever is answered, and that the
driver is asked if all three looks are in its favour.
-/

namespace Southbound

open Connection Discovery Glimpse Job Reconciliation

open DeviceRecord (knows)

namespace Job

variable {E : (a : Action) → Option a.Answer → Prop} {r? : Option DeviceRecord} (id : Identity)

/-! ## Ports -/

/-- What the driver answered is understood without bringing anything. -/
theorem tracks_portsOf (answer : Except DiscoveryError (List Port)) :
    (portsOf id answer).Tracks E id r? fun _ r?' seen =>
      r?' = r? ∧ ∀ g ∈ seen, g.misses id = true := by
  unfold portsOf
  cases answer with
  | ok ports => simp
  | error e =>
    simp only [bind_eq, pure_eq, tracks_bind]
    refine tracks_action id (.log (.discoveryFailed .ports id e)) fun v reply => ?_
    have missed : (⟨v, .log (.discoveryFailed .ports id e), reply⟩ : Glimpse).misses id = true :=
      rfl
    cases reply <;> simpa using ⟨rfl, missed⟩

/-- The driver is asked, and its answer understood. -/
theorem tracks_told {j : Job (Except DiscoveryError (List Port))}
    (asked : j.Tracks E id r? fun _ r?' seen =>
      r?' = r? ∧ (∀ g ∈ seen, g.misses id = true) ∧ AsksPorts id seen) :
    (Job.bind j (portsOf id)).Tracks E id r? fun _ r?' seen =>
      r?' = r? ∧ (∀ g ∈ seen, g.misses id = true) ∧ AsksPorts id seen := by
  refine (tracks_bind _ _).2 (asked.mono fun answer r?' seen outcome => ?_)
  obtain ⟨rfl, missed, asks⟩ := outcome
  cases answer with
  | none => exact ⟨rfl, missed, asks⟩
  | some answer =>
    refine (tracks_portsOf id answer).mono fun _ _ later ⟨same, rest⟩ => ?_
    exact ⟨same, List.forall_mem_append.2 ⟨missed, rest⟩, asks.append_left later⟩

/-- A driver that offers its ports is asked for them, and another one has none. -/
theorem tracks_askPorts (driver : Driver) :
    (askPorts id driver).Tracks E id r? fun ports r?' seen => r?' = r? ∧
      (∀ g ∈ seen, g.misses id = true) ∧
      if driver.offersPorts then AsksPorts id seen else ports = some [] ∨ ports = none := by
  unfold askPorts
  cases described : driver.description with
  | some replies =>
    have offers : driver.offersPorts = true := by simp [Driver.offersPorts, described]
    simp only [bind_eq, offers, if_true]
    refine tracks_told id (tracks_action id (.discoverPortDetails id replies.ports) fun _ _ => ?_)
    exact ⟨rfl, List.forall_mem_singleton.2 rfl, .discoverPortDetails id, by simp [Action.call?],
      beq_self_eq_true id⟩
  | none =>
    cases listed : driver.ports with
    | some reply =>
      have offers : driver.offersPorts = true := by simp [Driver.offersPorts, listed]
      simp only [bind_eq, offers, if_true]
      refine tracks_told id (tracks_action id (.listPorts id reply) fun _ _ => ?_)
      exact ⟨rfl, List.forall_mem_singleton.2 rfl, .listPorts id, by simp [Action.call?],
        beq_self_eq_true id⟩
    | none =>
      have offers : driver.offersPorts = false := by simp [Driver.offersPorts, described, listed]
      simp only [bind_eq, pure_eq, tracks_bind, offers]
      refine tracks_action id (.log (.noPortDiscovery id)) fun v reply => ?_
      have missed : (⟨v, .log (.noPortDiscovery id), reply⟩ : Glimpse).misses id = true := rfl
      cases reply <;> simpa using ⟨rfl, missed⟩

/-- Ports land with all that belongs to it, or nothing becomes of them. -/
theorem tracks_bringPorts (driver : Driver) (unknown : knows r? = false) :
    (bringPorts id driver).Tracks E id r? fun _ r?' seen =>
      (driver.offersPorts = true → AsksPorts id seen) ∧
      (knows r?' = false ∧ (∀ g ∈ seen, g.misses id = true) ∨
        knows r?' = true ∧ AsksPorts id seen ∧ ∃ before g mark, seen = before ++ [g, mark] ∧
          (∀ m ∈ before, m.misses id = true) ∧ g.lands id = true ∧ mark.tallies id = true) := by
  unfold bringPorts
  rw [bind_eq, tracks_bind]
  refine (tracks_askPorts id driver).mono fun ports r?' seen ⟨same, missed, asked⟩ => ?_
  subst same
  have offered : driver.offersPorts = true → AsksPorts id seen := fun offers => by
    simpa [offers] using asked
  rcases ports with _ | _ | ⟨port, rest⟩
  case none => exact ⟨offered, .inl ⟨unknown, missed⟩⟩
  case some.nil => simpa using ⟨offered, .inl ⟨unknown, missed⟩⟩
  case some.cons =>
    have asks : AsksPorts id seen := by
      cases offers : driver.offersPorts with
      | true => exact offered offers
      | false => simp [offers] at asked
    simp only [List.isEmpty_cons, Bool.not_false, if_true, bind_eq, tracks_bind]
    refine tracks_action id (.writeStore (.ports id (port :: rest))) fun v reply => ?_
    rcases reply with _ | e | _
    case none =>
      refine ⟨fun _ => asks.append_left _, .inl ⟨unknown, ?_⟩⟩
      exact List.forall_mem_append.2 ⟨missed, List.forall_mem_singleton.2 rfl⟩
    case some.error =>
      refine tracks_action id (.log (.callFailed .updatePorts id e)) fun v' reply' => ?_
      refine ⟨fun _ => asks.append_left _, .inl ⟨unknown, ?_⟩⟩
      exact List.forall_mem_append.2 ⟨missed, List.forall_mem_cons.2
        ⟨rfl, List.forall_mem_singleton.2 rfl⟩⟩
    case some.ok =>
      simp only [pure_eq, tracks_bind]
      refine tracks_action id (.changeRecord id .portsDiscovered) fun v' reply' => ?_
      have known :
          knows (Action.recordAfter id r?' (.changeRecord id .portsDiscovered)) = true := by
        simp [Action.recordAfter, knows, RecordChange.apply]
      have landed : (⟨v, .writeStore (.ports id (port :: rest)), some (.ok ())⟩ : Glimpse).lands
          id = true := beq_self_eq_true id
      have marked : (⟨v', .changeRecord id .portsDiscovered, reply'⟩ : Glimpse).tallies id = true :=
        beq_self_eq_true id
      cases reply' <;> exact ⟨fun _ => asks.append_left _,
        .inr ⟨known, asks.append_left _, _, _, _, rfl, missed, landed, marked⟩⟩

/-! ## Counters -/

/-- Until the ports are known it does not come to counters. -/
theorem tracks_bringStatistics_of_unknown (driver : Driver) (unknown : knows r? = false) :
    (bringStatistics id driver).Tracks E id r? fun _ r?' seen =>
      knows r?' = false ∧ ∀ g ∈ seen, g.misses id = true := by
  unfold bringStatistics
  rw [bind_eq, tracks_bind]
  refine tracks_readRecord id fun v => ?_
  rw [knows_eq] at unknown
  simp only [unknown]
  refine tracks_action id (.log (.statisticsSkipped id)) fun v' reply => ?_
  refine ⟨(knows_eq r?).trans unknown, List.forall_mem_cons.2 ⟨rfl, ?_⟩⟩
  exact List.forall_mem_singleton.2 rfl

/-- Once the ports are known the dispatch may tell of counters, and does nothing after that. -/
theorem tracks_bringStatistics_of_known (driver : Driver) (known : knows r? = true) :
    (bringStatistics id driver).Tracks E id r? fun _ r?' seen =>
      knows r?' = true ∧ Concludes id seen := by
  have read : ∀ v, (⟨v, .readRecord id, some (r?.getD .fresh)⟩ : Glimpse).tallies id = true :=
    fun _ => beq_self_eq_true id
  unfold bringStatistics
  rw [bind_eq, tracks_bind]
  refine tracks_readRecord id fun v => ?_
  have ports := known
  rw [knows_eq] at ports
  simp only [ports, if_true]
  cases driver.portStatistics with
  | none =>
    refine tracks_action id (.log (.noStatisticsDiscovery id)) fun v' reply => ?_
    exact ⟨known, .tallied (read v) (.tallied rfl .nil)⟩
  | some answer =>
    simp only [bind_eq, tracks_bind]
    refine tracks_action id (.discoverStatistics id answer) fun v' reply => ?_
    have asked : (⟨v', .discoverStatistics id answer, reply⟩ : Glimpse).tallies id = true :=
      beq_self_eq_true id
    rcases reply with _ | e | list
    case none => exact ⟨known, .tallied (read v) (.tallied asked .nil)⟩
    case some.error =>
      refine tracks_action id (.log (.discoveryFailed .statistics id e)) fun _ _ => ?_
      exact ⟨known, .tallied (read v) (.tallied asked (.tallied rfl .nil))⟩
    case some.ok =>
      simp only [tracks_bind]
      refine tracks_action id (.writeStore (.statistics id list)) fun v'' reply => ?_
      have counted : (⟨v'', .writeStore (.statistics id list), reply⟩ : Glimpse).counts id = true :=
        beq_self_eq_true id
      rcases reply with _ | e | _
      case none => exact ⟨known, .tallied (read v) (.tallied asked (.once counted))⟩
      case some.error =>
        refine tracks_action id (.log (.callFailed .updateStatistics id e)) fun _ _ => ?_
        refine ⟨known, .tallied (read v) (.tallied asked (.counted counted ?_))⟩
        exact List.forall_mem_singleton.2 rfl
      case some.ok => exact ⟨known, .tallied (read v) (.tallied asked (.once counted))⟩

/-- The part of a dispatch that brings something. -/
theorem tracks_bring (driver : Driver) (unknown : knows r? = false) :
    (Job.bind (bringPorts id driver) fun _ => bringStatistics id driver).Tracks E id r?
      fun _ r?' seen => Survey id false seen (knows r?') ∧
        (driver.offersPorts = true ∨ knows r?' = true → AsksPorts id seen) := by
  refine (tracks_bind _ _).2 ((tracks_bringPorts id driver unknown).mono
    fun result r?' seen ⟨asked, outcome⟩ => ?_)
  rcases outcome with ⟨unknown', missed⟩ |
    ⟨known', asks, before, g, mark, rfl, missed, lands, marks⟩
  · have fit : ∀ r?'', knows r?'' = false →
        driver.offersPorts = true ∨ knows r?'' = true → AsksPorts id seen := by
      rintro r?'' unknown'' (offers | known)
      · exact asked offers
      · exact Bool.noConfusion (unknown''.symm.trans known)
    cases result with
    | none => exact ⟨by rwa [unknown'], fit r?' unknown'⟩
    | some _ =>
      refine (tracks_bringStatistics_of_unknown id driver unknown').mono
        fun _ r?'' later ⟨unknown'', missed'⟩ => ?_
      refine ⟨?_, fun offers => (fit r?'' unknown'' offers).append_left later⟩
      rw [unknown'']
      exact List.forall_mem_append.2 ⟨missed, missed'⟩
  · cases result with
    | none =>
      refine ⟨?_, fun _ => asks⟩
      rw [known']
      exact Landed.intro missed lands (.tallied marks .nil)
    | some _ =>
      refine (tracks_bringStatistics_of_known id driver known').mono
        fun _ r?'' later ⟨known'', concludes⟩ => ?_
      refine ⟨?_, fun _ => asks.append_left later⟩
      rw [known'', List.append_assoc]
      exact Landed.intro missed lands (concludes.tallied marks)

/-- Bringing does not look whether the device is available. -/
theorem unseen_bring (driver : Driver) :
    (Job.bind (bringPorts id driver) fun _ => bringStatistics id driver).Only
      fun a => ∀ id', a ≠ .isAvailable id' := by
  have asked : (askPorts id driver).Only fun a => ∀ id', a ≠ .isAvailable id' := by
    unfold askPorts
    cases driver.description <;> cases driver.ports <;> simp [portsOf, forall_except]
  refine Only.bind (Only.bind asked fun list => by simp [forall_except]) fun _ => ?_
  cases h : driver.portStatistics <;> simp [bringStatistics, h, warnOnRefusal, forall_except]

/-- A dispatch looks three times before it brings anything. -/
theorem tracks_discoverPorts (unknown : knows r? = false) :
    (discoverPorts id).Tracks E id r? fun _ r?' seen => Dispatches id false seen (knows r?') := by
  unfold discoverPorts
  simp only [bind_eq, tracks_bind]
  refine tracks_action id (.isLocalMaster id) fun v mastered => ?_
  simp only [Action.recordAfter]
  rcases mastered with _ | _ | _
  case none =>
    rw [unknown]
    exact .of_unfit (by simp [surveys, Action.call?]) (by simp [Finds, shows])
      ⟨_, .head _, by simp [favours]⟩
  case some.false =>
    refine tracks_action id (.log (.portsSkipped id .notMaster)) fun _ _ => ?_
    simp only [Action.recordAfter]
    rw [unknown]
    exact .of_unfit (by simp [surveys, Action.call?]) (by simp [Finds, shows])
      ⟨_, .head _, by simp [favours]⟩
  case some.true =>
    simp only [if_true, tracks_bind]
    refine tracks_action id (.isAvailable id) fun v' available => ?_
    simp only [Action.recordAfter]
    rcases available with _ | _ | _
    case none =>
      rw [unknown]
      exact .of_unfit (by simp [surveys, Action.call?]) (by simp [Finds, shows])
        ⟨_, .tail _ (.head _), by simp [favours]⟩
    case some.false =>
      refine tracks_action id (.log (.portsSkipped id .notAvailable)) fun _ _ => ?_
      simp only [Action.recordAfter]
      rw [unknown]
      exact .of_unfit (by simp [surveys, Action.call?]) (by simp [Finds, shows])
        ⟨_, .tail _ (.head _), by simp [favours]⟩
    case some.true =>
      simp only [if_true, tracks_bind]
      refine tracks_action id (.lookUp id) fun v'' found => ?_
      simp only [Action.recordAfter]
      rcases found with _ | _ | device
      case none =>
        rw [unknown]
        exact .of_unfit (by simp [surveys, Action.call?]) (by simp [Finds, shows, favours])
          ⟨_, .tail _ (.tail _ (.head _)), by simp [favours]⟩
      case some.none =>
        refine tracks_action id (.log (.portsSkipped id .notInStore)) fun _ _ => ?_
        simp only [Action.recordAfter]
        rw [unknown]
        exact .of_unfit (by simp [surveys, Action.call?]) (by simp [Finds, shows, favours])
          ⟨_, .tail _ (.tail _ (.head _)), by simp [favours]⟩
      case some.some =>
        refine ((tracks_bring id device.driver unknown).and
          (unseen_bring id device.driver).tracks).mono fun _ r?' seen brought => ?_
        obtain ⟨⟨survey, asks⟩, unlooked⟩ := brought
        exact .of_fit survey asks fun g mem => unseen_of_unlooked (unlooked g mem)

theorem tracks_discoverUnlessKnown :
    (discoverUnlessKnown id).Tracks E id r? fun _ r?' seen =>
      Dispatches id (knows r?) seen (knows r?') := by
  unfold discoverUnlessKnown
  rw [bind_eq, tracks_bind]
  refine tracks_readRecord id fun v => ?_
  cases known : knows r? with
  | true =>
    have ports := known
    rw [knows_eq] at ports
    simp only [ports, Bool.not_true]
    show Dispatches id true [_] (knows r?)
    rw [known]
    exact .cons rfl rfl .nil
  | false =>
    have ports := known
    rw [knows_eq] at ports
    simp only [ports, Bool.not_false, if_true]
    exact (tracks_discoverPorts id known).mono fun _ _ seen dispatched => dispatched.cons rfl rfl

end Job

end Southbound
