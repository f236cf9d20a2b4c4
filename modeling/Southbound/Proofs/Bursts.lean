import Mathlib.Data.List.Perm.Basic
import Southbound.Provider
import Southbound.Watch

/-!
# No change of the configuration is lost

The watcher makes one event of all the reports that it finds when it wakes up.  What the event says
is the strongest of what the single reports mean (`burstChange_eq_strongest`), so it depends neither
on their order nor on how the stream of reports was cut into bursts, and a report that means
something is never folded away.

The main statement, `Watcher.no_change_lost`, follows the event to the provider: whatever a burst
publishes is relevant to a provider of the same application and orders one pass.  The channel
between the two keeps the latest events if there are too many, so the last change is passed over in
any case.
-/

namespace Southbound

/-! ## The strongest change -/

namespace ConfigChange

/-- How much a change says: that a file came into being outweighs that it was changed. -/
def weight : Option ConfigChange → Nat
  | none => 0
  | some .removed => 1
  | some .updated => 2
  | some .added => 3

/-- The change that says more. -/
def stronger (c c' : Option ConfigChange) : Option ConfigChange :=
  if weight c < weight c' then c' else c

theorem weight_injective {c c' : Option ConfigChange} (same : weight c = weight c') : c = c' := by
  rcases c with _ | _ | _ | _ <;> rcases c' with _ | _ | _ | _ <;> first | rfl | cases same

theorem weight_stronger (c c' : Option ConfigChange) :
    weight (stronger c c') = max (weight c) (weight c') := by
  unfold stronger
  split <;> omega

theorem stronger_comm (c c' : Option ConfigChange) : stronger c c' = stronger c' c :=
  weight_injective (by simp only [weight_stronger, Nat.max_comm])

theorem stronger_assoc (c c' c'' : Option ConfigChange) :
    stronger (stronger c c') c'' = stronger c (stronger c' c'') :=
  weight_injective (by simp only [weight_stronger, Nat.max_assoc])

@[simp] theorem none_stronger (c : Option ConfigChange) : stronger none c = c :=
  weight_injective (by rw [weight_stronger]; exact Nat.zero_max _)

@[simp] theorem stronger_none (c : Option ConfigChange) : stronger c none = c :=
  (stronger_comm c none).trans (none_stronger c)

instance : Std.Associative stronger := ⟨stronger_assoc⟩

instance : RightCommutative stronger where
  right_comm c c' c'' := by rw [stronger_assoc, stronger_comm c', stronger_assoc]

/-- The change of a list that says most. -/
def strongest (cs : List (Option ConfigChange)) : Option ConfigChange := cs.foldl stronger none

@[simp] theorem strongest_nil : strongest [] = none := rfl

@[simp] theorem strongest_cons (c : Option ConfigChange) (cs : List (Option ConfigChange)) :
    strongest (c :: cs) = stronger c (strongest cs) := by
  rw [strongest, List.foldl_cons, stronger_comm, List.foldl_assoc, strongest]

theorem strongest_append (cs cs' : List (Option ConfigChange)) :
    strongest (cs ++ cs') = stronger (strongest cs) (strongest cs') := by
  induction cs with
  | nil => exact (none_stronger _).symm
  | cons c cs ih => rw [List.cons_append, strongest_cons, strongest_cons, ih, stronger_assoc]

/-- The strongest change of several lists is the strongest of what they have to say. -/
theorem strongest_flatten (css : List (List (Option ConfigChange))) :
    strongest css.flatten = strongest (css.map strongest) := by
  induction css with
  | nil => rfl
  | cons cs css ih => rw [List.flatten_cons, strongest_append, List.map_cons, strongest_cons, ih]

theorem strongest_perm {cs cs' : List (Option ConfigChange)} (perm : cs.Perm cs') :
    strongest cs = strongest cs' := perm.foldl_eq none

theorem weight_le_strongest {cs : List (Option ConfigChange)} {c : Option ConfigChange}
    (mem : c ∈ cs) : weight c ≤ weight (strongest cs) := by
  induction cs with
  | nil => cases mem
  | cons c' cs ih =>
    rw [strongest_cons, weight_stronger]
    rcases List.mem_cons.1 mem with rfl | later
    · exact Nat.le_max_left ..
    · exact Nat.le_trans (ih later) (Nat.le_max_right ..)

theorem strongest_mem {cs : List (Option ConfigChange)} (loud : strongest cs ≠ none) :
    strongest cs ∈ cs := by
  induction cs with
  | nil => exact absurd rfl loud
  | cons c cs ih =>
    rw [strongest_cons] at loud ⊢
    unfold stronger at loud ⊢
    by_cases weaker : weight c < weight (strongest cs)
    · rw [if_pos weaker] at loud ⊢
      exact List.mem_cons_of_mem _ (ih loud)
    · rw [if_neg weaker]
      exact List.mem_cons_self

/-- The strongest change is one of the list that no other outweighs. -/
theorem strongest_eq {cs : List (Option ConfigChange)} {c : Option ConfigChange} (mem : c ∈ cs)
    (strong : ∀ c' ∈ cs, weight c' ≤ weight c) : strongest cs = c := by
  have most := weight_le_strongest mem
  by_cases loud : strongest cs = none
  · rw [loud] at most ⊢
    exact weight_injective (Nat.le_antisymm (Nat.zero_le _) most)
  · exact weight_injective (Nat.le_antisymm (strong _ (strongest_mem loud)) most)

theorem strongest_eq_none {cs : List (Option ConfigChange)} (silent : ∀ c ∈ cs, c = none) :
    strongest cs = none := by
  by_contra loud
  exact loud (silent _ (strongest_mem loud))

end ConfigChange

/-! ## What a notice means -/

/-- One of the paths of the report leads to a file of the watched name. -/
def FileReport.Names (path : String) (r : FileReport) : Prop :=
  ∃ name, Path.fileName? path = some name ∧ ∃ p ∈ r.paths, Path.fileName? p = some name

/-- The notice says that the watched file came into being. -/
def Notice.Creates (path : String) (n : Notice) : Prop :=
  ∃ r : FileReport, n = .ok r ∧ r.Names path ∧ r.change = .created

/-- The notice says that more of the watched file was modified than what is recorded about it. -/
def Notice.Edits (path : String) (n : Notice) : Prop :=
  ∃ (r : FileReport) (aspect : FileAspect), n = .ok r ∧ r.Names path ∧
    r.change = .modified aspect ∧ aspect ≠ .metadata

namespace FileChange

variable {c : FileChange}

theorem classify_eq_added : c.classify = some .added ↔ c = .created := by
  rcases c with _ | (_ | _ | _ | _) | _ | _ | _ <;> simp [classify]

theorem classify_eq_updated :
    c.classify = some .updated ↔ ∃ aspect, c = .modified aspect ∧ aspect ≠ .metadata := by
  rcases c with _ | (_ | _ | _ | _) | _ | _ | _ <;> simp [classify]

theorem classify_ne_removed : c.classify ≠ some .removed := by
  rcases c with _ | (_ | _ | _ | _) | _ | _ | _ <;> simp [classify]

end FileChange

namespace Notice

variable {path : String} {n : Notice}

theorem touches_iff {r : FileReport} :
    (Path.fileName? path).any r.touches = true ↔ r.Names path := by
  simp [Option.any_eq_true, FileReport.touches, FileReport.Names]

theorem classify_eq_some {change : ConfigChange} :
    n.classify (Path.fileName? path) = some change ↔
      ∃ r : FileReport, n = .ok r ∧ r.Names path ∧ r.change.classify = some change := by
  cases n with
  | error detail => simp [classify]
  | ok r => simp [classify, ← touches_iff]

theorem classify_eq_added : n.classify (Path.fileName? path) = some .added ↔ n.Creates path := by
  simp only [classify_eq_some, FileChange.classify_eq_added, Creates]

theorem classify_eq_updated : n.classify (Path.fileName? path) = some .updated ↔ n.Edits path := by
  rw [classify_eq_some]
  refine exists_congr fun r => ?_
  rw [FileChange.classify_eq_updated]
  constructor
  · rintro ⟨report, names, aspect, modified⟩
    exact ⟨aspect, report, names, modified⟩
  · rintro ⟨aspect, report, names, modified⟩
    exact ⟨report, names, aspect, modified⟩

/-- No notice means that the configuration went away. -/
theorem classify_ne_removed (n : Notice) (name? : Option String) :
    n.classify name? ≠ some .removed := by
  cases n with
  | error detail => simp [classify]
  | ok r =>
    have meant : (if name?.any r.touches then r.change.classify else none) ≠ some .removed := by
      split
      · exact FileChange.classify_ne_removed
      · simp
    exact meant

end Notice

/-! ## What a burst means -/

section bursts

variable {name? : Option String}

/-- Of two changes that are no removals the stronger one is taken. -/
theorem ConfigChange.join?_eq_stronger {c c' : Option ConfigChange} (here : c ≠ some .removed)
    (there : c' ≠ some .removed) : join? c c' = stronger c c' := by
  rcases c with _ | _ | _ | _ <;> rcases c' with _ | _ | _ | _ <;>
    first | rfl | exact absurd rfl here | exact absurd rfl there

theorem ConfigChange.stronger_ne_removed {c c' : Option ConfigChange} (here : c ≠ some .removed)
    (there : c' ≠ some .removed) : stronger c c' ≠ some .removed := by
  unfold stronger
  split
  · exact there
  · exact here

/-- A burst means the strongest of what its notices mean. -/
theorem burstChange_eq_strongest (burst : List Notice) :
    burstChange name? burst = ConfigChange.strongest (burst.map (·.classify name?)) := by
  have folded : ∀ c, c ≠ some .removed →
      burst.foldl (fun c notice => ConfigChange.join? c (notice.classify name?)) c =
        (burst.map (·.classify name?)).foldl ConfigChange.stronger c := by
    induction burst with
    | nil => exact fun _ _ => rfl
    | cons n burst ih =>
      intro c here
      have there := n.classify_ne_removed name?
      rw [List.foldl_cons, List.map_cons, List.foldl_cons,
        ConfigChange.join?_eq_stronger here there]
      exact ih _ (ConfigChange.stronger_ne_removed here there)
  exact folded none (by simp)

theorem burstChange_ne_removed {burst : List Notice} :
    burstChange name? burst ≠ some .removed := by
  intro removed
  rw [burstChange_eq_strongest] at removed
  have mem := ConfigChange.strongest_mem (by rw [removed]; simp)
  obtain ⟨n, -, meant⟩ := List.mem_map.1 (removed ▸ mem)
  exact n.classify_ne_removed _ meant

theorem burstChange_perm {burst burst' : List Notice} (perm : burst.Perm burst') :
    burstChange name? burst = burstChange name? burst' := by
  rw [burstChange_eq_strongest, burstChange_eq_strongest]
  exact ConfigChange.strongest_perm (perm.map _)

/-- However a stream of notices is cut into bursts, the strongest change is the same. -/
theorem burstChange_flatten (bursts : List (List Notice)) :
    burstChange name? bursts.flatten =
      ConfigChange.strongest (bursts.map (burstChange name?)) := by
  rw [burstChange_eq_strongest, List.map_flatten, ConfigChange.strongest_flatten, List.map_map]
  exact congrArg _ (List.map_congr_left fun burst _ => (burstChange_eq_strongest burst).symm)

variable {path : String} {burst : List Notice}

theorem burstChange_of_creates (created : ∃ n ∈ burst, n.Creates path) :
    burstChange (Path.fileName? path) burst = some .added := by
  obtain ⟨n, mem, creates⟩ := created
  rw [burstChange_eq_strongest]
  refine ConfigChange.strongest_eq (List.mem_map.2 ⟨n, mem, Notice.classify_eq_added.2 creates⟩)
    fun c _ => ?_
  rcases c with _ | _ | _ | _ <;> simp [ConfigChange.weight]

theorem burstChange_of_edits (uncreated : ∀ n ∈ burst, ¬ n.Creates path)
    (edited : ∃ n ∈ burst, n.Edits path) :
    burstChange (Path.fileName? path) burst = some .updated := by
  obtain ⟨n, mem, edits⟩ := edited
  rw [burstChange_eq_strongest]
  refine ConfigChange.strongest_eq (List.mem_map.2 ⟨n, mem, Notice.classify_eq_updated.2 edits⟩)
    fun c told => ?_
  obtain ⟨m, there, rfl⟩ := List.mem_map.1 told
  cases meant : m.classify (Path.fileName? path) with
  | none => simp [ConfigChange.weight]
  | some change =>
    cases change with
    | added => exact absurd (Notice.classify_eq_added.1 meant) (uncreated m there)
    | updated => exact Nat.le_refl _
    | removed => exact absurd meant (m.classify_ne_removed _)

theorem burstChange_of_neither
    (neither : ∀ n ∈ burst, ¬ n.Creates path ∧ ¬ n.Edits path) :
    burstChange (Path.fileName? path) burst = none := by
  rw [burstChange_eq_strongest]
  refine ConfigChange.strongest_eq_none fun c told => ?_
  obtain ⟨m, there, rfl⟩ := List.mem_map.1 told
  obtain ⟨uncreated, unedited⟩ := neither m there
  cases meant : m.classify (Path.fileName? path) with
  | none => rfl
  | some change =>
    cases change with
    | added => exact absurd (Notice.classify_eq_added.1 meant) uncreated
    | updated => exact absurd (Notice.classify_eq_updated.1 meant) unedited
    | removed => exact absurd meant (m.classify_ne_removed _)

end bursts

/-! ## What is published -/

namespace Watcher

variable {w : Watcher}

/-- What the watcher publishes about a burst, if anybody takes it. -/
def announce (w : Watcher) (change? : Option ConfigChange) : List ConfigEvent :=
  if w.listening then change?.toList.map (⟨w.appId, ·⟩) else []

/-- A watcher at work goes on working and publishes what the burst means. -/
theorem wake_of_running (running : w.running = true) (burst : List Notice) :
    (w.wake false burst).watcher = w ∧
      (w.wake false burst).events = w.announce (burstChange (Path.fileName? w.path) burst) := by
  unfold wake announce
  simp only [running, Bool.not_true, Bool.false_eq_true, if_false]
  cases burstChange (Path.fileName? w.path) burst with
  | none => simp
  | some change => cases w.listening <;> simp

/-- What is published at one awakening after the other, when the watcher is woken up by bursts and,
where that is said, by the signal to stop as well. -/
def watch (w : Watcher) : List (Bool × List Notice) → List (List ConfigEvent)
  | [] => []
  | (stop, burst) :: rest =>
    let awakening := w.wake stop burst
    awakening.events :: awakening.watcher.watch rest

/-- A watcher that was stopped publishes nothing. -/
theorem watch_of_stopped (stopped : w.running = false) (awakenings : List (Bool × List Notice)) :
    w.watch awakenings = awakenings.map fun _ => [] := by
  induction awakenings with
  | nil => rfl
  | cons awakening rest ih =>
    have asleep : w.wake awakening.1 awakening.2 = ⟨w, [], []⟩ := by simp [wake, stopped]
    rw [watch, asleep, ih, List.map_cons]

theorem watch_of_stop (awakenings : List (Bool × List Notice))
    (stop : ∀ first ∈ awakenings.head?, first.1 = true) :
    w.watch awakenings = awakenings.map fun _ => [] := by
  cases running : w.running with
  | false => exact watch_of_stopped running awakenings
  | true =>
    cases awakenings with
    | nil => rfl
    | cons awakening rest =>
      have signalled : awakening.1 = true := stop awakening rfl
      have stops : w.wake awakening.1 awakening.2 =
          ⟨{ w with running := false }, [], [.watcherStopped]⟩ := by
        simp [wake, running, signalled]
      rw [watch, stops, List.map_cons, watch_of_stopped rfl]

/-- Each burst before the signal to stop is published by itself, and nothing after it is. -/
theorem watch_append (running : w.running = true) (bursts : List (List Notice))
    (later : List (Bool × List Notice)) :
    w.watch (bursts.map (false, ·) ++ later) =
      (bursts.map fun burst => w.announce (burstChange (Path.fileName? w.path) burst)) ++
        w.watch later := by
  induction bursts with
  | nil => rfl
  | cons burst rest ih =>
    obtain ⟨same, events⟩ := wake_of_running running burst
    rw [List.map_cons, List.cons_append, watch, same, events, ih]
    rfl

end Watcher

/-! ## What the provider makes of it -/

namespace Provider

variable {p : Provider}

/-- What the listener does with one event of configuration that concerns the application. -/
def hearConfig (p : Provider) (e : ConfigEvent) : Provider :=
  (p.say [.configChanged e.change e.key]).submitEvent .pass

/-- Events that concern the application become one pass each. -/
theorem queue_foldl_hearConfig (accepting : p.events.accepting = true) (es : List ConfigEvent) :
    (es.foldl hearConfig p).events.queue =
      p.events.queue ++ List.replicate es.length (Order.pass.assignment p.settings) := by
  induction es generalizing p with
  | nil => exact (List.append_nil _).symm
  | cons e es ih =>
    have submitted : p.events.submit (Order.pass.assignment p.settings) =
        { p.events with queue := p.events.queue ++ [Order.pass.assignment p.settings] } :=
      if_pos accepting
    have heard : p.hearConfig e =
        { p.say [.configChanged e.change e.key] with
          events := { p.events with
            queue := p.events.queue ++ [Order.pass.assignment p.settings] } } := by
      rw [← submitted]
      exact if_pos accepting
    have settings : (p.hearConfig e).settings = p.settings := by rw [heard]; rfl
    have queue : (p.hearConfig e).events.queue =
        p.events.queue ++ [Order.pass.assignment p.settings] := by rw [heard]
    have accepts : (p.hearConfig e).events.accepting = true := by rw [heard]; exact accepting
    rw [List.foldl_cons, ih accepts, queue, settings, List.append_assoc]
    rfl

/-- The listener hears of the latest events, as many as the channel keeps. -/
theorem queue_handle (accepting : p.events.accepting = true) {es : List ConfigEvent}
    (relevant : ∀ e ∈ es, e.isRelevant p.settings.appId = true) :
    (p.handle .config (Order.ofConfigEvent p.settings) es).events.queue =
      p.events.queue ++ List.replicate (min es.length p.capacity.nextPowerOfTwo)
        (Order.pass.assignment p.settings) := by
  let missed := (Backlog.ofSent p.capacity es).missed
  let q := if missed = 0 then p else p.say [.listenerLagged .config missed]
  have same : q.settings = p.settings ∧ q.events = p.events := by
    unfold q
    split <;> exact ⟨rfl, rfl⟩
  have handled : p.handle .config (Order.ofConfigEvent p.settings) es =
      (Backlog.ofSent p.capacity es).kept.foldl hearConfig q := by
    refine List.foldl_ext _ _ q fun q' e kept => ?_
    have orders : Order.ofConfigEvent p.settings e =
        ([.configChanged e.change e.key], some .pass) :=
      if_pos (relevant e (List.mem_of_mem_drop kept))
    rw [orders]
    rfl
  have length : (Backlog.ofSent p.capacity es).kept.length =
      min es.length p.capacity.nextPowerOfTwo := by
    simp only [Backlog.ofSent, List.length_drop]
    omega
  rw [handled, queue_foldl_hearConfig (same.2 ▸ accepting), same.1, same.2, length]

end Provider

namespace Watcher

variable {w : Watcher}

theorem appId_wake (w : Watcher) (stop : Bool) (burst : List Notice) :
    (w.wake stop burst).watcher.appId = w.appId := by
  unfold wake
  split
  · rfl
  · split
    · rfl
    · cases burstChange (Path.fileName? w.path) burst with
      | none => rfl
      | some change => cases w.listening <;> rfl

theorem relevant_of_wake {stop : Bool} {burst : List Notice} {e : ConfigEvent}
    (published : e ∈ (w.wake stop burst).events) : e.isRelevant w.appId = true := by
  cases running : w.running with
  | false => simp [wake, running] at published
  | true =>
    cases stop with
    | true => simp [wake, running] at published
    | false =>
      rw [(wake_of_running running burst).2, announce] at published
      split at published
      · obtain ⟨change, meant, rfl⟩ := List.mem_map.1 published
        have kept : change ≠ .removed := by
          rintro rfl
          exact burstChange_ne_removed (Option.mem_toList.1 meant)
        simp [ConfigEvent.isRelevant, kept]
      · cases published

/-- Whatever is published calls for reconciliation. -/
theorem relevant_of_watch {awakenings : List (Bool × List Notice)} {e : ConfigEvent}
    (published : e ∈ (w.watch awakenings).flatten) : e.isRelevant w.appId = true := by
  induction awakenings generalizing w with
  | nil => cases published
  | cons awakening rest ih =>
    rw [watch, List.flatten_cons] at published
    rcases List.mem_append.1 published with now | later
    · exact relevant_of_wake now
    · exact (appId_wake w awakening.1 awakening.2) ▸ ih later

/-- A watcher at work makes of each burst one event or none: the file came into being if any notice
says so, was modified if any notice says that, and otherwise nothing happened to it.  Neither the
order of the notices matters nor how they are cut into bursts.  Every event that is published orders
one pass of a provider of the same application, unless later ones crowd it out of the channel, and
once the watcher is told to stop nothing is published any more. -/
theorem no_change_lost (running : w.running = true) :
    let kind := burstChange (Path.fileName? w.path)
    -- Each burst is published by itself, and the watcher goes on.
    (∀ burst, (w.wake false burst).watcher = w ∧
      (w.wake false burst).events = w.announce (kind burst)) ∧
    -- What is published is what the burst says.
    (∀ burst : List Notice,
      ((∃ n ∈ burst, n.Creates w.path) → kind burst = some .added) ∧
      ((∀ n ∈ burst, ¬ n.Creates w.path) → (∃ n ∈ burst, n.Edits w.path) →
        kind burst = some .updated) ∧
      ((∀ n ∈ burst, ¬ n.Creates w.path ∧ ¬ n.Edits w.path) → kind burst = none)) ∧
    -- Order and partition do not matter.
    (∀ burst burst' : List Notice, burst.Perm burst' → kind burst = kind burst') ∧
    (∀ burst burst', kind (burst ++ burst') = ConfigChange.stronger (kind burst) (kind burst')) ∧
    (∀ bursts : List (List Notice),
      kind bursts.flatten = ConfigChange.strongest (bursts.map kind)) ∧
    -- Nothing is published once the signal to stop is seen.
    (∀ (bursts : List (List Notice)) later, (∀ first ∈ later.head?, first.1 = true) →
      w.watch (bursts.map (false, ·) ++ later) =
        (bursts.map fun burst => w.announce (kind burst)) ++ later.map fun _ => []) ∧
    -- What is published orders passes.
    (∀ awakenings (p : Provider), p.settings.appId = w.appId →
      (∀ e ∈ (w.watch awakenings).flatten, e.isRelevant p.settings.appId = true ∧
        (p.events.accepting = true →
          (p.handle .config (Order.ofConfigEvent p.settings) [e]).events.queue =
            p.events.queue ++ [Order.pass.assignment p.settings])) ∧
      (p.events.accepting = true →
        (p.handle .config (Order.ofConfigEvent p.settings)
            (w.watch awakenings).flatten).events.queue =
          p.events.queue ++ List.replicate
              (min (w.watch awakenings).flatten.length p.capacity.nextPowerOfTwo)
              (Order.pass.assignment p.settings))) := by
  intro kind
  refine ⟨wake_of_running running, fun burst => ⟨burstChange_of_creates, burstChange_of_edits,
    burstChange_of_neither⟩, fun _ _ => burstChange_perm, fun burst burst' => ?_,
    burstChange_flatten, fun bursts later stop => ?_, fun awakenings p same => ?_⟩
  · have merged : kind [burst, burst'].flatten = _ := burstChange_flatten [burst, burst']
    simpa using merged
  · rw [watch_append running, watch_of_stop later stop]
  · have relevant : ∀ e ∈ (w.watch awakenings).flatten, e.isRelevant p.settings.appId = true :=
      fun e published => same ▸ relevant_of_watch published
    refine ⟨fun e published => ⟨relevant e published, fun accepting => ?_⟩,
      fun accepting => p.queue_handle accepting relevant⟩
    have single : ∀ e' ∈ [e], e'.isRelevant p.settings.appId = true := by
      simpa using relevant e published
    have one : min [e].length p.capacity.nextPowerOfTwo = 1 :=
      Nat.min_eq_left (Nat.pos_of_isPowerOfTwo (Nat.isPowerOfTwo_nextPowerOfTwo _))
    rw [p.queue_handle accepting single, one]
    rfl

/-- A burst in which a report is missing, another file was made, and the watched file was modified
before it is said to have come into being. -/
theorem no_change_lost_start :
    let w := (start "/etc/nelm/provider.toml" "org.nelm.provider").watcher
    let burst : List Notice :=
      [.error "queue overflow", .ok ⟨.created, ["/etc/nelm/notes.txt"]⟩,
        .ok ⟨.modified .content, ["/etc/nelm/provider.toml"]⟩,
        .ok ⟨.created, ["/etc/nelm/old.toml", "/etc/nelm/provider.toml"]⟩]
    w.running = true ∧ (w.wake false burst).events = [⟨"org.nelm.provider", .added⟩] ∧
      w.watch [(false, burst), (true, burst), (false, burst)] =
        [[⟨"org.nelm.provider", .added⟩], [], []] := by
  intro w burst
  have law := no_change_lost (w := w) rfl
  have meant : burstChange (Path.fileName? w.path) burst = some .added := by
    decide +kernel
  have events : (w.wake false burst).events = [⟨"org.nelm.provider", .added⟩] := by
    rw [(law.1 burst).2, meant]
    rfl
  refine ⟨rfl, events, ?_⟩
  have stopped := law.2.2.2.2.2.1 [burst] [(true, burst), (false, burst)] (by simp)
  refine stopped.trans ?_
  rw [List.map_cons, meant]
  rfl

end Watcher

end Southbound
