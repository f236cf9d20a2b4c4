import Southbound.Proofs.Shutdown

/-!
# What the parties to a shutdown rely on

The workers of both pools and the shutdown act on one scene.  An `Accord` says which actions each of
them may do in which scenes, what holds all the time because of that, and what each may rely on
while the others act.  A job that keeps to the accord, whatever the others do within theirs, is one
that `Job.Assures` its part; this is shown of every job alone, along its actions.

`Closing.Harmony` puts the parts together: if all that is pending keeps to the accord, then so does
every interleaving, and what the teardown and the last role change leave behind holds when the
shutdown has returned (`Closing.Harmony.returned`).

Parties that are never at work at the same time owe each other nothing: the devices are torn down
only after the last pass and the last reaction to an event.
-/

namespace Southbound

open Job

/-- Whether the first party may have something under way while the second acts; in a pool that is
crowded several orders are carried out at the same time. -/
def Party.Meets (crowded : Branch → Prop) : Party → Party → Prop
  | worker b, worker b' => b ≠ b' ∨ crowded b
  | worker .connections, shutdown | shutdown, worker .connections => True
  | worker .events, shutdown | shutdown, worker .events | shutdown, shutdown => False

/-- An agreement between the workers and the shutdown. -/
structure Accord where
  /-- What holds all the time. -/
  inv : Scene → Prop
  /-- What a party may do. -/
  ok : Party → Scene → Action → Prop
  /-- What a party may rely on while others act. -/
  rely : Party → Scene → Scene → Prop
  /-- The pools that carry out several orders at the same time. -/
  crowded : Branch → Prop
  rely_refl : ∀ party s, rely party s s
  rely_trans : ∀ {party s s' s''}, rely party s s' → rely party s' s'' → rely party s s''
  unmoved : ∀ {s s'}, s.Unmoved s' → inv s → inv s' ∧ ∀ party, rely party s s'
  keeps : ∀ {party s a}, inv s → ok party s a → inv (s.perform party a)
  respects : ∀ {party other s a}, inv s → ok party s a → other.Meets crowded party →
    rely other s (s.perform party a)

namespace Accord

variable (A : Accord) {party : Party} {s s' s'' : Scene}

/-- The others may have come from the first scene to the second. -/
structure Then (party : Party) (s s' : Scene) : Prop where
  inv : A.inv s'
  rely : A.rely party s s'

variable {A}

theorem Then.refl (inv : A.inv s) : A.Then party s s := ⟨inv, A.rely_refl party s⟩

theorem Then.trans (h : A.Then party s s') (h' : A.Then party s' s'') : A.Then party s s'' :=
  ⟨h'.inv, A.rely_trans h.rely h'.rely⟩

theorem Then.of_unmoved (inv : A.inv s) (unmoved : s.Unmoved s') : A.Then party s s' :=
  ⟨(A.unmoved unmoved inv).1, (A.unmoved unmoved inv).2 party⟩

theorem Then.of_ok {a : Action} {other : Party} (inv : A.inv s) (ok : A.ok party s a)
    (meets : other.Meets A.crowded party) : A.Then other s (s.perform party a) :=
  ⟨A.keeps inv ok, A.respects inv ok meets⟩

/-- Where the statement holds the party may do every action of a certain kind and keeps the
statement, and the others leave it alone. -/
structure Kept (A : Accord) (party : Party) (okay : Action → Prop) (K : Scene → Prop) : Prop where
  later : ∀ {s s'}, A.Then party s s' → K s → K s'
  perform : ∀ {s a}, A.inv s → K s → okay a → A.ok party s a ∧ K (s.perform party a)

end Accord

/-! ## The part of a job -/

namespace Job

variable {α β : Type} {A : Accord} {party : Party} {s s' : Scene}

/-- The job keeps to its part of the accord, and ends as asked and so that it stays so. -/
def Assures (A : Accord) (party : Party) : Job α → Scene → (Option α → Scene → Prop) → Prop
  | done a, s, Q => ∀ s', A.Then party s s' → Q (some a) s'
  | crashed, s, Q => ∀ s', A.Then party s s' → Q none s'
  | act a next, s, Q => ∀ s', A.Then party s s' → A.ok party s' a ∧
    (next (s'.deployment.perform a).1).Assures A party (s'.perform party a) Q

/-- The others may act before the job goes on. -/
theorem Assures.later {j : Job α} {Q : Option α → Scene → Prop} (h : j.Assures A party s Q)
    (later : A.Then party s s') : j.Assures A party s' Q := by
  cases j with
  | done a => exact fun s'' then' => h s'' (later.trans then')
  | crashed => exact fun s'' then' => h s'' (later.trans then')
  | act a next => exact fun s'' then' => h s'' (later.trans then')

theorem Assures.mono {j : Job α} {Q Q' : Option α → Scene → Prop} (h : j.Assures A party s Q)
    (weaker : ∀ reply s', A.inv s' → Q reply s' → Q' reply s') : j.Assures A party s Q' := by
  induction j generalizing s with
  | done a => exact fun s' later => weaker _ _ later.inv (h s' later)
  | crashed => exact fun s' later => weaker _ _ later.inv (h s' later)
  | act a next ih => exact fun s' later => ⟨(h s' later).1, ih _ (h s' later).2⟩

theorem Assures.bind {j : Job α} {f : α → Job β} {Q : Option β → Scene → Prop} (inv : A.inv s)
    (h : j.Assures A party s fun reply s' =>
      match reply with
      | some a => (f a).Assures A party s' Q
      | none => Q none s') : (Job.bind j f).Assures A party s Q := by
  induction j generalizing s with
  | done a => exact h s (.refl inv)
  | crashed => exact h
  | act a next ih =>
    intro s' later
    obtain ⟨ok, rest⟩ := h s' later
    exact ⟨ok, ih _ (A.keeps later.inv ok) rest⟩

theorem Assures.contained {j : Job α} {Q : Option (Option α) → Scene → Prop}
    (h : j.Assures A party s fun reply s' => Q (some reply) s') :
    j.contained.Assures A party s Q := by
  induction j generalizing s with
  | done a => exact h
  | crashed => exact h
  | act a next ih => exact fun s' later => ⟨(h s' later).1, ih _ (h s' later).2⟩

theorem assures_ofAction {a : Action} {Q : Option a.Answer → Scene → Prop}
    (h : ∀ s', A.Then party s s' → A.ok party s' a ∧
      ∀ s'', A.Then party (s'.perform party a) s'' → Q (s'.deployment.perform a).1 s'') :
    (ofAction a).Assures A party s Q := by
  intro s' later
  obtain ⟨ok, post⟩ := h s' later
  refine ⟨ok, ?_⟩
  revert post
  cases (s'.deployment.perform a).1 <;> exact id

/-- A job of actions that keep a statement keeps to the accord and keeps the statement. -/
theorem Only.assures {okay : Action → Prop} {K : Scene → Prop} {j : Job α} (only : j.Only okay)
    (kept : A.Kept party okay K) (h : K s) : j.Assures A party s fun _ s' => K s' := by
  induction j generalizing s with
  | done a => exact fun s' later => kept.later later h
  | crashed => exact fun s' later => kept.later later h
  | act a next ih =>
    intro s' later
    obtain ⟨ok, after⟩ := kept.perform later.inv (kept.later later h) only.1
    exact ⟨ok, ih _ (only.2 _) after⟩

/-- What follows a job of actions that keep a statement may start from the statement. -/
theorem Assures.after {okay : Action → Prop} {K : Scene → Prop} {j : Job α} {f : α → Job β}
    {Q : Option β → Scene → Prop} (kept : A.Kept party okay K) (inv : A.inv s) (h : K s)
    (only : j.Only okay) (crashed : ∀ s', K s' → Q none s')
    (next : ∀ a s', A.inv s' → K s' → (f a).Assures A party s' Q) :
    (Job.bind j f).Assures A party s Q :=
  Assures.bind inv <| (only.assures kept h).mono fun reply s' inv' h' => by
    cases reply with
    | none => exact crashed s' h'
    | some a => exact next a s' inv' h'

/-- An action may put another statement in place of one that held before. -/
theorem Assures.step {okay okay' : Action → Prop} {K K' : Scene → Prop} {a : Action}
    {f : a.Answer → Job β} {Q : Option β → Scene → Prop} (kept : A.Kept party okay K)
    (kept' : A.Kept party okay' K') (inv : A.inv s) (h : K s)
    (does : ∀ s', A.inv s' → K s' → A.ok party s' a ∧ K' (s'.perform party a))
    (crashed : ∀ s', K' s' → Q none s')
    (next : ∀ answer s', A.inv s' → K' s' → (f answer).Assures A party s' Q) :
    (Job.bind (ofAction a) f).Assures A party s Q := by
  refine Assures.bind inv (assures_ofAction fun s₁ later => ?_)
  obtain ⟨ok, after⟩ := does s₁ later.inv (kept.later later h)
  refine ⟨ok, fun s₂ later' => ?_⟩
  have h' := kept'.later later' after
  cases (s₁.deployment.perform a).1 with
  | none => exact crashed s₂ h'
  | some answer => exact next answer s₂ later'.inv h'

/-- The job keeps to the accord wherever it is begun. -/
def Abides (A : Accord) (party : Party) (j : Job α) : Prop :=
  ∀ s, A.inv s → j.Assures A party s fun _ _ => True

/-- The jobs that keep to the accord; any part of them may break down. -/
def Kind.abiding (A : Accord) (party : Party) : Kind where
  ok a := ∀ s, A.inv s → A.ok party s a
  mem j := j.Abides A party
  mem_done _ _ _ _ _ := trivial
  mem_crashed _ _ _ _ := trivial
  mem_act ok later s _ s' h :=
    ⟨ok s' h.inv, later _ _ (A.keeps h.inv (ok s' h.inv))⟩
  mem_bind hj hf s inv := Assures.bind inv <| (hj s inv).mono fun reply s' inv' _ => by
    cases reply with
    | none => trivial
    | some a => exact hf a s' inv'
  mem_contained h s inv := Assures.contained (h s inv)

end Job

/-! ## All parts together -/

/-- What holds when no role change is left, and when the devices are torn down. -/
structure Accord.Ends (A : Accord) (left torn : Scene → Prop) : Prop where
  left_later : ∀ {s s'}, A.Then (.worker .connections) s s' → left s → left s'
  torn_later : ∀ {s s'}, A.Then .shutdown s s' → torn s → torn s'
  lists : ∀ {s ids}, A.inv s → ids.Perm s.deployment.records.registered →
    A.ok .shutdown s .registered ∧ (Connection.tearDownEach ids).Assures A .shutdown
      (s.perform .shutdown .registered) fun reply s' => reply.isSome = true → torn s'

/-! ## The teardown -/

/-- An action of the teardown that neither a key nor a session depends on. -/
def Action.Clerical : Action → Prop
  | log _ | changeRecord _ .credentialsRevoked => True
  | _ => False

/-- How the devices are torn down under an accord: what holds while some are still to be torn down,
once the key of the next one is removed, and once its session is closed. -/
structure Accord.TearsDown (A : Accord) (K : List Identity → Scene → Prop)
    (Revoked Shut : Identity → List Identity → Scene → Prop) : Prop where
  kept : ∀ rest, A.Kept .shutdown Action.Clerical (K rest)
  kept_revoked : ∀ id rest, A.Kept .shutdown Action.Clerical (Revoked id rest)
  kept_shut : ∀ id rest, A.Kept .shutdown Action.Clerical (Shut id rest)
  removes : ∀ id rest s, A.inv s → K (id :: rest) s →
    A.ok .shutdown s (.removeKey id) ∧ Revoked id rest (s.perform .shutdown (.removeKey id))
  closes : ∀ id rest s, A.inv s → Revoked id rest s → A.ok .shutdown s (.closeSession id true) ∧
    Shut id rest (s.perform .shutdown (.closeSession id true))
  ends : ∀ id rest s, A.inv s → Shut id rest s → A.ok .shutdown s (.changeRecord id .ended) ∧
    K rest (s.perform .shutdown (.changeRecord id .ended))

namespace Accord.TearsDown

variable {A : Accord} {s : Scene} {K : List Identity → Scene → Prop}
  {Revoked Shut : Identity → List Identity → Scene → Prop}

open Connection

theorem assures_tearDown (tears : A.TearsDown K Revoked Shut) {id : Identity}
    {rest : List Identity} (inv : A.inv s) (h : K (id :: rest) s) :
    (tearDown id).Assures A .shutdown s fun reply s' => reply.isSome = true → K rest s' := by
  have warned : ∀ attempt reply, (warnOnRefusal attempt id reply).Only Action.Clerical := by
    rintro attempt (e | _) <;> simp [warnOnRefusal, Action.Clerical]
  have revoked := tears.kept_revoked id rest
  have shut := tears.kept_shut id rest
  have kept := tears.kept rest
  have broken : ∀ s', (none : Option Unit).isSome = true → K rest s' :=
    fun _ done => absurd done Bool.false_ne_true
  simp only [tearDown, bind_eq]
  refine .step (tears.kept _) revoked inv h (tears.removes id rest) (fun s' _ => broken s')
    fun _ s₁ inv h => ?_
  refine .after revoked inv h (warned _ _) (fun s' _ => broken s') fun _ s₂ inv h => ?_
  refine .step revoked shut inv h (tears.closes id rest) (fun s' _ => broken s')
    fun _ s₃ inv h => ?_
  refine .after shut inv h (warned _ _) (fun s' _ => broken s') fun _ s₄ inv h => ?_
  refine .step shut kept inv h (tears.ends id rest) (fun s' _ => broken s') fun _ s₅ inv h => ?_
  refine .after kept inv h (by simp [Action.Clerical]) (fun s' _ => broken s') fun _ s₆ _ h => ?_
  exact fun _ later _ => kept.later later h

theorem assures_tearDownEach (tears : A.TearsDown K Revoked Shut) {rest : List Identity}
    (inv : A.inv s) (h : K rest s) :
    (tearDownEach rest).Assures A .shutdown s fun reply s' => reply.isSome = true → K [] s' := by
  induction rest generalizing s with
  | nil => exact fun _ later _ => (tears.kept []).later later h
  | cons id rest ih =>
    refine Assures.bind inv ((tears.assures_tearDown inv h).mono fun reply s' inv' h' => ?_)
    cases reply with
    | none => exact fun done => absurd done Bool.false_ne_true
    | some _ => exact ih inv' (h' rfl)

end Accord.TearsDown

namespace Closing

variable {A : Accord} {left torn : Scene → Prop} {c c' : Closing}

/-- All that is pending keeps to the accord. -/
structure Harmony (A : Accord) (left torn : Scene → Prop) (c : Closing) : Prop where
  inv : A.inv c.scene
  jobs : ∀ b, ∀ e ∈ c.pending b,
    e.rest.Assures A (.worker b) c.scene fun _ s => b = .connections → left s
  crowd : ∀ b, A.crowded b ∨ (c.pending b).length ≤ 1
  left : c.pending .connections = [] → left c.scene
  drained : c.stage.isDrained = true → c.pending .events = []
  tearing : ∀ rest, c.stage = .tearing rest →
    rest.Assures A .shutdown c.scene fun reply s => reply.isSome = true → torn s
  torn : c.stage.isTorn = true → torn c.scene

namespace Harmony

/-- Nothing changes but what is said, and perhaps the stage. -/
theorem calm (h : c.Harmony A left torn) (ends : A.Ends left torn)
    (pending : c'.pending = c.pending) (scene : c.scene.Unmoved c'.scene)
    (drained : c'.stage.isDrained = true → c.stage.isDrained = true)
    (tearing : ∀ rest, c'.stage = .tearing rest → c.stage = .tearing rest)
    (torn' : c'.stage.isTorn = true → torn c.scene) : c'.Harmony A left torn where
  inv := (A.unmoved scene h.inv).1
  jobs b e he := (h.jobs b e (pending ▸ he)).later (.of_unmoved h.inv scene)
  crowd b := pending ▸ h.crowd b
  left none := ends.left_later (.of_unmoved h.inv scene) (h.left (pending ▸ none))
  drained past := pending ▸ h.drained (drained past)
  tearing rest stage := (h.tearing rest (tearing rest stage)).later (.of_unmoved h.inv scene)
  torn past := ends.torn_later (.of_unmoved h.inv scene) (torn' past)

/-- Whoever works beside others of its pool works in a crowd. -/
theorem crowded (h : c.Harmony A left torn) {b : Branch} {before after : List Assignment}
    {e e' : Assignment} (pending : c.pending b = before ++ e :: after)
    (other : e' ∈ before ++ after) : A.crowded b := by
  refine (h.crowd b).resolve_right fun few => ?_
  have several : 0 < (before ++ after).length := List.length_pos_of_mem other
  rw [pending] at few
  simp only [List.length_append, List.length_cons] at few several
  omega

/-- A worker does an action. -/
theorem went (h : c.Harmony A left torn) (ends : A.Ends left torn) {b : Branch}
    {before after : List Assignment} {o : Order} {a : Action}
    {next : Option a.Answer → Job (Except RoleError Unit)}
    (pending : c.pending b = before ++ ⟨o, .act a next⟩ :: after)
    (pending' : c'.pending b = before ++ ⟨o, next (c.deployment.perform a).1⟩ :: after)
    (others : ∀ b', b' ≠ b → c'.pending b' = c.pending b') (stage : c'.stage = c.stage)
    (scene : c'.scene = c.scene.perform (.worker b) a) : c'.Harmony A left torn := by
  obtain ⟨ok, rest⟩ := h.jobs b ⟨o, .act a next⟩ (by simp [pending]) c.scene (.refl h.inv)
  have later : ∀ {party : Party}, party.Meets A.crowded (.worker b) →
      A.Then party c.scene c'.scene := fun meets => scene ▸ .of_ok h.inv ok meets
  have apart : ∀ {b'}, b' ≠ b → A.Then (.worker b') c.scene c'.scene :=
    fun other => later (.inl other)
  have among : ∀ e ∈ before ++ after, A.Then (.worker b) c.scene c'.scene :=
    fun _ other => later (.inr (h.crowded pending other))
  have busy : c.pending b ≠ [] := by simp [pending]
  have beside : c.stage.isDrained = true → A.Then .shutdown c.scene c'.scene := by
    intro past
    have role : b = .connections := by
      cases b with
      | events => exact absurd (h.drained past) busy
      | connections => rfl
    exact later (by rw [role]; trivial)
  constructor
  case inv => exact scene ▸ A.keeps h.inv ok
  case jobs =>
    intro b' e he
    by_cases own : b' = b
    · subst own
      rw [pending'] at he
      rcases List.mem_append.1 he with earlier | he
      · exact (h.jobs b' e (by simp [pending, earlier])).later
          (among e (List.mem_append_left _ earlier))
      · rcases List.mem_cons.1 he with rfl | others
        · exact scene ▸ rest
        · exact (h.jobs b' e (by simp [pending, others])).later
            (among e (List.mem_append_right _ others))
    · exact (h.jobs b' e (others b' own ▸ he)).later (apart own)
  case crowd =>
    intro b'
    by_cases own : b' = b
    · subst own
      refine (h.crowd b').imp_right fun few => ?_
      simpa [pending, pending'] using few
    · rw [others b' own]
      exact h.crowd b'
  case left =>
    intro none
    by_cases own : Branch.connections = b
    · subst own
      simp [pending'] at none
    · exact ends.left_later (apart own) (h.left (others _ own ▸ none))
  case drained =>
    intro past
    rw [stage] at past
    have other : Branch.events ≠ b := by
      rintro rfl
      exact busy (h.drained past)
    rw [others _ other]
    exact h.drained past
  case tearing =>
    intro rest tearing
    rw [stage] at tearing
    exact (h.tearing rest tearing).later (beside (by simp [tearing, Stage.isDrained]))
  case torn =>
    intro past
    rw [stage] at past
    have past' : c.stage.isDrained = true := by
      revert past
      cases c.stage <;> simp [Stage.isDrained, Stage.isTorn]
    exact ends.torn_later (beside past') (h.torn past)

/-- A worker is done with its order. -/
theorem gone (h : c.Harmony A left torn) (ends : A.Ends left torn) {b : Branch}
    {before after : List Assignment} {e : Assignment}
    (pending : c.pending b = before ++ e :: after)
    (ended : e.rest = .crashed ∨ ∃ result, e.rest = .done result)
    (pending' : c'.pending b = before ++ after)
    (others : ∀ b', b' ≠ b → c'.pending b' = c.pending b') (stage : c'.stage = c.stage)
    (scene : c.scene.Unmoved c'.scene) : c'.Harmony A left torn := by
  have fewer : ∀ b' e', e' ∈ c'.pending b' → e' ∈ c.pending b' := by
    intro b' e' he
    by_cases own : b' = b
    · subst own
      rw [pending'] at he
      rw [pending]
      rcases List.mem_append.1 he with earlier | later
      · exact List.mem_append_left _ earlier
      · exact List.mem_append_right _ (List.mem_cons_of_mem _ later)
    · exact others b' own ▸ he
  have unmoved : ∀ {party : Party}, A.Then party c.scene c'.scene := .of_unmoved h.inv scene
  constructor
  case inv => exact (@unmoved .shutdown).inv
  case jobs => exact fun b' e' he => (h.jobs b' e' (fewer b' e' he)).later unmoved
  case crowd =>
    intro b'
    by_cases own : b' = b
    · subst own
      refine (h.crowd b').imp_right fun few => ?_
      simp only [pending, pending', List.length_append, List.length_cons] at few ⊢
      omega
    · rw [others b' own]
      exact h.crowd b'
  case left =>
    intro none
    by_cases own : Branch.connections = b
    · subst own
      have part := h.jobs .connections e (by simp [pending])
      rcases ended with crashed | ⟨result, done⟩
      · rw [crashed] at part
        exact part _ unmoved rfl
      · rw [done] at part
        exact part _ unmoved rfl
    · exact ends.left_later unmoved (h.left (others _ own ▸ none))
  case drained =>
    intro past
    rw [stage] at past
    exact List.eq_nil_iff_forall_not_mem.2 fun e' he => by
      simpa [h.drained past] using fewer .events e' he
  case tearing =>
    intro rest tearing
    rw [stage] at tearing
    exact (h.tearing rest tearing).later unmoved
  case torn =>
    intro past
    rw [stage] at past
    exact ends.torn_later unmoved (h.torn past)

/-- The shutdown does an action of the teardown, or lists the devices. -/
theorem acted (h : c.Harmony A left torn) (ends : A.Ends left torn) {s : Scene} {a : Action}
    {rest : Job Unit} (said : c.scene.Unmoved s) (idle : c.pending .events = [])
    (stage : c'.stage = .tearing rest) (pending : c'.pending = c.pending)
    (scene : c'.scene = s.perform .shutdown a) (ok : A.ok .shutdown s a)
    (part : rest.Assures A .shutdown (s.perform .shutdown a) fun reply s' =>
      reply.isSome = true → torn s') : c'.Harmony A left torn := by
  have later : A.Then (.worker .connections) c.scene c'.scene :=
    (Accord.Then.of_unmoved h.inv said).trans
      (scene ▸ .of_ok (A.unmoved said h.inv).1 ok trivial)
  constructor
  case inv => exact later.inv
  case jobs =>
    intro b e he
    rw [pending] at he
    cases b with
    | events => simp [idle] at he
    | connections => exact (h.jobs .connections e he).later later
  case crowd => exact fun b => pending ▸ h.crowd b
  case left => exact fun none => ends.left_later later (h.left (pending ▸ none))
  case drained => exact fun _ => by rw [pending, idle]
  case tearing =>
    intro rest' tearing
    rw [stage] at tearing
    cases tearing
    exact scene ▸ part
  case torn => exact fun past => by simp [stage, Stage.isTorn] at past

/-- What keeps to the accord does so after every move. -/
theorem next (ends : A.Ends left torn) (step : c.Next c') (h : c.Harmony A left torn) :
    c'.Harmony A left torn := by
  cases step with
  | unmoved pending stage scene =>
    exact h.calm ends pending scene (stage ▸ id) (fun _ => (stage ▸ ·)) fun past =>
      h.torn (stage ▸ past)
  | went pending pending' others stage scene =>
    exact h.went ends pending pending' others stage scene
  | left pending ended pending' others stage scene =>
    exact h.gone ends pending ended pending' others stage scene
  | began stage stage' pending scene =>
    refine h.calm ends pending scene ?_ ?_ ?_ <;> simp [stage', Stage.isDrained, Stage.isTorn]
  | listed stage idle perm stage' pending said scene =>
    obtain ⟨ok, part⟩ := ends.lists (A.unmoved said h.inv).1 (said.records.symm ▸ perm)
    exact h.acted ends said idle stage' pending scene ok part
  | tore stage stage' pending scene =>
    obtain ⟨ok, rest⟩ := h.tearing _ stage c.scene (.refl h.inv)
    exact h.acted ends (.refl _) (h.drained (by simp [stage, Stage.isDrained])) stage' pending scene
      ok rest
  | finished stage stage' pending scene =>
    refine h.calm ends pending scene ?_ ?_ fun _ => ?_
    · simp [stage, Stage.isDrained]
    · simp [stage']
    · exact h.tearing _ stage c.scene (.refl h.inv) rfl
  | stopped stage stage' idle pending scene =>
    refine h.calm ends pending scene ?_ ?_ fun _ => h.torn (by simp [stage, Stage.isTorn])
    · simp [stage, Stage.isDrained]
    · simp [stage']

/-- When the shutdown has returned, the devices are torn down and no role change is left. -/
theorem returned (h : c.Harmony A left torn) (ends : A.Ends left torn) {moves : List Move}
    (played : c.play moves = some c') (stopped : c'.stage = .stopped)
    (past : c'.pending .connections = []) :
    A.inv c'.scene ∧ left c'.scene ∧ torn c'.scene := by
  have harmony := play_keeps (fun _ _ step h => next ends step h) played h
  exact ⟨harmony.inv, harmony.left past, harmony.torn (by simp [stopped, Stage.isTorn])⟩

end Harmony

end Closing

end Southbound
