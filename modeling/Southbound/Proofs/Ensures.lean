import Southbound.Proofs.Slice

/-!
# What a job ensures

`j.Ensures p id v Q` says that the job `j`, begun while the slice of the device `id` is `v`, does
nothing that does not concern the device and ends as `Q` asks for, whatever goes wrong within the
hazards `p`.  A postcondition `Q` speaks of the result (`none` if the job breaks down), of the slice
that is left and of the calls that were made.

The rules are equivalences, one for every single action and one for every way to put jobs together,
and all of them simplify.  A job is therefore understood by unfolding it: what remains are
statements about records and store entries.  `Job.run_of_ensures` takes the result back to a run on
a whole deployment.
-/

namespace Southbound

/-- Whether the action may go wrong in this way. -/
def Action.Admits (p : Hazards) (a : Action) (fault : Option Fault) : Prop :=
  ∀ point f, a.faultPoint? = some point → fault = some f → p point f

/-- What is asked of the end of a job: its result, the slice, and the calls that it made. -/
abbrev Post (α : Type) := Option α → Slice → List Call → Prop

namespace Job

variable {α β : Type} {p : Hazards} {id : Identity} {v : Slice}

/-- Whatever goes wrong within the hazards, the job concerns one device only and ends as asked. -/
def Ensures (p : Hazards) (id : Identity) : Job α → Slice → Post α → Prop
  | done a, v, Q => Q (some a) v []
  | crashed, v, Q => Q none v []
  | act a next, v, Q => a.Concerns id ∧ ∀ fault, a.Admits p fault →
    Ensures p id (next (v.perform fault a).1) (v.perform fault a).2
      fun reply v' cs => Q reply v' (a.call?.toList ++ cs)

theorem Ensures.mono {j : Job α} {Q Q' : Post α} (h : j.Ensures p id v Q)
    (weaker : ∀ reply v' cs, Q reply v' cs → Q' reply v' cs) : j.Ensures p id v Q' := by
  induction j generalizing v Q Q' with
  | done a => exact weaker _ _ _ h
  | crashed => exact weaker _ _ _ h
  | act a next ih =>
    exact ⟨h.1, fun fault admitted =>
      ih _ (h.2 fault admitted) fun reply v' cs => weaker reply v' _⟩

/-- Two postconditions may be shown one after the other. -/
theorem Ensures.and {j : Job α} {Q Q' : Post α} (h : j.Ensures p id v Q)
    (h' : j.Ensures p id v Q') :
    j.Ensures p id v fun reply v' cs => Q reply v' cs ∧ Q' reply v' cs := by
  induction j generalizing v Q Q' with
  | done a => exact ⟨h, h'⟩
  | crashed => exact ⟨h, h'⟩
  | act a next ih =>
    exact ⟨h.1, fun fault admitted => ih _ (h.2 fault admitted) (h'.2 fault admitted)⟩

/-- What holds of the slice at the end holds whether or not the job broke down. -/
theorem Ensures.regardless {j : Job α} {I : Slice → Prop}
    (h : j.Ensures p id v fun _ v' _ => I v') :
    j.Ensures p id v fun reply v' _ =>
      match reply with
      | some _ => I v'
      | none => I v' :=
  h.mono fun reply _ _ kept => by cases reply <;> exact kept

/-! ## Jobs that are put together -/

section composition

variable {Q : Post α}

@[simp] theorem ensures_done (a : α) : (done a).Ensures p id v Q ↔ Q (some a) v [] := Iff.rfl

@[simp] theorem ensures_crashed : (crashed : Job α).Ensures p id v Q ↔ Q none v [] := Iff.rfl

@[simp] theorem ensures_bind (j : Job α) (f : α → Job β) {Q : Post β} :
    (bind j f).Ensures p id v Q ↔ j.Ensures p id v fun reply v' cs =>
      match reply with
      | some a => (f a).Ensures p id v' fun reply' v'' cs' => Q reply' v'' (cs ++ cs')
      | none => Q none v' cs := by
  induction j generalizing v Q with
  | done a => simp
  | crashed => simp
  | act a next ih =>
    simp only [act_bind, Ensures, ih, List.append_assoc]

@[simp] theorem ensures_contained (j : Job α) {Q : Post (Option α)} :
    j.contained.Ensures p id v Q ↔ j.Ensures p id v fun reply v' cs => Q (some reply) v' cs := by
  induction j generalizing v Q with
  | done a => rfl
  | crashed => rfl
  | act a next ih => simp only [contained, Ensures, ih]

@[simp] theorem ensures_ite (c : Prop) [Decidable c] (j k : Job α) :
    (if c then j else k).Ensures p id v Q ↔
      (c → j.Ensures p id v Q) ∧ (¬c → k.Ensures p id v Q) := by
  by_cases h : c <;> simp [h]

end composition

/-! ## Single actions -/

theorem ensures_ofAction (a : Action) {Q : Post a.Answer} :
    (ofAction a).Ensures p id v Q ↔ a.Concerns id ∧ ∀ fault, a.Admits p fault →
      Q (v.perform fault a).1 (v.perform fault a).2 a.call?.toList := by
  refine and_congr_right fun _ => forall_congr' fun fault => imp_congr_right fun _ => ?_
  cases (v.perform fault a).1 <;> simp

theorem admits_some {a : Action} {point : FaultPoint} (at_point : a.faultPoint? = some point)
    (f : Fault) : a.Admits p (some f) ↔ p point f := by
  simp [Action.Admits, at_point]

theorem admits_none (a : Action) : a.Admits p none := fun _ _ _ h => nomatch h

theorem admits_faultOf {d : Deployment} (within : d.faults.Within p) (a : Action) :
    a.Admits p (d.faultOf a) :=
  fun _ _ => Deployment.hazard_of_faultOf within

/-- An action that cannot go wrong. -/
theorem ensures_of_certain {a : Action} {r : Option a.Answer × Slice} {Q : Post a.Answer}
    (concerns : a.Concerns id) (certain : ∀ fault, v.perform fault a = r) :
    (ofAction a).Ensures p id v Q ↔ Q r.1 r.2 a.call?.toList := by
  rw [ensures_ofAction]
  constructor
  · rintro ⟨_, h⟩
    simpa only [certain] using h none (admits_none a)
  · intro h
    refine ⟨concerns, fun fault _ => ?_⟩
    simpa only [certain] using h

/-- An action that breaks down without effect or is answered. -/
theorem ensures_of_question {a : Action} {point : FaultPoint} {answer : a.Answer} {v' : Slice}
    {Q : Post a.Answer} (concerns : a.Concerns id) (at_point : a.faultPoint? = some point)
    (performed : ∀ fault, v.perform fault a =
      (Slice.unlessCrash fault answer, if fault = some .crash then v else v')) :
    (ofAction a).Ensures p id v Q ↔
      (p point .crash → Q none v a.call?.toList) ∧ Q (some answer) v' a.call?.toList := by
  rw [ensures_ofAction, and_iff_right concerns]
  constructor
  · intro h
    refine ⟨fun hc => ?_, ?_⟩
    · have ends := h _ ((admits_some at_point .crash).2 hc)
      rwa [performed] at ends
    · have ends := h none (admits_none a)
      rwa [performed] at ends
  · rintro ⟨crashed, answered⟩ fault admitted
    rw [performed]
    by_cases hc : fault = some .crash
    · subst hc
      exact crashed ((admits_some at_point _).1 admitted)
    · simpa [Slice.unlessCrash, hc] using answered

/-- An action that only looks. -/
theorem ensures_of_look {a : Action} {point : FaultPoint} {answer : a.Answer} {Q : Post a.Answer}
    (concerns : a.Concerns id) (at_point : a.faultPoint? = some point)
    (performed : ∀ fault, v.perform fault a = (Slice.unlessCrash fault answer, v)) :
    (ofAction a).Ensures p id v Q ↔
      (p point .crash → Q none v a.call?.toList) ∧ Q (some answer) v a.call?.toList :=
  ensures_of_question concerns at_point fun fault => by rw [performed, ite_self]

/-- An action that is an attempt breaks down, is refused or takes effect. -/
theorem ensures_of_attempt {a : Action} {point : FaultPoint}
    {outcome : Except CollaboratorError Slice} {Q : Post (Except CollaboratorError Unit)}
    {cs : List Call} (at_point : a.faultPoint? = some point) :
    (∀ fault, a.Admits p fault → Q (v.attempt fault outcome).1 (v.attempt fault outcome).2 cs) ↔
      (p point .crash → Q none v cs) ∧
      (∀ e, p point (.refuse e) → Q (some (.error e)) v cs) ∧
      (∀ v', outcome = .ok v' → Q (some (.ok ())) v' cs) ∧
      (∀ e, outcome = .error e → Q (some (.error e)) v cs) := by
  constructor
  · intro h
    refine ⟨fun hc => h _ ((admits_some at_point _).2 hc),
      fun e he => h _ ((admits_some at_point _).2 he), ?_, ?_⟩
    · rintro v' rfl
      exact h none (admits_none a)
    · rintro e rfl
      exact h none (admits_none a)
  · rintro ⟨crashed, refused, effective, failed⟩ fault admitted
    have effect : Q (v.attempt none outcome).1 (v.attempt none outcome).2 cs := by
      cases outcome with
      | ok v' => exact effective v' rfl
      | error e => exact failed e rfl
    rcases fault with _ | f
    · exact effect
    · have hp := (admits_some at_point f).1 admitted
      cases f with
      | crash => exact crashed hp
      | refuse e => exact refused e hp
      | absent | hold => cases outcome <;> exact effect

section actions

variable (id) {Q : Post Unit} {Q' : Post (Except CollaboratorError Unit)}

@[simp] theorem ensures_log (l : LogLine) : (log l).Ensures p id v Q ↔ Q (some ()) v [] :=
  ensures_of_certain (a := .log l) trivial fun _ => rfl

@[simp] theorem ensures_readRecord {Q : Post DeviceRecord} :
    (readRecord id).Ensures p id v Q ↔ Q (some v.record) v [] :=
  ensures_of_certain (a := .readRecord id) rfl fun _ => rfl

@[simp] theorem ensures_changeRecord (c : RecordChange) {Q : Post DeviceRecord} :
    (changeRecord id c).Ensures p id v Q ↔ Q (some (c.apply v.record)) (v.change c) [] :=
  ensures_of_certain (a := .changeRecord id c) rfl fun _ => rfl

@[simp] theorem ensures_masterOf {Q : Post (Option NodeId)} :
    (masterOf id).Ensures p id v Q ↔
      (p (.masterOf id) .crash → Q none v []) ∧ Q (some v.master?) v [] :=
  ensures_of_look (a := .masterOf id) rfl rfl fun _ => rfl

@[simp] theorem ensures_probe {Q : Post Bool} :
    (probe id).Ensures p id v Q ↔
      (p (.probe id) .crash → Q none v [.probe id]) ∧ Q (some v.answers) v [.probe id] :=
  ensures_of_look (a := .probe id) rfl rfl fun _ => rfl

@[simp] theorem ensures_isAvailable {Q : Post Bool} :
    (isAvailable id).Ensures p id v Q ↔
      (p (.isAvailable id) .crash → Q none v []) ∧ Q (some v.available) v [] :=
  ensures_of_look (a := .isAvailable id) rfl rfl fun _ => rfl

@[simp] theorem ensures_isLocalMaster {Q : Post Bool} :
    (isLocalMaster id).Ensures p id v Q ↔
      (p (.isLocalMaster id) .crash → Q none v []) ∧ Q (some v.isMaster) v [] :=
  ensures_of_look (a := .isLocalMaster id) rfl rfl fun _ => rfl

@[simp] theorem ensures_reportRole (requested accepted : Role) :
    (reportRole id requested accepted).Ensures p id v Q ↔
      (p (.reportRole id) .crash → Q none v [.reportRole id requested accepted]) ∧
      Q (some ()) (v.accept accepted) [.reportRole id requested accepted] :=
  ensures_of_question (a := .reportRole id requested accepted) rfl rfl fun _ => rfl

@[simp] theorem ensures_lookUp {Q : Post (Option FoundDevice)} :
    (lookUp id).Ensures p id v Q ↔
      (p (.lookUp id) .crash → Q none v []) ∧ (p (.lookUp id) .absent → Q (some none) v []) ∧
      Q (some v.found?) v [] := by
  refine (ensures_ofAction (.lookUp id)).trans ((and_iff_right rfl).trans ?_)
  have admits := admits_some (p := p) (a := .lookUp id) rfl
  constructor
  · intro h
    exact ⟨fun hc => h _ ((admits _).2 hc), fun ha => h _ ((admits _).2 ha), h none (admits_none _)⟩
  · rintro ⟨crashed, absent, found⟩ fault admitted
    rcases fault with _ | f
    · exact found
    · have hp := (admits f).1 admitted
      cases f with
      | crash => exact crashed hp
      | absent => exact absent hp
      | refuse _ | hold => exact found

@[simp] theorem ensures_storeKey (c : Credentials) :
    (storeKey id c).Ensures p id v Q' ↔
      (p (.storeKey id) .crash → Q' none v [.storeKey id c]) ∧
      (∀ e, p (.storeKey id) (.refuse e) → Q' (some (.error e)) v [.storeKey id c]) ∧
      Q' (some (.ok ())) (v.setKey (some c)) [.storeKey id c] := by
  refine (ensures_ofAction (.storeKey id c)).trans ((and_iff_right rfl).trans ?_)
  refine (ensures_of_attempt (a := .storeKey id c) rfl).trans ?_
  simp [Action.call?]

@[simp] theorem ensures_removeKey :
    (removeKey id).Ensures p id v Q' ↔
      (p (.removeKey id) .crash → Q' none v [.removeKey id]) ∧
      (∀ e, p (.removeKey id) (.refuse e) → Q' (some (.error e)) v [.removeKey id]) ∧
      Q' (some (.ok ())) (v.setKey none) [.removeKey id] := by
  refine (ensures_ofAction (.removeKey id)).trans ((and_iff_right rfl).trans ?_)
  refine (ensures_of_attempt (a := .removeKey id) rfl).trans ?_
  simp [Action.call?]

@[simp] theorem ensures_closeSession (force : Bool) :
    (closeSession id force).Ensures p id v Q' ↔
      (p (.closeSession id) .crash → Q' none v [.closeSession id force]) ∧
      (∀ e, p (.closeSession id) (.refuse e) → Q' (some (.error e)) v [.closeSession id force]) ∧
      Q' (some (.ok ())) (v.setOpen false) [.closeSession id force] := by
  refine (ensures_ofAction (.closeSession id force)).trans ((and_iff_right rfl).trans ?_)
  refine (ensures_of_attempt (a := .closeSession id force) rfl).trans ?_
  simp [Action.call?]

@[simp] theorem ensures_openSession :
    (openSession id).Ensures p id v Q' ↔
      (p (.openSession id) .crash → Q' none v [.openSession id]) ∧
      (∀ e, p (.openSession id) (.refuse e) → Q' (some (.error e)) v [.openSession id]) ∧
      (∀ c, v.key? = some c → Q' (some (.ok ())) (v.setOpen true) [.openSession id]) ∧
      (v.key? = none →
        Q' (some (.error (.session s!"no credentials for {id}"))) v [.openSession id]) := by
  refine (ensures_ofAction (.openSession id)).trans ((and_iff_right rfl).trans ?_)
  refine (ensures_of_attempt (a := .openSession id) rfl).trans ?_
  cases h : v.key? <;> simp [Slice.openTo, h, Action.call?]

theorem ensures_writeStore (w : StoreWrite) :
    (writeStore w).Ensures p id v Q' ↔ w.identity = id ∧
      (p (Deployment.storeCall w).2 .crash → Q' none v [(Deployment.storeCall w).1]) ∧
      (∀ e, p (Deployment.storeCall w).2 (.refuse e) →
        Q' (some (.error e)) v [(Deployment.storeCall w).1]) ∧
      (∀ known, w.entry v.stored? = .ok known →
        Q' (some (.ok ())) { v with stored? := some known } [(Deployment.storeCall w).1]) ∧
      (∀ e, w.entry v.stored? = .error e →
        Q' (some (.error e)) v [(Deployment.storeCall w).1]) := by
  refine (ensures_ofAction (.writeStore w)).trans (and_congr_right fun _ => ?_)
  refine (ensures_of_attempt (a := .writeStore w) rfl).trans ?_
  cases h : w.entry v.stored? <;> simp [Slice.write, h, Except.map, Action.call?]

@[simp] theorem ensures_writeConnect (d : Description) :
    (writeStore (.connect id d)).Ensures p id v Q' ↔
      (p (.deviceConnected id) .crash → Q' none v [.deviceConnected id d]) ∧
      (∀ e, p (.deviceConnected id) (.refuse e) →
        Q' (some (.error e)) v [.deviceConnected id d]) ∧
      Q' (some (.ok ())) (v.announce d) [.deviceConnected id d] := by
  rw [ensures_writeStore]
  simp [StoreWrite.identity, StoreWrite.entry, Deployment.storeCall, Slice.announce]

@[simp] theorem ensures_writeDisconnect :
    (writeStore (.disconnect id)).Ensures p id v Q' ↔
      (p (.deviceDisconnected id) .crash → Q' none v [.deviceDisconnected id]) ∧
      (∀ e, p (.deviceDisconnected id) (.refuse e) →
        Q' (some (.error e)) v [.deviceDisconnected id]) ∧
      (v.stored?.isSome → Q' (some (.ok ())) v.disconnect [.deviceDisconnected id]) ∧
      (v.stored? = none →
        Q' (some (.error (.store s!"unknown device {id}"))) v [.deviceDisconnected id]) := by
  rw [ensures_writeStore]
  cases h : v.stored? <;>
    simp [StoreWrite.identity, StoreWrite.entry, Deployment.storeCall, Slice.disconnect, h]

@[simp] theorem ensures_writePorts (list : List Port) :
    (writeStore (.ports id list)).Ensures p id v Q' ↔
      (p (.updatePorts id) .crash → Q' none v [.updatePorts id list]) ∧
      (∀ e, p (.updatePorts id) (.refuse e) → Q' (some (.error e)) v [.updatePorts id list]) ∧
      (v.stored?.isSome → Q' (some (.ok ())) (v.bring list) [.updatePorts id list]) ∧
      (v.stored? = none →
        Q' (some (.error (.store s!"unknown device {id}"))) v [.updatePorts id list]) := by
  rw [ensures_writeStore]
  cases h : v.stored? <;>
    simp [StoreWrite.identity, StoreWrite.entry, Deployment.storeCall, Slice.bring, h]

@[simp] theorem ensures_writeStatistics (list : List PortStatistics) :
    (writeStore (.statistics id list)).Ensures p id v Q' ↔
      (p (.updateStatistics id) .crash → Q' none v [.updateStatistics id list]) ∧
      (∀ e, p (.updateStatistics id) (.refuse e) →
        Q' (some (.error e)) v [.updateStatistics id list]) ∧
      (v.stored?.isSome → Q' (some (.ok ())) (v.count list) [.updateStatistics id list]) ∧
      (v.stored? = none →
        Q' (some (.error (.store s!"unknown device {id}"))) v [.updateStatistics id list]) := by
  rw [ensures_writeStore]
  cases h : v.stored? <;>
    simp [StoreWrite.identity, StoreWrite.entry, Deployment.storeCall, Slice.count, h]

end actions

section inquiries

variable (id)

@[simp] theorem ensures_discoverDetails (reply : Reply (Option Description))
    {Q : Post (Except DiscoveryError (Option Description))} :
    (discoverDetails id reply).Ensures p id v Q ↔
      Q (Slice.replied reply) v [.discoverDetails id] :=
  ensures_of_certain (a := .discoverDetails id reply) rfl fun _ => rfl

@[simp] theorem ensures_discoverPortDetails (reply : Reply (List Port))
    {Q : Post (Except DiscoveryError (List Port))} :
    (discoverPortDetails id reply).Ensures p id v Q ↔
      Q (Slice.replied reply) v [.discoverPortDetails id] :=
  ensures_of_certain (a := .discoverPortDetails id reply) rfl fun _ => rfl

@[simp] theorem ensures_listPorts (reply : Reply (List Port))
    {Q : Post (Except DiscoveryError (List Port))} :
    (listPorts id reply).Ensures p id v Q ↔ Q (Slice.replied reply) v [.listPorts id] :=
  ensures_of_certain (a := .listPorts id reply) rfl fun _ => rfl

@[simp] theorem ensures_discoverStatistics (reply : Reply (List PortStatistics))
    {Q : Post (Except DiscoveryError (List PortStatistics))} :
    (discoverStatistics id reply).Ensures p id v Q ↔
      Q (Slice.replied reply) v [.discoverStatistics id] :=
  ensures_of_certain (a := .discoverStatistics id reply) rfl fun _ => rfl

end inquiries

/-! ## Runs -/

/-- A run of a job on a deployment does to the slice of its device what the job ensures, leaves
everything else alone and ends. -/
theorem run_of_ensures {j : Job α} {d : Deployment} {Q : Post α}
    (h : j.Ensures p id (d.slice id) Q) (within : d.faults.Within p) :
    ∃ reply v cs d', j.run d = (reply.elim .crashed .done, d') ∧ d.Moves id v cs d' ∧
      Q reply v cs := by
  induction j generalizing d Q with
  | done a => exact ⟨some a, _, [], d, rfl, .refl d id, h⟩
  | crashed => exact ⟨none, _, [], d, rfl, .refl d id, h⟩
  | act a next ih =>
    obtain ⟨concerns, ensured⟩ := h
    obtain ⟨answered, moved⟩ := d.perform_slice concerns
    have later := ensured _ (admits_faultOf within a)
    rw [← answered, ← moved.own] at later
    obtain ⟨reply, v, cs, d', ran, moved', post⟩ := ih _ later (moved.within p within)
    rw [run_act a next d (d.isReady_of_concerns concerns), ran]
    exact ⟨reply, v, _, d', rfl, moved.trans moved', post⟩

end Job

end Southbound
