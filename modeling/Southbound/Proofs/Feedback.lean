import Mathlib.Data.Prod.Lex
import Southbound.Proofs.Publications
import Southbound.Shift.Load

/-!
# Events that come back

A `Circuit` is a deployment with all that it was not told yet: inputs from outside, publications
that were not delivered and orders that were not carried out, taken up in any order whatever.

Orders from outside may publish any number of events, but there is one less of them afterwards; and
what is published while a publication is handled ranks lower.  So every move makes `Circuit.effort`
smaller (`Circuit.effort_move_lt`), and circuits come to rest: only so many moves are possible, only
so many events are published, and all of them are handled in the end (`Circuit.comes_to_rest`).
-/

namespace Southbound

open Deployment

/-- What can come from outside. -/
inductive Circuit.Input
  | config (e : ConfigEvent)
  /-- A pass, a probe or a role change is ordered. -/
  | order (o : Order)
  /-- Something changes around the provider: a device is removed from the store, say, or other
  things go wrong. -/
  | change (c : Change)
  /-- What was left of an order goes on, whose answer had been held back. -/
  | resume (rest : Job (Except RoleError Unit))

/-- A deployment with all that it was not told yet. -/
structure Circuit where
  deployment : Deployment
  /-- What is still to come from outside. -/
  inputs : List Circuit.Input
  /-- The publications that were not delivered. -/
  pending : List Publication
  /-- The orders that were not carried out. -/
  orders : List Order

namespace Circuit

/-- What can happen next. -/
inductive Move
  /-- Something comes from outside. -/
  | accept (place : Nat)
  /-- A publication is delivered. -/
  | deliver (place : Nat)
  /-- An order is carried out. -/
  | carryOut (place : Nat)
deriving DecidableEq

variable (s : Settings) (c : Circuit)

/-- The circuit with another deployment.  Whatever was published meanwhile is still to be
delivered. -/
def after (d : Deployment) : Circuit :=
  { c with
    deployment := d
    pending := c.pending ++ d.published.drop c.deployment.published.length }

/-- The provider is told something: it speaks, and may take an order. -/
def hear (told : List LogLine × Option Order) : Circuit :=
  { c with
    deployment := c.deployment.sayAll told.1
    orders := c.orders ++ told.2.toList }

/-- Something comes from outside. -/
def takeIn : Input → Circuit
  | .config e => c.hear (Order.ofConfigEvent s e)
  | .order o => { c with orders := c.orders ++ [o] }
  | .change change => c.after (change.apply c.deployment)
  | .resume rest => c.after (rest.run c.deployment).2

/-- A move, if it can be made.  An order is carried out to its end, or until it waits for an answer
that is held back; what is left of it may come from outside later. -/
def move : Move → Option Circuit
  | .accept place => c.inputs[place]?.map fun i =>
    takeIn s { c with inputs := c.inputs.eraseIdx place } i
  | .deliver place => c.pending[place]?.map fun p =>
    hear { c with pending := c.pending.eraseIdx place } p.handle
  | .carryOut place => c.orders[place]?.map fun o =>
    after { c with orders := c.orders.eraseIdx place } ((o.job s).run c.deployment).2

/-- One move after the other, if they can be made. -/
def play (c : Circuit) : List Move → Option Circuit
  | [] => some c
  | m :: rest => (c.move s m).bind (·.play rest)

end Circuit

/-! ## What a move can still lead to -/

/-- What the delivery of a publication can lead to. -/
def Publication.weight (p : Publication) : Nat := 2 * p.rank + 2

/-- What an order can lead to, as a reaction. -/
def Order.weight (o : Order) : Nat := o.rank?.elim 0 fun rank => 2 * rank + 1

/-- One for an order that is no reaction. -/
def Order.novelty (o : Order) : Nat := o.rank?.elim 1 fun _ => 0

theorem Order.weight_of_reaction {o : Order} {rank : Nat} (reaction : o.rank? = some rank) :
    o.weight = 2 * rank + 1 ∧ o.novelty = 0 := by
  simp [weight, novelty, reaction]

namespace Circuit

variable {s : Settings} {c c' : Circuit}

/-- How much can still start from outside. -/
def supply (c : Circuit) : Nat := 2 * c.inputs.length + Shift.total Order.novelty c.orders

/-- How much reactions can still lead to. -/
def echo (c : Circuit) : Nat :=
  Shift.total Publication.weight c.pending + Shift.total Order.weight c.orders

/-- What is still to be done in the circuit. -/
def effort (c : Circuit) : ℕ ×ₗ ℕ := toLex (c.supply, c.echo)

theorem total_eraseIdx {α : Type} (count : α → Nat) {l : List α} {i : Nat} {a : α}
    (found : l[i]? = some a) :
    Shift.total count (l.eraseIdx i) + count a = Shift.total count l := by
  induction l generalizing i with
  | nil => cases found
  | cons x rest ih =>
    cases i with
    | zero =>
      obtain rfl : x = a := by simpa using found
      simp only [List.eraseIdx_cons_zero, Shift.total]
      omega
    | succ i =>
      have := ih (by simpa using found)
      simp only [List.eraseIdx_cons_succ, Shift.total]
      omega

theorem effort_lt {c c' : Circuit}
    (h : c'.supply < c.supply ∨ c'.supply = c.supply ∧ c'.echo < c.echo) :
    c'.effort < c.effort :=
  Prod.Lex.toLex_lt_toLex.2 h

theorem supply_hear_le (told : List LogLine × Option Order) :
    (c.hear told).supply ≤ c.supply + 1 := by
  have few : Shift.total Order.novelty told.2.toList ≤ 1 := by
    cases told.2 with
    | none => exact Nat.zero_le _
    | some o =>
      simp only [Option.toList, Shift.total, Order.novelty]
      cases o.rank? <;> simp
  simp only [supply, hear, Shift.total_append]
  omega

theorem supply_takeIn_le (i : Input) : (c.takeIn s i).supply ≤ c.supply + 1 := by
  cases i with
  | config e => exact supply_hear_le _
  | order o => exact supply_hear_le ([], some o)
  | change change => exact Nat.le_succ _
  | resume rest => exact Nat.le_succ _

/-- Whatever comes from outside can start one thing. -/
theorem effort_accept_lt {place : Nat} (moved : c.move s (.accept place) = some c') :
    c'.effort < c.effort := by
  obtain ⟨i, found, rfl⟩ := Option.map_eq_some_iff.1 moved
  have inside : place < c.inputs.length := (List.getElem?_eq_some_iff.1 found).1
  have fewer := List.length_eraseIdx_of_lt inside
  have most := supply_takeIn_le (s := s) (c := { c with inputs := c.inputs.eraseIdx place }) i
  refine effort_lt (.inl ?_)
  simp only [supply, fewer] at most ⊢
  omega

/-- A publication that was delivered is a reaction at most. -/
theorem effort_deliver_lt {place : Nat} (moved : c.move s (.deliver place) = some c') :
    c'.effort < c.effort := by
  obtain ⟨p, found, rfl⟩ := Option.map_eq_some_iff.1 moved
  have taken := total_eraseIdx Publication.weight found
  have weighs : p.weight = 2 * p.rank + 2 := rfl
  cases becomes : p.handle.2 with
  | none =>
    refine effort_lt (.inr ⟨?_, ?_⟩)
    · simp only [supply, hear, becomes, Option.toList, List.append_nil]
    · simp only [echo, hear, becomes, Option.toList, List.append_nil]
      omega
  | some o =>
    obtain ⟨weight, novelty⟩ := Order.weight_of_reaction (Publication.rank?_of_handle becomes)
    refine effort_lt (.inr ⟨?_, ?_⟩)
    · simp only [supply, hear, becomes, Option.toList, Shift.total_append, Shift.total, novelty,
        Nat.add_zero]
    · simp only [echo, hear, becomes, Option.toList, Shift.total_append, Shift.total, weight]
      omega

/-- One publication of a lower rank can lead to less than a reaction of this one. -/
theorem total_weight_le {ps : List Publication} {rank : Nat}
    (oneBelow : Publication.OneBelow rank ps) :
    Shift.total Publication.weight ps ≤ 2 * rank := by
  obtain ⟨few, lower⟩ := oneBelow
  cases ps with
  | nil => exact Nat.zero_le _
  | cons p rest =>
    have none : rest = [] := List.length_eq_zero_iff.1 (by simpa using few)
    have := lower p List.mem_cons_self
    simp only [none, Shift.total, Publication.weight]
    omega

/-- An order that was carried out is one thing less from outside, or leads to less. -/
theorem effort_carryOut_lt {place : Nat} (moved : c.move s (.carryOut place) = some c') :
    c'.effort < c.effort := by
  obtain ⟨o, found, rfl⟩ := Option.map_eq_some_iff.1 moved
  have fewer := total_eraseIdx Order.novelty found
  have less := total_eraseIdx Order.weight found
  cases reaction : o.rank? with
  | none =>
    have novel : o.novelty = 1 := by simp [Order.novelty, reaction]
    refine effort_lt (.inl ?_)
    simp only [supply, after]
    omega
  | some rank =>
    obtain ⟨weight, novelty⟩ := Order.weight_of_reaction reaction
    obtain ⟨ps, published, oneBelow⟩ := Order.publishes_of_reaction s reaction c.deployment
    have light := total_weight_le oneBelow
    refine effort_lt (.inr ⟨?_, ?_⟩)
    · simp only [supply, after]
      omega
    · simp only [echo, after, published, List.drop_left, Shift.total_append]
      omega

/-- Every move leaves less to be done. -/
theorem effort_move_lt {m : Move} (moved : c.move s m = some c') : c'.effort < c.effort := by
  cases m with
  | accept place => exact effort_accept_lt moved
  | deliver place => exact effort_deliver_lt moved
  | carryOut place => exact effort_carryOut_lt moved

/-- What holds of a circuit if it holds after every move holds of all circuits. -/
theorem move_induction (s : Settings) {motive : Circuit → Prop}
    (circuit : ∀ c, (∀ m c', c.move s m = some c' → motive c') → motive c) (c : Circuit) :
    motive c :=
  (InvImage.wf effort wellFounded_lt).induction c fun c ih =>
    circuit c fun _ c' moved => ih c' (effort_move_lt moved)

/-- Nothing is still to come, to be delivered or to be carried out. -/
def IsAtRest (c : Circuit) : Prop := c.inputs = [] ∧ c.pending = [] ∧ c.orders = []

/-- As long as a circuit is not at rest there is a move. -/
theorem isAtRest_of_stuck (stuck : ∀ m, c.move s m = none) : c.IsAtRest := by
  have first : ∀ {α : Type} {l : List α} {f : α → Circuit}, l[0]?.map f = none → l = [] := by
    intro α l f none
    simpa using none
  exact ⟨first (stuck (.accept 0)), first (stuck (.deliver 0)), first (stuck (.carryOut 0))⟩

/-! ## Everything is delivered -/

theorem published_change (d : Deployment) (change : Change) :
    d.published <+: (change.apply d).published := by
  cases change with
  | remove id => exact ⟨_, (published_note _ _).symm⟩
  | _ => exact List.prefix_rfl

/-- Whatever was published meanwhile is still to be delivered. -/
theorem length_after {d : Deployment} (more : c.deployment.published <+: d.published) :
    c.pending.length + d.published.length =
      c.deployment.published.length + (c.after d).pending.length := by
  have longer := more.length_le
  simp only [after, List.length_append, List.length_drop]
  omega

theorem length_takeIn (i : Input) :
    c.pending.length + (c.takeIn s i).deployment.published.length =
      c.deployment.published.length + (c.takeIn s i).pending.length := by
  cases i with
  | config e =>
    have same := published_sayAll c.deployment (Order.ofConfigEvent s e).1
    simp only [takeIn, hear, same, Nat.add_comm]
  | order o => exact Nat.add_comm ..
  | change change => exact length_after (published_change _ _)
  | resume rest => exact length_after (rest.published_extends _)

/-- Whether a publication is delivered. -/
def Move.isDelivery : Move → Bool
  | deliver _ => true
  | accept _ | carryOut _ => false

theorem length_move {m : Move} (moved : c.move s m = some c') :
    c.pending.length + c'.deployment.published.length =
      c.deployment.published.length + [m].countP (·.isDelivery) + c'.pending.length := by
  cases m with
  | accept place =>
    obtain ⟨i, -, rfl⟩ := Option.map_eq_some_iff.1 moved
    exact length_takeIn (c := { c with inputs := c.inputs.eraseIdx place }) i
  | deliver place =>
    obtain ⟨p, found, rfl⟩ := Option.map_eq_some_iff.1 moved
    have inside : place < c.pending.length := (List.getElem?_eq_some_iff.1 found).1
    have fewer := List.length_eraseIdx_of_lt inside
    have same := published_sayAll c.deployment p.handle.1
    simp only [hear, same, fewer, List.countP_singleton, Move.isDelivery, if_true]
    omega
  | carryOut place =>
    obtain ⟨o, -, rfl⟩ := Option.map_eq_some_iff.1 moved
    exact length_after (c := { c with orders := c.orders.eraseIdx place })
      ((o.job s).published_extends _)

/-- Every publication of a play is delivered in it, or still to be delivered afterwards. -/
theorem length_play {moves : List Move} (played : c.play s moves = some c') :
    c.pending.length + c'.deployment.published.length =
      c.deployment.published.length + moves.countP (·.isDelivery) + c'.pending.length := by
  induction moves generalizing c with
  | nil =>
    cases played
    exact Nat.add_comm ..
  | cons m rest ih =>
    obtain ⟨v, moved, played⟩ := Option.bind_eq_some_iff.1 played
    have first := length_move moved
    have later := ih played
    have both : (m :: rest).countP (·.isDelivery) =
        [m].countP (·.isDelivery) + rest.countP (·.isDelivery) := by
      rw [← List.countP_append, List.singleton_append]
    omega

/-! ## Circuits come to rest -/

/-- The moves that can be made. -/
def moves (c : Circuit) : List Move :=
  (List.range c.inputs.length).map .accept ++ (List.range c.pending.length).map .deliver ++
    (List.range c.orders.length).map .carryOut

theorem mem_moves {m : Move} (moved : c.move s m = some c') : m ∈ c.moves := by
  have inside : ∀ {α : Type} {l : List α} {f : α → Circuit} {place : Nat},
      l[place]?.map f = some c' → place < l.length := by
    intro α l f place some
    obtain ⟨a, found, -⟩ := Option.map_eq_some_iff.1 some
    exact (List.getElem?_eq_some_iff.1 found).1
  cases m with
  | accept place => simp [moves, inside moved]
  | deliver place => simp [moves, inside moved]
  | carryOut place => simp [moves, inside moved]

/-- One bound does for finitely many, if each of them has one. -/
theorem exists_common_bound {α : Type} {P : α → Nat → Prop} (l : List α)
    (mono : ∀ a ∈ l, ∀ m n, m ≤ n → P a m → P a n) (each : ∀ a ∈ l, ∃ n, P a n) :
    ∃ n, ∀ a ∈ l, P a n := by
  induction l with
  | nil => exact ⟨0, nofun⟩
  | cons a rest ih =>
    obtain ⟨n, first⟩ := each a List.mem_cons_self
    obtain ⟨m, others⟩ := ih (fun b mem => mono b (List.mem_cons_of_mem _ mem))
      fun b mem => each b (List.mem_cons_of_mem _ mem)
    refine ⟨max n m, fun b mem => ?_⟩
    rcases List.mem_cons.1 mem with rfl | mem
    · exact mono b List.mem_cons_self _ _ (Nat.le_max_left ..) first
    · exact mono b (List.mem_cons_of_mem _ mem) _ _ (Nat.le_max_right ..) (others b mem)

/-- All plays of a circuit together are bounded. -/
def Bounded (s : Settings) (c : Circuit) (bound : Nat) : Prop :=
  ∀ moves c', c.play s moves = some c' →
    moves.length ≤ bound ∧ c'.deployment.published.length ≤ bound

theorem Bounded.mono {m n : Nat} (h : c.Bounded s m) (le : m ≤ n) : c.Bounded s n :=
  fun moves c' played => ⟨(h moves c' played).1.trans le, (h moves c' played).2.trans le⟩

/-- A circuit is bounded, if it is after every move. -/
theorem bounded_of_moves {n : Nat}
    (each : ∀ m c', c.move s m = some c' → c'.Bounded s n) :
    c.Bounded s (max (n + 1) c.deployment.published.length) := by
  intro moves c' played
  cases moves with
  | nil =>
    cases played
    exact ⟨Nat.zero_le _, Nat.le_max_right ..⟩
  | cons m rest =>
    obtain ⟨v, moved, rest⟩ := Option.bind_eq_some_iff.1 played
    obtain ⟨short, few⟩ := each m v moved _ c' rest
    rw [List.length_cons]
    omega

theorem exists_bounded (s : Settings) (c : Circuit) : ∃ bound, c.Bounded s bound := by
  induction c using move_induction s with
  | circuit c ih =>
    have each : ∀ m ∈ c.moves, ∃ n, ∀ v, c.move s m = some v → v.Bounded s n := by
      intro m _
      cases moved : c.move s m with
      | none => exact ⟨0, nofun⟩
      | some v =>
        obtain ⟨n, bounded⟩ := ih m v moved
        refine ⟨n, fun v' same => ?_⟩
        cases same
        exact bounded
    obtain ⟨n, bounded⟩ := exists_common_bound c.moves
      (fun _ _ _ _ le h v moved => (h v moved).mono le) each
    exact ⟨_, bounded_of_moves fun m v moved => bounded m (mem_moves moved) v moved⟩

/-- Any circuit can be brought to rest. -/
theorem exists_rest (s : Settings) (c : Circuit) :
    ∃ moves c', c.play s moves = some c' ∧ c'.IsAtRest := by
  induction c using move_induction s with
  | circuit c ih =>
    by_cases stuck : ∀ m, c.move s m = none
    · exact ⟨[], c, rfl, isAtRest_of_stuck stuck⟩
    · obtain ⟨m, can⟩ := not_forall.1 stuck
      obtain ⟨v, moved⟩ := Option.ne_none_iff_exists'.1 can
      obtain ⟨moves, c', played, rest⟩ := ih m v moved
      exact ⟨m :: moves, c', by rw [play, moved]; exact played, rest⟩

/-- However long deliveries take and in whatever order things happen, the events of the store and of
the sessions come to an end. -/
theorem comes_to_rest (s : Settings) :
    -- A publication that is handled leads to one further publication at most.
    (∀ (p : Publication) (o : Order), p.handle.2 = some o → ∀ d : Deployment,
      ((o.job s).run d).1.isEnded = true ∧
        ∃ ps, ((o.job s).run d).2.published = d.published ++ ps ∧ ps.length ≤ 1) ∧
    -- A chain of them has three links at most.
    (∀ chain : List Publication, chain.IsChain (Publication.Begets s) → chain.length ≤ 3) ∧
    -- Whatever is still to come and to be done, only so many moves are possible, and only so many
    -- events are published.
    (∀ c : Circuit, ∃ bound, ∀ moves c', c.play s moves = some c' →
      moves.length ≤ bound ∧ c'.deployment.published.length ≤ bound) ∧
    -- What was published is delivered once, or still pending.
    (∀ (c c' : Circuit) moves, c.play s moves = some c' →
      c.pending.length + c'.deployment.published.length =
        c.deployment.published.length + moves.countP (·.isDelivery) + c'.pending.length) ∧
    -- The moves lead to rest, and end only there.
    (∀ c : Circuit, ∃ moves c', c.play s moves = some c' ∧ c'.IsAtRest) ∧
    ∀ c : Circuit, (∀ m, c.move s m = none) → c.IsAtRest := by
  refine ⟨fun p o becomes d => ?_, fun chain begets => ?_, exists_bounded s,
    fun _ _ _ => length_play, exists_rest s, fun c => isAtRest_of_stuck⟩
  · have reaction := Publication.rank?_of_handle becomes
    obtain ⟨ps, published, few, -⟩ := Order.publishes_of_reaction s reaction d
    exact ⟨Order.ends_of_reaction s reaction d, ps, published, few⟩
  · cases chain with
    | nil => exact Nat.zero_le _
    | cons p rest =>
      have short := Publication.length_le_of_chain begets
      have low := p.rank_le
      rw [List.length_cons]
      omega

end Circuit

end Southbound
