import Mathlib.Data.List.Nodup
import Southbound.Crew
import Southbound.Proofs.Footprint

/-!
# Interleaved jobs

`Crew.Next` says what a move of a crew can come to, and `Crew.play_keeps` that what every move keeps
is kept by every interleaving.  An order that is carried out in one go is one of them
(`Crew.play_run`).

Some questions about an interleaving have answers that do not depend on who did what and when.  What
an order owes on every path is done once nothing is pending, and in its order (`Crew.Under.owed`).
What an action settles holds at the end, unless an action that takes it back was done after it
(`Crew.Under.settled`).  And what only one order does keeps the order that this one gives it
(`Crew.after_did`).

An order may do one thing or another as the answers are.  `Job.Within` and `Job.Leads` say what it
does as long as the answers are those of deployments of a certain kind, and `Crew.Closed` that the
orders leave a deployment of the kind behind, so that the answers are.
-/

namespace Southbound

open Job

/-! ## What a move does -/

/-- A running entry has its place among all that are pending. -/
theorem Pool.pending_at {τ : Type} {p : Pool τ} {place : Nat} {a : τ}
    (h : p.running[place]? = some a) :
    ∃ before after, p.pending = before ++ a :: after ∧
      (∀ t, (p.update place t).pending = before ++ t :: after) ∧
      (p.finish place).pending = before ++ after := by
  obtain ⟨inside, rfl⟩ := List.getElem?_eq_some_iff.1 h
  refine ⟨p.running.take place, p.running.drop (place + 1) ++ p.queue, ?_, fun t => ?_, ?_⟩
  · rw [← List.cons_append, ← List.drop_eq_getElem_cons inside, ← List.append_assoc,
      List.take_append_drop, Pool.pending]
  · rw [Pool.pending, Pool.update, List.set_eq_take_append_cons_drop, if_pos inside]
    simp
  · rw [Pool.pending, Pool.finish, List.eraseIdx_eq_take_drop_succ, List.append_assoc]

namespace Pool

variable {τ : Type} {p : Pool τ} {place : Nat} {a : τ}

theorem update_self (h : p.running[place]? = some a) : p.update place a = p := by
  obtain ⟨inside, rfl⟩ := List.getElem?_eq_some_iff.1 h
  rw [Pool.update, List.set_getElem_self]

theorem running_update (h : p.running[place]? = some a) (t : τ) :
    (p.update place t).running[place]? = some t := by
  obtain ⟨inside, _⟩ := List.getElem?_eq_some_iff.1 h
  exact List.getElem?_set_self inside

theorem update_update (t t' : τ) : (p.update place t).update place t' = p.update place t' := by
  simp [Pool.update]

end Pool

/-- What is left of a job. -/
def Progress.job {α : Type} : Progress α → Job α
  | done a => .done a
  | crashed => .crashed
  | waiting rest => rest

namespace Crew

/-- What a move can come to. -/
inductive Next (c c' : Crew) : Prop
  /-- An order was taken. -/
  | took (pending : c'.pool.pending = c.pool.pending) (deployment : c'.deployment = c.deployment)
      (deeds : c'.deeds = c.deeds)
  /-- An action was done. -/
  | went {before after : List Assignment} {o : Order} {a : Action}
      {next : Option a.Answer → Job (Except RoleError Unit)}
      (pending : c.pool.pending = before ++ ⟨o, .act a next⟩ :: after)
      (pending' : c'.pool.pending = before ++ ⟨o, next (c.deployment.perform a).1⟩ :: after)
      (deployment : c'.deployment = (c.deployment.perform a).2) (deeds : c'.deeds = c.deeds ++ [a])
  /-- An order is done with, and its breakdown was logged if there was one. -/
  | left {before after : List Assignment} {e : Assignment} {lines : List LogLine}
      (pending : c.pool.pending = before ++ e :: after)
      (ended : e.rest = .crashed ∨ ∃ result, e.rest = .done result)
      (pending' : c'.pool.pending = before ++ after)
      (deployment : c'.deployment = c.deployment.sayAll lines) (deeds : c'.deeds = c.deeds)

theorem next_of_move {c c' : Crew} {m : Move} (h : c.move m = some c') : c.Next c' := by
  cases m with
  | take =>
    simp only [move, take] at h
    cases started : c.pool.start? with
    | none => simp [started] at h
    | some entry =>
      obtain ⟨t, pool⟩ := entry
      simp only [started, Option.some.injEq] at h
      subst h
      exact .took (Pool.pending_start started).1 rfl rfl
  | go place =>
    simp only [move, go] at h
    cases running : c.pool.running[place]? with
    | none => simp [running] at h
    | some entry =>
      obtain ⟨before, after, pending, updated, _⟩ := Pool.pending_at running
      obtain ⟨o, rest⟩ := entry
      cases rest with
      | done | crashed => simp [running] at h
      | act a next =>
        by_cases ready : c.deployment.isReady a = true
        · simp only [running, ready, if_true, Option.some.injEq] at h
          subst h
          exact .went pending (updated _) rfl rfl
        · simp [running, ready] at h
  | leave place =>
    simp only [move, leave] at h
    cases running : c.pool.running[place]? with
    | none => simp [running] at h
    | some entry =>
      obtain ⟨before, after, pending, _, finished⟩ := Pool.pending_at running
      obtain ⟨o, rest⟩ := entry
      cases rest with
      | done result =>
        simp only [running, Option.some.injEq] at h
        subst h
        have silent : c.deployment.sayAll [] = c.deployment := by
          simp [Deployment.sayAll, Deployment.note]
        exact .left pending (.inr ⟨result, rfl⟩) finished silent.symm rfl
      | crashed =>
        simp only [running, Option.some.injEq] at h
        subst h
        have said : c.deployment.say (.jobFailed c.pool.name o.label) =
            c.deployment.sayAll [.jobFailed c.pool.name o.label] := rfl
        exact .left pending (.inl rfl) finished said rfl
      | act => simp [running] at h

/-- The worker in a place may carry out its order in one go, as far as the order gets. -/
theorem play_run {c : Crew} {place : Nat} {o : Order} {j : Job (Except RoleError Unit)}
    (running : c.pool.running[place]? = some ⟨o, j⟩) :
    ∃ n deeds, c.play (List.replicate n (.go place)) =
      some ⟨c.pool.update place ⟨o, (j.run c.deployment).1.job⟩, (j.run c.deployment).2,
        c.deeds ++ deeds⟩ := by
  induction j generalizing c with
  | done r =>
    have same := Pool.update_self running
    exact ⟨0, [], by simp [play, Job.run, Progress.job, same]⟩
  | crashed =>
    have same := Pool.update_self running
    exact ⟨0, [], by simp [play, Job.run, Progress.job, same]⟩
  | act a next ih =>
    by_cases ready : c.deployment.isReady a = true
    · let c₁ : Crew := ⟨c.pool.update place ⟨o, next (c.deployment.perform a).1⟩,
        (c.deployment.perform a).2, c.deeds ++ [a]⟩
      have moved : c.move (.go place) = some c₁ := by simp [move, go, running, ready, c₁]
      obtain ⟨n, deeds, played⟩ := ih (c.deployment.perform a).1 (c := c₁)
        (Pool.running_update running _)
      refine ⟨n + 1, a :: deeds, ?_⟩
      rw [List.replicate_succ, play, moved, Option.bind_some, played, run_act a next _ ready]
      simp [c₁, Pool.update_update]
    · have same := Pool.update_self running
      exact ⟨0, [], by simp [play, Job.run, ready, Progress.job, same]⟩

theorem play_append (c : Crew) (earlier later : List Move) :
    c.play (earlier ++ later) = (c.play earlier).bind (·.play later) := by
  induction earlier generalizing c with
  | nil => rfl
  | cons m rest ih => simp only [List.cons_append, play, Option.bind_assoc, ih]

/-- What every move keeps is kept by a play. -/
theorem play_keeps {I : Crew → Prop} (step : ∀ c c', c.Next c' → I c → I c') {c c' : Crew}
    {moves : List Move} (played : c.play moves = some c') (h : I c) : I c' := by
  induction moves generalizing c with
  | nil =>
    cases played
    exact h
  | cons m rest ih =>
    obtain ⟨c₁, moved, played⟩ := Option.bind_eq_some_iff.1 played
    exact ih played (step c c₁ (next_of_move moved) h)

end Crew

/-! ## What a job will have done -/

namespace Job

variable {α β : Type} {P : Deployment → Prop} {ok : Action → Prop}

/-- Every action of the job is of a certain kind and its result is as asked, as long as the answers
are those of deployments of a certain kind. -/
def Within (P : Deployment → Prop) (ok : Action → Prop) : Job α → (α → Prop) → Prop
  | done a, Q => Q a
  | crashed, _ => True
  | act a next, Q => ok a ∧ ∀ d, P d → (next (d.perform a).1).Within P ok Q

/-- Every action of the job is of a certain kind, as long as the answers are. -/
abbrev Stays (P : Deployment → Prop) (ok : Action → Prop) (j : Job α) : Prop :=
  j.Within P ok fun _ => True

theorem within_bind {j : Job α} {f : α → Job β} {Q : β → Prop} :
    (bind j f).Within P ok Q ↔ j.Within P ok fun a => (f a).Within P ok Q := by
  induction j with
  | done a => rfl
  | crashed => rfl
  | act a next ih => simp only [act_bind, Within, ih]

theorem within_ofAction {a : Action} {Q : a.Answer → Prop} (okay : ok a)
    (answers : ∀ d answer, P d → (d.perform a).1 = some answer → Q answer) :
    (ofAction a).Within P ok Q := by
  refine ⟨okay, fun d h => ?_⟩
  cases answered : (d.perform a).1 with
  | none => trivial
  | some answer => exact answers d answer h answered

theorem Stays.mono {ok' : Action → Prop} {j : Job α} (h : j.Stays P ok)
    (kinder : ∀ a, ok a → ok' a) : j.Stays P ok' := by
  induction j with
  | done | crashed => trivial
  | act a next ih => exact ⟨kinder a h.1, fun d hd => ih _ (h.2 d hd)⟩

/-- What a job does whatever is answered. -/
theorem Only.stays {j : Job α} (only : j.Only ok) : j.Stays P ok := by
  induction j with
  | done | crashed => trivial
  | act a next ih => exact ⟨only.1, fun _ _ => ih _ (only.2 _)⟩

/-- The job does these actions in their order, or ends as asked with some of them left, as long as
the answers are those of deployments of a certain kind; it does not break down before. -/
def Leads (P : Deployment → Prop) : Job α → List Action → (α → List Action → Prop) → Prop
  | _, [], _ => True
  | done a, due, Q => Q a due
  | crashed, _, _ => False
  | act a next, b :: due, Q =>
    (a = b ∧ ∀ d, P d → (next (d.perform a).1).Leads P due Q) ∨
      ∀ d, P d → (next (d.perform a).1).Leads P (b :: due) Q

/-- The job does these actions before it ends, in their order. -/
abbrev Owes (P : Deployment → Prop) (due : List Action) (j : Job α) : Prop :=
  j.Leads P due fun _ _ => False

variable {b : Action} {due : List Action}

@[simp] theorem leads_nil (j : Job α) (Q : α → List Action → Prop) : j.Leads P [] Q := by
  cases j <;> trivial

theorem leads_bind {j : Job α} {f : α → Job β} {Q : β → List Action → Prop} :
    (bind j f).Leads P due Q ↔ j.Leads P due fun a left => (f a).Leads P left Q := by
  induction j generalizing due with
  | done a => cases due <;> simp [Leads]
  | crashed => cases due <;> simp [Leads]
  | act a next ih => cases due <;> simp only [act_bind, Leads, ih]

theorem Leads.mono {j : Job α} {Q Q' : α → List Action → Prop} (h : j.Leads P due Q)
    (weaker : ∀ a left, Q a left → Q' a left) : j.Leads P due Q' := by
  induction j generalizing due with
  | done a =>
    cases due with
    | nil => trivial
    | cons => exact weaker a _ h
  | crashed =>
    cases due with
    | nil => trivial
    | cons => exact h
  | act a next ih =>
    cases due with
    | nil => trivial
    | cons b due =>
      rcases h with ⟨same, later⟩ | later
      · exact .inl ⟨same, fun d hd => ih _ (later d hd)⟩
      · exact .inr fun d hd => ih _ (later d hd)

/-- An action that is the next to be due. -/
theorem leads_self {Q : b.Answer → List Action → Prop}
    (answers : ∀ d, P d → ∃ answer, (d.perform b).1 = some answer ∧ Q answer due) :
    (ofAction b).Leads P (b :: due) Q := by
  refine .inl ⟨rfl, fun d h => ?_⟩
  obtain ⟨answer, answered, left⟩ := answers d h
  rw [answered]
  cases due with
  | nil => trivial
  | cons => exact left

/-- The last action that is due. -/
theorem leads_last {Q : b.Answer → List Action → Prop} : (ofAction b).Leads P [b] Q :=
  .inl ⟨rfl, fun _ _ => leads_nil _ _⟩

/-- Another action. -/
theorem leads_ofAction {a : Action} {Q : a.Answer → List Action → Prop}
    (answers : ∀ d, P d → ∃ answer, (d.perform a).1 = some answer ∧ Q answer due) :
    (ofAction a).Leads P due Q := by
  cases due with
  | nil => trivial
  | cons b due =>
    refine .inr fun d h => ?_
    obtain ⟨answer, answered, left⟩ := answers d h
    rw [answered]
    exact left

/-- Whatever is answered, only actions of a certain kind follow an action. -/
def After (b : Action) (ok : Action → Prop) : Job α → Prop
  | done _ | crashed => True
  | act a next => ∀ reply, (a = b → (next reply).Only ok) ∧ (next reply).After b ok

theorem after_of_only {j : Job α} (other : j.Only fun a => a ≠ b) : j.After b ok := by
  induction j with
  | done | crashed => trivial
  | act a next ih => exact fun reply => ⟨fun same => absurd same other.1, ih _ (other.2 _)⟩

theorem after_bind {a : Action} {f : a.Answer → Job β}
    (follow : a = b → ∀ answer, (f answer).Only ok) (later : ∀ answer, (f answer).After b ok) :
    (bind (ofAction a) f).After b ok := by
  rintro (_ | answer)
  · exact ⟨fun _ => trivial, trivial⟩
  · exact ⟨fun same => follow same answer, later answer⟩

end Job

/-! ## The orders of a crew -/

namespace Crew

/-- An action was done, and another one not since. -/
def Prevails (c : Crew) (a b : Action) : Prop :=
  ∃ before after, c.deeds = before ++ a :: after ∧ b ∉ after

/-- Of two actions one prevails. -/
theorem prevails_or {c : Crew} {a : Action} (b : Action) (did : a ∈ c.deeds) :
    c.Prevails a b ∨ c.Prevails b a := by
  obtain ⟨pool, d, deeds⟩ := c
  simp only [Prevails] at did ⊢
  induction deeds with
  | nil => simp at did
  | cons x rest ih =>
    by_cases again : a ∈ rest
    · rcases ih again with ⟨before, after, rfl, absent⟩ | ⟨before, after, rfl, absent⟩
      · exact .inl ⟨x :: before, after, rfl, absent⟩
      · exact .inr ⟨x :: before, after, rfl, absent⟩
    obtain rfl : a = x := (List.mem_cons.1 did).resolve_right again
    by_cases follows : b ∈ rest
    · obtain ⟨before, after, rfl⟩ := List.append_of_mem follows
      exact .inr ⟨a :: before, after, rfl, fun mem => again (by simp [mem])⟩
    · exact .inl ⟨[], rest, rfl, follows⟩

theorem not_prevails {c : Crew} {a b : Action} {earlier later : List Action}
    (did : c.deeds = earlier ++ later) (past : a ∉ later) (since : b ∈ later) :
    ¬ c.Prevails a b := by
  rintro ⟨before, after, split, absent⟩
  rcases List.append_eq_append_iff.1 (did.symm.trans split) with ⟨_, rfl, rfl⟩ | ⟨between, _, rest⟩
  · exact past (by simp)
  · cases between with
    | nil =>
      rw [List.nil_append] at rest
      exact past (rest ▸ List.mem_cons_self)
    | cons x between =>
      rw [List.cons_append, List.cons.injEq] at rest
      exact absent (rest.2 ▸ List.mem_append_right _ since)

/-- The deployment is of a certain kind, and so are all actions that are still to be done; of what
kind depends on the order they are done for. -/
structure Under (P : Deployment → Prop) (ok : Order → Action → Prop) (c : Crew) : Prop where
  deployment : P c.deployment
  jobs : ∀ e ∈ c.pool.pending, e.rest.Stays P (ok e.order)

/-- The kind of deployment is kept by actions of the kind, and by what is logged. -/
structure Closed (P : Deployment → Prop) (ok : Order → Action → Prop) : Prop where
  perform : ∀ d o a, P d → ok o a → P (d.perform a).2
  sayAll : ∀ d lines, P d → P (d.sayAll lines)

namespace Under

variable {P : Deployment → Prop} {ok : Order → Action → Prop} {c c' : Crew}

/-- An action that is done next is of the kind. -/
theorem ok_of_went (h : c.Under P ok) {before after : List Assignment} {o : Order} {a : Action}
    {next : Option a.Answer → Job (Except RoleError Unit)}
    (pending : c.pool.pending = before ++ ⟨o, .act a next⟩ :: after) :
    ok o a ∧ (next (c.deployment.perform a).1).Stays P (ok o) := by
  have own := h.jobs ⟨o, .act a next⟩ (by simp [pending])
  exact ⟨own.1, own.2 _ h.deployment⟩

theorem next (closed : Closed P ok) (step : c.Next c') (h : c.Under P ok) : c'.Under P ok := by
  cases step with
  | took pending deployment deeds =>
    refine ⟨deployment ▸ h.deployment, fun e he => h.jobs e ?_⟩
    rwa [pending] at he
  | went pending pending' deployment deeds =>
    obtain ⟨okay, later⟩ := h.ok_of_went pending
    refine ⟨deployment ▸ closed.perform _ _ _ h.deployment okay, fun e he => ?_⟩
    rw [pending'] at he
    rcases List.mem_append.1 he with earlier | later'
    · exact h.jobs e (by simp [pending, earlier])
    · rcases List.mem_cons.1 later' with rfl | others
      · exact later
      · exact h.jobs e (by simp [pending, others])
  | left pending ended pending' deployment deeds =>
    refine ⟨deployment ▸ closed.sayAll _ _ h.deployment, fun e he => ?_⟩
    rw [pending'] at he
    rcases List.mem_append.1 he with earlier | others
    · exact h.jobs e (by simp [pending, earlier])
    · exact h.jobs e (by simp [pending, others])

theorem play (closed : Closed P ok) {moves : List Move} (played : c.play moves = some c')
    (h : c.Under P ok) : c'.Under P ok :=
  play_keeps (fun _ _ step => next closed step) played h

/-- What an action settles stays settled, as long as no action follows that could take it back. -/
theorem settled (closed : Closed P ok) {b : Action} (undoes : Action → Prop)
    {G : Deployment → Prop} (settles : ∀ d, P d → G (d.perform b).2)
    (keeps : ∀ d o a, P d → ok o a → ¬ undoes a → G d → G (d.perform a).2)
    (said : ∀ d lines, G d → G (d.sayAll lines)) {moves : List Move}
    (played : c.play moves = some c') (h : c.Under P ok) (first : c.deeds = [])
    {before after : List Action} (did : c'.deeds = before ++ b :: after)
    (last : ∀ a ∈ after, ¬ undoes a) : G c'.deployment := by
  let I := fun c : Crew => c.Under P ok ∧ ∀ before after, c.deeds = before ++ b :: after →
    (∀ a ∈ after, ¬ undoes a) → G c.deployment
  have step : ∀ c c' : Crew, c.Next c' → I c → I c' := by
    rintro c c' step ⟨under, good⟩
    refine ⟨under.next closed step, ?_⟩
    cases step with
    | took pending deployment deeds => rwa [deployment, deeds]
    | went pending pending' deployment deeds =>
      rw [deployment, deeds]
      intro before after did last
      rcases split_concat did with ⟨_, rfl, _⟩ | ⟨earlier, rfl, was⟩
      · exact settles _ under.deployment
      · exact keeps _ _ _ under.deployment (under.ok_of_went pending).1 (last _ (by simp))
          (good before earlier was fun a ha => last a (by simp [ha]))
    | left pending ended pending' deployment deeds =>
      rw [deployment, deeds]
      exact fun before after did last => said _ _ (good before after did last)
  refine (play_keeps step played ⟨h, fun before after did => ?_⟩).2 before after did last
  simp [first] at did

/-- A move does the first of what is owed, or all of it is still owed. -/
theorem due_next (h : c.Under P ok) (step : c.Next c') {due : List Action}
    (owing : due = [] ∨ ∃ e ∈ c.pool.pending, e.rest.Owes P due) :
    ∃ earlier left more, due = earlier ++ left ∧ c'.deeds = c.deeds ++ more ∧
      earlier.Sublist more ∧ (left = [] ∨ ∃ e ∈ c'.pool.pending, e.rest.Owes P left) := by
  obtain ⟨more, grown⟩ : ∃ more, c'.deeds = c.deeds ++ more := by
    cases step with
    | took pending deployment deeds => exact ⟨[], by simp [deeds]⟩
    | went pending pending' deployment deeds => exact ⟨_, deeds⟩
    | left pending ended pending' deployment deeds => exact ⟨[], by simp [deeds]⟩
  cases due with
  | nil => exact ⟨[], [], more, rfl, grown, List.nil_sublist _, .inl rfl⟩
  | cons b due =>
    obtain ⟨e, he, owes⟩ := owing.resolve_left (List.cons_ne_nil _ _)
    suffices (b ∈ more.head? ∧ ∃ e ∈ c'.pool.pending, e.rest.Owes P due) ∨
        ∃ e ∈ c'.pool.pending, e.rest.Owes P (b :: due) by
      rcases this with ⟨done, later⟩ | still
      · obtain ⟨rest, rfl⟩ := List.head?_eq_some_iff.1 done
        exact ⟨[b], due, _, rfl, grown, by simp, .inr later⟩
      · exact ⟨[], b :: due, more, rfl, grown, List.nil_sublist _, .inr still⟩
    cases step with
    | took pending deployment deeds => exact .inr ⟨e, pending ▸ he, owes⟩
    | @went before after o a next pending pending' deployment deeds =>
      rw [pending] at he
      rcases List.mem_append.1 he with front | he
      · exact .inr ⟨e, by simp [pending', front], owes⟩
      rcases List.mem_cons.1 he with rfl | back
      · have own : (⟨o, next (c.deployment.perform a).1⟩ : Assignment) ∈ c'.pool.pending := by
          simp [pending']
        rcases owes with ⟨rfl, owes⟩ | owes
        · obtain rfl : more = [a] := List.append_cancel_left (grown.symm.trans deeds)
          exact .inl ⟨rfl, _, own, owes _ h.deployment⟩
        · exact .inr ⟨_, own, owes _ h.deployment⟩
      · exact .inr ⟨e, by simp [pending', back], owes⟩
    | left pending ended pending' deployment deeds =>
      rw [pending] at he
      rcases List.mem_append.1 he with front | he
      · exact .inr ⟨e, by simp [pending', front], owes⟩
      rcases List.mem_cons.1 he with rfl | back
      · rcases ended with ended | ⟨result, ended⟩ <;>
          · rw [ended] at owes
            exact owes.elim
      · exact .inr ⟨e, by simp [pending', back], owes⟩

/-- Of what an order owes, a part is done in its order, and the rest is still owed. -/
theorem due (closed : Closed P ok) {due : List Action} {moves : List Move}
    (played : c.play moves = some c') (h : c.Under P ok)
    (owes : ∃ e ∈ c.pool.pending, e.rest.Owes P due) :
    ∃ earlier left more, due = earlier ++ left ∧ c'.deeds = c.deeds ++ more ∧
      earlier.Sublist more ∧ (left = [] ∨ ∃ e ∈ c'.pool.pending, e.rest.Owes P left) := by
  let I := fun c' : Crew => c'.Under P ok ∧
    ∃ earlier left more, due = earlier ++ left ∧ c'.deeds = c.deeds ++ more ∧
      earlier.Sublist more ∧ (left = [] ∨ ∃ e ∈ c'.pool.pending, e.rest.Owes P left)
  have step : ∀ c₁ c₂ : Crew, c₁.Next c₂ → I c₁ → I c₂ := by
    rintro c₁ c₂ step ⟨under, earlier, left, more, split, did, sub, owes⟩
    obtain ⟨now, left', more', rfl, did', sub', owes'⟩ := under.due_next step owes
    exact ⟨under.next closed step, earlier ++ now, left', more ++ more', by simp [split],
      by rw [did', did, List.append_assoc], sub.append sub', owes'⟩
  exact (play_keeps step played ⟨h, [], due, [], rfl, by simp, .slnil, .inr owes⟩).2

/-- What an order owes is done once nothing is pending. -/
theorem owed (closed : Closed P ok) {due : List Action} {moves : List Move}
    (played : c.play moves = some c') (h : c.Under P ok)
    (owes : ∃ e ∈ c.pool.pending, e.rest.Owes P due) (idle : c'.pool.pending = []) :
    ∃ more, c'.deeds = c.deeds ++ more ∧ due.Sublist more := by
  obtain ⟨earlier, left, more, rfl, did, sub, owes⟩ := h.due closed played owes
  rcases owes with rfl | ⟨e, he, _⟩
  · exact ⟨more, did, by rwa [List.append_nil]⟩
  · simp [idle] at he

/-- What is done is of a kind that one of the pending orders asks for. -/
theorem did (closed : Closed P ok) {moves : List Move} (played : c.play moves = some c')
    (h : c.Under P ok) : (∀ e ∈ c'.pool.pending, e.order ∈ c.pool.pending.map (·.order)) ∧
      ∃ more, c'.deeds = c.deeds ++ more ∧
        ∀ a ∈ more, ∃ o ∈ c.pool.pending.map (·.order), ok o a := by
  let I := fun c' : Crew => c'.Under P ok ∧
    (∀ e ∈ c'.pool.pending, e.order ∈ c.pool.pending.map (·.order)) ∧
    ∃ more, c'.deeds = c.deeds ++ more ∧ ∀ a ∈ more, ∃ o ∈ c.pool.pending.map (·.order), ok o a
  have step : ∀ c₁ c₂ : Crew, c₁.Next c₂ → I c₁ → I c₂ := by
    rintro c₁ c₂ step ⟨under, orders, more, did, kind⟩
    refine ⟨under.next closed step, ?_⟩
    cases step with
    | took pending deployment deeds =>
      rw [pending]
      exact ⟨orders, more, deeds.trans did, kind⟩
    | @went before after o a next pending pending' deployment deeds =>
      have own : o ∈ c.pool.pending.map (·.order) := orders ⟨o, .act a next⟩ (by simp [pending])
      refine ⟨fun e he => ?_, more ++ [a], by rw [deeds, did, List.append_assoc], fun x hx => ?_⟩
      · rw [pending'] at he
        rcases List.mem_append.1 he with earlier | he
        · exact orders e (by simp [pending, earlier])
        · rcases List.mem_cons.1 he with rfl | others
          · exact own
          · exact orders e (by simp [pending, others])
      · rcases List.mem_append.1 hx with earlier | now
        · exact kind x earlier
        · cases List.mem_singleton.1 now
          exact ⟨o, own, (under.ok_of_went pending).1⟩
    | left pending ended pending' deployment deeds =>
      refine ⟨fun e he => orders e ?_, more, deeds.trans did, kind⟩
      rw [pending'] at he
      rw [pending]
      exact (List.Sublist.append_left (List.sublist_cons_self ..) _).subset he
  exact (play_keeps step played ⟨h, fun e he => List.mem_map_of_mem he, [], by simp, by simp⟩).2

end Under

/-- What is pending after an action was done is what was pending before, but for the order that did
it. -/
theorem pending_of_went {pending pending' before after : List Assignment} {o : Order}
    {rest rest' : Job (Except RoleError Unit)} (apart : (pending.map (·.order)).Nodup)
    (was : pending = before ++ ⟨o, rest⟩ :: after) (is : pending' = before ++ ⟨o, rest'⟩ :: after) :
    ∀ e ∈ pending', e = ⟨o, rest'⟩ ∨ e ∈ pending ∧ e.order ≠ o := by
  subst was is
  rw [List.map_append, List.map_cons, List.nodup_middle, List.nodup_cons,
    ← List.map_append] at apart
  intro e he
  have other : e ∈ before ++ after → e ∈ before ++ ⟨o, rest⟩ :: after ∧ e.order ≠ o := by
    intro mem
    exact ⟨by rcases List.mem_append.1 mem with front | back <;> simp [*],
      fun same => apart.1 (List.mem_map.2 ⟨e, mem, same⟩)⟩
  rcases List.mem_append.1 he with front | he
  · exact .inr (other (List.mem_append_left _ front))
  · rcases List.mem_cons.1 he with rfl | back
    · exact .inl rfl
    · exact .inr (other (List.mem_append_right _ back))

/-- Only one order does the action, and everything that follows is of a certain kind. -/
structure Sole (own : Order) (b : Action) (ok : Action → Prop) (c : Crew) : Prop where
  apart : (c.pool.pending.map (·.order)).Nodup
  owner : ∀ e ∈ c.pool.pending, e.order = own → e.rest.After b ok
  others : ∀ e ∈ c.pool.pending, e.order ≠ own → e.rest.Only fun a => ok a ∧ a ≠ b
  since : ∀ before after, c.deeds = before ++ b :: after →
    (∀ a ∈ after, ok a) ∧ ∀ e ∈ c.pool.pending, e.rest.Only ok

theorem Sole.next {own : Order} {b : Action} {ok : Action → Prop} {c c' : Crew}
    (h : c.Sole own b ok) (step : c.Next c') : c'.Sole own b ok := by
  cases step with
  | took pending deployment deeds =>
    exact ⟨pending ▸ h.apart, pending ▸ h.owner, pending ▸ h.others,
      by rw [pending, deeds]; exact h.since⟩
  | @went before after o a next pending pending' deployment deeds =>
    have mem : ⟨o, .act a next⟩ ∈ c.pool.pending := by simp [pending]
    have orders : c'.pool.pending.map (·.order) = c.pool.pending.map (·.order) := by
      simp [pending, pending']
    have moved := pending_of_went h.apart pending pending'
    refine ⟨orders ▸ h.apart, fun e he same => ?_, fun e he other => ?_,
      fun earlier later did => ?_⟩
    · rcases moved e he with rfl | ⟨he, _⟩
      · exact (h.owner _ mem same _).2
      · exact h.owner e he same
    · rcases moved e he with rfl | ⟨he, _⟩
      · exact (h.others _ mem other).2 _
      · exact h.others e he other
    · rw [deeds] at did
      rcases split_concat did with ⟨_, rfl, rfl⟩ | ⟨later, rfl, was⟩
      · -- The owner did it just now, and goes on as it does after that.
        have same : o = own := by
          by_contra other
          exact (h.others _ mem other).1.2 rfl
        refine ⟨by simp, fun e he => ?_⟩
        rcases moved e he with rfl | ⟨he, other⟩
        · exact (h.owner _ mem same _).1 rfl
        · exact (h.others e he (same ▸ other)).mono fun _ ok => ok.1
      · obtain ⟨kind, rest⟩ := h.since earlier later was
        have now := rest _ mem
        refine ⟨fun x hx => ?_, fun e he => ?_⟩
        · rcases List.mem_append.1 hx with hx | hx
          · exact kind x hx
          · exact List.mem_singleton.1 hx ▸ now.1
        · rcases moved e he with rfl | ⟨he, _⟩
          · exact now.2 _
          · exact rest e he
  | left pending ended pending' deployment deeds =>
    have fewer : c'.pool.pending.Sublist c.pool.pending := by
      rw [pending, pending']
      exact List.Sublist.append_left (List.sublist_cons_self ..) _
    refine ⟨(fewer.map _).nodup h.apart, fun e he => h.owner e (fewer.subset he),
      fun e he => h.others e (fewer.subset he), fun before after did => ?_⟩
    obtain ⟨kind, rest⟩ := h.since before after (deeds ▸ did)
    exact ⟨kind, fun e he => rest e (fewer.subset he)⟩

/-- What only one order does, and does in a certain place, is done in that place: where all that
follows an action of the order is of a certain kind, and the others do nothing else and not this
action, nothing else follows. -/
theorem after_did {c c' : Crew} (own : Order) {b : Action} {ok : Action → Prop}
    {moves : List Move} (played : c.play moves = some c') (first : c.deeds = [])
    (apart : (c.pool.pending.map (·.order)).Nodup)
    (owner : ∀ e ∈ c.pool.pending, e.order = own → e.rest.After b ok)
    (others : ∀ e ∈ c.pool.pending, e.order ≠ own → e.rest.Only fun a => ok a ∧ a ≠ b)
    {before after : List Action} (did : c'.deeds = before ++ b :: after) :
    ∀ a ∈ after, ok a := by
  have sole : c.Sole own b ok := ⟨apart, owner, others, by simp [first]⟩
  exact ((play_keeps (fun _ _ step h => Sole.next h step) played sole).since _ _ did).1

end Crew

end Southbound
