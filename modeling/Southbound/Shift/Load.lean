import Southbound.Shift

/-!
# Shifts come to an end

Every turn makes the load of a shift smaller, as long as the passes of each schedule are apart
(`load_step_lt`).  So the number of turns that `Shift.work` allows is enough: it stops only when
nobody has anything to do (`turns_work`).
-/

namespace Southbound.Shift

/-! ## What a turn adds to the load and takes from it -/

theorem total_append {α : Type} (count : α → Nat) :
    ∀ l m : List α, total count (l ++ m) = total count l + total count m
  | [], m => by simp [total]
  | x :: rest, m => by
    simp only [List.cons_append, total, total_append count rest m]
    omega

/-- A replaced entry changes a total by the difference. -/
theorem total_set {α : Type} (count : α → Nat) (a b : α) :
    ∀ (l : List α) (place : Nat), l[place]? = some b →
      total count (l.set place a) + count b = total count l + count a
  | [], _, h => by simp at h
  | x :: rest, 0, h => by
    obtain rfl : x = b := by simpa using h
    simp only [List.set_cons_zero, total]
    omega
  | x :: rest, place + 1, h => by
    have := total_set count a b rest place (by simpa using h)
    simp only [List.set_cons_succ, total]
    omega

theorem load_give (s : Shift) (t : Turn) : (s.give t).load = s.load + turnLoad t := by
  simp only [load, give, total_append, total]
  omega

theorem load_serve_le (s : Shift) : s.serve.load ≤ s.load := by
  unfold serve
  split
  · exact Nat.le_refl _
  · next start =>
    have queue := Pool.queue_start start
    dsimp only
    split
    · rw [load_give]
      simp only [load, turnLoad, queue, List.length_cons]
      omega
    · rw [load_give, load_give]
      simp only [load, turnLoad, queue, List.length_cons]
      omega

theorem load_lineUp_le (s : Shift) : s.lineUp.load ≤ s.load := by
  unfold lineUp
  dsimp only
  split
  · exact load_serve_le _
  · exact Nat.le_refl _

theorem load_finish (s : Shift) (place : Nat) (a : Assignment)
    (result : Option (Except RoleError Unit)) (line : Option LogLine) :
    (s.finish place a result line).load = s.load + 1 := load_give _ _

theorem load_carryOn_le (s : Shift) : s.carryOn.load ≤ s.load + 1 := by
  unfold carryOn
  split
  · omega
  · split
    · exact Nat.le_of_eq (load_finish _ _ _ _ _)
    · exact Nat.le_of_eq (load_finish _ _ _ _ _)
    · exact Nat.le_succ _

/-- What is left of a pass is no matter of the load. -/
theorem load_withPass (s : Shift) (d : Deployment) (place : Nat) (schedule : Schedule)
    (pass : Option (Job Unit)) (found : s.schedules[place]? = some schedule) :
    Shift.load
      { s with deployment := d, schedules := s.schedules.set place (schedule.withPass pass) } =
      s.load := by
  have := total_set (fun x => 2 * x.ticker.arrears s.now) (schedule.withPass pass) schedule
    s.schedules place found
  simp only [load, Schedule.withPass] at this ⊢
  omega

theorem load_carryOnPass_le (s : Shift) (place : Nat) :
    (s.carryOnPass place).load ≤ s.load + 1 := by
  unfold carryOnPass
  split
  · omega
  · next schedule found =>
    have same := fun d pass => load_withPass s d place schedule pass found
    split
    · omega
    · dsimp only
      split
      · exact Nat.le_of_eq ((load_give _ _).trans (congrArg (· + 1) (same _ _)))
      · exact Nat.le_succ_of_le (Nat.le_of_eq (same _ _))

/-! ## Every turn makes the load smaller -/

/-- Passes of a schedule are apart. -/
def Paced (s : Shift) : Prop := ∀ schedule ∈ s.schedules, 0 < schedule.ticker.period

theorem load_tick_le (s : Shift) (paced : s.Paced) (place : Nat) :
    (s.tick place).load ≤ s.load := by
  unfold tick
  split
  · exact Nat.le_refl _
  · next schedule found =>
    split
    · next due =>
      have due : schedule.ticker.isDue s.now = true := (Bool.and_eq_true_iff.1 due).2
      have fewer := schedule.ticker.arrears_fire_lt
        (paced schedule (List.mem_of_getElem? found)) due
      have := total_set (fun x => 2 * x.ticker.arrears s.now)
        (schedule.startPass s.settings s.now) schedule s.schedules place found
      rw [load_give]
      simp only [load, turnLoad, Schedule.startPass] at this ⊢
      omega
    · exact Nat.le_refl _

/-- Every turn makes the load smaller. -/
theorem load_step_lt (s : Shift) (paced : s.Paced) (busy : s.turns ≠ []) :
    s.step.load < s.load := by
  unfold step
  split
  · contradiction
  · next t rest turns =>
    have before : s.load = Shift.load { s with turns := rest } + turnLoad t := by
      simp only [load, turns, total]
      omega
    rw [before]
    have paced : Shift.Paced { s with turns := rest } := paced
    cases t with
    | serve => exact Nat.lt_succ_of_le (load_serve_le _)
    | order => exact Nat.lt_succ_of_le (load_carryOn_le _)
    | lineUp line => exact Nat.lt_succ_of_le (load_lineUp_le _)
    | tick place line =>
      exact Nat.lt_succ_of_le
        (load_tick_le (Shift.say { s with turns := rest } line) paced place)
    | pass place => exact Nat.lt_succ_of_le (load_carryOnPass_le _ place)

/-! ## All turns together -/

theorem schedules_serve (s : Shift) : s.serve.schedules = s.schedules := by
  unfold serve
  split
  · rfl
  · dsimp only
    split <;> rfl

theorem schedules_lineUp (s : Shift) : s.lineUp.schedules = s.schedules := by
  unfold lineUp
  dsimp only
  split
  · exact schedules_serve _
  · rfl

theorem schedules_carryOn (s : Shift) : s.carryOn.schedules = s.schedules := by
  unfold carryOn
  split
  · rfl
  · split <;> rfl

/-- A schedule may be replaced by one whose passes are apart. -/
theorem paced_set {s t : Shift} (paced : s.Paced) {place : Nat} {schedule : Schedule}
    (set : t.schedules = s.schedules.set place schedule) (apart : 0 < schedule.ticker.period) :
    t.Paced := by
  intro other mem
  rw [set] at mem
  rcases List.mem_or_eq_of_mem_set mem with old | rfl
  · exact paced other old
  · exact apart

theorem paced_tick {s : Shift} (paced : s.Paced) (place : Nat) : (s.tick place).Paced := by
  unfold tick
  split
  · exact paced
  · next schedule found =>
    have apart := paced schedule (List.mem_of_getElem? found)
    split
    · exact paced_set paced rfl apart
    · exact paced

theorem paced_carryOnPass {s : Shift} (paced : s.Paced) (place : Nat) :
    (s.carryOnPass place).Paced := by
  unfold carryOnPass
  split
  · exact paced
  · next schedule found =>
    have apart := paced schedule (List.mem_of_getElem? found)
    split
    · exact paced
    · dsimp only
      split <;> exact paced_set paced rfl apart

theorem paced_step {s : Shift} (paced : s.Paced) : s.step.Paced := by
  unfold step
  split
  · exact paced
  · next t rest _ =>
    have paced : Shift.Paced { s with turns := rest } := paced
    cases t with
    | serve => exact fun x mem => paced x (schedules_serve _ ▸ mem)
    | order => exact fun x mem => paced x (schedules_carryOn _ ▸ mem)
    | lineUp line =>
      exact fun x mem =>
        paced x (schedules_lineUp (Shift.say { s with turns := rest } line) ▸ mem)
    | tick place line => exact paced_tick (s := Shift.say { s with turns := rest } line) paced place
    | pass place => exact paced_carryOnPass paced place

/-- After so many turns the load is smaller by that number, or nobody has anything to do. -/
theorem repeat_step {s : Shift} (paced : s.Paced) (count : Nat) :
    (Nat.repeat step count s).Paced ∧
      ((Nat.repeat step count s).turns = [] ∨ (Nat.repeat step count s).load + count ≤ s.load) := by
  induction count with
  | zero => exact ⟨paced, Or.inr (Nat.le_refl _)⟩
  | succ count ih =>
    obtain ⟨pacedThen, rest⟩ := ih
    refine ⟨paced_step pacedThen, ?_⟩
    by_cases idle : (Nat.repeat step count s).turns = []
    · left
      simp only [Nat.repeat, step, idle]
    · right
      have smaller := load_step_lt _ pacedThen idle
      have := rest.resolve_left idle
      simp only [Nat.repeat]
      omega

/-- What every turn keeps is kept by a shift. -/
theorem work_keeps {I : Shift → Prop} (turn : ∀ s, I s → I s.step) {s : Shift} (h : I s) :
    I s.work := by
  unfold work
  generalize s.load = count
  induction count with
  | zero => exact h
  | succ count ih => exact turn _ ih

/-- A shift ends only when nobody has anything to do. -/
theorem turns_work {s : Shift} (paced : s.Paced) : s.work.turns = [] := by
  rcases (repeat_step paced s.load).2 with idle | small
  · exact idle
  · have : s.work.load = 0 := by
      unfold work
      omega
    match h : s.work.turns with
    | [] => rfl
    | t :: rest =>
      simp only [load, h, total] at this
      cases t <;> simp [turnLoad] at this

end Southbound.Shift
