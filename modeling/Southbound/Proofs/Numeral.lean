import Mathlib.Algebra.Group.Nat.Defs
import Mathlib.Data.List.Basic
import Mathlib.Data.List.TakeWhile
import Southbound.Text.Numeral

/-!
# Numerals as they are written and read

`readNumeral` takes a numeral off the front of a longer text.  Two facts make it usable inside
readers of larger things.  It is `Tidy`: it takes nothing but digits, and what follows the text
makes no difference as long as it does not go on with a digit.  And it reads what is written: by
`readNumeral_toDigits` the digits of a number are read as that number, under any rule that the
number fits.

`Tidy` is stated for readers in general and closed under the ways readers are put together, so
that a reader built from tidy pieces is tidy without a look at its text.
-/

namespace Southbound.Text

/-! ## Where a text stops -/

/-- The text does not go on with a character of the class. -/
def Stops (p : Char → Bool) (cs : List Char) : Prop := ∀ c ∈ cs.head?, p c = false

variable {p q : Char → Bool}

@[simp] theorem stops_nil : Stops p [] := by simp [Stops]

@[simp] theorem stops_cons {c : Char} {cs : List Char} : Stops p (c :: cs) ↔ p c = false := by
  simp [Stops]

theorem Stops.mono (within : ∀ c, p c = true → q c = true) {cs : List Char} (h : Stops q cs) :
    Stops p cs := by
  intro c head
  cases inside : p c with
  | false => rfl
  | true => exact Bool.noConfusion ((within c inside).symm.trans (h c head))

theorem takeWhile_append_of_stops {rest : List Char} (h : Stops p rest) (cs : List Char) :
    (cs ++ rest).takeWhile p = cs.takeWhile p := by
  induction cs with
  | nil =>
    cases rest with
    | nil => rfl
    | cons c rest => simp [stops_cons.1 h]
  | cons c cs ih =>
    rw [List.cons_append, List.takeWhile_cons, List.takeWhile_cons, ih]

theorem dropWhile_append_of_stops {rest : List Char} (h : Stops p rest) (cs : List Char) :
    (cs ++ rest).dropWhile p = cs.dropWhile p ++ rest := by
  induction cs with
  | nil =>
    cases rest with
    | nil => rfl
    | cons c rest => simp [stops_cons.1 h]
  | cons c cs ih =>
    rw [List.cons_append, List.dropWhile_cons, List.dropWhile_cons, ih]
    split
    · rfl
    · rfl

/-! ## Tidy readers -/

/-- A reader that takes characters of one class off a text, whatever else follows them. -/
structure Tidy {α : Type} (p : Char → Bool) (read : List Char → Option (α × List Char)) :
    Prop where
  /-- What is taken is of the class. -/
  takes : ∀ {cs a rest}, read cs = some (a, rest) →
    ∃ front, cs = front ++ rest ∧ ∀ c ∈ front, p c = true
  /-- What does not go on with the class is left alone. -/
  frame : ∀ {rest}, Stops p rest → ∀ cs,
    read (cs ++ rest) = (read cs).map fun (a, more) => (a, more ++ rest)

namespace Tidy

variable {α β : Type} {read : List Char → Option (α × List Char)}

theorem mono (within : ∀ c, p c = true → q c = true) (h : Tidy p read) : Tidy q read where
  takes got :=
    have ⟨front, whole, taken⟩ := h.takes got
    ⟨front, whole, fun c mem => within c (taken c mem)⟩
  frame stops := h.frame (stops.mono within)

/-- What was read can be cut off the text, and is read alike without the rest. -/
theorem cut (h : Tidy p read) {cs rest : List Char} {a : α} (got : read cs = some (a, rest))
    (stops : Stops p rest) :
    ∃ front, cs = front ++ rest ∧ (∀ c ∈ front, p c = true) ∧ read front = some (a, []) := by
  obtain ⟨front, rfl, taken⟩ := h.takes got
  refine ⟨front, rfl, taken, ?_⟩
  rw [h.frame stops, Option.map_eq_some_iff] at got
  obtain ⟨⟨b, more⟩, alone, same⟩ := got
  obtain ⟨rfl, tail⟩ := Prod.mk.inj same
  rw [alone, List.append_left_eq_self.1 tail]

/-- What is read alone is read off a longer text. -/
theorem onward (h : Tidy p read) {cs rest : List Char} {a : α} (alone : read cs = some (a, []))
    (stops : Stops p rest) : read (cs ++ rest) = some (a, rest) := by
  rw [h.frame stops, alone]
  rfl

theorem some (a : α) : Tidy p fun cs => some (a, cs) where
  takes got := by
    obtain ⟨rfl, rfl⟩ := Prod.mk.inj (Option.some.inj got)
    exact ⟨[], rfl, by simp⟩
  frame _ _ := rfl

theorem none : Tidy (α := α) p fun _ => none where
  takes got := by cases got
  frame _ _ := rfl

theorem ofOption (a? : Option α) : Tidy p fun cs => a? >>= fun a => Option.some (a, cs) := by
  cases a? with
  | none => exact none
  | some a => exact some a

/-- One reader after the other. -/
theorem bind {next : α × List Char → Option (β × List Char)} (first : Tidy p read)
    (then_ : ∀ a, Tidy p fun cs => next (a, cs)) : Tidy p fun cs => read cs >>= next where
  takes {cs b rest} got := by
    obtain ⟨⟨a, between⟩, got₁, got₂⟩ := Option.bind_eq_some_iff.1 got
    obtain ⟨front₁, rfl, taken₁⟩ := first.takes got₁
    obtain ⟨front₂, rfl, taken₂⟩ := (then_ a).takes got₂
    refine ⟨front₁ ++ front₂, (List.append_assoc ..).symm, fun c mem => ?_⟩
    rcases List.mem_append.1 mem with mem | mem
    · exact taken₁ c mem
    · exact taken₂ c mem
  frame {rest} stops cs := by
    simp only [first.frame stops cs]
    cases read cs with
    | none => rfl
    | some got => exact (then_ got.1).frame stops got.2

/-- What is read is read as something else. -/
theorem map (f : α → β) (h : Tidy p read) :
    Tidy p fun cs => (read cs).map fun (a, rest) => (f a, rest) where
  takes {cs b rest} got := by
    obtain ⟨⟨a, rest⟩, got, same⟩ := Option.map_eq_some_iff.1 got
    cases same
    exact h.takes got
  frame {rest} stops cs := by
    simp only [h.frame stops cs, Option.map_map]
    rfl

/-- The second reader where the first does not apply. -/
theorem or {other : List Char → Option (α × List Char)} (h : Tidy p read) (h' : Tidy p other) :
    Tidy p fun cs => (read cs).or (other cs) where
  takes {cs a rest} got := by
    rcases Option.or_eq_some_iff.1 got with got | ⟨-, got⟩
    · exact h.takes got
    · exact h'.takes got
  frame {rest} stops cs := by
    simp only [h.frame stops cs, h'.frame stops cs, Option.map_or]

theorem ite (c : Prop) [Decidable c] {other : List Char → Option (α × List Char)}
    (h : Tidy p read) (h' : Tidy p other) : Tidy p fun cs => if c then read cs else other cs := by
  by_cases holds : c
  · simpa [holds] using h
  · simpa [holds] using h'

end Tidy

theorem tidy_readNumeral (rule : NumeralRule) : Tidy (isDigitIn rule.base) (readNumeral rule) where
  takes {cs n rest} got := by
    simp only [readNumeral] at got
    split at got
    · cases got
    · obtain ⟨-, rfl⟩ := Prod.mk.inj (Option.some.inj got)
      exact ⟨_, List.takeWhile_append_dropWhile.symm, fun c mem => List.mem_takeWhile_imp mem⟩
  frame stops cs := by
    simp only [readNumeral, takeWhile_append_of_stops stops, dropWhile_append_of_stops stops]
    split
    · rfl
    · rfl

/-- There is no numeral where there is no digit. -/
theorem readNumeral_of_stops {rule : NumeralRule} {cs : List Char}
    (stops : Stops (isDigitIn rule.base) cs) : readNumeral rule cs = none := by
  have none : cs.takeWhile (isDigitIn rule.base) = [] := by
    simpa using takeWhile_append_of_stops stops []
  simp [readNumeral, none]

/-! ## Reading what is written -/

section written

variable {base : Nat}

theorem digitValue_digitChar : ∀ d < 16, digitValue (Nat.digitChar d) = some d := by decide

theorem isDigitIn_digitChar (small : base ≤ 16) {d : Nat} (h : d < base) :
    isDigitIn base (Nat.digitChar d) = true := by
  rw [isDigitIn, digitValue_digitChar d (by omega)]
  simpa using h

theorem digitsValue_append_singleton (cs : List Char) (c : Char) :
    digitsValue base (cs ++ [c]) = base * digitsValue base cs + (digitValue c).getD 0 := by
  simp [digitsValue]

variable (large : 1 < base) (small : base ≤ 16)

include large small

theorem isDigitIn_of_mem_toDigits (n : Nat) : ∀ c ∈ Nat.toDigits base n, isDigitIn base c := by
  induction n using Nat.base_induction base large with
  | single d below =>
    simpa [Nat.toDigits_of_lt_base below] using isDigitIn_digitChar small below
  | digit n d below pos ih =>
    rw [← Nat.toDigits_append_toDigits large pos below, Nat.toDigits_of_lt_base below]
    intro c mem
    rcases List.mem_append.1 mem with mem | mem
    · exact ih c mem
    · rw [List.mem_singleton.1 mem]
      exact isDigitIn_digitChar small below

theorem digitsValue_toDigits (n : Nat) : digitsValue base (Nat.toDigits base n) = n := by
  induction n using Nat.base_induction base large with
  | single d below =>
    rw [Nat.toDigits_of_lt_base below, ← List.nil_append [_], digitsValue_append_singleton,
      digitValue_digitChar d (by omega)]
    simp [digitsValue]
  | digit n d below pos ih =>
    rw [← Nat.toDigits_append_toDigits large pos below, Nat.toDigits_of_lt_base below,
      digitsValue_append_singleton, digitValue_digitChar d (by omega), ih, Option.getD_some]

omit small in
/-- Only zero is written with a zero in front. -/
theorem head?_toDigits_ne {n : Nat} (pos : 0 < n) : (Nat.toDigits base n).head? ≠ some '0' := by
  induction n using Nat.base_induction base large with
  | single d below => simpa [Nat.toDigits_of_lt_base below] using Nat.ne_of_gt pos
  | digit n d below higher ih =>
    rw [← Nat.toDigits_append_toDigits large higher below,
      List.head?_append_of_ne_nil _ Nat.toDigits_ne_nil]
    exact ih higher

end written

/-- The digits of a number are read as that number, by every rule that the number fits. -/
theorem readNumeral_toDigits (rule : NumeralRule) (large : 1 < rule.base) (small : rule.base ≤ 16)
    {n : Nat} (fits : n ≤ rule.limit) (short : ∀ k ∈ rule.maxDigits, 0 < k ∧ n < rule.base ^ k)
    {rest : List Char} (stops : Stops (isDigitIn rule.base) rest) :
    readNumeral rule (Nat.toDigits rule.base n ++ rest) = some (n, rest) := by
  have digits := isDigitIn_of_mem_toDigits large small n
  have taken : (Nat.toDigits rule.base n).takeWhile (isDigitIn rule.base)
      = Nat.toDigits rule.base n := List.takeWhile_eq_self_iff.2 digits
  have dropped : (Nat.toDigits rule.base n).dropWhile (isDigitIn rule.base) = [] :=
    List.dropWhile_eq_nil_iff.2 digits
  have leading : (Nat.toDigits rule.base n).head? = some '0' →
      ¬ 1 < (Nat.toDigits rule.base n).length := by
    intro zero long
    rcases Nat.eq_zero_or_pos n with rfl | pos
    · simp at long
    · exact head?_toDigits_ne large pos zero
  have within : rule.maxDigits.any (· < (Nat.toDigits rule.base n).length) = false := by
    cases limit : rule.maxDigits with
    | none => rfl
    | some k =>
      obtain ⟨pos, below⟩ := short k limit
      simpa using (Nat.length_toDigits_le_iff large pos).2 below
  rw [readNumeral, takeWhile_append_of_stops stops, dropWhile_append_of_stops stops, taken,
    dropped, digitsValue_toDigits large small, if_neg]
  · rfl
  · rintro (empty | long | ⟨-, zero, several⟩ | above)
    · exact Nat.toDigits_ne_nil (List.isEmpty_iff.1 empty)
    · exact Bool.noConfusion (within.symm.trans long)
    · exact leading zero several
    · exact Nat.not_lt_of_le fits above

/-- Without a sign, a count is a numeral. -/
theorem readCount_unsigned {limit n : Nat} {cs : List Char} (unsigned : ∀ rest, cs ≠ '+' :: rest) :
    readCount limit cs = some n ↔ readNumeral ⟨10, none, true, limit⟩ cs = some (n, []) := by
  unfold readCount
  split
  · next rest => exact absurd rfl (unsigned rest)
  · cases got : readNumeral ⟨10, none, true, limit⟩ cs with
    | none => simp [got]
    | some read =>
      obtain ⟨m, _ | ⟨c, rest⟩⟩ := read
      · simp [got]
      · simp [got]

theorem readCount_le {limit n : Nat} {cs : List Char} (read : readCount limit cs = some n) :
    n ≤ limit := by
  unfold readCount at read
  extract_lets digits at read
  split at read
  · next got =>
    obtain rfl := Option.some.inj read
    exact readNumeral_le got
  · cases read

/-- A number written in decimal is read as a count. -/
theorem readCount_decimal {limit n : Nat} (fits : n ≤ limit) :
    readCount limit (decimal n) = some n := by
  have digits := isDigitIn_of_mem_toDigits (by decide : 1 < 10) (by decide) n
  refine (readCount_unsigned fun rest plus => ?_).2 ?_
  · exact absurd (digits '+' (by rw [← decimal, plus]; exact List.mem_cons_self)) (by decide)
  · have written := readNumeral_toDigits ⟨10, none, true, limit⟩ (Nat.le_of_ble_eq_true rfl)
      (Nat.le_of_ble_eq_true rfl) fits (by simp) stops_nil
    rwa [List.append_nil] at written

end Southbound.Text
