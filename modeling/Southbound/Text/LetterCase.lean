/-!
# Letter case

Protocol names are compared without regard to case, where case is that of the Latin alphabet only:
`small` and `capital` move the twenty-six letters and leave every other character alone.
-/

namespace Southbound.Text

/-- The character with a capital Latin letter made small. -/
def small (c : Char) : Char :=
  if 'A'.toNat ≤ c.toNat ∧ c.toNat ≤ 'Z'.toNat then Char.ofNat (c.toNat + 32) else c

/-- The character with a small Latin letter made capital. -/
def capital (c : Char) : Char :=
  if 'a'.toNat ≤ c.toNat ∧ c.toNat ≤ 'z'.toNat then Char.ofNat (c.toNat - 32) else c

/-- The text with capital Latin letters made small. -/
def lowered (s : String) : String := String.ofList (s.toList.map small)

/-- The text with small Latin letters made capital. -/
def raised (s : String) : String := String.ofList (s.toList.map capital)

/-- Whether two texts differ in letter case only. -/
def equalIgnoringCase (s t : String) : Bool := lowered s == lowered t

/-! ## Making letters small -/

theorem exists_of_capital {c : Char} (h : 'A'.toNat ≤ c.toNat ∧ c.toNat ≤ 'Z'.toNat) :
    ∃ n : Fin 26, c = Char.ofNat (65 + n) := by
  have lo : 65 ≤ c.toNat := h.1
  have hi : c.toNat ≤ 90 := h.2
  refine ⟨⟨c.toNat - 65, by omega⟩, ?_⟩
  have : 65 + (c.toNat - 65) = c.toNat := by omega
  rw [this, Char.ofNat_toNat]

/-- A property of characters holds of small letters if it holds of what it is applied to, as soon
as it does so for the twenty-six capital letters. -/
theorem small_induction {P : Char → Char → Prop} (same : ∀ c, P c c)
    (letters : ∀ n : Fin 26, P (Char.ofNat (65 + n)) (small (Char.ofNat (65 + n)))) (c : Char) :
    P c (small c) := by
  by_cases h : 'A'.toNat ≤ c.toNat ∧ c.toNat ≤ 'Z'.toNat
  · obtain ⟨n, rfl⟩ := exists_of_capital h
    exact letters n
  · have : small c = c := by rw [small, if_neg h]
    rw [this]
    exact same c

@[simp] theorem small_small (c : Char) : small (small c) = small c := by
  by_cases h : 'A'.toNat ≤ c.toNat ∧ c.toNat ≤ 'Z'.toNat
  · obtain ⟨n, rfl⟩ := exists_of_capital h
    revert n
    decide
  · have : small c = c := by rw [small, if_neg h]
    rw [this, this]

@[simp] theorem isAlpha_small (c : Char) : (small c).isAlpha = c.isAlpha :=
  small_induction (P := fun c d => d.isAlpha = c.isAlpha) (fun _ => rfl) (by decide) c

@[simp] theorem isAlphanum_small (c : Char) : (small c).isAlphanum = c.isAlphanum :=
  small_induction (P := fun c d => d.isAlphanum = c.isAlphanum) (fun _ => rfl) (by decide) c

/-- Characters that are no letters are met unchanged. -/
theorem small_eq_iff {c d : Char} (h : d.isAlpha = false) : small c = d ↔ c = d := by
  by_cases hc : 'A'.toNat ≤ c.toNat ∧ c.toNat ≤ 'Z'.toNat
  · have hAlpha : c.isAlpha = true := by
      obtain ⟨n, rfl⟩ := exists_of_capital hc
      clear hc
      revert n
      decide
    have hSmall : (small c).isAlpha = true := by rw [isAlpha_small, hAlpha]
    constructor
    · rintro rfl
      exact absurd (h.symm.trans hSmall) (by decide)
    · rintro rfl
      exact absurd (h.symm.trans hAlpha) (by decide)
  · rw [small, if_neg hc]

theorem small_comp_small : small ∘ small = small := funext small_small

@[simp] theorem lowered_lowered (s : String) : lowered (lowered s) = lowered s := by
  simp [lowered, small_comp_small]

/-- Making a letter capital is undone by making it small. -/
@[simp] theorem small_capital (c : Char) : small (capital c) = small c := by
  by_cases h : 'a'.toNat ≤ c.toNat ∧ c.toNat ≤ 'z'.toNat
  · have lo : 97 ≤ c.toNat := h.1
    have hi : c.toNat ≤ 122 := h.2
    obtain ⟨n, rfl⟩ : ∃ n : Fin 26, c = Char.ofNat (97 + n) :=
      ⟨⟨c.toNat - 97, by omega⟩, by rw [Nat.add_sub_cancel' lo, Char.ofNat_toNat]⟩
    clear h lo hi
    revert n
    decide
  · rw [capital, if_neg h]

@[simp] theorem lowered_raised (s : String) : lowered (raised s) = lowered s := by
  simp [lowered, raised, Function.comp_def]

end Southbound.Text
