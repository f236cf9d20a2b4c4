/-!
# Cutting a text at a separator

`splitFirst` and `splitLast` cut at the first and at the last occurrence of a character and drop
it; `splitFirst_eq_some` and `splitLast_eq_some` say that the two parts and the separator are the
whole text again.
-/

namespace Southbound.Text

/-- The parts before and after the first `sep`. -/
def splitFirst (sep : Char) : List Char → Option (List Char × List Char)
  | [] => none
  | c :: rest =>
    if c = sep then some ([], rest)
    else (splitFirst sep rest).map fun (front, back) => (c :: front, back)

/-- The parts before and after the last `sep`. -/
def splitLast (sep : Char) (cs : List Char) : Option (List Char × List Char) :=
  (splitFirst sep cs.reverse).map fun (back, front) => (front.reverse, back.reverse)

theorem splitFirst_eq_some {sep : Char} {cs front back : List Char} :
    splitFirst sep cs = some (front, back) ↔ cs = front ++ sep :: back ∧ sep ∉ front := by
  induction cs generalizing front with
  | nil => simp [splitFirst]
  | cons c rest ih =>
    rw [splitFirst]
    split
    · next h =>
      subst h
      cases front with
      | nil => simp
      | cons d front => simp; grind
    · next h =>
      cases front with
      | nil => simp [h]
      | cons d front =>
        simp only [Option.map_eq_some_iff, Prod.exists, Prod.mk.injEq, List.cons.injEq,
          List.cons_append, List.mem_cons, not_or]
        constructor
        · rintro ⟨f, b, hf, ⟨rfl, rfl⟩, rfl⟩
          exact ⟨⟨rfl, (ih.1 hf).1⟩, fun e => h e.symm, (ih.1 hf).2⟩
        · rintro ⟨⟨rfl, hc⟩, _, hn⟩
          exact ⟨front, back, ih.2 ⟨hc, hn⟩, ⟨rfl, rfl⟩, rfl⟩

theorem splitLast_eq_some {sep : Char} {cs front back : List Char} :
    splitLast sep cs = some (front, back) ↔ cs = front ++ sep :: back ∧ sep ∉ back := by
  simp only [splitLast, Option.map_eq_some_iff, Prod.exists, Prod.mk.injEq]
  constructor
  · rintro ⟨b, f, hs, rfl, rfl⟩
    obtain ⟨hcs, hn⟩ := splitFirst_eq_some.1 hs
    refine ⟨?_, by simpa using hn⟩
    rw [← List.reverse_reverse cs, hcs]
    simp
  · rintro ⟨rfl, hn⟩
    exact ⟨back.reverse, front.reverse, splitFirst_eq_some.2 ⟨by simp, by simpa using hn⟩,
      by simp, by simp⟩

end Southbound.Text
