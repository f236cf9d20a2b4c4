import Southbound.Proofs.Tables

/-!
# Fields are read one by one

A reader of a structured value asks for each field at its place: in a table by the name, in a list
by the position.  What is given there (`Datum.Gives`) depends neither on the order of the entries
nor on what else the value holds; for this a table must not have a key twice
(`Datum.Proper.gives_unique`).

`LeftWith` says what a field with a default comes to: what is given for it, or else the default.
`Fields.Of.required_iff` and `Fields.Of.withDefault_iff` are the readers of single fields in these
words, and `Datum.Proper.bind_fields_iff` is the reader of a whole value, which reads tables, lists
and, as values that give nothing, moments.
-/

namespace Southbound

/-! ## What is left with what is given -/

/-- A field is left with `v`: what is given for it means `v`, or nothing is given and `v` is the
default. -/
def LeftWith {α : Type} (Given : Datum → Prop) (Means : Datum → α → Prop) (default v : α) : Prop :=
  (∃ x, Given x ∧ Means x v) ∨ (∀ x, ¬Given x) ∧ v = default

namespace LeftWith

variable {α : Type} {Given : Datum → Prop} {Means Means' : Datum → α → Prop} {default v w : α}
  {x : Datum}

theorem iff_of_missing (missing : ∀ x, ¬Given x) :
    LeftWith Given Means default v ↔ v = default := by
  constructor
  · rintro (⟨x, given, -⟩ | ⟨-, same⟩)
    · exact absurd given (missing x)
    · exact same
  · exact fun same => .inr ⟨missing, same⟩

/-- Only what is given counts. -/
theorem congr (same : ∀ x, Given x → (Means x v ↔ Means' x v)) :
    LeftWith Given Means default v ↔ LeftWith Given Means' default v :=
  or_congr (exists_congr fun x => and_congr_right (same x)) Iff.rfl

section

variable (unique : ∀ {x y}, Given x → Given y → x = y)

include unique

theorem iff_of_given (given : Given x) : LeftWith Given Means default v ↔ Means x v := by
  constructor
  · rintro (⟨y, given', means⟩ | ⟨missing, -⟩)
    · rwa [unique given given']
    · exact absurd given (missing x)
  · exact fun means => .inl ⟨x, given, means⟩

/-- A field is left with something if what is given for it, if anything, has a meaning. -/
theorem exists_iff :
    (∃ v, LeftWith Given Means default v) ↔ ∀ x, Given x → ∃ v, Means x v := by
  constructor
  · rintro ⟨v, left⟩ x given
    exact ⟨v, (iff_of_given unique given).1 left⟩
  · intro readable
    by_cases given : ∃ x, Given x
    · obtain ⟨x, given⟩ := given
      obtain ⟨v, means⟩ := readable x given
      exact ⟨v, .inl ⟨x, given, means⟩⟩
    · exact ⟨default, .inr ⟨not_exists.1 given, rfl⟩⟩

/-- It is left with one thing only. -/
theorem eq (h : LeftWith Given Means default v) (h' : LeftWith Given Means default w)
    (means_unique : ∀ {x}, Means x v → Means x w → v = w) : v = w := by
  obtain ⟨x, given, means⟩ | ⟨missing, rfl⟩ := h
  · exact means_unique means ((iff_of_given unique given).1 h')
  · exact ((iff_of_missing missing).1 h').symm

end

end LeftWith

/-! ## What is given -/

/-- Where a field stands: in a table under its name, in a list at its position. -/
structure Place where
  position : Nat
  name : String

namespace Datum

/-- The datum gives `x` at the place. -/
def Gives (d : Datum) (place : Place) (x : Datum) : Prop :=
  match d with
  | table entries => (place.name, x) ∈ entries
  | list items => items[place.position]? = some x
  | _ => False

/-- A datum that passes for a section; a moment is one that gives nothing. -/
def IsSection : Datum → Prop
  | table _ | list _ | moment => True
  | _ => False

namespace Proper

variable {d x y : Datum} {place : Place}

theorem of_gives (h : d.Proper) (given : d.Gives place x) : x.Proper := by
  cases d with
  | table entries => exact h.of_mem_entries _ given
  | list items => exact h.of_mem_items _ (List.mem_of_getElem? given)
  | _ => cases given

theorem gives_unique (h : d.Proper) (given : d.Gives place x) (given' : d.Gives place y) :
    x = y := by
  cases d with
  | table entries =>
    have found := (lookup_eq_some_iff_mem h.nodup_keys).2 given
    have found' := (lookup_eq_some_iff_mem h.nodup_keys).2 given'
    exact Option.some.inj (found.symm.trans found')
  | list items => exact Option.some.inj (Eq.symm given |>.trans given')
  | _ => cases given

end Proper

end Datum

/-! ## Fields -/

section fields

variable {α : Type} {d : Datum} {fields : Fields} {read : Datum → Option α} {default v : α}

/-- The fields hold what the datum gives. -/
def Fields.Of (fields : Fields) (d : Datum) : Prop :=
  ∀ (position : Nat) (name : String) (x : Datum),
    fields.get? position name = some x ↔ d.Gives ⟨position, name⟩ x

/-- A section, and nothing else, is read by its fields, and these hold what it gives. -/
theorem Datum.Proper.bind_fields_iff (h : d.Proper) {count : Nat} {next : Fields → Option α}
    {P : Prop} (reads : ∀ fields, fields.Of d → (next fields = some v ↔ P)) :
    (Encoding.configuration.fields? count d).bind next = some v ↔ d.IsSection ∧ P := by
  cases d with
  | table entries =>
    exact (reads (.named entries) fun _ _ _ => lookup_eq_some_iff_mem h.nodup_keys).trans
      (and_iff_right trivial).symm
  | list items =>
    exact (reads (.positional items) fun _ _ _ => Iff.rfl).trans (and_iff_right trivial).symm
  | moment =>
    refine (reads (.named []) fun _ _ _ => ?_).trans (and_iff_right trivial).symm
    simp [Fields.get?, Datum.Gives]
  | _ => simp [Encoding.fields?, Datum.IsSection]

namespace Fields.Of

variable {position : Nat} {name : String}

theorem required_iff (h : fields.Of d) :
    fields.required position name read = some v ↔
      ∃ x, d.Gives ⟨position, name⟩ x ∧ read x = some v := by
  rw [Fields.required, Option.bind_eq_bind, Option.bind_eq_some_iff]
  simp only [h position name]

theorem withDefault_iff (h : fields.Of d) :
    fields.withDefault position name read default = some v ↔
      LeftWith (d.Gives ⟨position, name⟩) (fun x v => read x = some v) default v := by
  have given := h position name
  unfold Fields.withDefault LeftWith
  cases found : fields.get? position name with
  | none => simp [← given, found, eq_comm]
  | some x => simp [← given, found]

end Fields.Of

end fields

/-! ## Plain values -/

namespace Datum

variable {d : Datum}

@[simp] theorem asText_eq_some_iff {s : String} : d.asText = some s ↔ d = .text s := by
  cases d <;> simp [asText]

theorem asNat_eq_some_iff {limit n : Nat} :
    d.asNat limit = some n ↔ d = .integer n ∧ n ≤ limit := by
  cases d with
  | integer k =>
    have : (0 ≤ k ∧ k.toNat ≤ limit) ∧ k.toNat = n ↔ k = n ∧ n ≤ limit := by omega
    simpa [asNat] using this
  | _ => simp [asNat]

@[simp] theorem asUInt16_eq_some_iff {n : UInt16} :
    d.asUInt16 = some n ↔ d = .integer n.toNat := by
  rw [asUInt16, Option.map_eq_some_iff]
  constructor
  · rintro ⟨k, read, rfl⟩
    obtain ⟨rfl, small⟩ := asNat_eq_some_iff.1 read
    rw [UInt16.toNat_ofNat_of_lt' (by simpa [UInt16.size] using Nat.lt_succ_of_le small)]
  · rintro rfl
    refine ⟨n.toNat, asNat_eq_some_iff.2 ⟨rfl, ?_⟩, UInt16.ofNat_toNat⟩
    exact Nat.le_of_lt_succ n.toNat_lt

/-- Nothing in a document is null, so a text that may be null is a text. -/
theorem Proper.asNullable_asText_eq_some_iff (h : d.Proper) {s? : Option String} :
    d.asNullable asText = some s? ↔ ∃ s, d = .text s ∧ s? = some s := by
  cases h <;> simp [asNullable, asText, eq_comm]

end Datum

end Southbound
