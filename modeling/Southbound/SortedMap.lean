/-!
# Finite maps in key order

Every collection of the provider is keyed: records, store entries, sessions and credentials by
device identity, annotations by name.  `SortedMap κ α` keeps its entries in strictly increasing
key order, so a map has exactly one representation and walking it always meets the keys in the
same order.

The order of the entries is part of the type.  Two maps that answer every lookup alike are
therefore equal (`SortedMap.ext`), and a statement about a whole map is a statement about its
lookups.  Each operation has one lookup equation (`get?_insert`, `get?_erase`, `get?_map`,
`get?_filter`); after these nobody needs to look at the entries.

`SortedSet κ` is the map to `Unit`.
-/

namespace Southbound

/-- Entries in strictly increasing key order. -/
structure SortedMap (κ : Type) [Ord κ] (α : Type) where
  /-- The entries, smallest key first. -/
  toList : List (κ × α)
  /-- Keys increase strictly, so no key occurs twice. -/
  sorted : toList.Pairwise (fun a b => compare a.1 b.1 = .lt)
deriving DecidableEq

namespace SortedMap

variable {κ : Type} [Ord κ] {α β : Type}

/-! ## Operations on the list of entries -/

/-- The value stored with key `k`. -/
def lookup (k : κ) : List (κ × α) → Option α
  | [] => none
  | (k', v) :: rest => if compare k k' = .eq then some v else lookup k rest

/-- Puts `v` at `k`, in place of an older value. -/
def place (k : κ) (v : α) : List (κ × α) → List (κ × α)
  | [] => [(k, v)]
  | (k', v') :: rest =>
    match compare k k' with
    | .lt => (k, v) :: (k', v') :: rest
    | .eq => (k, v) :: rest
    | .gt => (k', v') :: place k v rest

theorem mem_place {k : κ} {v : α} {e : κ × α} {l : List (κ × α)} :
    e ∈ place k v l → e = (k, v) ∨ e ∈ l := by
  induction l with
  | nil => simp [place]
  | cons head rest ih =>
    obtain ⟨k', v'⟩ := head
    rw [place]
    split <;> grind

theorem place_sorted [Std.TransOrd κ] [Std.LawfulEqOrd κ] (k : κ) (v : α) {l : List (κ × α)}
    (h : l.Pairwise (fun a b => compare a.1 b.1 = .lt)) :
    (place k v l).Pairwise (fun a b => compare a.1 b.1 = .lt) := by
  induction l with
  | nil => simp [place]
  | cons head rest ih =>
    obtain ⟨k', v'⟩ := head
    obtain ⟨first, others⟩ := List.pairwise_cons.1 h
    rw [place]
    split
    · next below =>
      refine List.pairwise_cons.2 ⟨fun e he => ?_, h⟩
      rcases List.mem_cons.1 he with rfl | he
      · exact below
      · exact Std.TransCmp.lt_trans below (first e he)
    · next same =>
      have : k = k' := Std.LawfulEqCmp.eq_of_compare same
      subst this
      exact List.pairwise_cons.2 ⟨first, others⟩
    · next above =>
      refine List.pairwise_cons.2 ⟨fun e he => ?_, ih others⟩
      rcases mem_place he with rfl | he
      · exact Std.OrientedCmp.lt_of_gt above
      · exact first e he

/-! ## The map operations -/

/-- The map without entries. -/
def empty : SortedMap κ α := ⟨[], .nil⟩

instance : EmptyCollection (SortedMap κ α) := ⟨empty⟩
instance : Inhabited (SortedMap κ α) := ⟨empty⟩

/-- The value at `k`, if there is one. -/
def get? (m : SortedMap κ α) (k : κ) : Option α := lookup k m.toList

/-- Whether `k` has a value. -/
def contains (m : SortedMap κ α) (k : κ) : Bool := (m.get? k).isSome

/-- The keys in increasing order. -/
def keys (m : SortedMap κ α) : List κ := m.toList.map (·.1)

/-- How many keys have a value. -/
def size (m : SortedMap κ α) : Nat := m.toList.length

/-- Whether no key has a value. -/
def isEmpty (m : SortedMap κ α) : Bool := m.toList.isEmpty

/-- Keeps the entries that `keep` accepts. -/
def filter (m : SortedMap κ α) (keep : κ → α → Bool) : SortedMap κ α where
  toList := m.toList.filter (fun e => keep e.1 e.2)
  sorted := m.sorted.filter _

/-- Removes the value at `k`. -/
def erase (m : SortedMap κ α) (k : κ) : SortedMap κ α :=
  m.filter (fun k' _ => !decide (compare k k' = .eq))

/-- Replaces every value by its image. -/
def map (m : SortedMap κ α) (f : κ → α → β) : SortedMap κ β where
  toList := m.toList.map (fun e => (e.1, f e.1 e.2))
  sorted := List.pairwise_map.2 m.sorted

variable [Std.TransOrd κ] [Std.LawfulEqOrd κ]

/-- Gives `k` the value `v`. -/
def insert (m : SortedMap κ α) (k : κ) (v : α) : SortedMap κ α where
  toList := place k v m.toList
  sorted := place_sorted k v m.sorted

/-- Collects entries; of two with one key the later wins. -/
def ofList (entries : List (κ × α)) : SortedMap κ α :=
  entries.foldl (fun m e => m.insert e.1 e.2) empty

/-! ## Lookups -/

omit [Std.TransOrd κ] in
theorem lookup_place [DecidableEq κ] (k k' : κ) (v : α) (l : List (κ × α)) :
    lookup k' (place k v l) = if k' = k then some v else lookup k' l := by
  induction l with
  | nil => simp [place, lookup]
  | cons head rest ih =>
    obtain ⟨k₀, v₀⟩ := head
    rw [place]
    split
    · simp [lookup]
    · next same =>
      have : k = k₀ := Std.LawfulEqCmp.eq_of_compare same
      subst this
      simp only [lookup, Std.LawfulEqOrd.compare_eq_iff_eq]
      split <;> rfl
    · next above =>
      simp only [lookup, ih, Std.LawfulEqOrd.compare_eq_iff_eq]
      grind

omit [Std.TransOrd κ] [Std.LawfulEqOrd κ] in
@[simp] theorem get?_empty (k : κ) : (empty : SortedMap κ α).get? k = none := rfl

theorem get?_insert [DecidableEq κ] (m : SortedMap κ α) (k k' : κ) (v : α) :
    (m.insert k v).get? k' = if k' = k then some v else m.get? k' :=
  lookup_place k k' v m.toList

@[simp] theorem get?_insert_self (m : SortedMap κ α) (k : κ) (v : α) :
    (m.insert k v).get? k = some v := by classical simp [get?_insert]

theorem get?_insert_of_ne (m : SortedMap κ α) {k k' : κ} (v : α) (h : k' ≠ k) :
    (m.insert k v).get? k' = m.get? k' := by classical simp [get?_insert, h]

omit [Std.TransOrd κ] in
theorem mem_of_lookup {k : κ} {v : α} {l : List (κ × α)} :
    lookup k l = some v → (k, v) ∈ l := by
  induction l with
  | nil => simp [lookup]
  | cons head rest ih =>
    obtain ⟨k', v'⟩ := head
    simp only [lookup, Std.LawfulEqOrd.compare_eq_iff_eq]
    split <;> grind

omit [Std.TransOrd κ] in
theorem lookup_of_mem {k : κ} {v : α} {l : List (κ × α)}
    (h : l.Pairwise (fun a b => compare a.1 b.1 = .lt)) :
    (k, v) ∈ l → lookup k l = some v := by
  induction l with
  | nil => simp
  | cons head rest ih =>
    obtain ⟨k', v'⟩ := head
    obtain ⟨first, others⟩ := List.pairwise_cons.1 h
    intro hm
    rcases List.mem_cons.1 hm with he | hm
    · cases he
      simp [lookup]
    · have below := first _ hm
      have hne : ¬ compare k k' = .eq := by
        intro heq
        have : k = k' := Std.LawfulEqCmp.eq_of_compare heq
        subst this
        simp at below
      simp [lookup, hne, ih others hm]

omit [Std.TransOrd κ] in
/-- The entries are exactly the answered lookups. -/
theorem mem_toList_iff (m : SortedMap κ α) {k : κ} {v : α} :
    (k, v) ∈ m.toList ↔ m.get? k = some v :=
  ⟨lookup_of_mem m.sorted, mem_of_lookup⟩

omit [Std.TransOrd κ] in
theorem mem_keys_iff (m : SortedMap κ α) {k : κ} : k ∈ m.keys ↔ ∃ v, m.get? k = some v := by
  simp [keys, mem_toList_iff]

omit [Std.TransOrd κ] in
theorem get?_filter (m : SortedMap κ α) (keep : κ → α → Bool) (k : κ) :
    (m.filter keep).get? k = (m.get? k).filter (keep k) := by
  apply Option.ext
  intro v
  rw [← mem_toList_iff]
  simp only [filter, List.mem_filter, mem_toList_iff, Option.filter_eq_some_iff]

omit [Std.TransOrd κ] in
theorem get?_erase [DecidableEq κ] (m : SortedMap κ α) (k k' : κ) :
    (m.erase k).get? k' = if k' = k then none else m.get? k' := by
  simp only [erase, get?_filter, Std.LawfulEqOrd.compare_eq_iff_eq]
  by_cases h : k' = k
  · subst h
    simp
  · have : ¬ k = k' := fun e => h e.symm
    cases hm : m.get? k' <;> simp [this, h]

omit [Std.TransOrd κ] in
theorem get?_map (m : SortedMap κ α) (f : κ → α → β) (k : κ) :
    (m.map f).get? k = (m.get? k).map (f k) := by
  apply Option.ext
  intro v
  rw [← mem_toList_iff]
  simp only [map, List.mem_map, Option.map_eq_some_iff, Prod.mk.injEq, Prod.exists]
  constructor
  · rintro ⟨_, a, hm, rfl, rfl⟩
    exact ⟨a, (mem_toList_iff m).1 hm, rfl⟩
  · rintro ⟨a, ha, rfl⟩
    exact ⟨k, a, (mem_toList_iff m).2 ha, rfl, rfl⟩

/-! ## Extensionality -/

theorem eq_of_mem_iff {l₁ l₂ : List (κ × α)}
    (h₁ : l₁.Pairwise (fun a b => compare a.1 b.1 = .lt))
    (h₂ : l₂.Pairwise (fun a b => compare a.1 b.1 = .lt)) (h : ∀ e, e ∈ l₁ ↔ e ∈ l₂) :
    l₁ = l₂ := by
  induction l₁ generalizing l₂ with
  | nil =>
    cases l₂ with
    | nil => rfl
    | cons e rest => exact absurd ((h e).2 (by simp)) (by simp)
  | cons e rest ih =>
    cases l₂ with
    | nil => exact absurd ((h e).1 (by simp)) (by simp)
    | cons e' rest' =>
      obtain ⟨first, others⟩ := List.pairwise_cons.1 h₁
      obtain ⟨first', others'⟩ := List.pairwise_cons.1 h₂
      have irrefl : ∀ a : κ × α, ¬ compare a.1 a.1 = .lt := fun a => by simp
      have heads : e = e' := by
        rcases List.mem_cons.1 ((h e).1 (by simp)) with he | he
        · exact he
        rcases List.mem_cons.1 ((h e').2 (by simp)) with he' | he'
        · exact he'.symm
        exact absurd (Std.TransCmp.lt_trans (first _ he') (first' _ he)) (irrefl e)
      subst heads
      congr 1
      refine ih others others' fun a => ⟨fun ha => ?_, fun ha => ?_⟩
      · rcases List.mem_cons.1 ((h a).1 (by simp [ha])) with rfl | ha'
        · exact absurd (first _ ha) (irrefl a)
        · exact ha'
      · rcases List.mem_cons.1 ((h a).2 (by simp [ha])) with rfl | ha'
        · exact absurd (first' _ ha) (irrefl a)
        · exact ha'

/-- Maps with the same lookups are equal. -/
@[ext] theorem ext {m n : SortedMap κ α} (h : ∀ k, m.get? k = n.get? k) : m = n := by
  have : m.toList = n.toList := by
    apply eq_of_mem_iff m.sorted n.sorted
    rintro ⟨k, v⟩
    rw [mem_toList_iff, mem_toList_iff, h]
  cases m
  cases n
  cases this
  rfl

/-- Writing back the value that is there changes nothing. -/
theorem insert_of_get? {m : SortedMap κ α} {k : κ} {v : α} (h : m.get? k = some v) :
    m.insert k v = m := by
  classical
  apply ext
  intro k'
  rw [get?_insert]
  split
  · next e => rw [e, h]
  · rfl

theorem map_insert (m : SortedMap κ α) (f : κ → α → β) (k : κ) (a : α) :
    (m.insert k a).map f = (m.map f).insert k (f k a) := by
  classical
  ext1 k'
  rw [get?_map, get?_insert, get?_insert, get?_map]
  split
  · next same => simp [same]
  · rfl

theorem map_erase (m : SortedMap κ α) (f : κ → α → β) (k : κ) :
    (m.erase k).map f = (m.map f).erase k := by
  classical
  ext1 k'
  rw [get?_map, get?_erase, get?_erase, get?_map]
  split
  · rfl
  · rfl

end SortedMap

/-- A finite set in increasing order. -/
abbrev SortedSet (κ : Type) [Ord κ] := SortedMap κ Unit

end Southbound
