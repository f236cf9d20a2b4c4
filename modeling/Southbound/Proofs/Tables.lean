import Southbound.Toml.Document

/-!
# Tables of a document

No table of a document has a key twice, at any depth and however it came about: by a header, by
dotted keys, inline, or as one of a list of tables.  Every way to add to a table under construction
refuses a key that is there already, unless it goes on with what the key stands for.  So a table is
known by which entries it has, and their order tells nothing (`lookup_eq_some_iff_mem`).

`Datum.Proper` says this of a datum, and also that nothing in it is null, which is nothing that a
document could write.  `Toml.proper_of_read?` is the main statement: what is read from a text is
proper.  It follows the reader: a table under construction is kept proper by what is added to it
(`Table.Proper.assign`, `Table.Proper.define`, `Table.Proper.append`), and so by each line.
-/

namespace Southbound

/-! ## Proper data -/

namespace Datum

/-- A datum that documents can hold: nothing in it is null, and no table in it has a key twice. -/
inductive Proper : Datum → Prop
  | boolean (b : Bool) : Proper (.boolean b)
  | integer (n : Int) : Proper (.integer n)
  | float : Proper .float
  | text (s : String) : Proper (.text s)
  | moment : Proper .moment
  | list {items : List Datum} (each : ∀ d ∈ items, Proper d) : Proper (.list items)
  | table {entries : List (String × Datum)} (keys : (entries.map Prod.fst).Nodup)
      (each : ∀ e ∈ entries, Proper e.2) : Proper (.table entries)

namespace Proper

variable {items : List Datum} {entries : List (String × Datum)}

theorem of_mem_items (h : Proper (.list items)) : ∀ d ∈ items, Proper d := by
  cases h with
  | list each => exact each

theorem of_mem_entries (h : Proper (.table entries)) : ∀ e ∈ entries, Proper e.2 := by
  cases h with
  | table _ each => exact each

theorem nodup_keys (h : Proper (.table entries)) : (entries.map Prod.fst).Nodup := by
  cases h with
  | table keys _ => exact keys

end Proper

end Datum

/-- Without a key twice, what a key stands for is a matter of which entries there are. -/
theorem lookup_eq_some_iff_mem {α : Type} {entries : List (String × α)}
    (keys : (entries.map Prod.fst).Nodup) {key : String} {a : α} :
    entries.lookup key = some a ↔ (key, a) ∈ entries := by
  induction entries with
  | nil => simp
  | cons e rest ih =>
    obtain ⟨k, b⟩ := e
    obtain ⟨new, keys⟩ := List.nodup_cons.1 keys
    by_cases same : key = k
    · subst same
      have other : (key, a) ∉ rest := fun mem => new (List.mem_map.2 ⟨_, mem, rfl⟩)
      simp [other, eq_comm]
    · rw [List.lookup_cons, beq_eq_false_iff_ne.2 same, List.mem_cons, ih keys]
      simp [same]

namespace Toml

/-! ## Tables under construction -/

/-- A table under construction without a key twice, at any depth. -/
inductive Node.Proper : Node → Prop
  | value {d : Datum} (h : d.Proper) : Proper (.value d)
  | table {origin : Origin} {t : List (String × Node)} (keys : (t.map Prod.fst).Nodup)
      (each : ∀ e ∈ t, Proper e.2) : Proper (.table origin t)
  | tables {items : List (List (String × Node))} (keys : ∀ t ∈ items, (t.map Prod.fst).Nodup)
      (each : ∀ t ∈ items, ∀ e ∈ t, Proper e.2) : Proper (.tables items)

/-- The entries of such a table. -/
structure Table.Proper (t : Table) : Prop where
  keys : (t.map Prod.fst).Nodup
  each : ∀ e ∈ t, e.2.Proper

theorem Node.proper_table_iff {origin : Origin} {t : Table} :
    (Node.table origin t).Proper ↔ Table.Proper t := by
  constructor
  · intro h
    cases h with
    | table keys each => exact ⟨keys, each⟩
  · exact fun h => .table h.keys h.each

theorem Node.proper_tables_iff {items : List Table} :
    (Node.tables items).Proper ↔ ∀ t ∈ items, Table.Proper t := by
  constructor
  · intro h
    cases h with
    | tables keys each => exact fun t mem => ⟨keys t mem, each t mem⟩
  · exact fun h => .tables (fun t mem => (h t mem).keys) fun t mem => (h t mem).each

namespace Table.Proper

variable {t t' : Table} {key : String} {node : Node}

theorem nil : Table.Proper [] := ⟨List.nodup_nil, by simp⟩

theorem of_lookup (h : t.Proper) (found : t.lookup key = some node) : node.Proper :=
  h.each _ ((lookup_eq_some_iff_mem h.keys).1 found)

/-- A key that is new may be added. -/
theorem concat (h : t.Proper) (new : t.lookup key = none) (fits : node.Proper) :
    Table.Proper (t ++ [(key, node)]) := by
  refine ⟨?_, ?_⟩
  · have absent : key ∉ t.map Prod.fst := by
      intro known
      obtain ⟨e, mem, rfl⟩ := List.mem_map.1 known
      simpa using List.lookup_eq_none_iff.1 new e mem
    rw [List.map_append, List.nodup_append]
    refine ⟨h.keys, List.nodup_cons.2 ⟨List.not_mem_nil, List.nodup_nil⟩, ?_⟩
    rintro k mem _ last rfl
    rw [List.map_singleton, List.mem_singleton] at last
    subst last
    exact absent mem
  · intro e mem
    obtain mem | last := List.mem_append.1 mem
    · exact h.each e mem
    · rw [List.mem_singleton.1 last]
      exact fits

/-- Replacing what a key stands for leaves the keys alone. -/
theorem replace (h : t.Proper) (fits : node.Proper) : (t.replace key node).Proper := by
  have same : (t.replace key node).map Prod.fst = t.map Prod.fst := by
    rw [Table.replace, List.map_map]
    refine List.map_congr_left fun e _ => ?_
    dsimp only [Function.comp_apply]
    split <;> rfl
  refine ⟨same ▸ h.keys, ?_⟩
  intro e replaced
  obtain ⟨⟨k, old⟩, mem, rfl⟩ := List.mem_map.1 replaced
  dsimp only
  split
  · exact fits
  · exact h.each _ mem

/-- A change that keeps a table proper may be made at any path. -/
theorem edit {origin : Origin} {change : Origin → Table → Option Table}
    (keeps : ∀ own t t', Table.Proper t → change own t = some t' → Table.Proper t')
    {path : List String} {own : Origin} (h : t.Proper)
    (edited : Table.edit origin change path own t = some t') : t'.Proper := by
  induction path generalizing own t t' with
  | nil => exact keeps own t t' h edited
  | cons key path ih =>
    rw [Table.edit] at edited
    split at edited
    next new =>
      obtain ⟨inner, entered, ⟨⟩⟩ := Option.bind_eq_some_iff.1 edited
      exact h.concat new (Node.proper_table_iff.2 (ih .nil entered))
    next => cases edited
    next own entries found =>
      split at edited
      · cases edited
      · obtain ⟨inner, entered, ⟨⟩⟩ := Option.bind_eq_some_iff.1 edited
        have fits := Node.proper_table_iff.1 (h.of_lookup found)
        exact h.replace (Node.proper_table_iff.2 (ih fits entered))
    next items found =>
      obtain ⟨last, is, edited⟩ := Option.bind_eq_some_iff.1 edited
      obtain ⟨inner, entered, ⟨⟩⟩ := Option.bind_eq_some_iff.1 edited
      have fits := Node.proper_tables_iff.1 (h.of_lookup found)
      refine h.replace (Node.proper_tables_iff.2 fun t mem => ?_)
      obtain before | only := List.mem_append.1 mem
      · exact fits t (List.dropLast_subset _ before)
      · rw [List.mem_singleton.1 only]
        exact ih (fits last (List.mem_of_getLast? is)) entered

/-- Assigning a proper value to a new key. -/
theorem assign {own : Origin} {path : List String} {d : Datum} (h : t.Proper) (fits : d.Proper)
    (assigned : t.assign own path key d = some t') : t'.Proper := by
  refine h.edit (fun own t t' h changed => ?_) assigned
  split at changed
  · cases changed
  · split at changed
    · cases changed
    next known =>
      cases changed
      exact h.concat (Option.not_isSome_iff_eq_none.1 known) (.value fits)

/-- Opening the table that a header names. -/
theorem define {path : List String} (h : t.Proper) (defined : t.define path key = some t') :
    t'.Proper := by
  refine h.edit (fun own t t' h changed => ?_) defined
  split at changed
  next new =>
    cases changed
    exact h.concat new (Node.proper_table_iff.2 .nil)
  next entries found =>
    cases changed
    have fits := Node.proper_table_iff.1 (h.of_lookup found)
    exact h.replace (Node.proper_table_iff.2 fits)
  next => cases changed

/-- Opening a further table in a list of tables. -/
theorem append {path : List String} (h : t.Proper) (appended : t.append path key = some t') :
    t'.Proper := by
  refine h.edit (fun own t t' h changed => ?_) appended
  split at changed
  next new =>
    cases changed
    refine h.concat new (Node.proper_tables_iff.2 ?_)
    simpa using Table.Proper.nil
  next items found =>
    cases changed
    have fits := Node.proper_tables_iff.1 (h.of_lookup found)
    refine h.replace (Node.proper_tables_iff.2 ?_)
    simpa [or_imp, forall_and] using ⟨fits, Table.Proper.nil⟩
  next => cases changed

end Table.Proper

/-! ## Finished tables -/

theorem entriesToData_eq (t : Table) : entriesToData t = t.map fun e => (e.1, e.2.toDatum) := by
  induction t with
  | nil => rfl
  | cons e rest ih => rw [entriesToData, ih, List.map_cons]

theorem itemsToData_eq (items : List Table) : itemsToData items = items.map Table.toDatum := by
  induction items with
  | nil => rfl
  | cons t rest ih => rw [itemsToData, ih, List.map_cons, Table.toDatum]

/-- A table of proper data without a key twice. -/
theorem Table.proper_toDatum_of {t : Table} (keys : (t.map Prod.fst).Nodup)
    (each : ∀ e ∈ t, e.2.toDatum.Proper) : t.toDatum.Proper := by
  rw [Table.toDatum, entriesToData_eq]
  refine .table ?_ ?_
  · rw [List.map_map]
    exact keys
  · intro e converted
    obtain ⟨e, mem, rfl⟩ := List.mem_map.1 converted
    exact each e mem

theorem Node.Proper.toDatum {node : Node} (h : node.Proper) : node.toDatum.Proper := by
  induction h with
  | value h => rwa [Node.toDatum]
  | table keys each ih =>
    rw [Node.toDatum]
    exact Table.proper_toDatum_of keys ih
  | tables keys each ih =>
    rw [Node.toDatum, itemsToData_eq]
    refine .list fun d converted => ?_
    obtain ⟨t, mem, rfl⟩ := List.mem_map.1 converted
    exact Table.proper_toDatum_of (keys t mem) (ih t mem)

theorem Table.Proper.toDatum {t : Table} (h : t.Proper) : t.toDatum.Proper :=
  Table.proper_toDatum_of h.keys fun e mem => (h.each e mem).toDatum

/-! ## Values -/

theorem proper_plainValue {cs rest : List Char} {d : Datum} (h : plainValue cs = some (d, rest)) :
    d.Proper := by
  unfold plainValue at h
  split at h
  · cases h
  split at h
  · obtain ⟨⟨text, rest⟩, -, ⟨⟩⟩ := Option.map_eq_some_iff.1 h
    exact .text _
  split at h
  · split at h
    · cases h
      exact .moment
    split at h
    · cases h
      exact .float
    · obtain ⟨⟨n, rest⟩, -, ⟨⟩⟩ := Option.map_eq_some_iff.1 h
      exact .integer n
  · split at h
    · cases h
      exact .boolean true
    · cases h
      exact .boolean false
    · obtain ⟨rest, -, ⟨⟩⟩ := Option.map_eq_some_iff.1 h
      exact .float

/-- What the readers of nested values give with so much fuel is proper. -/
structure ReadsProper (fuel : Nat) : Prop where
  value : ∀ {depth cs d rest}, Toml.value fuel depth cs = some (d, rest) → d.Proper
  items : ∀ {depth cs items rest}, listItems fuel depth cs = some (items, rest) →
    ∀ d ∈ items, d.Proper
  entries : ∀ {depth t t' cs rest}, Table.Proper t →
    inlineEntries fuel depth t cs = some (t', rest) → Table.Proper t'

namespace ReadsProper

variable {fuel : Nat} (ih : ReadsProper fuel)

include ih

theorem value_succ {depth : Nat} {cs rest : List Char} {d : Datum}
    (h : Toml.value (fuel + 1) depth cs = some (d, rest)) : d.Proper := by
  unfold Toml.value at h
  split at h
  · split at h
    · cases h
    · obtain ⟨⟨items, rest⟩, read, ⟨⟩⟩ := Option.map_eq_some_iff.1 h
      exact .list (ih.items read)
  · split at h
    · cases h
    split at h
    · cases h
      exact Table.Proper.nil.toDatum
    · obtain ⟨⟨entries, rest⟩, read, ⟨⟩⟩ := Option.map_eq_some_iff.1 h
      exact (ih.entries .nil read).toDatum
  · exact proper_plainValue h

theorem items_succ {depth : Nat} {cs rest : List Char} {items : List Datum}
    (h : listItems (fuel + 1) depth cs = some (items, rest)) : ∀ d ∈ items, d.Proper := by
  unfold listItems at h
  obtain ⟨cs, -, h⟩ := Option.bind_eq_some_iff.1 h
  split at h
  · cases h
    simp
  obtain ⟨⟨item, cs⟩, read, h⟩ := Option.bind_eq_some_iff.1 h
  have first := ih.value read
  obtain ⟨cs, -, h⟩ := Option.bind_eq_some_iff.1 h
  split at h
  · obtain ⟨⟨items, rest⟩, read, ⟨⟩⟩ := Option.bind_eq_some_iff.1 h
    exact List.forall_mem_cons.2 ⟨first, ih.items read⟩
  · cases h
    simpa using first
  · cases h

theorem entries_succ {depth : Nat} {t t' : Table} {cs rest : List Char} (proper : t.Proper)
    (h : inlineEntries (fuel + 1) depth t cs = some (t', rest)) : t'.Proper := by
  unfold inlineEntries at h
  obtain ⟨⟨⟨path, key⟩, cs⟩, -, h⟩ := Option.bind_eq_some_iff.1 h
  obtain ⟨cs, -, h⟩ := Option.bind_eq_some_iff.1 h
  obtain ⟨⟨d, cs⟩, read, h⟩ := Option.bind_eq_some_iff.1 h
  obtain ⟨grown, assigned, h⟩ := Option.bind_eq_some_iff.1 h
  have grows : Table.Proper grown := proper.assign (ih.value read) assigned
  split at h
  · exact ih.entries grows h
  · cases h
    exact grows
  · cases h

end ReadsProper

theorem readsProper (fuel : Nat) : ReadsProper fuel := by
  induction fuel with
  | zero => exact ⟨nofun, nofun, nofun⟩
  | succ fuel ih => exact ⟨ih.value_succ, ih.items_succ, ih.entries_succ⟩

/-! ## Documents -/

theorem Draft.proper_assign {draft draft' : Draft} {path : List String} {key : String} {d : Datum}
    (proper : draft.root.Proper) (fits : d.Proper) (h : draft.assign path key d = some draft') :
    draft'.root.Proper := by
  obtain ⟨root, edited, ⟨⟩⟩ := Option.bind_eq_some_iff.1 h
  exact proper.edit (fun _ _ _ proper assigned => proper.assign fits assigned) edited

theorem Draft.proper_define {draft draft' : Draft} {path : List String} {key : String}
    (proper : draft.root.Proper) (h : draft.define path key = some draft') :
    draft'.root.Proper := by
  obtain ⟨root, defined, ⟨⟩⟩ := Option.bind_eq_some_iff.1 h
  exact proper.define defined

theorem Draft.proper_append {draft draft' : Draft} {path : List String} {key : String}
    (proper : draft.root.Proper) (h : draft.append path key = some draft') :
    draft'.root.Proper := by
  obtain ⟨root, appended, ⟨⟩⟩ := Option.bind_eq_some_iff.1 h
  exact proper.append appended

/-- A line keeps a draft proper. -/
theorem proper_statement {draft draft' : Draft} {cs rest : List Char} (proper : draft.root.Proper)
    (h : statement draft cs = some (draft', rest)) : draft'.root.Proper := by
  unfold statement at h
  split at h
  · obtain ⟨⟨⟨path, key⟩, cs⟩, -, h⟩ := Option.bind_eq_some_iff.1 h
    obtain ⟨cs, -, h⟩ := Option.bind_eq_some_iff.1 h
    obtain ⟨cs, -, h⟩ := Option.bind_eq_some_iff.1 h
    obtain ⟨cs, -, h⟩ := Option.bind_eq_some_iff.1 h
    obtain ⟨_, appended, ⟨⟩⟩ := Option.bind_eq_some_iff.1 h
    exact Draft.proper_append proper appended
  · obtain ⟨⟨⟨path, key⟩, cs⟩, -, h⟩ := Option.bind_eq_some_iff.1 h
    obtain ⟨cs, -, h⟩ := Option.bind_eq_some_iff.1 h
    obtain ⟨cs, -, h⟩ := Option.bind_eq_some_iff.1 h
    obtain ⟨_, defined, ⟨⟩⟩ := Option.bind_eq_some_iff.1 h
    exact Draft.proper_define proper defined
  · obtain ⟨⟨⟨path, key⟩, cs⟩, -, h⟩ := Option.bind_eq_some_iff.1 h
    obtain ⟨cs, -, h⟩ := Option.bind_eq_some_iff.1 h
    obtain ⟨⟨d, cs⟩, read, h⟩ := Option.bind_eq_some_iff.1 h
    obtain ⟨cs, -, h⟩ := Option.bind_eq_some_iff.1 h
    obtain ⟨_, assigned, ⟨⟩⟩ := Option.bind_eq_some_iff.1 h
    exact Draft.proper_assign proper ((readsProper _).value read) assigned

theorem proper_statements {fuel : Nat} {draft draft' : Draft} {cs : List Char}
    (proper : draft.root.Proper) (h : statements fuel draft cs = some draft') :
    draft'.root.Proper := by
  induction fuel generalizing draft cs with
  | zero => cases h
  | succ fuel ih =>
    unfold statements at h
    split at h
    · cases h
      exact proper
    split at h
    · obtain ⟨rest, -, h⟩ := Option.bind_eq_some_iff.1 h
      exact ih proper h
    split at h
    · obtain ⟨rest, -, h⟩ := Option.bind_eq_some_iff.1 h
      exact ih proper h
    · obtain ⟨⟨_, rest⟩, line, h⟩ := Option.bind_eq_some_iff.1 h
      exact ih (proper_statement proper line) h

/-- What is read from a document is a table, and proper. -/
theorem proper_of_read? {text : String} {d : Datum} (h : read? text = some d) :
    d.Proper ∧ ∃ entries, d = .table entries := by
  obtain ⟨draft, read, rfl⟩ := Option.map_eq_some_iff.1 h
  have proper : Table.Proper draft.root := proper_statements .nil read
  exact ⟨proper.toDatum, _, rfl⟩

end Toml

end Southbound
