/-
**Tables in order of insertion.**

A table holds one value per key and remembers the order in which the keys came first. Inserting
under a known key replaces the value and keeps its position.

* `get?_eq_some_iff`: exactly the entries are found;
* `get?_insert` and `get?_insertAll`: what is found after an insertion or several;
* `keys_insert_of_mem`, `keys_insert_of_not_mem`: the keys after an insertion;
* `ofList_entries`: a table is made of its entries.
-/

namespace FormRules

/-- The entries with a value under a key, in place of an earlier one or at the end. -/
def insertEntry {α : Type} (key : String) (value : α) : List (String × α) → List (String × α)
  | [] => [(key, value)]
  | (name, old) :: rest =>
    if name = key then (key, value) :: rest else (name, old) :: insertEntry key value rest

theorem map_fst_insertEntry_of_mem {α : Type} {key : String} (value : α)
    {entries : List (String × α)} (known : key ∈ entries.map Prod.fst) :
    (insertEntry key value entries).map Prod.fst = entries.map Prod.fst := by
  induction entries with
  | nil => simp at known
  | cons entry rest ih =>
    by_cases same : entry.1 = key
    · simp [insertEntry, same]
    · have inRest : key ∈ rest.map Prod.fst := by
        simpa [Ne.symm same] using known
      simp [insertEntry, same, ih inRest]

/-- An entry under a new key goes to the end. -/
theorem insertEntry_of_not_mem {α : Type} {key : String} (value : α)
    {entries : List (String × α)} (fresh : key ∉ entries.map Prod.fst) :
    insertEntry key value entries = entries ++ [(key, value)] := by
  induction entries with
  | nil => rfl
  | cons entry rest ih =>
    have parts : entry.1 ≠ key ∧ key ∉ rest.map Prod.fst := by
      constructor
      · rintro rfl
        simp at fresh
      · intro member
        exact fresh (List.mem_cons_of_mem _ member)
    simp [insertEntry, parts.1, ih parts.2]

theorem map_fst_insertEntry_of_not_mem {α : Type} {key : String} (value : α)
    {entries : List (String × α)} (fresh : key ∉ entries.map Prod.fst) :
    (insertEntry key value entries).map Prod.fst = entries.map Prod.fst ++ [key] := by
  rw [insertEntry_of_not_mem value fresh, List.map_append, List.map_singleton]

/-- A table of values under different keys. -/
structure Table (α : Type) where
  entries : List (String × α)
  nodup : (entries.map Prod.fst).Nodup

namespace Table

variable {α : Type}

/-- The table without entries. -/
def empty : Table α := ⟨[], by simp⟩

instance : Inhabited (Table α) := ⟨empty⟩

/-- The keys, in order. -/
def keys (table : Table α) : List String :=
  table.entries.map Prod.fst

/-- The number of entries. -/
def size (table : Table α) : Nat :=
  table.entries.length

/-- The value under a key. -/
def get? (table : Table α) (key : String) : Option α :=
  table.entries.lookup key

/-- Whether a key has a value. -/
def contains (table : Table α) (key : String) : Bool :=
  (table.get? key).isSome

/-- The table with a value under a key. -/
def insert (table : Table α) (key : String) (value : α) : Table α where
  entries := insertEntry key value table.entries
  nodup := by
    by_cases known : key ∈ table.entries.map Prod.fst
    · rw [map_fst_insertEntry_of_mem value known]
      exact table.nodup
    · rw [map_fst_insertEntry_of_not_mem value known]
      exact List.nodup_append.2 ⟨table.nodup, by simp, fun first member second last => by
        simp only [List.mem_singleton] at last
        rintro rfl
        exact known (last ▸ member)⟩

/-- The table with all entries of a list inserted in order. -/
def insertAll (table : Table α) (entries : List (String × α)) : Table α :=
  entries.foldl (fun table entry => table.insert entry.1 entry.2) table

/-- The table of the entries of a list. -/
def ofList (entries : List (String × α)) : Table α :=
  empty.insertAll entries

/-! ### Lookup -/

/-- Exactly the entries are found under their keys. -/
theorem get?_eq_some_iff {table : Table α} {key : String} {value : α} :
    table.get? key = some value ↔ (key, value) ∈ table.entries := by
  rw [get?, List.lookup_eq_some_iff]
  constructor
  · rintro ⟨before, after, shape, _⟩
    rw [shape]
    exact List.mem_append_right before List.mem_cons_self
  · intro member
    obtain ⟨before, after, shape⟩ := List.append_of_mem member
    refine ⟨before, after, shape, fun entry inBefore => ?_⟩
    have distinct := table.nodup
    rw [shape, List.map_append, List.nodup_append] at distinct
    have other := distinct.2.2 entry.1 (List.mem_map_of_mem inBefore) key (by simp)
    simpa using Ne.symm other

/-- Tables with the same entries in another order find the same values. -/
theorem get?_eq_of_perm {first second : Table α} (perm : first.entries.Perm second.entries)
    (key : String) : first.get? key = second.get? key := by
  apply Option.ext
  intro value
  rw [get?_eq_some_iff, get?_eq_some_iff, perm.mem_iff]

/-! ### Insertion -/

theorem ext_entries {first second : Table α} (same : first.entries = second.entries) :
    first = second := by
  cases first
  cases second
  simp_all

/-- The inserted value is found under its key, and nothing changes under other keys. -/
theorem get?_insert (table : Table α) (key other : String) (value : α) :
    (table.insert key value).get? other = if other = key then some value else table.get? other := by
  suffices general : ∀ entries : List (String × α),
      (insertEntry key value entries).lookup other =
        if other = key then some value else entries.lookup other from general table.entries
  intro entries
  induction entries with
  | nil =>
    by_cases same : other = key
    · simp [insertEntry, same]
    · simp [insertEntry, List.lookup_cons, same, beq_eq_false_iff_ne.2 same]
  | cons entry rest ih =>
    obtain ⟨name, old⟩ := entry
    by_cases same : name = key
    · by_cases asked : other = key
      · simp [insertEntry, same, asked]
      · simp [insertEntry, List.lookup_cons, same, asked, beq_eq_false_iff_ne.2 asked]
    · by_cases asked : other = name
      · simp [insertEntry, same, asked]
      · simp [insertEntry, List.lookup_cons, same, ih, beq_eq_false_iff_ne.2 asked]

/-- **The last value of a key is found**, and under keys without one what was there before. -/
theorem get?_insertAll (table : Table α) (entries : List (String × α)) (key : String) :
    (table.insertAll entries).get? key = (entries.reverse.lookup key).or (table.get? key) := by
  induction entries generalizing table with
  | nil => rfl
  | cons entry rest ih =>
    show ((table.insert entry.1 entry.2).insertAll rest).get? key = _
    rw [ih, get?_insert, List.reverse_cons, List.lookup_append, Option.or_assoc, List.lookup_cons]
    by_cases same : key = entry.1
    · simp [same]
    · simp [same, beq_eq_false_iff_ne.2 same]

theorem keys_insert_of_mem {table : Table α} {key : String} (value : α)
    (known : key ∈ table.keys) : (table.insert key value).keys = table.keys :=
  map_fst_insertEntry_of_mem value known

theorem keys_insert_of_not_mem {table : Table α} {key : String} (value : α)
    (fresh : key ∉ table.keys) : (table.insert key value).keys = table.keys ++ [key] :=
  map_fst_insertEntry_of_not_mem value fresh

/-- Entries under new keys go to the end, in their order. -/
theorem entries_insertAll {table : Table α} {entries : List (String × α)}
    (distinct : ((table.entries ++ entries).map Prod.fst).Nodup) :
    (table.insertAll entries).entries = table.entries ++ entries := by
  induction entries generalizing table with
  | nil => exact (List.append_nil _).symm
  | cons entry rest ih =>
    have fresh : entry.1 ∉ table.entries.map Prod.fst := by
      rw [List.map_append, List.nodup_append] at distinct
      intro known
      exact distinct.2.2 entry.1 known entry.1 List.mem_cons_self rfl
    have grown : (table.insert entry.1 entry.2).entries = table.entries ++ [entry] :=
      insertEntry_of_not_mem entry.2 fresh
    have shape : (table.insert entry.1 entry.2).entries ++ rest =
        table.entries ++ entry :: rest := by
      rw [grown, List.append_assoc, List.singleton_append]
    show ((table.insert entry.1 entry.2).insertAll rest).entries = _
    rw [ih (by rw [shape]; exact distinct), shape]

/-- A table is made of its entries. -/
theorem ofList_entries (table : Table α) : ofList table.entries = table :=
  ext_entries (entries_insertAll table.nodup)

end Table

end FormRules
