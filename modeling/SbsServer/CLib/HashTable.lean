import Mathlib.Data.List.AList

/-!
# Hash tables

A hash table is an association list with distinct keys.  The list order is one
possible iteration order; the operations below promise nothing about it, and
two tables with the same lookups are equal up to that order.
-/

namespace CLib

/-- A hash table from keys to values. -/
abbrev HashTable (K V : Type) := AList fun _ : K => V

namespace HashTable

variable {K V W : Type}

/-- The entries of a table in iteration order. -/
def toList (table : HashTable K V) : List (K × V) :=
  table.entries.map fun entry => (entry.1, entry.2)

/-- The keys of a table in iteration order. -/
def keys (table : HashTable K V) : List K :=
  table.toList.map Prod.fst

theorem keys_eq (table : HashTable K V) : table.keys = AList.keys table := by
  simp only [keys, toList, List.map_map]
  rfl

/-- The keys of a table are pairwise distinct. -/
theorem nodup_keys (table : HashTable K V) : table.keys.Nodup := by
  rw [keys_eq]
  exact table.nodupKeys

/-- A change of every value in place, as a loop over the table makes it. -/
def mapValues (change : K → V → W) (table : HashTable K V) : HashTable K W where
  entries := table.entries.map fun entry => ⟨entry.1, change entry.1 entry.2⟩
  nodupKeys := table.nodupKeys.map₂ change

/-- The empty table. -/
def empty : HashTable K V := ∅

theorem toList_mapValues
    (change : K → V → W)
    (table : HashTable K V) :
    (table.mapValues change).toList =
      table.toList.map fun entry => (entry.1, change entry.1 entry.2) := by
  simp only [toList, mapValues, List.map_map]
  rfl

@[simp] theorem keys_mapValues
    (change : K → V → W)
    (table : HashTable K V) :
    (table.mapValues change).keys = table.keys := by
  simp only [keys, toList, mapValues, List.map_map]
  rfl

variable [DecidableEq K]

/-- `g_hash_table_lookup`. -/
def lookup (table : HashTable K V) (key : K) : Option V :=
  AList.lookup key table

/-- `g_hash_table_contains`. -/
def contains (table : HashTable K V) (key : K) : Bool :=
  (table.lookup key).isSome

/-- `g_hash_table_insert` and `g_hash_table_replace`: the new value takes the
place of an earlier one. -/
def insert (table : HashTable K V) (key : K) (value : V) : HashTable K V :=
  AList.insert key value table

/-- `g_hash_table_remove` and `g_hash_table_steal`. -/
def remove (table : HashTable K V) (key : K) : HashTable K V :=
  AList.erase key table

/-- A change in place of the value under one key. -/
def modify (table : HashTable K V) (key : K) (change : V → V) : HashTable K V :=
  table.mapValues fun other value => if other = key then change value else value

/-- Insertion of entries one after the other. -/
def insertAll (table : HashTable K V) (entries : List (K × V)) : HashTable K V :=
  entries.foldl (fun table entry => table.insert entry.1 entry.2) table

/-- Every entry of the table satisfies a predicate. -/
def All (table : HashTable K V) (predicate : K → V → Prop) : Prop :=
  ∀ key value, table.lookup key = some value → predicate key value

@[simp] theorem lookup_empty (key : K) :
    (empty : HashTable K V).lookup key = none :=
  AList.lookup_empty key

theorem lookup_insert
    (table : HashTable K V)
    (key other : K)
    (value : V) :
    (table.insert key value).lookup other =
      if other = key then some value else table.lookup other := by
  unfold lookup insert
  split
  · next equal =>
      subst equal
      exact AList.lookup_insert table
  · next different => exact AList.lookup_insert_ne different

theorem lookup_remove
    (table : HashTable K V)
    (key other : K) :
    (table.remove key).lookup other =
      if other = key then none else table.lookup other := by
  unfold lookup remove
  split
  · next equal =>
      subst equal
      exact AList.lookup_erase other table
  · next different => exact AList.lookup_erase_ne different

@[simp] theorem lookup_mapValues
    (change : K → V → W)
    (table : HashTable K V)
    (key : K) :
    (table.mapValues change).lookup key =
      (table.lookup key).map (change key) := by
  unfold lookup mapValues AList.lookup
  exact List.dlookup_map₂ key

theorem lookup_modify
    (table : HashTable K V)
    (key other : K)
    (change : V → V) :
    (table.modify key change).lookup other =
      if other = key then (table.lookup other).map change
      else table.lookup other := by
  unfold modify
  rw [lookup_mapValues]
  split
  · next equal => simp only [equal]
  · next different => exact Option.map_id'

theorem contains_modify
    (table : HashTable K V)
    (key other : K)
    (change : V → V) :
    (table.modify key change).contains other = table.contains other := by
  unfold contains
  rw [lookup_modify]
  split
  · exact Option.isSome_map
  · rfl

variable {table : HashTable K V}

variable {key : K}

/-- A change in place depends only on what is in the table. -/
theorem modify_congr
    {change other : V → V}
    (same : ∀ value, table.lookup key = some value → change value = other value) :
    table.modify key change = table.modify key other := by
  apply AList.ext
  unfold modify mapValues
  refine List.map_congr_left fun entry member => ?_
  by_cases equal : entry.1 = key
  · have found : table.lookup key = some entry.2 := by
      rw [← equal]
      exact List.mem_dlookup table.nodupKeys member
    simp only [equal, if_true, same entry.2 found]
  · simp only [equal, if_false]

theorem modify_eq_self
    {change : V → V}
    (fixed : ∀ value, table.lookup key = some value → change value = value) :
    table.modify key change = table := by
  have unchanged : table.modify key change = table.modify key id := modify_congr fixed
  rw [unchanged]
  apply AList.ext
  unfold modify mapValues
  simp only [id, ite_self]
  exact List.map_id _

/-- A change in place that leaves the table alone leaves the value alone. -/
theorem modify_eq_self_iff
    {change : V → V} :
    table.modify key change = table ↔
      ∀ value, table.lookup key = some value → change value = value := by
  constructor
  · intro same value found
    have changed := table.lookup_modify key key change
    rw [same, found] at changed
    simpa using changed.symm
  · exact modify_eq_self

@[simp] theorem keys_modify
    (table : HashTable K V)
    (key : K)
    (change : V → V) :
    (table.modify key change).keys = table.keys :=
  keys_mapValues _ table

theorem lookup_eq_none_iff
    {key : K} :
    table.lookup key = none ↔ key ∉ table.keys := by
  rw [keys_eq]
  exact AList.lookup_eq_none

theorem mem_keys_iff
    {key : K} :
    key ∈ table.keys ↔ ∃ value, table.lookup key = some value := by
  rw [← Option.ne_none_iff_exists', ne_eq, lookup_eq_none_iff, not_not]

/-- A new entry is added to the keys. -/
theorem keys_insert
    (absent : table.lookup key = none)
    (value : V) :
    (table.insert key value).keys = key :: table.keys := by
  rw [lookup_eq_none_iff, keys_eq] at absent
  rw [keys_eq, keys_eq]
  unfold insert
  rw [AList.keys_insert, List.erase_of_not_mem absent]

/-- Two changes under one key are one change. -/
theorem modify_modify
    (table : HashTable K V)
    (key : K)
    (first second : V → V) :
    (table.modify key first).modify key second =
      table.modify key fun value => second (first value) := by
  apply AList.ext
  simp only [modify, mapValues, List.map_map]
  apply List.map_congr_left
  intro entry _
  by_cases equal : entry.1 = key
  · simp only [Function.comp, equal, if_true]
  · simp only [Function.comp, equal, if_false]

/-- A change of a new entry is a change of what is inserted. -/
theorem modify_insert
    (absent : table.lookup key = none)
    (value : V)
    (change : V → V) :
    (table.insert key value).modify key change = table.insert key (change value) := by
  have missing : key ∉ table := AList.lookup_eq_none.mp absent
  have unchanged : table.modify key change = table := by
    apply modify_eq_self
    intro stored found
    rw [absent] at found
    cases found
  apply AList.ext
  unfold insert
  rw [AList.entries_insert_of_notMem missing]
  simp only [modify, mapValues, AList.entries_insert_of_notMem missing, List.map_cons,
    if_true]
  congr 1
  exact congrArg AList.entries unchanged

@[simp] theorem contains_eq_true
    {key : K} :
    table.contains key = true ↔ ∃ value, table.lookup key = some value :=
  Option.isSome_iff_exists

@[simp] theorem contains_eq_false
    {key : K} :
    table.contains key = false ↔ table.lookup key = none := by
  unfold contains
  exact Option.isSome_eq_false_iff.trans Option.isNone_iff_eq_none

theorem lookup_of_mem_toList
    {entry : K × V}
    (member : entry ∈ table.toList) :
    table.lookup entry.1 = some entry.2 := by
  obtain ⟨stored, present, rfl⟩ := List.mem_map.mp member
  exact List.mem_dlookup table.nodupKeys present

theorem mem_toList
    {value : V}
    (found : table.lookup key = some value) :
    (key, value) ∈ table.toList :=
  List.mem_map.mpr ⟨⟨key, value⟩, List.of_mem_dlookup found, rfl⟩

/-- A predicate holds of all entries when it holds along the iteration. -/
theorem all_iff_toList
    {predicate : K → V → Prop} :
    table.All predicate ↔ ∀ entry ∈ table.toList, predicate entry.1 entry.2 :=
  ⟨fun all entry member => all entry.1 entry.2 (lookup_of_mem_toList member),
    fun listed key value found => listed (key, value) (mem_toList found)⟩

instance
    (table : HashTable K V)
    (predicate : K → V → Prop)
    [∀ key value, Decidable (predicate key value)] :
    Decidable (table.All predicate) :=
  decidable_of_iff _ all_iff_toList.symm

/-- Entries with distinct keys are all found after they were inserted. -/
theorem lookup_insertAll
    (table : HashTable K V)
    {entries : List (K × V)}
    (distinct : (entries.map Prod.fst).Nodup)
    (key : K) :
    (∀ value, (key, value) ∈ entries → (table.insertAll entries).lookup key = some value) ∧
      (key ∉ entries.map Prod.fst → (table.insertAll entries).lookup key = table.lookup key) := by
  induction entries generalizing table with
  | nil => exact ⟨nofun, fun _ => rfl⟩
  | cons entry rest ih =>
      obtain ⟨headAbsent, restDistinct⟩ := List.nodup_cons.mp distinct
      obtain ⟨restFound, restKept⟩ :=
        ih (table.insert entry.1 entry.2) restDistinct
      constructor
      · intro value member
        rcases List.mem_cons.mp member with rfl | later
        · exact (restKept headAbsent).trans
            ((lookup_insert _ _ _ _).trans (if_pos rfl))
        · exact restFound value later
      · intro absent
        rw [List.map_cons, List.mem_cons, not_or] at absent
        exact (restKept absent.2).trans
          ((lookup_insert _ _ _ _).trans (if_neg absent.1))

/-- A table that is filled from the entries of another one. -/
theorem lookup_insertAll_toList
    (change : K → V → W)
    (table : HashTable K V)
    (key : K) :
    ((empty : HashTable K W).insertAll
      (table.toList.map fun entry => (entry.1, change entry.1 entry.2))).lookup key =
      (table.lookup key).map (change key) := by
  have keys : (table.toList.map fun entry => (entry.1, change entry.1 entry.2)).map Prod.fst =
      table.keys := by
    rw [List.map_map]
    rfl
  obtain ⟨found, kept⟩ := lookup_insertAll (empty : HashTable K W)
    (keys.symm ▸ table.nodup_keys) key
  cases stored : table.lookup key with
  | none =>
      rw [Option.map_none]
      refine (kept ?_).trans (lookup_empty key)
      rw [keys, ← lookup_eq_none_iff]
      exact stored
  | some value =>
      exact found (change key value)
        (List.mem_map.mpr ⟨(key, value), mem_toList stored, rfl⟩)

/-- The values under one key of a list of entries. -/
def valuesUnder (entries : List (K × V)) (key : K) : List V :=
  entries.filterMap fun entry => if entry.1 = key then some entry.2 else none

theorem mem_valuesUnder
    {entries : List (K × V)}
    {value : V} :
    value ∈ valuesUnder entries key ↔ (key, value) ∈ entries := by
  unfold valuesUnder
  rw [List.mem_filterMap]
  constructor
  · rintro ⟨⟨name, stored⟩, member, under⟩
    obtain ⟨rfl, same⟩ := Option.ite_none_right_eq_some.mp under
    cases same
    exact member
  · intro member
    exact ⟨(key, value), member, if_pos rfl⟩

/-- Of the entries under one key the last one stays. -/
theorem lookup_insertAll_eq
    (table : HashTable K V)
    (entries : List (K × V))
    (key : K) :
    (table.insertAll entries).lookup key =
      (valuesUnder entries key).getLast?.or (table.lookup key) := by
  induction entries generalizing table with
  | nil => rfl
  | cons entry rest ih =>
      have rest_eq := ih (table.insert entry.1 entry.2)
      rw [lookup_insert] at rest_eq
      change ((table.insert entry.1 entry.2).insertAll rest).lookup key = _
      rw [rest_eq]
      by_cases equal : entry.1 = key
      · rw [if_pos equal.symm]
        simp only [valuesUnder, List.filterMap_cons, equal, if_true, List.getLast?_cons]
        cases (List.filterMap _ rest).getLast? with
        | none => rfl
        | some value => rfl
      · rw [if_neg (Ne.symm equal)]
        simp only [valuesUnder, List.filterMap_cons, equal, if_false]

/-- The entries of a table in iteration order, looked up. -/
theorem getLast?_valuesUnder_toList
    (table : HashTable K V)
    (key : K) :
    (valuesUnder table.toList key).getLast? = table.lookup key := by
  have refilled := lookup_insertAll_toList (fun _ value => value) table key
  rw [lookup_insertAll_eq] at refilled
  simpa using refilled

namespace All

variable {predicate : K → V → Prop} {table : HashTable K V}

theorem empty : (HashTable.empty : HashTable K V).All predicate := by
  intro key value found
  simp at found

theorem insert
    (all : table.All predicate)
    {key : K}
    {value : V}
    (holds : predicate key value) :
    (table.insert key value).All predicate := by
  intro other stored found
  rw [lookup_insert] at found
  split at found
  · next equal =>
      cases found
      exact equal ▸ holds
  · exact all other stored found

theorem remove
    (all : table.All predicate)
    (key : K) :
    (table.remove key).All predicate := by
  intro other stored found
  rw [lookup_remove] at found
  split at found
  · cases found
  · exact all other stored found

theorem mapValues
    {target : K → W → Prop}
    {change : K → V → W}
    (all : table.All predicate)
    (keeps : ∀ key value, predicate key value → target key (change key value)) :
    (table.mapValues change).All target := by
  intro key stored found
  rw [lookup_mapValues, Option.map_eq_some_iff] at found
  obtain ⟨value, present, rfl⟩ := found
  exact keeps key value (all key value present)

theorem modify
    (all : table.All predicate)
    {key : K}
    {change : V → V}
    (keeps : ∀ value, table.lookup key = some value →
      predicate key value → predicate key (change value)) :
    (table.modify key change).All predicate := by
  intro other stored found
  rw [lookup_modify] at found
  split at found
  · next equal =>
      subst equal
      obtain ⟨value, present, rfl⟩ := Option.map_eq_some_iff.mp found
      exact keeps value present (all other value present)
  · exact all other stored found

/-- A predicate may be weakened entry by entry. -/
theorem imp
    {target : K → V → Prop}
    (all : table.All predicate)
    (implies : ∀ key value, predicate key value → target key value) :
    table.All target :=
  fun key value found => implies key value (all key value found)

end All
end HashTable
end CLib
