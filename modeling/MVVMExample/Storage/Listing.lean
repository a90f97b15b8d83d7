import MVVMExample.Storage.KeyedTable

/-!
# Meaning and listing of a table

`toFinmap` forgets handles and row order and keeps the finite map from keys to
values. `sorted` lists the rows in increasing key order; it is the only list
with these rows and strictly increasing keys, and its keys are the sorted key
set of the finite map.
-/

namespace Storage
namespace KeyedTable

variable {Key Value : Type*} [LinearOrder Key]

/-! ## The finite map of a table -/

/-- The finite map from keys to values. -/
def toFinmap (table : KeyedTable Key Value) : Finmap fun _ : Key => Value :=
  (table.rows.map fun row => (⟨row.key, row.value⟩ : Σ _ : Key, Value)).toFinmap

theorem lookup_toFinmap (table : KeyedTable Key Value) (key : Key) :
    table.toFinmap.lookup key = (table.find key).map Row.value := by
  unfold toFinmap find
  rw [Finmap.dlookup_list_toFinmap]
  induction table.rows with
  | nil => rfl
  | cons head tail inductionHypothesis =>
      rw [List.map_cons]
      by_cases headKey : head.key = key
      · subst headKey
        rw [List.dlookup_cons_eq, List.find?_cons_of_pos (by simp)]
        rfl
      · rw [List.dlookup_cons_ne _ _ (Ne.symm headKey),
          List.find?_cons_of_neg (by simpa using headKey),
          inductionHypothesis]

theorem lookup_toFinmap_eq_some
    {table : KeyedTable Key Value}
    {key : Key}
    {value : Value} :
    table.toFinmap.lookup key = some value ↔
      ∃ row ∈ table.rows, row.key = key ∧ row.value = value := by
  rw [lookup_toFinmap, Option.map_eq_some_iff]
  simp only [find_eq_some, and_assoc]

/-- A stored row is what the map holds at its key. -/
theorem lookup_toFinmap_of_stored
    {table : KeyedTable Key Value}
    {row : Row Key Value}
    (stored : row ∈ table.rows) :
    table.toFinmap.lookup row.key = some row.value :=
  lookup_toFinmap_eq_some.mpr ⟨row, stored, rfl, rfl⟩

theorem mem_toFinmap
    {table : KeyedTable Key Value}
    {key : Key} :
    key ∈ table.toFinmap ↔ ∃ row ∈ table.rows, row.key = key := by
  rw [Finmap.mem_iff]
  simp only [lookup_toFinmap_eq_some]
  constructor
  · rintro ⟨_, row, stored, sameKey, _⟩
    exact ⟨row, stored, sameKey⟩
  · rintro ⟨row, stored, sameKey⟩
    exact ⟨row.value, row, stored, sameKey, rfl⟩

/-- An upsert inserts into the map. -/
@[simp] theorem toFinmap_upsert
    (table : KeyedTable Key Value)
    (key : Key)
    (value : Value) :
    (table.upsert key value).toFinmap = table.toFinmap.insert key value := by
  apply Finmap.ext_lookup
  intro other
  by_cases sameKey : other = key
  · subst sameKey
    rw [Finmap.lookup_insert, lookup_toFinmap, find_upsert_self]
    rfl
  · rw [Finmap.lookup_insert_of_ne _ sameKey]
    apply Option.ext
    intro found
    rw [lookup_toFinmap_eq_some, lookup_toFinmap_eq_some]
    apply exists_congr
    intro row
    apply and_congr_left
    rintro ⟨rfl, _⟩
    exact mem_rows_upsert_of_ne sameKey

/-- Deleting the row of a live handle erases its key from the map. -/
theorem toFinmap_delete
    {table : KeyedTable Key Value}
    {row : Row Key Value}
    (stored : row ∈ table.rows) :
    (table.delete row.handle).toFinmap = table.toFinmap.erase row.key := by
  apply Finmap.ext_lookup
  intro other
  apply Option.ext
  intro found
  rw [lookup_toFinmap_eq_some]
  simp only [mem_rows_delete_of_stored stored]
  by_cases sameKey : other = row.key
  · subst sameKey
    rw [Finmap.lookup_erase]
    constructor
    · rintro ⟨survivor, ⟨_, otherKey⟩, survivorKey, _⟩
      exact absurd survivorKey otherKey
    · intro impossible
      contradiction
  · rw [Finmap.lookup_erase_ne sameKey, lookup_toFinmap_eq_some]
    constructor
    · rintro ⟨survivor, ⟨survivorStored, _⟩, survivorKey, survivorValue⟩
      exact ⟨survivor, survivorStored, survivorKey, survivorValue⟩
    · rintro ⟨survivor, survivorStored, rfl, survivorValue⟩
      exact ⟨survivor, ⟨survivorStored, sameKey⟩, rfl, survivorValue⟩

/-! ## The listing in key order -/

/-- The rows in increasing key order. -/
def sorted (table : KeyedTable Key Value) : List (Row Key Value) :=
  table.rows.insertionSort fun left right => left.key ≤ right.key

@[simp] theorem mem_sorted
    {table : KeyedTable Key Value}
    {row : Row Key Value} :
    row ∈ table.sorted ↔ row ∈ table.rows :=
  List.mem_insertionSort _

/-- The keys of the listing increase strictly. -/
theorem sorted_pairwise (table : KeyedTable Key Value) :
    table.sorted.Pairwise fun left right => left.key < right.key := by
  let order := fun left right : Row Key Value => left.key ≤ right.key
  have total : Std.Total order :=
    ⟨fun left right => le_total left.key right.key⟩
  have transitive : IsTrans (Row Key Value) order :=
    ⟨fun _ _ _ first second => le_trans first second⟩
  have weakly : table.sorted.Pairwise order := List.pairwise_insertionSort _ _
  have distinct : (table.sorted.map Row.key).Nodup :=
    ((List.perm_insertionSort _ table.rows).map Row.key).nodup_iff.mpr
      table.keys_nodup
  have different : table.sorted.Pairwise fun left right =>
      left.key ≠ right.key :=
    List.pairwise_map.mp distinct
  exact (weakly.and different).imp fun both => lt_of_le_of_ne both.1 both.2

/-- The listing is determined by its members and its strictly increasing
keys. -/
theorem sorted_eq
    {table : KeyedTable Key Value}
    {listing : List (Row Key Value)}
    (increasing : listing.Pairwise fun left right => left.key < right.key)
    (members : ∀ row, row ∈ listing ↔ row ∈ table.rows) :
    table.sorted = listing := by
  let order := fun left right : Row Key Value => left.key < right.key
  have irreflexive : Std.Irrefl order := ⟨fun row => lt_irrefl row.key⟩
  have antisymmetric : Std.Antisymm order :=
    ⟨fun _ _ first second => absurd first second.asymm⟩
  exact table.sorted_pairwise.eq_of_mem_iff increasing fun row =>
    mem_sorted.trans (members row).symm

/-- The keys of the listing are the sorted key set of the map. -/
theorem map_key_sorted (table : KeyedTable Key Value) :
    table.sorted.map Row.key = table.toFinmap.keys.sort := by
  have increasing : (table.sorted.map Row.key).SortedLT :=
    (List.pairwise_map.mpr table.sorted_pairwise).sortedLT
  refine increasing.eq_of_mem_iff (Finset.sortedLT_sort _) fun key => ?_
  rw [Finset.mem_sort, Finmap.mem_keys, mem_toFinmap, List.mem_map]
  simp only [mem_sorted]

/-- Overwriting a stored key changes one value of the listing in place. -/
theorem sorted_upsert_of_stored
    {table : KeyedTable Key Value}
    {row : Row Key Value}
    (stored : row ∈ table.rows)
    (value : Value) :
    (table.upsert row.key value).sorted =
      table.sorted.map (overwrite row.key value) := by
  have found : table.find row.key = some row := find_eq_some.mpr ⟨stored, rfl⟩
  apply sorted_eq
  · rw [List.pairwise_map]
    simpa only [overwrite_key] using table.sorted_pairwise
  · intro other
    rw [(upsert_of_find_eq_some found value).1, List.mem_map, List.mem_map]
    simp only [mem_sorted]

/-- Overwriting a stored key leaves the listed handles unchanged. -/
theorem map_handle_sorted_upsert
    {table : KeyedTable Key Value}
    {row : Row Key Value}
    (stored : row ∈ table.rows)
    (value : Value) :
    (table.upsert row.key value).sorted.map Row.handle =
      table.sorted.map Row.handle := by
  rw [sorted_upsert_of_stored stored, List.map_map]
  exact List.map_congr_left fun other _ => overwrite_handle _ _ other

/-- A key above every stored key is inserted at the end of the listing. -/
theorem sorted_upsert_of_greatest
    {table : KeyedTable Key Value}
    {key : Key}
    (greatest : ∀ row ∈ table.rows, row.key < key)
    (value : Value) :
    (table.upsert key value).sorted =
      table.sorted ++ [⟨table.nextHandle, key, value⟩] := by
  have missing : table.find key = none :=
    find_eq_none.mpr fun row stored => (greatest row stored).ne
  apply sorted_eq
  · rw [List.pairwise_append]
    refine ⟨table.sorted_pairwise, List.pairwise_singleton _ _, ?_⟩
    intro row listed other isNew
    obtain rfl := List.mem_singleton.mp isNew
    exact greatest row (mem_sorted.mp listed)
  · intro row
    rw [(upsert_of_find_eq_none missing value).1, List.mem_append,
      List.mem_append, mem_sorted]

/-- The last listed row has the greatest key. -/
theorem key_le_getLast
    {table : KeyedTable Key Value}
    {last : Row Key Value}
    (isLast : table.sorted.getLast? = some last)
    {row : Row Key Value}
    (stored : row ∈ table.rows) :
    row.key ≤ last.key := by
  obtain ⟨before, split⟩ := List.getLast?_eq_some_iff.mp isLast
  have increasing := table.sorted_pairwise
  rw [split, List.pairwise_append] at increasing
  have listed : row ∈ before ++ [last] := split ▸ mem_sorted.mpr stored
  rcases List.mem_append.mp listed with earlier | final
  · exact (increasing.2.2 row earlier last (List.mem_singleton_self _)).le
  · rw [List.mem_singleton.mp final]

theorem getLast?_sorted_eq_none
    {table : KeyedTable Key Value} :
    table.sorted.getLast? = none ↔ table.rows = [] := by
  rw [List.getLast?_eq_none_iff, ← List.length_eq_zero_iff,
    ← List.length_eq_zero_iff]
  simp [sorted]

end KeyedTable
end Storage
