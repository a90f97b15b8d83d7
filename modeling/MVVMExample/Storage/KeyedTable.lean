import Mathlib.Data.Finmap
import Mathlib.Data.Finset.Sort
import Mathlib.Data.List.Sort

/-!
# Tables with a primary key and live row handles

A table stores one row for each primary key. A row also has a handle, the
identity under which a client holds on to it: a handle keeps denoting the row
while the values of the row change, and denotes nothing once the row is gone.
Handles are never issued twice, so a row deleted and stored again under the
same key is a different row.

The meaning of a table is the finite map from keys to values. The listing of a
table is its rows in increasing key order.
-/

namespace Storage

/-- A stored row. -/
structure Row (Key Value : Type*) where
  handle : Nat
  key : Key
  value : Value
  deriving DecidableEq

/-- Searching a list by a field on which its elements differ finds exactly
the element with that field. -/
theorem find?_eq_some_of_nodup
    [DecidableEq β]
    {field : α → β}
    {items : List α}
    {item : α}
    {image : β}
    (nodup : (items.map field).Nodup) :
    (items.find? fun candidate => field candidate = image) = some item ↔
      item ∈ items ∧ field item = image := by
  induction items with
  | nil => simp
  | cons head tail inductionHypothesis =>
      rw [List.map_cons, List.nodup_cons] at nodup
      by_cases headImage : field head = image
      · have absent : ∀ other ∈ tail, field other ≠ image := by
          rintro other present rfl
          exact nodup.1 (headImage ▸ List.mem_map_of_mem present)
        rw [List.find?_cons_of_pos (by simpa using headImage)]
        constructor
        · rintro ⟨⟩
          exact ⟨List.mem_cons_self, headImage⟩
        · rintro ⟨present, itemImage⟩
          rcases List.mem_cons.mp present with rfl | inTail
          · rfl
          · exact absurd itemImage (absent item inTail)
      · rw [List.find?_cons_of_neg (by simpa using headImage),
          inductionHypothesis nodup.2]
        constructor
        · exact fun found => ⟨List.mem_cons_of_mem _ found.1, found.2⟩
        · rintro ⟨present, itemImage⟩
          rcases List.mem_cons.mp present with rfl | inTail
          · exact absurd itemImage headImage
          · exact ⟨inTail, itemImage⟩

/-- A table with distinct keys and distinct handles. -/
structure KeyedTable (Key Value : Type*) where
  rows : List (Row Key Value)
  nextHandle : Nat
  keys_nodup : (rows.map Row.key).Nodup
  handles_nodup : (rows.map Row.handle).Nodup
  handle_lt : ∀ row ∈ rows, row.handle < nextHandle

namespace KeyedTable

variable {Key Value : Type*}

/-- The table without rows. -/
def empty : KeyedTable Key Value where
  rows := []
  nextHandle := 0
  keys_nodup := by simp
  handles_nodup := by simp
  handle_lt := by simp

/-- Rows with equal keys are equal. -/
theorem row_eq_of_key
    (table : KeyedTable Key Value)
    {left right : Row Key Value}
    (leftStored : left ∈ table.rows)
    (rightStored : right ∈ table.rows)
    (sameKey : left.key = right.key) :
    left = right :=
  List.inj_on_of_nodup_map table.keys_nodup leftStored rightStored sameKey

/-- Rows with equal handles are equal. -/
theorem row_eq_of_handle
    (table : KeyedTable Key Value)
    {left right : Row Key Value}
    (leftStored : left ∈ table.rows)
    (rightStored : right ∈ table.rows)
    (sameHandle : left.handle = right.handle) :
    left = right :=
  List.inj_on_of_nodup_map table.handles_nodup leftStored rightStored sameHandle

/-- The row a handle denotes, if the handle is still live. -/
def read (table : KeyedTable Key Value) (handle : Nat) :
    Option (Row Key Value) :=
  table.rows.find? fun row => row.handle = handle

theorem read_eq_some
    {table : KeyedTable Key Value}
    {handle : Nat}
    {row : Row Key Value} :
    table.read handle = some row ↔ row ∈ table.rows ∧ row.handle = handle :=
  find?_eq_some_of_nodup table.handles_nodup

/-- Remove the row a handle denotes. A dead handle removes nothing. -/
def delete (table : KeyedTable Key Value) (handle : Nat) :
    KeyedTable Key Value where
  rows := table.rows.filter fun row => row.handle ≠ handle
  nextHandle := table.nextHandle
  keys_nodup := table.keys_nodup.sublist (List.filter_sublist.map _)
  handles_nodup := table.handles_nodup.sublist (List.filter_sublist.map _)
  handle_lt := fun row stored =>
    table.handle_lt row (List.mem_of_mem_filter stored)

@[simp] theorem mem_rows_delete
    {table : KeyedTable Key Value}
    {handle : Nat}
    {row : Row Key Value} :
    row ∈ (table.delete handle).rows ↔
      row ∈ table.rows ∧ row.handle ≠ handle := by
  simp [delete]

/-- Removing a stored row leaves exactly the rows with other keys. -/
theorem mem_rows_delete_of_stored
    {table : KeyedTable Key Value}
    {row other : Row Key Value}
    (stored : row ∈ table.rows) :
    other ∈ (table.delete row.handle).rows ↔
      other ∈ table.rows ∧ other.key ≠ row.key := by
  rw [mem_rows_delete]
  apply and_congr_right
  intro otherStored
  apply not_congr
  constructor
  · intro sameHandle
    rw [table.row_eq_of_handle otherStored stored sameHandle]
  · intro sameKey
    rw [table.row_eq_of_key otherStored stored sameKey]

/-- A table has evolved from an earlier one: old handles either are dead or
denote a row with the same key as before. -/
structure Evolves (before after : KeyedTable Key Value) : Prop where
  nextHandle_le : before.nextHandle ≤ after.nextHandle
  old_row : ∀ row ∈ after.rows, row.handle < before.nextHandle →
    ∃ original ∈ before.rows,
      original.handle = row.handle ∧ original.key = row.key

theorem evolves_refl (table : KeyedTable Key Value) : Evolves table table where
  nextHandle_le := le_rfl
  old_row := fun row stored _ => ⟨row, stored, rfl, rfl⟩

theorem evolves_delete
    (table : KeyedTable Key Value)
    (handle : Nat) :
    Evolves table (table.delete handle) where
  nextHandle_le := le_rfl
  old_row := fun row stored _ =>
    ⟨row, (mem_rows_delete.mp stored).1, rfl, rfl⟩

variable [LinearOrder Key]

/-- The row stored under a key. -/
def find (table : KeyedTable Key Value) (key : Key) :
    Option (Row Key Value) :=
  table.rows.find? fun row => row.key = key

theorem find_eq_some
    {table : KeyedTable Key Value}
    {key : Key}
    {row : Row Key Value} :
    table.find key = some row ↔ row ∈ table.rows ∧ row.key = key :=
  find?_eq_some_of_nodup table.keys_nodup

theorem find_eq_none
    {table : KeyedTable Key Value}
    {key : Key} :
    table.find key = none ↔ ∀ row ∈ table.rows, row.key ≠ key := by
  simp [find]

/-- Overwrite the value of the row with a key, leaving the other rows. -/
def overwrite (key : Key) (value : Value) (row : Row Key Value) :
    Row Key Value :=
  if row.key = key then { row with value := value } else row

@[simp] theorem overwrite_key (key : Key) (value : Value) (row : Row Key Value) :
    (overwrite key value row).key = row.key := by
  unfold overwrite
  split <;> rfl

@[simp] theorem overwrite_handle
    (key : Key) (value : Value) (row : Row Key Value) :
    (overwrite key value row).handle = row.handle := by
  unfold overwrite
  split <;> rfl

/-- Overwrite the row with a key in place, or insert a fresh row when no row
has the key. -/
def upsert (table : KeyedTable Key Value) (key : Key) (value : Value) :
    KeyedTable Key Value :=
  match found : table.find key with
  | some _ =>
      { rows := table.rows.map (overwrite key value)
        nextHandle := table.nextHandle
        keys_nodup := by
          simpa [Function.comp_def] using table.keys_nodup
        handles_nodup := by
          simpa [Function.comp_def] using table.handles_nodup
        handle_lt := by
          intro row stored
          obtain ⟨original, originalStored, rfl⟩ := List.mem_map.mp stored
          simpa using table.handle_lt original originalStored }
  | none =>
      { rows := table.rows ++ [⟨table.nextHandle, key, value⟩]
        nextHandle := table.nextHandle + 1
        keys_nodup := by
          have absent := find_eq_none.mp found
          simp only [List.map_append, List.map_cons, List.map_nil]
          refine table.keys_nodup.append (by simp) ?_
          simpa [List.disjoint_singleton] using absent
        handles_nodup := by
          simp only [List.map_append, List.map_cons, List.map_nil]
          refine table.handles_nodup.append (by simp) ?_
          simp only [List.disjoint_singleton, List.mem_map, not_exists,
            not_and]
          intro row stored
          exact (table.handle_lt row stored).ne
        handle_lt := by
          intro row stored
          rcases List.mem_append.mp stored with old | new
          · exact (table.handle_lt row old).trans (Nat.lt_succ_self _)
          · obtain rfl := List.mem_singleton.mp new
            exact Nat.lt_succ_self _ }

/-- The handle of the row that an upsert writes. -/
def upsertHandle (table : KeyedTable Key Value) (key : Key) : Nat :=
  match table.find key with
  | some row => row.handle
  | none => table.nextHandle

theorem upsert_of_find_eq_some
    {table : KeyedTable Key Value}
    {key : Key}
    {row : Row Key Value}
    (found : table.find key = some row)
    (value : Value) :
    (table.upsert key value).rows = table.rows.map (overwrite key value) ∧
      (table.upsert key value).nextHandle = table.nextHandle := by
  unfold upsert
  split
  · exact ⟨rfl, rfl⟩
  · rename_i missing
    simp [missing] at found

theorem upsert_of_find_eq_none
    {table : KeyedTable Key Value}
    {key : Key}
    (missing : table.find key = none)
    (value : Value) :
    (table.upsert key value).rows =
        table.rows ++ [⟨table.nextHandle, key, value⟩] ∧
      (table.upsert key value).nextHandle = table.nextHandle + 1 := by
  unfold upsert
  split
  · rename_i row found
    simp [missing] at found
  · exact ⟨rfl, rfl⟩

/-- An upsert leaves exactly the written row and the rows with other keys. -/
@[simp] theorem mem_rows_upsert
    {table : KeyedTable Key Value}
    {key : Key}
    {value : Value}
    {row : Row Key Value} :
    row ∈ (table.upsert key value).rows ↔
      row = ⟨table.upsertHandle key, key, value⟩ ∨
        (row ∈ table.rows ∧ row.key ≠ key) := by
  cases found : table.find key with
  | none =>
      have absent := find_eq_none.mp found
      rw [(upsert_of_find_eq_none found value).1]
      simp only [List.mem_append, List.mem_singleton, upsertHandle, found]
      constructor
      · rintro (old | new)
        · exact Or.inr ⟨old, absent row old⟩
        · exact Or.inl new
      · rintro (new | old)
        · exact Or.inr new
        · exact Or.inl old.1
  | some written =>
      obtain ⟨writtenStored, writtenKey⟩ := find_eq_some.mp found
      rw [(upsert_of_find_eq_some found value).1]
      simp only [List.mem_map, upsertHandle, found]
      constructor
      · rintro ⟨original, originalStored, rfl⟩
        by_cases sameKey : original.key = key
        · obtain rfl := table.row_eq_of_key originalStored writtenStored
            (sameKey.trans writtenKey.symm)
          left
          simp [overwrite, sameKey]
        · right
          simpa [overwrite, sameKey] using originalStored
      · rintro (rfl | ⟨stored, otherKey⟩)
        · exact ⟨written, writtenStored, by simp [overwrite, writtenKey]⟩
        · exact ⟨row, stored, by simp [overwrite, otherKey]⟩

/-- An upsert leaves the rows with other keys. -/
theorem mem_rows_upsert_of_ne
    {table : KeyedTable Key Value}
    {key : Key}
    {value : Value}
    {row : Row Key Value}
    (otherKey : row.key ≠ key) :
    row ∈ (table.upsert key value).rows ↔ row ∈ table.rows := by
  rw [mem_rows_upsert]
  constructor
  · rintro (rfl | old)
    · exact absurd rfl otherKey
    · exact old.1
  · intro stored
    exact Or.inr ⟨stored, otherKey⟩

/-- The written row is stored after an upsert. -/
theorem find_upsert_self
    (table : KeyedTable Key Value)
    (key : Key)
    (value : Value) :
    (table.upsert key value).find key =
      some ⟨table.upsertHandle key, key, value⟩ :=
  find_eq_some.mpr ⟨mem_rows_upsert.mpr (Or.inl rfl), rfl⟩

/-- When the row of a handle has the key, an upsert writes that very row. -/
theorem upsertHandle_of_stored
    {table : KeyedTable Key Value}
    {row : Row Key Value}
    (stored : row ∈ table.rows) :
    table.upsertHandle row.key = row.handle := by
  simp [upsertHandle, find_eq_some.mpr ⟨stored, rfl⟩]

/-- Upserts never kill a handle, and never change the key of its row. -/
theorem handle_survives_upsert
    {table : KeyedTable Key Value}
    {row : Row Key Value}
    (stored : row ∈ table.rows)
    (key : Key)
    (value : Value) :
    ∃ after ∈ (table.upsert key value).rows,
      after.handle = row.handle ∧ after.key = row.key := by
  by_cases sameKey : row.key = key
  · subst sameKey
    exact ⟨_, mem_rows_upsert.mpr (Or.inl rfl),
      upsertHandle_of_stored stored, rfl⟩
  · exact ⟨row, mem_rows_upsert.mpr (Or.inr ⟨stored, sameKey⟩), rfl, rfl⟩

theorem evolves_upsert
    (table : KeyedTable Key Value)
    (key : Key)
    (value : Value) :
    Evolves table (table.upsert key value) := by
  cases found : table.find key with
  | none =>
      have inserted := upsert_of_find_eq_none found value
      refine ⟨inserted.2 ▸ Nat.le_succ _, fun row stored old => ?_⟩
      rw [inserted.1] at stored
      rcases List.mem_append.mp stored with original | new
      · exact ⟨row, original, rfl, rfl⟩
      · obtain rfl := List.mem_singleton.mp new
        exact absurd old (lt_irrefl _)
  | some written =>
      have overwritten := upsert_of_find_eq_some found value
      refine ⟨overwritten.2.ge, fun row stored _ => ?_⟩
      rw [overwritten.1] at stored
      obtain ⟨original, originalStored, rfl⟩ := List.mem_map.mp stored
      exact ⟨original, originalStored, (overwrite_handle _ _ _).symm,
        (overwrite_key _ _ _).symm⟩

end KeyedTable
end Storage
