import MVVMExample.Platform
import MVVMExample.Storage.Listing

/-!
# Memos in the Realm store

The store is one table of memos with primary key `id`. A `Memo` reference is
either an accessor of a stored row or an object that was never added. Reading a
property through an accessor reads the stored row, so a reference shows later
writes, and it is invalid once its row is deleted.

Write transactions are assumed to succeed.
-/

namespace MVVMExample

open Storage

/-- A memo with its stored properties. -/
structure Memo where
  id : SwiftInt := 0
  memoTitle : String := ""
  memoText : String := ""
  deriving DecidableEq

/-- The columns of a memo row besides the primary key. -/
structure MemoContent where
  memoTitle : String
  memoText : String
  deriving DecidableEq

namespace Memo

/-- Name of the primary key property. -/
def primaryKey : Option String := some "id"

/-- `memo[key] as? Int`. -/
def intValue (memo : Memo) (key : String) : Option SwiftInt :=
  if key = "id" then some memo.id else none

/-- The columns that are not the primary key. -/
def content (memo : Memo) : MemoContent := ⟨memo.memoTitle, memo.memoText⟩

/-- The memo stored in a row. -/
def ofRow (row : Row SwiftInt MemoContent) : Memo where
  id := row.key
  memoTitle := row.value.memoTitle
  memoText := row.value.memoText

@[simp] theorem id_ofRow (row : Row SwiftInt MemoContent) :
    (ofRow row).id = row.key := rfl

end Memo

/-- A reference to a memo. -/
inductive MemoObject
  | managed (handle : Nat)
  | unmanaged (memo : Memo)
  deriving DecidableEq

/-- The accessor of a stored row. -/
def MemoObject.ofRow (row : Row SwiftInt MemoContent) : MemoObject :=
  .managed row.handle

/-- The store. -/
abbrev Realm := KeyedTable SwiftInt MemoContent

namespace Realm

/-- Read the properties of a referenced memo. -/
def value (realm : Realm) : MemoObject → Except Crash Memo
  | .managed handle =>
      match realm.read handle with
      | some row => .ok (Memo.ofRow row)
      | none => .error (.exception "Object has been deleted or invalidated.")
  | .unmanaged memo => .ok memo

/-- `add(memo, update: true)`: the added object becomes the accessor of the
row it wrote. -/
def add (realm : Realm) (memo : Memo) : Realm × MemoObject :=
  (realm.upsert memo.id memo.content, .managed (realm.upsertHandle memo.id))

/-- Delete the row of a reference. -/
def delete (realm : Realm) : MemoObject → Except Crash Realm
  | .managed handle => .ok (KeyedTable.delete realm handle)
  | .unmanaged _ =>
      .error (.exception "Can only delete an object from the Realm it belongs to.")

/-- `object(ofType:forPrimaryKey:)`. -/
def object (realm : Realm) (id : SwiftInt) : Option MemoObject :=
  (realm.find id).map MemoObject.ofRow

/-- `objects(Memo.self).sorted(byKeyPath:)` for the primary key. -/
def objects (realm : Realm) : List MemoObject :=
  realm.sorted.map MemoObject.ofRow

/-- A reference is valid when it can be read and denotes a stored row. -/
def Valid (realm : Realm) (object : MemoObject) : Prop :=
  ∃ row ∈ realm.rows, object = MemoObject.ofRow row

theorem value_ofRow
    {realm : Realm}
    {row : Row SwiftInt MemoContent}
    (stored : row ∈ realm.rows) :
    realm.value (MemoObject.ofRow row) = .ok (Memo.ofRow row) := by
  simp [value, MemoObject.ofRow, KeyedTable.read_eq_some.mpr ⟨stored, rfl⟩]

theorem object_of_stored
    {realm : Realm}
    {row : Row SwiftInt MemoContent}
    (stored : row ∈ realm.rows) :
    object realm row.key = some (MemoObject.ofRow row) := by
  simp [object, KeyedTable.find_eq_some.mpr ⟨stored, rfl⟩]

end Realm

/-! ## Data access object -/

namespace MemoDao

/-- One above the greatest stored id, or one in an empty store. -/
def newId (realm : Realm) : Except Crash SwiftInt :=
  match Memo.primaryKey with
  | none => .ok 0
  | some key =>
      match realm.sorted.getLast? with
      | none => .ok 1
      | some row =>
          match (Memo.ofRow row).intValue key with
          | some lastId => lastId.add 1
          | none => .ok 1

/-- Store a memo and report success. -/
def insert (realm : Realm) (memo : Memo) : Realm × Bool :=
  ((Realm.add realm memo).1, true)

/-- Store a memo and report success. -/
def update (realm : Realm) (memo : Memo) : Realm × Bool :=
  ((Realm.add realm memo).1, true)

/-- The stored memos in id order. -/
def getList (realm : Realm) : List MemoObject :=
  match Memo.primaryKey with
  | none => []
  | some _ => Realm.objects realm

/-- The memo with an id, or a fresh object that is not in the store. -/
def get (realm : Realm) (id : SwiftInt) : MemoObject :=
  match Realm.object realm id with
  | none => .unmanaged {}
  | some memo => memo

/-- Delete a memo. -/
def delete (realm : Realm) (memo : MemoObject) : Except Crash Realm :=
  Realm.delete realm memo

theorem newId_of_last
    {realm : Realm}
    {row : Row SwiftInt MemoContent}
    (last : realm.sorted.getLast? = some row) :
    newId realm = row.key.add 1 := by
  simp [newId, Memo.primaryKey, Memo.intValue, last]

theorem newId_of_empty
    {realm : Realm}
    (noRows : realm.rows = []) :
    newId realm = .ok 1 := by
  simp [newId, Memo.primaryKey, KeyedTable.getLast?_sorted_eq_none.mpr noRows]

/-- A new id is above every stored id. -/
theorem lt_newId
    {realm : Realm}
    {id : SwiftInt}
    (issued : newId realm = .ok id)
    {row : Row SwiftInt MemoContent}
    (stored : row ∈ realm.rows) :
    row.key < id := by
  cases last : realm.sorted.getLast? with
  | none =>
      rw [KeyedTable.getLast?_sorted_eq_none] at last
      simp [last] at stored
  | some greatest =>
      rw [newId_of_last last] at issued
      have next := SwiftInt.val_of_add_eq_ok issued
      have below : row.key.val ≤ greatest.key.val :=
        KeyedTable.key_le_getLast last stored
      have : row.key.val < id.val := by
        rw [next, SwiftInt.val_one]
        omega
      exact this

/-- A new id exceeds a nonnegative bound on the stored ids by at most one. -/
theorem newId_le
    {realm : Realm}
    {id : SwiftInt}
    {bound : Int}
    (issued : newId realm = .ok id)
    (nonnegative : 0 ≤ bound)
    (bounded : ∀ row ∈ realm.rows, row.key.val ≤ bound) :
    id.val ≤ bound + 1 := by
  cases last : realm.sorted.getLast? with
  | none =>
      rw [newId_of_empty (KeyedTable.getLast?_sorted_eq_none.mp last)] at issued
      cases issued
      rw [SwiftInt.val_one]
      omega
  | some greatest =>
      rw [newId_of_last last] at issued
      have next := SwiftInt.val_of_add_eq_ok issued
      have greatestBounded := bounded greatest
        (KeyedTable.mem_sorted.mp (List.mem_of_getLast? last))
      rw [next, SwiftInt.val_one]
      omega

/-- Issuing an id does not trap while every stored id is below `Int.max`. -/
theorem exists_newId
    {realm : Realm}
    (room : ∀ row ∈ realm.rows, row.key < SwiftInt.max) :
    ∃ id, newId realm = .ok id := by
  cases last : realm.sorted.getLast? with
  | none =>
      exact ⟨1, newId_of_empty (KeyedTable.getLast?_sorted_eq_none.mp last)⟩
  | some greatest =>
      rw [newId_of_last last]
      exact SwiftInt.add_one_of_lt_max
        (room greatest (KeyedTable.mem_sorted.mp (List.mem_of_getLast? last)))

/-- Looking up a stored id never falls back to a fresh object. -/
theorem get_of_stored
    {realm : Realm}
    {row : Row SwiftInt MemoContent}
    (stored : row ∈ realm.rows) :
    get realm row.key = MemoObject.ofRow row := by
  simp [get, Realm.object_of_stored stored]

end MemoDao

/-! ## Use cases -/

namespace AddMemoUseCase

/-- The memo that is added under a new id. -/
def newMemo (id : SwiftInt) : Memo where
  id := id
  memoTitle := "title " ++ toString id.val

/-- Store an empty memo under a new id. -/
def invoke (realm : Realm) : Except Crash Realm :=
  match MemoDao.newId realm with
  | .error crash => .error crash
  | .ok id => .ok (MemoDao.insert realm (newMemo id)).1

theorem invoke_eq_ok
    {realm after : Realm} :
    invoke realm = .ok after ↔
      ∃ id, MemoDao.newId realm = .ok id ∧
        after = realm.upsert id (newMemo id).content := by
  unfold invoke
  cases issued : MemoDao.newId realm with
  | error crash => simp
  | ok id =>
      constructor
      · intro invoked
        cases invoked
        exact ⟨id, rfl, rfl⟩
      · rintro ⟨other, otherIssued, rfl⟩
        cases otherIssued
        rfl

end AddMemoUseCase

/-- Delete the memo with an id. -/
def DeleteMemoUseCase.ivoke (realm : Realm) (id : SwiftInt) :
    Except Crash Realm :=
  MemoDao.delete realm (MemoDao.get realm id)

/-- Deleting a stored id removes exactly its row. -/
theorem DeleteMemoUseCase.ivoke_of_stored
    {realm : Realm}
    {row : Row SwiftInt MemoContent}
    (stored : row ∈ realm.rows) :
    DeleteMemoUseCase.ivoke realm row.key =
      .ok (KeyedTable.delete realm row.handle) := by
  rw [ivoke, MemoDao.get_of_stored stored]
  rfl

/-- The stored memos in id order. -/
def GetMemoListUseCase.invoke (realm : Realm) : List MemoObject :=
  MemoDao.getList realm

/-- Save a memo. -/
def SavingMemoUseCase.invoke (realm : Realm) (memo : Memo) : Realm :=
  (MemoDao.update realm memo).1

end MVVMExample
