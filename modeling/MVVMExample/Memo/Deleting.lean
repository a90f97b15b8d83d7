import MVVMExample.Memo.App

/-!
# Deleting the displayed memo

A row index becomes an id through the cached list, and the id becomes an object
through the store. In every reachable state both lookups end at the row that
the list displays, so the fallback object of `MemoDao.get` is never deleted.
-/

namespace MVVMExample
namespace MemoApp

open Storage Reactive Transition

/-- The lookups behind `deleteMemo(index:)` end at a stored row. -/
structure Displays
    (app : MemoApp)
    (index : Nat)
    (row : Row SwiftInt MemoContent) : Prop where
  stored : row ∈ app.realm.rows
  listed : app.table.memoList.value[index]? = some (MemoObject.ofRow row)
  readable :
    app.realm.value (MemoObject.ofRow row) = .ok (Memo.ofRow row)
  found : Realm.object app.realm row.key = some (MemoObject.ofRow row)
  fetched : MemoDao.get app.realm row.key = MemoObject.ofRow row

/-- The store has lost exactly one row, and the list shows what remains. -/
structure RemovesExactly
    (before after : MemoApp)
    (row : Row SwiftInt MemoContent) : Prop where
  erased : after.realm.toFinmap = before.realm.toFinmap.erase row.key
  others : ∀ other,
    other ∈ after.realm.rows ↔ other ∈ before.realm.rows ∧ other.key ≠ row.key
  displayed : after.realm.ListedBy after.table.memoList.value
  reloaded : after.table.memoList.value = Realm.objects after.realm
  details : after.details = before.details

/-- Every index of the list displays a stored row. -/
theorem exists_displayed
    {app : MemoApp}
    (coherent : app.Coherent)
    {index : Nat}
    (inRange : index < app.table.memoList.value.length) :
    ∃ row, app.Displays index row := by
  obtain ⟨row, stored, listed⟩ := exists_listed_row coherent inRange
  exact ⟨row,
    { stored := stored
      listed := listed
      readable := Realm.value_ofRow stored
      found := Realm.object_of_stored stored
      fetched := MemoDao.get_of_stored stored }⟩

/-- Deleting a displayed row removes exactly that row. -/
theorem Displays.delete
    {app : MemoApp}
    {index : Nat}
    {row : Row SwiftInt MemoContent}
    (displays : app.Displays index row) :
    ∃ after, app.perform (.deleteMemo index) = .ok after ∧
      RemovesExactly app after row := by
  refine ⟨_, perform_deleteMemo displays.stored displays.listed, ?_⟩
  constructor
  · exact KeyedTable.toFinmap_delete displays.stored
  · intro other
    exact KeyedTable.mem_rows_delete_of_stored displays.stored
  · exact Realm.listedBy_objects _
  · rfl
  · rfl

/-- In every reachable state, deleting any listed row finds its memo in the
store, does not fault, and removes exactly the displayed memo. -/
theorem delete_removes_displayed
    {realm : Realm}
    {inputs : List Input}
    {app : MemoApp}
    (run : system.Run (launch realm) inputs app)
    {index : Nat}
    (inRange : index < app.table.memoList.value.length) :
    ∃ row, app.Displays index row ∧
      ∃ after, system.step app (.deleteMemo index) = .ok after ∧
        RemovesExactly app after row := by
  obtain ⟨row, displays⟩ :=
    exists_displayed (Coherent.of_run run) inRange
  exact ⟨row, displays, displays.delete⟩

/-- A deletion after a late save: the list still shows the second memo while
the first one has been stored again behind it. -/
theorem delete_after_late_save :
    ∃ app,
      system.Run (launch .empty)
          [.addMemo, .addMemo, .openMemo 0, .deleteMemo 0, .tapSave 0] app ∧
      app.table.memoList.value.length = 1 ∧ app.realm.rows.length = 2 ∧
      ∃ row, app.Displays 0 row ∧
        ∃ after, system.step app (.deleteMemo 0) = .ok after ∧
          RemovesExactly app after row := by
  have run : system.Run (launch .empty)
      [.addMemo, .addMemo, .openMemo 0, .deleteMemo 0, .tapSave 0] _ :=
    System.run_of_replay rfl
  have inRange : 0 < 1 := Nat.one_pos
  exact ⟨_, run, rfl, rfl, delete_removes_displayed run inRange⟩

end MemoApp
end MVVMExample
