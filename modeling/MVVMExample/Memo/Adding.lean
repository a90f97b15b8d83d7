import MVVMExample.Memo.App

/-!
# Adding a memo under a fresh id

Inserting is an upsert, so a new memo overwrites nothing only because its id is
above every stored id. Ids only grow by adding: a save stores an id that was
stored before, and so does not raise the bound.
-/

namespace MVVMExample
namespace MemoApp

open Storage Reactive Transition

/-- The greatest stored id, or zero in an empty store. -/
def maxId (realm : Realm) : Int :=
  match realm.sorted.getLast? with
  | none => 0
  | some row => row.key.val

/-- What the ids cannot exceed after a list of inputs. -/
def idBound (realm : Realm) (inputs : List Input) : Int :=
  max (maxId realm) 0 + inputs.count .addMemo

theorem le_maxId
    {realm : Realm}
    {row : Row SwiftInt MemoContent}
    (stored : row ∈ realm.rows) :
    row.key.val ≤ maxId realm := by
  unfold maxId
  cases last : realm.sorted.getLast? with
  | none =>
      rw [KeyedTable.getLast?_sorted_eq_none] at last
      simp [last] at stored
  | some greatest => exact KeyedTable.key_le_getLast last stored

theorem idBound_nonnegative (realm : Realm) (inputs : List Input) :
    0 ≤ idBound realm inputs := by
  unfold idBound
  omega

theorem idBound_addMemo (realm : Realm) (inputs : List Input) :
    idBound realm (inputs ++ [.addMemo]) = idBound realm inputs + 1 := by
  unfold idBound
  rw [List.count_append, List.count_singleton_self]
  omega

theorem idBound_le_append
    (realm : Realm)
    (inputs : List Input)
    (input : Input) :
    idBound realm inputs ≤ idBound realm (inputs ++ [input]) := by
  unfold idBound
  rw [List.count_append]
  omega

/-- Every id that is stored, or that a detail may store, is within a bound. -/
structure IdsWithin (app : MemoApp) (bound : Int) : Prop where
  rows : ∀ row ∈ app.realm.rows, row.key.val ≤ bound
  details : ∀ detail ∈ app.details, ∀ id,
    detail.viewModel.id.value = some id → id.val ≤ bound

/-- A save stores only the id of its detail. -/
theorem key_le_of_saved
    {realm : Realm}
    {viewModel : MemoViewModel}
    {bound : Int}
    (stored : ∀ row ∈ realm.rows, row.key.val ≤ bound)
    (held : ∀ id, viewModel.id.value = some id → id.val ≤ bound) :
    ∀ row ∈ KeyedTable.rows (viewModel.saved realm), row.key.val ≤ bound := by
  intro row present
  unfold MemoViewModel.saved at present
  split at present
  · exact stored row present
  · rename_i memo isDraft
    rcases KeyedTable.mem_rows_upsert.mp present with rfl | ⟨old, _⟩
    · exact held memo.id (MemoViewModel.draft_eq_some.mp isDraft).1
    · exact stored row old

/-- The stored ids exceed the bound by one after an addition, and not at all
after any other step. -/
theorem Effect.key_le
    {app after : MemoApp}
    {input : Input}
    {realm : Realm}
    {inputs : List Input}
    (effect : app.Effect input after)
    (within : app.IdsWithin (idBound realm inputs)) :
    ∀ row ∈ after.realm.rows,
      row.key.val ≤ idBound realm (inputs ++ [input]) := by
  have grows := idBound_le_append realm inputs input
  intro row stored
  cases effect with
  | addMemo issued =>
      rcases KeyedTable.mem_rows_upsert.mp stored with rfl | ⟨old, _⟩
      · rw [idBound_addMemo]
        exact MemoDao.newId_le issued (idBound_nonnegative realm inputs)
          within.rows
      · exact (within.rows row old).trans grows
  | deleteMemo _ _ =>
      exact (within.rows row (KeyedTable.mem_rows_delete.mp stored).1).trans grows
  | openMemo _ _ => exact (within.rows row stored).trans grows
  | editText index text => exact (within.rows row stored).trans grows
  | tapSave alive _ _ _ =>
      have held := within.details _ (List.mem_of_getElem? alive)
      exact (key_le_of_saved within.rows held row stored).trans grows
  | closeMemo index => exact (within.rows row stored).trans grows

/-- The step lemma: an input raises the bound by one when it adds a memo, and
leaves it otherwise. -/
theorem IdsWithin.step
    {app after : MemoApp}
    {input : Input}
    {realm : Realm}
    {inputs : List Input}
    (coherent : app.Coherent)
    (within : app.IdsWithin (idBound realm inputs))
    (enabled : app.CanPerform input)
    (performed : app.perform input = .ok after) :
    after.IdsWithin (idBound realm (inputs ++ [input])) := by
  have effect := coherent.effect enabled performed
  have grows := idBound_le_append realm inputs input
  refine ⟨effect.key_le within, fun detail present id isId => ?_⟩
  rcases effect.details present with
    ⟨old, alive, continues⟩ | ⟨row, stored, rfl, _⟩
  · rw [continues.id] at isId
    exact (within.details old alive id isId).trans grows
  · obtain rfl := Option.some.inj isId
    exact (within.rows row stored).trans grows

/-- The run lemma: every id stays within the bound. -/
theorem IdsWithin.of_run
    {realm : Realm}
    {inputs : List Input}
    {app : MemoApp}
    (run : system.Run (launch realm) inputs app) :
    app.IdsWithin (idBound realm inputs) := by
  have initially : (launch realm).IdsWithin (idBound realm []) := by
    refine ⟨fun row stored => ?_, by simp [launch]⟩
    have : row.key.val ≤ maxId realm := le_maxId stored
    unfold idBound
    omega
  refine (System.Run.invariant
    (fun inputs app => app.Coherent ∧ app.IdsWithin (idBound realm inputs))
    ⟨launch_coherent realm, initially⟩ ?_ run).2
  rintro inputs input before after ⟨coherent, within⟩ enabled performed
  exact ⟨coherent.step enabled performed,
    within.step coherent enabled performed⟩

/-- The store has gained exactly one empty memo under a fresh id, shown in the
last row of the list. -/
structure InsertsFresh (before after : MemoApp) (id : SwiftInt) : Prop where
  issued : MemoDao.newId before.realm = .ok id
  fresh : ∀ row ∈ before.realm.rows, row.key < id
  first : before.realm.rows = [] → id = 1
  inserted : after.realm.toFinmap =
    before.realm.toFinmap.insert id ⟨"title " ++ toString id.val, ""⟩
  grown : after.realm.rows.length = before.realm.rows.length + 1
  others : ∀ row, row.key ≠ id →
    (row ∈ after.realm.rows ↔ row ∈ before.realm.rows)
  lastRow : ∃ object,
    after.table.memoList.value = Realm.objects before.realm ++ [object] ∧
      after.realm.value object =
        .ok ⟨id, "title " ++ toString id.val, ""⟩
  displayed : after.realm.ListedBy after.table.memoList.value

/-- Adding a memo that does not trap inserts it under a fresh id. -/
theorem insertsFresh_of_addMemo
    {app after : MemoApp}
    (performed : app.perform .addMemo = .ok after) :
    ∃ id, InsertsFresh app after id := by
  obtain ⟨id, issued, rfl⟩ := perform_addMemo_eq_ok.mp performed
  have fresh : ∀ row ∈ app.realm.rows, row.key < id :=
    fun row stored => MemoDao.lt_newId issued stored
  have missing : app.realm.find id = none :=
    KeyedTable.find_eq_none.mpr fun row stored => (fresh row stored).ne
  have inserted := KeyedTable.upsert_of_find_eq_none missing
    (AddMemoUseCase.newMemo id).content
  refine ⟨id,
    { issued := issued
      fresh := fresh
      first := ?_
      inserted := KeyedTable.toFinmap_upsert _ _ _
      grown := ?_
      others := ?_
      lastRow := ?_
      displayed := Realm.listedBy_objects _ }⟩
  · intro noRows
    rw [MemoDao.newId_of_empty noRows] at issued
    exact (Except.ok.inj issued).symm
  · rw [inserted.1, List.length_append, List.length_singleton]
  · intro row otherKey
    exact KeyedTable.mem_rows_upsert_of_ne otherKey
  · let row : Row SwiftInt MemoContent :=
      ⟨app.realm.nextHandle, id, (AddMemoUseCase.newMemo id).content⟩
    have stored : row ∈ (app.realm.upsert id
        (AddMemoUseCase.newMemo id).content).rows := by
      rw [inserted.1]
      exact List.mem_append_right _ (List.mem_singleton_self _)
    refine ⟨MemoObject.ofRow row, ?_, Realm.value_ofRow stored⟩
    change (KeyedTable.sorted _).map MemoObject.ofRow = _
    rw [KeyedTable.sorted_upsert_of_greatest fresh, List.map_append]
    rfl

/-- Adding does not trap while the stored ids are within a bound below
`Int.max`. -/
theorem exists_addMemo
    {app : MemoApp}
    {bound : Int}
    (within : app.IdsWithin bound)
    (room : bound + 1 ≤ SwiftInt.max.val) :
    ∃ after, app.perform .addMemo = .ok after := by
  have below : ∀ row ∈ app.realm.rows, row.key < SwiftInt.max := by
    intro row stored
    have : row.key.val < SwiftInt.max.val := by
      have := within.rows row stored
      omega
    exact this
  obtain ⟨id, issued⟩ := MemoDao.exists_newId below
  exact ⟨_, perform_addMemo_eq_ok.mpr ⟨id, issued, rfl⟩⟩

/-- After every run: the stored ids are within the bound given by the initial
store and the number of additions; one more addition that stays within
`Int.max` does not trap; and every addition inserts a fresh memo, overwriting
nothing. -/
theorem add_inserts_within_bound
    {realm : Realm}
    {inputs : List Input}
    {app : MemoApp}
    (run : system.Run (launch realm) inputs app) :
    (∀ row ∈ app.realm.rows, row.key.val ≤ idBound realm inputs) ∧
      (idBound realm (inputs ++ [.addMemo]) ≤ SwiftInt.max.val →
        ∃ after, system.step app .addMemo = .ok after) ∧
      ∀ after, system.step app .addMemo = .ok after →
        ∃ id, InsertsFresh app after id := by
  have within := IdsWithin.of_run run
  refine ⟨within.rows, fun room => ?_, fun after performed =>
    insertsFresh_of_addMemo performed⟩
  rw [idBound_addMemo] at room
  exact exists_addMemo within room

/-- After the only memo was deleted and stored again by a late save, the next
memo gets the id above it. -/
theorem add_after_late_save :
    ∃ app,
      system.Run (launch .empty)
          [.addMemo, .openMemo 0, .deleteMemo 0, .tapSave 0] app ∧
      (∀ row ∈ app.realm.rows, row.key.val ≤ 1) ∧
      (∃ after, system.step app .addMemo = .ok after) ∧
      ∀ after, system.step app .addMemo = .ok after →
        ∃ id, InsertsFresh app after id := by
  have run : system.Run (launch .empty)
      [.addMemo, .openMemo 0, .deleteMemo 0, .tapSave 0] _ :=
    System.run_of_replay rfl
  obtain ⟨bounded, room, inserts⟩ := add_inserts_within_bound run
  exact ⟨_, run, bounded, room (by decide), inserts⟩

end MemoApp
end MVVMExample
