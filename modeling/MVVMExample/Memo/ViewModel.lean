import MVVMExample.Memo.Realm
import MVVMExample.Reactive.Merge

/-!
# View models of the memo screens

`TableViewModel` caches the list of stored memos and reloads it after adding
and deleting, but not after a save. `MemoViewModel` copies the properties of
the memo it is opened on; a tap on its save button runs through
`flatMapFirst`, `catchErrorJustReturn` and `share(replay: 1)` to the one
subscriber of the controller.
-/

namespace MVVMExample

open Storage Reactive

/-! ## The memo list -/

/-- The cached memo list. -/
structure TableViewModel where
  memoList : Variable (List MemoObject)
  deriving DecidableEq

namespace TableViewModel

/-- Load the list. -/
def init (realm : Realm) : TableViewModel where
  memoList := ⟨GetMemoListUseCase.invoke realm⟩

/-- Add a memo and reload the list. -/
def addMemo (_viewModel : TableViewModel) (realm : Realm) :
    Except Crash (TableViewModel × Realm) :=
  match AddMemoUseCase.invoke realm with
  | .error crash => .error crash
  | .ok added => .ok (⟨⟨GetMemoListUseCase.invoke added⟩⟩, added)

/-- The memo reference at a row of the list. -/
def row (viewModel : TableViewModel) (index : Nat) : Except Crash MemoObject :=
  match viewModel.memoList.value[index]? with
  | none => .error .indexOutOfRange
  | some object => .ok object

/-- Delete the memo at a row and reload the list. The row is turned into an id
through the cached reference, and the id into an object through the store. -/
def deleteMemo (viewModel : TableViewModel) (realm : Realm) (index : Nat) :
    Except Crash (TableViewModel × Realm) :=
  match viewModel.row index with
  | .error crash => .error crash
  | .ok object =>
      match realm.value object with
      | .error crash => .error crash
      | .ok memo =>
          match DeleteMemoUseCase.ivoke realm memo.id with
          | .error crash => .error crash
          | .ok deleted => .ok (⟨⟨GetMemoListUseCase.invoke deleted⟩⟩, deleted)

theorem row_of_getElem?
    {viewModel : TableViewModel}
    {index : Nat}
    {object : MemoObject}
    (listed : viewModel.memoList.value[index]? = some object) :
    viewModel.row index = .ok object := by
  simp [row, listed]

/-- Adding a memo inserts it under a new id and shows the reloaded list. -/
theorem addMemo_eq_ok
    {viewModel after : TableViewModel}
    {realm realmAfter : Realm} :
    viewModel.addMemo realm = .ok (after, realmAfter) ↔
      (∃ id, MemoDao.newId realm = .ok id ∧
        realmAfter = realm.upsert id (AddMemoUseCase.newMemo id).content) ∧
        after = .init realmAfter := by
  unfold addMemo
  cases invoked : AddMemoUseCase.invoke realm with
  | error crash =>
      have never : ∀ added : Realm,
          ¬∃ id, MemoDao.newId realm = .ok id ∧
            added = realm.upsert id (AddMemoUseCase.newMemo id).content := by
        intro added issued
        rw [← AddMemoUseCase.invoke_eq_ok, invoked] at issued
        contradiction
      simp [never realmAfter]
  | ok added =>
      rw [← AddMemoUseCase.invoke_eq_ok, invoked]
      constructor
      · intro performed
        cases performed
        exact ⟨rfl, rfl⟩
      · rintro ⟨sameRealm, rfl⟩
        cases sameRealm
        rfl

/-- When the row refers to a stored memo, deleting it removes exactly that
row of the store and shows the reloaded list. -/
theorem deleteMemo_of_stored
    {viewModel : TableViewModel}
    {realm : Realm}
    {index : Nat}
    {stored : Row SwiftInt MemoContent}
    (inStore : stored ∈ realm.rows)
    (listed :
      viewModel.memoList.value[index]? = some (MemoObject.ofRow stored)) :
    viewModel.deleteMemo realm index =
      .ok (.init (KeyedTable.delete realm stored.handle),
        KeyedTable.delete realm stored.handle) := by
  simp only [deleteMemo, row_of_getElem? listed, Realm.value_ofRow inStore,
    Memo.id_ofRow, DeleteMemoUseCase.ivoke_of_stored inStore]
  rfl

end TableViewModel

/-! ## The detail screen -/

/-- Outcome reported for a save. -/
inductive MemoViewModel.Result
  | success (message : String)
  | failure (message : String)
  deriving DecidableEq

/-- Connection state of the save pipeline. -/
structure SavingObservable where
  flatMapFirst : MergeSink := {}
  downstream : Operator.Catch × Operator.ShareReplay MemoViewModel.Result :=
    ({}, {})
  deriving DecidableEq

/-- The copied properties of an open memo, the save pipeline, and what its one
subscriber has received. -/
structure MemoViewModel where
  id : Variable (Option SwiftInt) := ⟨none⟩
  memoTitle : Variable (Option String) := ⟨some ""⟩
  memoText : Variable (Option String) := ⟨some ""⟩
  savingObservable : SavingObservable := {}
  received : List (Event SwiftError MemoViewModel.Result) := []
  deriving DecidableEq

namespace MemoViewModel

/-- Copy the properties of a memo. -/
def init (memo : Memo) : MemoViewModel where
  id := ⟨some memo.id⟩
  memoTitle := ⟨some memo.memoTitle⟩
  memoText := ⟨some memo.memoText⟩

/-- The memo that a save would store, when no property is missing. -/
def draft (viewModel : MemoViewModel) : Option Memo :=
  match viewModel.id.value, viewModel.memoTitle.value,
      viewModel.memoText.value with
  | some id, some title, some text =>
      some { id := id, memoTitle := title, memoText := text }
  | _, _, _ => none

/-- The mapping of a tap: save the draft, or report failure. -/
def save (viewModel : MemoViewModel) (realm : Realm) :
    Realm × Except SwiftError (Observable Realm SwiftError Result) :=
  match viewModel.draft with
  | none => (realm, .ok (Observable.just (.failure "failed...")).share)
  | some memo =>
      (SavingMemoUseCase.invoke realm memo,
        .ok (Observable.just (.success "success!!")).share)

/-- What follows the mapping of taps. -/
def downstream :
    Operator (Operator.Catch × Operator.ShareReplay Result) SwiftError
      Result Result :=
  (Operator.catchErrorJustReturn (.failure "failed....")).comp
    Operator.shareReplay

/-- Emit on `tapButton`. -/
def tap (viewModel : MemoViewModel) (realm : Realm) : MemoViewModel × Realm :=
  let merged := MergeSink.onNext MergeSink.idle viewModel.save
    viewModel.savingObservable.flatMapFirst realm
  let delivered := downstream.feed viewModel.savingObservable.downstream
    merged.2.2
  ({ viewModel with
      savingObservable := ⟨merged.1, delivered.1⟩
      received := viewModel.received ++ delivered.2 }, merged.2.1)

/-- The save pipeline between two taps: no inner sequence is active, nothing
has terminated and no error has been caught. -/
def Ready (viewModel : MemoViewModel) : Prop :=
  viewModel.savingObservable.flatMapFirst = {} ∧
    viewModel.savingObservable.downstream.1 = {} ∧
      viewModel.savingObservable.downstream.2.disposed = false

/-- The result a tap reports. -/
def result (viewModel : MemoViewModel) : Result :=
  match viewModel.draft with
  | none => .failure "failed..."
  | some _ => .success "success!!"

/-- The store after a tap. -/
def saved (viewModel : MemoViewModel) (realm : Realm) : Realm :=
  match viewModel.draft with
  | none => realm
  | some memo => realm.upsert memo.id memo.content

theorem init_ready (memo : Memo) : (init memo).Ready := ⟨rfl, rfl, rfl⟩

/-- The draft is the memo with the values of the three variables. -/
theorem draft_eq_some
    {viewModel : MemoViewModel}
    {memo : Memo} :
    viewModel.draft = some memo ↔
      viewModel.id.value = some memo.id ∧
        viewModel.memoTitle.value = some memo.memoTitle ∧
          viewModel.memoText.value = some memo.memoText := by
  unfold draft
  constructor
  · intro isDraft
    split at isDraft
    · rename_i id title text hasId hasTitle hasText
      cases isDraft
      exact ⟨hasId, hasTitle, hasText⟩
    · contradiction
  · rintro ⟨hasId, hasTitle, hasText⟩
    rw [hasId, hasTitle, hasText]

theorem downstream_relays :
    downstream.Relays
      (fun state => state.1 = {} ∧ state.2.disposed = false)
      (fun result => result) :=
  (Operator.catchErrorJustReturn_relays _).comp Operator.shareReplay_relays

/-- A tap on a ready pipeline is accepted, saves the draft, delivers exactly
one result and leaves the pipeline ready. -/
theorem tap_of_ready
    {viewModel : MemoViewModel}
    (ready : viewModel.Ready)
    (realm : Realm) :
    ∃ pipeline,
      viewModel.tap realm =
          ({ viewModel with
              savingObservable := pipeline
              received := viewModel.received ++ [.next viewModel.result] },
            viewModel.saved realm) ∧
        pipeline.flatMapFirst = {} ∧ pipeline.downstream.1 = {} ∧
          pipeline.downstream.2.disposed = false := by
  obtain ⟨idle, notCaught, connected⟩ := ready
  have performed : viewModel.save realm =
      (viewModel.saved realm,
        .ok (Observable.just viewModel.result).share) := by
    unfold save saved result
    cases viewModel.draft <;> rfl
  have isOpen : viewModel.savingObservable.flatMapFirst.Open := by
    rw [idle]
    exact ⟨rfl, rfl⟩
  have accepted : viewModel.savingObservable.flatMapFirst.idle = true := by
    rw [idle]
    rfl
  have merged := MergeSink.onNext_just isOpen accepted performed
    (Observable.subscribe_share_just viewModel.result _)
  have beforeTap :
      viewModel.savingObservable.downstream.1 = {} ∧
        viewModel.savingObservable.downstream.2.disposed = false :=
    ⟨notCaught, connected⟩
  obtain ⟨stillReady, forwarded⟩ :=
    downstream_relays.feed beforeTap [viewModel.result]
  refine ⟨⟨{}, (downstream.feed viewModel.savingObservable.downstream
    [.next viewModel.result]).1⟩, ?_, rfl, stillReady.1, stillReady.2⟩
  simp only [List.map_cons, List.map_nil] at forwarded
  simp only [tap, merged, forwarded]
  rw [idle]

end MemoViewModel
end MVVMExample
