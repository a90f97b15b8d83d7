import MVVMExample.Memo.App

/-!
# Saves of details whose memo is gone

`MemoDao.update` has the body of `MemoDao.insert`: it overwrites the memo with
the id of the draft, or inserts one when there is none. A detail keeps only the
id, so its save is an update of the memo it was opened on exactly while that
memo is stored. Afterwards a save stores a deleted memo again, or overwrites
the memo to which the id was reissued.
-/

namespace MVVMExample

open Storage Reactive Transition

/-- A reference that can be read and was opened as an accessor is valid. -/
theorem Realm.valid_of_value_managed
    {realm : Realm}
    {handle : Nat}
    {memo : Memo}
    (readable : realm.value (.managed handle) = .ok memo) :
    realm.Valid (.managed handle) := by
  simp only [Realm.value] at readable
  split at readable
  · rename_i row found
    obtain ⟨stored, rfl⟩ := KeyedTable.read_eq_some.mp found
    exact ⟨row, stored, rfl⟩
  · contradiction

/-- Writing under a stored id changes neither the stored memos nor their
listing. -/
theorem Realm.objects_upsert_of_stored
    {realm : Realm}
    {row : Row SwiftInt MemoContent}
    (stored : row ∈ realm.rows)
    (content : MemoContent) :
    Realm.objects (realm.upsert row.key content) = Realm.objects realm := by
  have sameHandles := KeyedTable.map_handle_sorted_upsert stored content
  have ofHandles : ∀ realm : Realm, Realm.objects realm =
      (realm.sorted.map Row.handle).map MemoObject.managed := by
    intro realm
    rw [List.map_map]
    rfl
  rw [ofHandles, ofHandles, sameHandles]

/-- The row a detail was opened on, while it is stored, has the id of every
draft of the detail. -/
theorem Detail.Tracks.exists_row
    {detail : Detail}
    {realm : Realm}
    {draft : Memo}
    (tracks : detail.Tracks realm)
    (isDraft : detail.viewModel.draft = some draft)
    (live : realm.Valid detail.openedOn) :
    ∃ row ∈ realm.rows,
      detail.openedOn = MemoObject.ofRow row ∧ row.key = draft.id := by
  obtain ⟨row, stored, isRow⟩ := live
  obtain ⟨handle, id, isOpened, _, hasId, sameId⟩ := tracks.opened
  have sameHandle : row.handle = handle :=
    MemoObject.managed.inj (isRow.symm.trans isOpened)
  have draftId : id = draft.id :=
    Option.some.inj (hasId.symm.trans (MemoViewModel.draft_eq_some.mp isDraft).1)
  exact ⟨row, stored, isRow, (sameId row stored sameHandle).trans draftId⟩

namespace MemoApp

/-- A save wrote its draft to the memo its detail was opened on, and did
nothing else. -/
structure SaveIsUpdate
    (before after : MemoApp)
    (detail : Detail)
    (draft : Memo) : Prop where
  sameMemos : after.realm.rows.map Row.handle = before.realm.rows.map Row.handle
  written : after.realm.value detail.openedOn = .ok draft
  others : ∀ row, MemoObject.ofRow row ≠ detail.openedOn →
    (row ∈ after.realm.rows ↔ row ∈ before.realm.rows)
  sameList : after.table = before.table

/-- An input is late when it saves a draft while the memo its detail was
opened on is no longer stored. -/
def Late (app : MemoApp) : Input → Prop
  | .tapSave index =>
      ∃ detail, app.details[index]? = some detail ∧
        detail.viewModel.draft ≠ none ∧ ¬app.realm.Valid detail.openedOn
  | _ => False

/-- What a tap that saves a draft does to the app. -/
theorem perform_tapSave_of_draft
    {app after : MemoApp}
    {index : Nat}
    {detail : Detail}
    {draft : Memo}
    (coherent : app.Coherent)
    (alive : app.details[index]? = some detail)
    (isDraft : detail.viewModel.draft = some draft)
    (performed : app.perform (.tapSave index) = .ok after) :
    after.realm = app.realm.upsert draft.id draft.content ∧
      after.table = app.table := by
  obtain ⟨viewModel, tapped, _⟩ := perform_tapSave alive
    (coherent.tracked detail (List.mem_of_getElem? alive))
  rw [tapped] at performed
  cases performed
  simp only [MemoViewModel.saved, isDraft, and_self]

/-- A save of a detail whose memo is stored is an update. -/
theorem saveIsUpdate_of_valid
    {app after : MemoApp}
    {index : Nat}
    {detail : Detail}
    {draft : Memo}
    (coherent : app.Coherent)
    (alive : app.details[index]? = some detail)
    (isDraft : detail.viewModel.draft = some draft)
    (performed : app.perform (.tapSave index) = .ok after)
    (live : app.realm.Valid detail.openedOn) :
    SaveIsUpdate app after detail draft := by
  obtain ⟨savedRealm, sameTable⟩ :=
    perform_tapSave_of_draft coherent alive isDraft performed
  obtain ⟨row, stored, isOpened, sameId⟩ :=
    (coherent.tracked detail (List.mem_of_getElem? alive)).exists_row isDraft live
  have found : app.realm.find draft.id = some row :=
    KeyedTable.find_eq_some.mpr ⟨stored, sameId⟩
  have overwritten := KeyedTable.upsert_of_find_eq_some found draft.content
  have writtenHandle : app.realm.upsertHandle draft.id = row.handle :=
    sameId ▸ KeyedTable.upsertHandle_of_stored stored
  constructor
  · rw [savedRealm, overwritten.1, List.map_map]
    exact List.map_congr_left fun other _ =>
      KeyedTable.overwrite_handle _ _ other
  · rw [savedRealm, isOpened, MemoObject.ofRow, ← writtenHandle]
    exact Realm.value_ofRow (KeyedTable.mem_rows_upsert.mpr (Or.inl rfl))
  · intro other notOpened
    rw [savedRealm, KeyedTable.mem_rows_upsert]
    constructor
    · rintro (rfl | old)
      · rw [isOpened, MemoObject.ofRow, MemoObject.ofRow, writtenHandle] at notOpened
        exact absurd rfl notOpened
      · exact old.1
    · intro old
      refine Or.inr ⟨old, fun sameKey => notOpened ?_⟩
      rw [isOpened,
        app.realm.row_eq_of_key old stored (sameKey.trans sameId.symm)]
  · exact sameTable

/-- A save that is an update was made while the memo was stored. -/
theorem valid_of_saveIsUpdate
    {app after : MemoApp}
    {detail : Detail}
    {draft : Memo}
    (tracks : detail.Tracks app.realm)
    (update : SaveIsUpdate app after detail draft) :
    app.realm.Valid detail.openedOn := by
  obtain ⟨handle, _, isOpened, _⟩ := tracks.opened
  have readable := update.written
  rw [isOpened] at readable ⊢
  obtain ⟨row, stored, isRow⟩ :=
    Realm.valid_of_value_managed readable
  have sameHandle : handle = row.handle := MemoObject.managed.inj isRow
  have wasStored : row.handle ∈ app.realm.rows.map Row.handle :=
    update.sameMemos ▸ List.mem_map_of_mem stored
  obtain ⟨original, originalStored, originalHandle⟩ :=
    List.mem_map.mp wasStored
  refine ⟨original, originalStored, ?_⟩
  rw [MemoObject.ofRow, originalHandle, sameHandle]

/-- The cached list is what a reload would show. -/
def UpToDate (app : MemoApp) : Prop :=
  app.table.memoList.value = Realm.objects app.realm

/-- A detail that saves a draft, and not too late, saves to a stored row. -/
theorem exists_row_of_not_late
    {app : MemoApp}
    {index : Nat}
    {detail : Detail}
    {draft : Memo}
    (coherent : app.Coherent)
    (alive : app.details[index]? = some detail)
    (isDraft : detail.viewModel.draft = some draft)
    (notLate : ¬app.Late (.tapSave index)) :
    ∃ row ∈ app.realm.rows,
      detail.openedOn = MemoObject.ofRow row ∧ row.key = draft.id := by
  have live : app.realm.Valid detail.openedOn := by
    by_contra dead
    exact notLate ⟨detail, alive, by simp [isDraft], dead⟩
  exact (coherent.tracked detail (List.mem_of_getElem? alive)).exists_row
    isDraft live

/-- The step lemma: every input that is not late keeps the list up to date. -/
theorem UpToDate.step
    {app after : MemoApp}
    {input : Input}
    (coherent : app.Coherent)
    (upToDate : app.UpToDate)
    (enabled : app.CanPerform input)
    (notLate : ¬app.Late input)
    (performed : app.perform input = .ok after) :
    after.UpToDate := by
  cases coherent.effect enabled performed with
  | addMemo issued => rfl
  | deleteMemo stored listed => rfl
  | openMemo stored listed => exact upToDate
  | editText index text => exact upToDate
  | @tapSave index detail viewModel alive ready sameId sameTitle =>
      cases isDraft : detail.viewModel.draft with
      | none =>
          simp only [UpToDate, MemoViewModel.saved, isDraft]
          exact upToDate
      | some draft =>
          obtain ⟨row, stored, _, hasId⟩ :=
            exists_row_of_not_late coherent alive isDraft notLate
          simp only [UpToDate, MemoViewModel.saved, isDraft, ← hasId]
          rw [Realm.objects_upsert_of_stored stored]
          exact upToDate
  | closeMemo index => exact upToDate

/-- Runs in which no save is late. -/
def punctual : System MemoApp Input Crash :=
  system.restrict fun app input => ¬app.Late input

/-- The run lemma: the list is up to date after every run without late saves. -/
theorem UpToDate.of_run
    {realm : Realm}
    {inputs : List Input}
    {app : MemoApp}
    (run : punctual.Run (launch realm) inputs app) :
    app.UpToDate := by
  refine (System.Run.invariant
    (fun _ app => app.Coherent ∧ app.UpToDate)
    ⟨launch_coherent realm, rfl⟩ ?_ run).2
  rintro _ input before after ⟨coherent, upToDate⟩ ⟨enabled, notLate⟩ performed
  exact ⟨coherent.step enabled performed,
    upToDate.step coherent enabled notLate performed⟩

/-- In every reachable state, a save is an update of the memo its detail was
opened on exactly when that memo is still stored; and after every run without
late saves the list shows the store. -/
theorem save_is_update_iff_not_late
    {realm : Realm}
    {inputs : List Input}
    {app : MemoApp}
    (run : system.Run (launch realm) inputs app) :
    (∀ index detail draft after,
      app.details[index]? = some detail →
        detail.viewModel.draft = some draft →
          system.step app (.tapSave index) = .ok after →
            (SaveIsUpdate app after detail draft ↔
              ¬app.Late (.tapSave index))) ∧
      (punctual.Run (launch realm) inputs app →
        app.realm.ListedBy app.table.memoList.value) := by
  have coherent := Coherent.of_run run
  constructor
  · intro index detail draft after alive isDraft performed
    constructor
    · rintro update ⟨other, otherAlive, _, dead⟩
      obtain rfl := Option.some.inj (otherAlive.symm.trans alive)
      exact dead (valid_of_saveIsUpdate
        (coherent.tracked _ (List.mem_of_getElem? alive)) update)
    · intro notLate
      refine saveIsUpdate_of_valid coherent alive isDraft performed ?_
      by_contra dead
      exact notLate ⟨detail, alive, by simp [isDraft], dead⟩
  · intro punctualRun
    rw [show app.table.memoList.value = _ from UpToDate.of_run punctualRun]
    exact app.realm.listedBy_objects

/-- While its memo is stored, a detail saves to it. -/
theorem save_of_stored_memo_is_update :
    ∃ app detail draft after,
      punctual.Run (launch .empty) [.addMemo, .openMemo 0] app ∧
      app.details[0]? = some detail ∧
      detail.viewModel.draft = some draft ∧
      system.step app (.tapSave 0) = .ok after ∧
      SaveIsUpdate app after detail draft ∧
      app.realm.ListedBy app.table.memoList.value := by
  have run : punctual.Run (launch .empty) ([] ++ [.addMemo] ++ [.openMemo 0]) _ :=
    .snoc (.snoc .nil ⟨trivial, id⟩ rfl) ⟨Nat.one_pos, id⟩ rfl
  obtain ⟨isUpdate, listed⟩ :=
    save_is_update_iff_not_late (System.Run.of_restrict run)
  refine ⟨_, _, _, _, run, rfl, rfl, rfl, ?_, listed run⟩
  refine (isUpdate 0 _ _ _ rfl rfl rfl).mpr ?_
  rintro ⟨detail, alive, _, dead⟩
  obtain rfl := Option.some.inj alive
  exact dead ⟨_, List.mem_singleton_self _, rfl⟩

/-- Late saves do more than update. The first one stores a deleted memo again,
which the list does not show. The second one overwrites another memo, which was
created after the deletion and got the same id. -/
theorem late_save_is_no_update :
    (∃ app detail draft after,
      system.Run (launch .empty) [.addMemo, .openMemo 0, .deleteMemo 0] app ∧
      app.details[0]? = some detail ∧
      detail.viewModel.draft = some draft ∧
      system.step app (.tapSave 0) = .ok after ∧
      app.realm.rows = [] ∧
      after.realm.rows = [⟨1, 1, ⟨"title 1", ""⟩⟩] ∧
      after.table.memoList.value = [] ∧
      ¬SaveIsUpdate app after detail draft ∧
      ¬after.realm.ListedBy after.table.memoList.value) ∧
    ∃ app detail draft after,
      system.Run (launch .empty)
        [.addMemo, .openMemo 0, .editText 0 (some "old"), .deleteMemo 0,
          .addMemo] app ∧
      app.details[0]? = some detail ∧
      detail.viewModel.draft = some draft ∧
      system.step app (.tapSave 0) = .ok after ∧
      app.realm.rows = [⟨1, 1, ⟨"title 1", ""⟩⟩] ∧
      after.realm.rows = [⟨1, 1, ⟨"title 1", "old"⟩⟩] ∧
      detail.openedOn = .managed 0 ∧
      ¬SaveIsUpdate app after detail draft := by
  constructor
  · refine ⟨_, _, _, _, System.run_of_replay rfl, rfl, rfl, rfl, rfl, rfl, rfl,
      ?_, ?_⟩
    · intro update
      exact absurd update.sameMemos (by decide)
    · intro listed
      exact absurd (listed.complete _ (List.mem_singleton_self _))
        List.not_mem_nil
  · refine ⟨_, _, _, _, System.run_of_replay rfl, rfl, rfl, rfl, rfl, rfl, rfl,
      ?_⟩
    intro update
    exact absurd update.written (by decide)

end MemoApp
end MVVMExample
