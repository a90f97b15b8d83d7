import MVVMExample.Memo.ViewModel
import MVVMExample.Transition.System

/-!
# The memo list and its detail screens as one system

The state holds the store, the list view model and the detail view models that
are alive. At the view-model layer adding, deleting, opening, editing, saving
and closing interleave freely. The navigation stack of the app allows less: the
list cannot be used while a detail screen is open.

A detail remembers the reference it was opened on. This is a history variable:
`MemoViewModel` copies the properties and drops the reference, so no operation
reads it.
-/

namespace MVVMExample

open Storage Reactive Transition

/-- A live detail view model and the reference it was opened on. -/
structure Detail where
  viewModel : MemoViewModel
  openedOn : MemoObject
  deriving DecidableEq

/-- The memo part of the app. -/
structure MemoApp where
  realm : Realm
  table : TableViewModel
  details : List Detail

namespace MemoApp

/-- Uses of the memo part of the app. -/
inductive Input
  | addMemo
  | deleteMemo (index : Nat)
  | openMemo (index : Nat)
  | editText (detail : Nat) (text : Option String)
  | tapSave (detail : Nat)
  | closeMemo (detail : Nat)
  deriving DecidableEq

/-- A fresh list view model on a store. -/
def launch (realm : Realm) : MemoApp where
  realm := realm
  table := .init realm
  details := []

/-- `didSelectRowAt`: build a detail view model from the reference at a row. -/
def openMemo (app : MemoApp) (index : Nat) : Except Crash MemoApp :=
  match app.table.row index with
  | .error crash => .error crash
  | .ok object =>
      match app.realm.value object with
      | .error crash => .error crash
      | .ok memo =>
          .ok { app with details := app.details ++ [⟨.init memo, object⟩] }

/-- Set the text of a detail view model. -/
def editText (app : MemoApp) (index : Nat) (text : Option String) : MemoApp :=
  { app with
      details := app.details.modify index fun detail =>
        { detail with viewModel.memoText := ⟨text⟩ } }

/-- Emit on the save button of a detail view model. -/
def tapSave (app : MemoApp) (index : Nat) : MemoApp :=
  match app.details[index]? with
  | none => app
  | some detail =>
      let tapped := detail.viewModel.tap app.realm
      { app with
          realm := tapped.2
          details := app.details.set index { detail with viewModel := tapped.1 } }

/-- Perform one input. -/
def perform (app : MemoApp) : Input → Except Crash MemoApp
  | .addMemo =>
      match app.table.addMemo app.realm with
      | .error crash => .error crash
      | .ok (table, realm) => .ok { app with table := table, realm := realm }
  | .deleteMemo index =>
      match app.table.deleteMemo app.realm index with
      | .error crash => .error crash
      | .ok (table, realm) => .ok { app with table := table, realm := realm }
  | .openMemo index => app.openMemo index
  | .editText detail text => .ok (app.editText detail text)
  | .tapSave detail => .ok (app.tapSave detail)
  | .closeMemo detail => .ok { app with details := app.details.eraseIdx detail }

/-- Row inputs name a listed row, detail inputs a live detail. -/
def CanPerform (app : MemoApp) : Input → Prop
  | .addMemo => True
  | .deleteMemo index => index < app.table.memoList.value.length
  | .openMemo index => index < app.table.memoList.value.length
  | .editText detail _ => detail < app.details.length
  | .tapSave detail => detail < app.details.length
  | .closeMemo detail => detail < app.details.length

instance (app : MemoApp) (input : Input) : Decidable (app.CanPerform input) :=
  match input with
  | .addMemo => inferInstanceAs (Decidable True)
  | .deleteMemo _ => inferInstanceAs (Decidable (_ < _))
  | .openMemo _ => inferInstanceAs (Decidable (_ < _))
  | .editText _ _ => inferInstanceAs (Decidable (_ < _))
  | .tapSave _ => inferInstanceAs (Decidable (_ < _))
  | .closeMemo _ => inferInstanceAs (Decidable (_ < _))

/-- The view-model layer: everything interleaves. -/
def system : System MemoApp Input Crash where
  Enabled := CanPerform
  step := perform

instance (app : MemoApp) (input : Input) :
    Decidable (system.Enabled app input) :=
  inferInstanceAs (Decidable (app.CanPerform input))

end MemoApp

/-! ## Lists that show the store -/

/-- A list shows a store when it holds a valid reference to every stored memo,
each once and by increasing id. -/
structure Realm.ListedBy (realm : Realm) (memoList : List MemoObject) : Prop where
  valid : ∀ object ∈ memoList, realm.Valid object
  complete : ∀ row ∈ realm.rows, MemoObject.ofRow row ∈ memoList
  nodup : memoList.Nodup
  increasing : memoList.Pairwise fun left right =>
    ∀ leftMemo rightMemo, realm.value left = .ok leftMemo →
      realm.value right = .ok rightMemo → leftMemo.id < rightMemo.id

theorem Realm.valid_of_mem_objects
    {realm : Realm}
    {object : MemoObject}
    (listed : object ∈ Realm.objects realm) :
    realm.Valid object := by
  obtain ⟨row, rowListed, rfl⟩ := List.mem_map.mp listed
  exact ⟨row, KeyedTable.mem_sorted.mp rowListed, rfl⟩

/-- The sorted query shows the store. -/
theorem Realm.listedBy_objects (realm : Realm) :
    realm.ListedBy (Realm.objects realm) where
  valid := fun _ listed => Realm.valid_of_mem_objects listed
  complete := fun row stored =>
    List.mem_map_of_mem (KeyedTable.mem_sorted.mpr stored)
  nodup := by
    refine List.Nodup.map_on ?_ (realm.sorted_pairwise.imp fun increasing =>
      fun same => absurd increasing (same ▸ lt_irrefl _))
    intro left leftListed right rightListed same
    injection same with sameHandle
    exact realm.row_eq_of_handle (KeyedTable.mem_sorted.mp leftListed)
      (KeyedTable.mem_sorted.mp rightListed) sameHandle
  increasing := by
    rw [Realm.objects, List.pairwise_map]
    refine realm.sorted_pairwise.imp_of_mem ?_
    intro left right leftListed rightListed increasing leftMemo rightMemo
      leftValue rightValue
    rw [Realm.value_ofRow (KeyedTable.mem_sorted.mp leftListed)] at leftValue
    rw [Realm.value_ofRow (KeyedTable.mem_sorted.mp rightListed)] at rightValue
    cases leftValue
    cases rightValue
    exact increasing

/-- Upserts keep references valid. -/
theorem Realm.Valid.upsert
    {realm : Realm}
    {object : MemoObject}
    (valid : realm.Valid object)
    (key : SwiftInt)
    (content : MemoContent) :
    Realm.Valid (realm.upsert key content) object := by
  obtain ⟨row, stored, rfl⟩ := valid
  obtain ⟨after, afterStored, sameHandle, _⟩ :=
    KeyedTable.handle_survives_upsert stored key content
  exact ⟨after, afterStored, by rw [MemoObject.ofRow, MemoObject.ofRow, sameHandle]⟩

/-! ## The invariant of the view-model layer -/

/-- A detail is ready for taps, has an id and a title, and as long as the row
it was opened on lives, that row has its id. -/
structure Detail.Tracks (detail : Detail) (realm : Realm) : Prop where
  ready : detail.viewModel.Ready
  titled : ∃ title, detail.viewModel.memoTitle.value = some title
  opened : ∃ handle id,
    detail.openedOn = .managed handle ∧ handle < realm.nextHandle ∧
      detail.viewModel.id.value = some id ∧
        ∀ row ∈ realm.rows, row.handle = handle → row.key = id

/-- A detail keeps track while the store evolves. -/
theorem Detail.Tracks.evolve
    {detail : Detail}
    {before after : Realm}
    (tracks : detail.Tracks before)
    (evolves : KeyedTable.Evolves before after) :
    detail.Tracks after where
  ready := tracks.ready
  titled := tracks.titled
  opened := by
    obtain ⟨handle, id, isOpened, issued, hasId, sameId⟩ := tracks.opened
    refine ⟨handle, id, isOpened, issued.trans_le evolves.nextHandle_le, hasId, ?_⟩
    rintro row stored rfl
    obtain ⟨original, originalStored, sameHandle, sameKey⟩ :=
      evolves.old_row row stored issued
    exact sameKey ▸ sameId original originalStored sameHandle

/-- A detail was opened on the same memo as an older one, with the same copied
id and title. -/
structure Detail.Continues (detail old : Detail) : Prop where
  openedOn : detail.openedOn = old.openedOn
  id : detail.viewModel.id = old.viewModel.id
  title : detail.viewModel.memoTitle = old.viewModel.memoTitle
  ready : old.viewModel.Ready → detail.viewModel.Ready

theorem Detail.Continues.refl (detail : Detail) : detail.Continues detail :=
  ⟨rfl, rfl, rfl, fun ready => ready⟩

/-- A detail tracks what an older one tracked. -/
theorem Detail.Continues.tracks
    {detail old : Detail}
    {realm : Realm}
    (continues : detail.Continues old)
    (tracks : old.Tracks realm) :
    detail.Tracks realm where
  ready := continues.ready tracks.ready
  titled := continues.title ▸ tracks.titled
  opened := by
    rw [continues.openedOn, continues.id]
    exact tracks.opened

/-- The detail view model built from a stored row tracks it. -/
theorem Detail.tracks_of_stored
    {realm : Realm}
    {row : Row SwiftInt MemoContent}
    (stored : row ∈ realm.rows) :
    Detail.Tracks ⟨.init (Memo.ofRow row), MemoObject.ofRow row⟩ realm where
  ready := MemoViewModel.init_ready _
  titled := ⟨_, rfl⟩
  opened := by
    refine ⟨row.handle, row.key, rfl, realm.handle_lt row stored, rfl, ?_⟩
    intro other otherStored sameHandle
    rw [realm.row_eq_of_handle otherStored stored sameHandle]

namespace MemoApp

/-- Every listed reference is valid and every detail tracks its memo. -/
structure Coherent (app : MemoApp) : Prop where
  listed : ∀ object ∈ app.table.memoList.value, app.realm.Valid object
  tracked : ∀ detail ∈ app.details, detail.Tracks app.realm

/-- Saving a draft lets the store evolve. -/
theorem evolves_saved (viewModel : MemoViewModel) (realm : Realm) :
    KeyedTable.Evolves realm (viewModel.saved realm) := by
  unfold MemoViewModel.saved
  split
  · exact KeyedTable.evolves_refl realm
  · exact KeyedTable.evolves_upsert realm _ _

/-- Saving a draft keeps references valid. -/
theorem valid_saved
    {realm : Realm}
    {object : MemoObject}
    (valid : realm.Valid object)
    (viewModel : MemoViewModel) :
    Realm.Valid (viewModel.saved realm) object := by
  unfold MemoViewModel.saved
  split
  · exact valid
  · exact valid.upsert _ _

theorem launch_coherent (realm : Realm) : (launch realm).Coherent where
  listed := fun _ listed => Realm.valid_of_mem_objects listed
  tracked := by simp [launch]

/-- What adding a memo does. -/
theorem perform_addMemo_eq_ok
    {app after : MemoApp} :
    app.perform .addMemo = .ok after ↔
      ∃ id, MemoDao.newId app.realm = .ok id ∧
        after =
          { app with
              realm := app.realm.upsert id (AddMemoUseCase.newMemo id).content
              table := .init
                (app.realm.upsert id (AddMemoUseCase.newMemo id).content) } := by
  constructor
  · intro performed
    simp only [perform] at performed
    cases added : app.table.addMemo app.realm with
    | error crash => simp [added] at performed
    | ok pair =>
        obtain ⟨⟨id, issued, realmAfter⟩, tableAfter⟩ :=
          TableViewModel.addMemo_eq_ok.mp added
        simp only [added] at performed
        cases performed
        exact ⟨id, issued, by rw [tableAfter, realmAfter]⟩
  · rintro ⟨id, issued, rfl⟩
    have added : app.table.addMemo app.realm = .ok (_, _) :=
      TableViewModel.addMemo_eq_ok.mpr ⟨⟨id, issued, rfl⟩, rfl⟩
    simp only [perform, added]

/-- The row that a listed reference denotes. -/
theorem exists_listed_row
    {app : MemoApp}
    (coherent : app.Coherent)
    {index : Nat}
    (inRange : index < app.table.memoList.value.length) :
    ∃ row ∈ app.realm.rows,
      app.table.memoList.value[index]? = some (MemoObject.ofRow row) := by
  obtain ⟨row, stored, isRow⟩ :=
    coherent.listed _ (List.getElem_mem inRange)
  exact ⟨row, stored, by rw [List.getElem?_eq_getElem inRange, isRow]⟩

/-- What deleting a listed memo does. -/
theorem perform_deleteMemo
    {app : MemoApp}
    {index : Nat}
    {row : Row SwiftInt MemoContent}
    (stored : row ∈ app.realm.rows)
    (listed :
      app.table.memoList.value[index]? = some (MemoObject.ofRow row)) :
    app.perform (.deleteMemo index) =
      .ok { app with
              realm := KeyedTable.delete app.realm row.handle
              table := .init (KeyedTable.delete app.realm row.handle) } := by
  simp only [perform, TableViewModel.deleteMemo_of_stored stored listed]

/-- What opening a listed memo does. -/
theorem perform_openMemo
    {app : MemoApp}
    {index : Nat}
    {row : Row SwiftInt MemoContent}
    (stored : row ∈ app.realm.rows)
    (listed :
      app.table.memoList.value[index]? = some (MemoObject.ofRow row)) :
    app.perform (.openMemo index) =
      .ok { app with
              details := app.details ++
                [⟨.init (Memo.ofRow row), MemoObject.ofRow row⟩] } := by
  simp only [perform, openMemo, TableViewModel.row_of_getElem? listed,
    Realm.value_ofRow stored]

/-- What a tap on a tracking detail does. -/
theorem perform_tapSave
    {app : MemoApp}
    {index : Nat}
    {detail : Detail}
    (alive : app.details[index]? = some detail)
    (tracks : detail.Tracks app.realm) :
    ∃ viewModel,
      app.perform (.tapSave index) =
          .ok { app with
                  realm := detail.viewModel.saved app.realm
                  details := app.details.set index
                    { detail with viewModel := viewModel } } ∧
        viewModel.Ready ∧ viewModel.id = detail.viewModel.id ∧
          viewModel.memoTitle = detail.viewModel.memoTitle ∧
            viewModel.memoText = detail.viewModel.memoText := by
  obtain ⟨pipeline, tapped, ready⟩ :=
    MemoViewModel.tap_of_ready tracks.ready app.realm
  refine ⟨{ detail.viewModel with
      savingObservable := pipeline
      received :=
        detail.viewModel.received ++ [.next detail.viewModel.result] },
    ?_, ready, rfl, rfl, rfl⟩
  simp only [perform, tapSave, alive, tapped]

/-- What a step of a coherent app can do. -/
inductive Effect (app : MemoApp) : Input → MemoApp → Prop
  | addMemo
      {id : SwiftInt}
      (issued : MemoDao.newId app.realm = .ok id) :
      Effect app .addMemo
        { app with
            realm := app.realm.upsert id (AddMemoUseCase.newMemo id).content
            table := .init
              (app.realm.upsert id (AddMemoUseCase.newMemo id).content) }
  | deleteMemo
      {index : Nat}
      {row : Row SwiftInt MemoContent}
      (stored : row ∈ app.realm.rows)
      (listed :
        app.table.memoList.value[index]? = some (MemoObject.ofRow row)) :
      Effect app (.deleteMemo index)
        { app with
            realm := KeyedTable.delete app.realm row.handle
            table := .init (KeyedTable.delete app.realm row.handle) }
  | openMemo
      {index : Nat}
      {row : Row SwiftInt MemoContent}
      (stored : row ∈ app.realm.rows)
      (listed :
        app.table.memoList.value[index]? = some (MemoObject.ofRow row)) :
      Effect app (.openMemo index)
        { app with
            details := app.details ++
              [⟨.init (Memo.ofRow row), MemoObject.ofRow row⟩] }
  | editText (index : Nat) (text : Option String) :
      Effect app (.editText index text) (app.editText index text)
  | tapSave
      {index : Nat}
      {detail : Detail}
      {viewModel : MemoViewModel}
      (alive : app.details[index]? = some detail)
      (ready : viewModel.Ready)
      (sameId : viewModel.id = detail.viewModel.id)
      (sameTitle : viewModel.memoTitle = detail.viewModel.memoTitle) :
      Effect app (.tapSave index)
        { app with
            realm := detail.viewModel.saved app.realm
            details := app.details.set index
              { detail with viewModel := viewModel } }
  | closeMemo (index : Nat) :
      Effect app (.closeMemo index)
        { app with details := app.details.eraseIdx index }

/-- Every step of a coherent app has one of the effects. -/
theorem Coherent.effect
    {app after : MemoApp}
    {input : Input}
    (coherent : app.Coherent)
    (enabled : app.CanPerform input)
    (performed : app.perform input = .ok after) :
    app.Effect input after := by
  cases input with
  | addMemo =>
      obtain ⟨id, issued, rfl⟩ := perform_addMemo_eq_ok.mp performed
      exact .addMemo issued
  | deleteMemo index =>
      obtain ⟨row, stored, listed⟩ := exists_listed_row coherent enabled
      rw [perform_deleteMemo stored listed] at performed
      cases performed
      exact .deleteMemo stored listed
  | openMemo index =>
      obtain ⟨row, stored, listed⟩ := exists_listed_row coherent enabled
      rw [perform_openMemo stored listed] at performed
      cases performed
      exact .openMemo stored listed
  | editText index text =>
      cases performed
      exact .editText index text
  | tapSave index =>
      have alive : app.details[index]? = some app.details[index] :=
        List.getElem?_eq_getElem enabled
      obtain ⟨viewModel, tapped, ready, sameId, sameTitle, _⟩ :=
        perform_tapSave alive (coherent.tracked _ (List.getElem_mem enabled))
      rw [tapped] at performed
      cases performed
      exact .tapSave alive ready sameId sameTitle
  | closeMemo index =>
      cases performed
      exact .closeMemo index

namespace Effect

variable {app after : MemoApp} {input : Input}

/-- The store evolves in every step. -/
theorem evolves (effect : app.Effect input after) :
    KeyedTable.Evolves app.realm after.realm := by
  cases effect with
  | addMemo issued => exact KeyedTable.evolves_upsert _ _ _
  | deleteMemo stored listed => exact KeyedTable.evolves_delete _ _
  | openMemo stored listed => exact KeyedTable.evolves_refl _
  | editText index text => exact KeyedTable.evolves_refl _
  | tapSave alive ready sameId sameTitle => exact evolves_saved _ _
  | closeMemo index => exact KeyedTable.evolves_refl _

/-- Every detail after a step is a detail from before it, or was just opened on
a stored row. -/
theorem details
    (effect : app.Effect input after)
    {detail : Detail}
    (present : detail ∈ after.details) :
    (∃ old ∈ app.details, detail.Continues old) ∨
      ∃ row ∈ app.realm.rows,
        detail = ⟨.init (Memo.ofRow row), MemoObject.ofRow row⟩ ∧
          after.realm = app.realm := by
  cases effect with
  | addMemo issued => exact Or.inl ⟨detail, present, .refl detail⟩
  | deleteMemo stored listed => exact Or.inl ⟨detail, present, .refl detail⟩
  | openMemo stored listed =>
      rcases List.mem_append.mp present with old | new
      · exact Or.inl ⟨detail, old, .refl detail⟩
      · exact Or.inr ⟨_, stored, List.mem_singleton.mp new, rfl⟩
  | editText index text =>
      obtain ⟨position, inRange, rfl⟩ := List.getElem_of_mem present
      simp only [MemoApp.editText, List.length_modify] at inRange
      refine Or.inl ⟨app.details[position], List.getElem_mem inRange, ?_⟩
      simp only [MemoApp.editText, List.getElem_modify]
      split
      · exact ⟨rfl, rfl, rfl, id⟩
      · exact .refl _
  | tapSave alive ready sameId sameTitle =>
      rcases List.mem_or_eq_of_mem_set present with old | rfl
      · exact Or.inl ⟨detail, old, .refl detail⟩
      · exact Or.inl ⟨_, List.mem_of_getElem? alive,
          rfl, sameId, sameTitle, fun _ => ready⟩
  | closeMemo index =>
      exact Or.inl ⟨detail, List.mem_of_mem_eraseIdx present, .refl detail⟩

/-- A step either loads the list again, or keeps it and its memos. -/
theorem table (effect : app.Effect input after) :
    after.table = .init after.realm ∨
      after.table = app.table ∧
        ∀ object, app.realm.Valid object → after.realm.Valid object := by
  cases effect with
  | addMemo issued => exact Or.inl rfl
  | deleteMemo stored listed => exact Or.inl rfl
  | openMemo stored listed => exact Or.inr ⟨rfl, fun _ valid => valid⟩
  | editText index text => exact Or.inr ⟨rfl, fun _ valid => valid⟩
  | tapSave alive ready sameId sameTitle =>
      exact Or.inr ⟨rfl, fun _ valid => valid_saved valid _⟩
  | closeMemo index => exact Or.inr ⟨rfl, fun _ valid => valid⟩

end Effect

/-- The step lemma: the invariant is preserved by every step. -/
theorem Coherent.step
    {app after : MemoApp}
    {input : Input}
    (coherent : app.Coherent)
    (enabled : app.CanPerform input)
    (performed : app.perform input = .ok after) :
    after.Coherent := by
  have effect := coherent.effect enabled performed
  constructor
  · intro object listed
    rcases effect.table with reloaded | ⟨sameTable, keepsValid⟩
    · rw [reloaded] at listed
      exact Realm.valid_of_mem_objects listed
    · rw [sameTable] at listed
      exact keepsValid object (coherent.listed object listed)
  · intro detail present
    rcases effect.details present with
      ⟨old, alive, continues⟩ | ⟨row, stored, rfl, sameRealm⟩
    · exact continues.tracks ((coherent.tracked old alive).evolve effect.evolves)
    · rw [sameRealm]
      exact Detail.tracks_of_stored stored

/-- The run lemma: the invariant holds in every reachable state. -/
theorem Coherent.of_run
    {realm : Realm}
    {inputs : List Input}
    {app : MemoApp}
    (run : system.Run (launch realm) inputs app) :
    app.Coherent :=
  System.Run.invariant (fun _ app => Coherent app)
    (launch_coherent realm)
    (fun _ _ _ _ coherent enabled performed =>
      coherent.step enabled performed) run

end MemoApp
end MVVMExample
