import MVVMExample.Memo.Navigation

/-!
# The table of memos

`TableViewController` binds the memo list to a `MemoDataSource`. The data source
takes a new list whenever one is set, and reloads the table; the table asks for
the cell of a row when it lays the row out, which may be much later. A cell keeps
the title it was configured with, while the memo behind it may be saved.

Laying out a row never reads an invalid reference, and without late saves a cell
never shows an outdated title: a save writes back the title that was copied when
its detail was opened. In particular no cell is outdated behind the navigation
stack.
-/

namespace MVVMExample

open Storage Transition

/-- The items that the table displays. -/
structure MemoDataSource where
  itemModels : List MemoObject := []

namespace MemoDataSource

/-- The number of rows. -/
def numberOfRowsInSection (dataSource : MemoDataSource) : Nat :=
  dataSource.itemModels.length

/-- The text of the cell at a row. -/
def cellForRowAt (dataSource : MemoDataSource) (realm : Realm) (index : Nat) :
    Except Crash String :=
  match dataSource.itemModels[index]? with
  | none => .error .indexOutOfRange
  | some element =>
      match realm.value element with
      | .error crash => .error crash
      | .ok memo => .ok memo.memoTitle

/-- The cell of a stored memo has its title. -/
theorem cellForRowAt_of_stored
    {dataSource : MemoDataSource}
    {realm : Realm}
    {index : Nat}
    {row : Row SwiftInt MemoContent}
    (stored : row ∈ realm.rows)
    (listed : dataSource.itemModels[index]? = some (MemoObject.ofRow row)) :
    dataSource.cellForRowAt realm index = .ok row.value.memoTitle := by
  simp only [cellForRowAt, listed, Realm.value_ofRow stored]
  rfl

end MemoDataSource

/-! ## Titles of live memos -/

/-- The memos that stay stored keep their titles. -/
def Realm.KeepsTitles (before after : Realm) : Prop :=
  ∀ old ∈ before.rows, ∀ row ∈ after.rows, old.handle = row.handle →
    row.value.memoTitle = old.value.memoTitle

theorem Realm.keepsTitles_refl (realm : Realm) : realm.KeepsTitles realm := by
  intro old oldStored row stored sameHandle
  rw [realm.row_eq_of_handle oldStored stored sameHandle]

theorem Realm.keepsTitles_delete (realm : Realm) (handle : Nat) :
    realm.KeepsTitles (KeyedTable.delete realm handle) := by
  intro old oldStored row stored sameHandle
  exact realm.keepsTitles_refl old oldStored row
    (KeyedTable.mem_rows_delete.mp stored).1 sameHandle

/-- Writing a title that the memo with the id already has keeps all titles. -/
theorem Realm.keepsTitles_upsert
    {realm : Realm}
    {id : SwiftInt}
    {content : MemoContent}
    (sameTitle : ∀ row ∈ realm.rows, row.key = id →
      content.memoTitle = row.value.memoTitle) :
    realm.KeepsTitles (realm.upsert id content) := by
  intro old oldStored row stored sameHandle
  rcases KeyedTable.mem_rows_upsert.mp stored with rfl | ⟨unwritten, _⟩
  · cases found : realm.find id with
    | none =>
        have issued := realm.handle_lt old oldStored
        simp only [KeyedTable.upsertHandle, found] at sameHandle
        omega
    | some written =>
        obtain ⟨writtenStored, hasId⟩ := KeyedTable.find_eq_some.mp found
        simp only [KeyedTable.upsertHandle, found] at sameHandle
        obtain rfl := realm.row_eq_of_handle oldStored writtenStored sameHandle
        exact sameTitle old oldStored hasId
  · exact realm.keepsTitles_refl old oldStored row unwritten sameHandle

namespace MemoApp

/-- A detail has the title of the memo it was opened on, while that memo is
stored. -/
def Titled (app : MemoApp) : Prop :=
  ∀ detail ∈ app.details, ∀ row ∈ app.realm.rows,
    detail.openedOn = MemoObject.ofRow row →
      detail.viewModel.memoTitle.value = some row.value.memoTitle

/-- Every step that is not a late save keeps the titles of the memos that stay
stored. -/
theorem Effect.keepsTitles
    {app after : MemoApp}
    {input : Input}
    (effect : app.Effect input after)
    (coherent : app.Coherent)
    (titled : app.Titled)
    (notLate : ¬app.Late input) :
    app.realm.KeepsTitles after.realm := by
  cases effect with
  | addMemo issued =>
      apply Realm.keepsTitles_upsert
      intro row stored sameId
      exact absurd sameId (MemoDao.lt_newId issued stored).ne
  | deleteMemo stored listed => exact Realm.keepsTitles_delete _ _
  | openMemo stored listed => exact Realm.keepsTitles_refl _
  | editText index text => exact Realm.keepsTitles_refl _
  | @tapSave index detail viewModel alive ready sameId sameTitle =>
      unfold MemoViewModel.saved
      split
      · exact Realm.keepsTitles_refl _
      · rename_i draft isDraft
        obtain ⟨row, stored, isOpened, hasId⟩ :=
          exists_row_of_not_late coherent alive isDraft notLate
        have hasTitle :=
          titled detail (List.mem_of_getElem? alive) row stored isOpened
        rw [(MemoViewModel.draft_eq_some.mp isDraft).2.1] at hasTitle
        apply Realm.keepsTitles_upsert
        intro other otherStored sameId
        rw [app.realm.row_eq_of_key otherStored stored
          (sameId.trans hasId.symm)]
        exact Option.some.inj hasTitle
  | closeMemo index => exact Realm.keepsTitles_refl _

/-- The step lemma: details keep the titles of their memos. -/
theorem Titled.step
    {app after : MemoApp}
    {input : Input}
    (coherent : app.Coherent)
    (titled : app.Titled)
    (effect : app.Effect input after)
    (notLate : ¬app.Late input) :
    after.Titled := by
  intro detail present row stored isOpened
  rcases effect.details present with
    ⟨old, alive, continues⟩ | ⟨opened, openedStored, rfl, sameRealm⟩
  · obtain ⟨handle, id, isHandle, issued, _⟩ :=
      (coherent.tracked old alive).opened
    rw [continues.openedOn] at isOpened
    have sameHandle : handle = row.handle :=
      MemoObject.managed.inj (isHandle.symm.trans isOpened)
    obtain ⟨original, originalStored, originalHandle, _⟩ :=
      effect.evolves.old_row row stored (sameHandle ▸ issued)
    have wasOpened : old.openedOn = MemoObject.ofRow original := by
      rw [isOpened, MemoObject.ofRow, MemoObject.ofRow, originalHandle]
    rw [continues.title, titled old alive original originalStored wasOpened,
      effect.keepsTitles coherent titled notLate original originalStored row
        stored originalHandle]
  · rw [sameRealm] at stored
    have sameHandle : opened.handle = row.handle :=
      MemoObject.managed.inj isOpened
    rw [app.realm.row_eq_of_handle openedStored stored sameHandle]
    rfl

end MemoApp

/-! ## The table screen -/

/-- The screen of the table: the memo part of the app, the data source, and
the titles of the cells that have been laid out since the last reload. -/
structure TableViewController where
  app : MemoApp
  dataSource : MemoDataSource := {}
  cells : List (Option String) := []

namespace TableViewController

/-- The data source takes a list and reloads the table. -/
def observedEvent (screen : TableViewController) (element : List MemoObject) :
    TableViewController :=
  { screen with
      dataSource := { itemModels := element }
      cells := .replicate element.length none }

/-- A table bound to the list of a fresh view model. -/
def bainding (realm : Realm) : TableViewController :=
  let screen : TableViewController := { app := .launch realm }
  screen.observedEvent screen.app.table.memoList.value

/-- What happens to the screen: the app is used, or the table lays out a
row. -/
inductive Input
  | app (input : MemoApp.Input)
  | layOut (index : Nat)
  deriving DecidableEq

/-- The inputs that set the memo list. -/
def setsMemoList : MemoApp.Input → Bool
  | .addMemo => true
  | .deleteMemo _ => true
  | _ => false

/-- The app was used: a list that was set reaches the data source. -/
def used
    (screen : TableViewController)
    (input : MemoApp.Input)
    (app : MemoApp) : TableViewController :=
  if setsMemoList input then
    { screen with app := app }.observedEvent app.table.memoList.value
  else { screen with app := app }

/-- Perform one input. -/
def perform (screen : TableViewController) :
    Input → Except Crash TableViewController
  | .app input =>
      match screen.app.perform input with
      | .error crash => .error crash
      | .ok app => .ok (screen.used input app)
  | .layOut index =>
      match screen.dataSource.cellForRowAt screen.app.realm index with
      | .error crash => .error crash
      | .ok title =>
          .ok { screen with cells := screen.cells.set index (some title) }

/-- The table lays out only its rows. -/
def CanPerform (screen : TableViewController) : Input → Prop
  | .app input => screen.app.CanPerform input
  | .layOut index => index < screen.dataSource.numberOfRowsInSection

instance (screen : TableViewController) (input : Input) :
    Decidable (screen.CanPerform input) :=
  match input with
  | .app input => inferInstanceAs (Decidable (screen.app.CanPerform input))
  | .layOut _ => inferInstanceAs (Decidable (_ < _))

/-- Uses of the app and layouts interleave freely. -/
def system : System TableViewController Input Crash where
  Enabled := CanPerform
  step := perform

instance (screen : TableViewController) (input : Input) :
    Decidable (system.Enabled screen input) :=
  inferInstanceAs (Decidable (screen.CanPerform input))

/-- The data source has the list of the view model. -/
structure Bound (screen : TableViewController) : Prop where
  coherent : screen.app.Coherent
  items : screen.dataSource.itemModels = screen.app.table.memoList.value

theorem bainding_bound (realm : Realm) : (bainding realm).Bound :=
  ⟨MemoApp.launch_coherent realm, rfl⟩

/-- What a use of the app does to the screen. -/
theorem perform_app_eq_ok
    {screen after : TableViewController}
    {input : MemoApp.Input} :
    screen.perform (.app input) = .ok after ↔
      ∃ app, screen.app.perform input = .ok app ∧
        after = screen.used input app := by
  simp only [perform]
  cases screen.app.perform input with
  | error crash => simp
  | ok app => simp [eq_comm]

/-- An input that does not set the list changes neither the list nor which
references are valid. -/
theorem keeps_of_not_sets
    {app after : MemoApp}
    {input : MemoApp.Input}
    (effect : app.Effect input after)
    (notSets : setsMemoList input = false) :
    after.table = app.table ∧
      ∀ object, app.realm.Valid object → after.realm.Valid object := by
  cases effect with
  | addMemo issued => contradiction
  | deleteMemo stored listed => contradiction
  | openMemo stored listed => exact ⟨rfl, fun _ valid => valid⟩
  | editText index text => exact ⟨rfl, fun _ valid => valid⟩
  | tapSave alive ready sameId sameTitle =>
      exact ⟨rfl, fun _ valid => MemoApp.valid_saved valid _⟩
  | closeMemo index => exact ⟨rfl, fun _ valid => valid⟩

/-- Every row of the table can be laid out, and shows the title of a stored
memo. -/
theorem Bound.layOut
    {screen : TableViewController}
    {index : Nat}
    (bound : screen.Bound)
    (inRange : index < screen.dataSource.numberOfRowsInSection) :
    ∃ row ∈ screen.app.realm.rows,
      screen.dataSource.itemModels[index]? = some (MemoObject.ofRow row) ∧
        screen.perform (.layOut index) =
          .ok { screen with
                  cells := screen.cells.set index
                    (some row.value.memoTitle) } := by
  have inList : index < screen.app.table.memoList.value.length :=
    bound.items ▸ inRange
  obtain ⟨row, stored, listed⟩ :=
    MemoApp.exists_listed_row bound.coherent inList
  rw [← bound.items] at listed
  refine ⟨row, stored, listed, ?_⟩
  simp only [perform, MemoDataSource.cellForRowAt_of_stored stored listed]

/-- The step lemma: the data source keeps the list of the view model. -/
theorem Bound.step
    {screen after : TableViewController}
    {input : Input}
    (bound : screen.Bound)
    (enabled : screen.CanPerform input)
    (performed : screen.perform input = .ok after) :
    after.Bound := by
  cases input with
  | app input =>
      obtain ⟨app, appPerformed, rfl⟩ := perform_app_eq_ok.mp performed
      have effect := bound.coherent.effect enabled appPerformed
      have coherent := bound.coherent.step enabled appPerformed
      unfold used
      split
      · exact ⟨coherent, rfl⟩
      · rename_i notSets
        have keeps := keeps_of_not_sets effect
          (Bool.eq_false_of_not_eq_true notSets)
        exact ⟨coherent, bound.items.trans (by rw [keeps.1])⟩
  | layOut index =>
      obtain ⟨row, _, _, laidOut⟩ := bound.layOut enabled
      rw [laidOut] at performed
      cases performed
      exact ⟨bound.coherent, bound.items⟩

/-- The run lemma. -/
theorem Bound.of_run
    {realm : Realm}
    {inputs : List Input}
    {screen : TableViewController}
    (run : system.Run (bainding realm) inputs screen) :
    screen.Bound := by
  refine System.Run.invariant (fun _ screen => screen.Bound)
    (bainding_bound realm) ?_ run
  intro _ input before after bound enabled performed
  exact bound.step enabled performed

/-- After every run, late saves included, every row can be laid out without a
fault and shows the title of the stored memo that the list has there. -/
theorem every_row_lays_out
    {realm : Realm}
    {inputs : List Input}
    {screen : TableViewController}
    (run : system.Run (bainding realm) inputs screen)
    {index : Nat}
    (inRange : index < screen.dataSource.numberOfRowsInSection) :
    ∃ row ∈ screen.app.realm.rows,
      screen.app.table.memoList.value[index]? = some (MemoObject.ofRow row) ∧
        system.step screen (.layOut index) =
          .ok { screen with
                  cells := screen.cells.set index
                    (some row.value.memoTitle) } := by
  have bound := Bound.of_run run
  rw [← bound.items]
  exact bound.layOut inRange

/-- The first of two memos is left after the other has been deleted, and its
row lays out. -/
theorem every_row_lays_out_first :
    ∃ screen : TableViewController,
      system.Run (bainding .empty)
          [.app .addMemo, .app .addMemo, .app (.deleteMemo 1)] screen ∧
        ∃ row ∈ screen.app.realm.rows,
          screen.app.table.memoList.value[0]? = some (MemoObject.ofRow row) ∧
            system.step screen (.layOut 0) =
              .ok { screen with
                      cells := screen.cells.set 0
                        (some row.value.memoTitle) } := by
  have run : system.Run (bainding .empty)
      [.app .addMemo, .app .addMemo, .app (.deleteMemo 1)] _ :=
    System.run_of_replay rfl
  exact ⟨_, run, every_row_lays_out run (by decide)⟩

/-! ## Cells are up to date -/

/-- Every laid out cell shows the present title of the memo at its row. -/
def CellsUpToDate (screen : TableViewController) : Prop :=
  ∀ (index : Nat) (title : String),
    screen.cells[index]? = some (some title) →
      ∃ row ∈ screen.app.realm.rows,
        screen.dataSource.itemModels[index]? = some (MemoObject.ofRow row) ∧
          row.value.memoTitle = title

/-- Runs in which no save is late. -/
def punctual : System TableViewController Input Crash :=
  system.restrict fun screen input =>
    ∀ use, input = .app use → ¬screen.app.Late use

/-- After a reload no cell has been laid out. -/
theorem cellsUpToDate_observedEvent
    (screen : TableViewController)
    (element : List MemoObject) :
    (screen.observedEvent element).CellsUpToDate := by
  intro index title laidOut
  rw [observedEvent, List.getElem?_replicate] at laidOut
  split at laidOut
  · injection laidOut with impossible
    contradiction
  · contradiction

/-- The step lemma: every input that is not a late save keeps the cells up to
date. -/
theorem CellsUpToDate.step
    {screen after : TableViewController}
    {input : Input}
    (bound : screen.Bound)
    (titled : screen.app.Titled)
    (upToDate : screen.CellsUpToDate)
    (enabled : punctual.Enabled screen input)
    (performed : screen.perform input = .ok after) :
    after.CellsUpToDate := by
  cases input with
  | app input =>
      obtain ⟨app, appPerformed, rfl⟩ := perform_app_eq_ok.mp performed
      have effect := bound.coherent.effect enabled.1 appPerformed
      unfold used
      split
      · exact cellsUpToDate_observedEvent _ _
      · rename_i notSets
        have keeps := keeps_of_not_sets effect
          (Bool.eq_false_of_not_eq_true notSets)
        have keepsTitles := effect.keepsTitles bound.coherent titled
          (enabled.2 input rfl)
        intro index title laidOut
        obtain ⟨row, stored, listed, hasTitle⟩ := upToDate index title laidOut
        obtain ⟨kept, keptStored, sameObject⟩ := keeps.2 _ ⟨row, stored, rfl⟩
        refine ⟨kept, keptStored, listed.trans (congrArg some sameObject), ?_⟩
        rw [← hasTitle]
        exact keepsTitles row stored kept keptStored
          (MemoObject.managed.inj sameObject)
  | layOut position =>
      obtain ⟨row, stored, listed, shown⟩ := bound.layOut enabled.1
      rw [shown] at performed
      cases performed
      intro index title laidOut
      by_cases samePosition : position = index
      · subst samePosition
        have inRange : position < screen.cells.length := by
          simpa using (List.getElem?_eq_some_iff.mp laidOut).1
        rw [List.getElem?_set_self inRange] at laidOut
        exact ⟨row, stored, listed,
          Option.some.inj (Option.some.inj laidOut)⟩
      · rw [List.getElem?_set_ne samePosition] at laidOut
        exact upToDate index title laidOut

/-- Layouts do not touch the app, so details keep the titles of their memos. -/
theorem titled_step
    {screen after : TableViewController}
    {input : Input}
    (bound : screen.Bound)
    (titled : screen.app.Titled)
    (enabled : punctual.Enabled screen input)
    (performed : screen.perform input = .ok after) :
    after.app.Titled := by
  cases input with
  | app input =>
      obtain ⟨app, appPerformed, rfl⟩ := perform_app_eq_ok.mp performed
      have effect := bound.coherent.effect enabled.1 appPerformed
      have stillTitled := titled.step bound.coherent effect
        (enabled.2 input rfl)
      unfold used
      split <;> exact stillTitled
  | layOut position =>
      obtain ⟨row, _, _, shown⟩ := bound.layOut enabled.1
      rw [shown] at performed
      cases performed
      exact titled

/-- After every run without late saves, every laid out cell shows the present
title of the memo at its row, although a save does not reload the table. -/
theorem cells_up_to_date
    {realm : Realm}
    {inputs : List Input}
    {screen : TableViewController}
    (run : punctual.Run (bainding realm) inputs screen) :
    screen.CellsUpToDate := by
  have untitled : (bainding realm).app.Titled := by
    intro detail present
    contradiction
  refine (System.Run.invariant
    (fun _ screen =>
      screen.Bound ∧ screen.app.Titled ∧ screen.CellsUpToDate)
    ⟨bainding_bound realm, untitled, cellsUpToDate_observedEvent _ _⟩ ?_ run).2.2
  rintro _ input before after ⟨bound, titled, upToDate⟩ enabled performed
  exact ⟨bound.step enabled.1 performed,
    titled_step bound titled enabled performed,
    upToDate.step bound titled enabled performed⟩

/-- A late save to a reissued id does outdate a cell. -/
example :
    (system.replay (bainding (KeyedTable.upsert .empty 1 ⟨"old", ""⟩))
        [.app (.openMemo 0), .app (.deleteMemo 0), .app .addMemo, .layOut 0,
          .app (.tapSave 0)]).map
        (fun screen => (screen.cells, screen.app.realm.rows)) =
      some ([some "title 1"], [⟨1, 1, ⟨"old", ""⟩⟩]) := rfl

/-- The table as the navigation stack lets the app be used. -/
def navigation : System TableViewController Input Crash :=
  system.restrict fun screen input =>
    ∀ use, input = .app use → screen.app.OnScreen use

/-- The navigation stack lets no save be late. -/
theorem punctual_simulates :
    System.Simulation navigation punctual
      fun screen other =>
        other = screen ∧ ∃ notebook, screen.app.Represents notebook := by
  constructor
  rintro _ screen input after ⟨rfl, notebook, represents⟩ enabled performed
  have notLate : ∀ use, input = .app use → ¬screen.app.Late use :=
    fun use _ => represents.not_late use
  refine ⟨⟨enabled.1, notLate⟩, after, performed, rfl, ?_⟩
  cases input with
  | app input =>
      obtain ⟨app, appPerformed, rfl⟩ := perform_app_eq_ok.mp performed
      obtain ⟨_, next, _, stillRepresents⟩ :=
        MemoApp.notebook_simulates.step _ _ _ _ represents
          ⟨enabled.1, enabled.2 input rfl⟩ appPerformed
      refine ⟨next, ?_⟩
      unfold used
      split <;> exact stillRepresents
  | layOut index =>
      simp only [system, System.restrict, navigation, perform] at performed
      split at performed
      · contradiction
      · cases performed
        exact ⟨notebook, represents⟩

/-- Behind the navigation stack, every laid out cell shows the present title of
the memo at its row after every run. -/
theorem cells_up_to_date_of_navigation
    {realm : Realm}
    {inputs : List Input}
    {screen : TableViewController}
    (run : navigation.Run (bainding realm) inputs screen) :
    screen.CellsUpToDate := by
  obtain ⟨_, punctualRun, rfl, _⟩ :=
    punctual_simulates.run ⟨rfl, _, MemoApp.launch_represents realm⟩ run
  exact cells_up_to_date punctualRun

end TableViewController
end MVVMExample
