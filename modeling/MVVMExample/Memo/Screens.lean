import MVVMExample.Memo.Screen
import MVVMExample.Memo.Table
import MVVMExample.Transition.Translation

/-!
# The two memo screens

The list screen pushes a memo screen over itself. The screens share the store,
and the pushed one shares its view model with nobody; what the user types
reaches the view model only when the main queue announces it.

Seen through the announcements, the screens are the notebook: the list shows its
listing, the pushed screen shows its session, and what a save records is what is
on screen once the main queue is empty.
-/

namespace MVVMExample

open Storage Reactive Transition

/-- The list screen and the memo screen pushed over it, if there is one. -/
structure MemoScreens where
  list : TableViewController
  pushed : Option MemoViewController := none

namespace MemoScreens

/-- What the user and the system do. -/
inductive Input
  | addMemo
  | deleteMemo (index : Nat)
  | selectRow (index : Nat)
  | memo (input : MemoViewController.Input)
  | back
  | layOut (index : Nat)
  deriving DecidableEq

/-- The list screen when the app has started. -/
def launch (realm : Realm) : MemoScreens where
  list := .bainding realm

/-- The state of the pushed screen. The rest of the app refers to the same view
model and the same store. -/
def present (screens : MemoScreens) (screen : MemoViewController) :
    MemoScreens where
  list :=
    { screens.list with
        app :=
          { screens.list.app with
              realm := screen.realm
              details := screens.list.app.details.map fun detail =>
                { detail with viewModel := screen.viewModel } } }
  pushed := some screen

/-- Select a row: a memo screen is pushed, its view is loaded from the storyboard
and bound. -/
def selectRow (placeholder : String) (screens : MemoScreens) (index : Nat) :
    Except Crash MemoScreens :=
  match screens.list.perform (.app (.openMemo index)) with
  | .error crash => .error crash
  | .ok list =>
      match list.app.details.getLast? with
      | none => .ok { screens with list := list }
      | some detail =>
          .ok ({ screens with list := list }.present
            (MemoViewController.loaded detail.viewModel placeholder
              list.app.realm).binding)

/-- Perform one input. -/
def perform (placeholder : String) (screens : MemoScreens) :
    Input → Except Crash MemoScreens
  | .addMemo =>
      match screens.list.perform (.app .addMemo) with
      | .error crash => .error crash
      | .ok list => .ok { screens with list := list }
  | .deleteMemo index =>
      match screens.list.perform (.app (.deleteMemo index)) with
      | .error crash => .error crash
      | .ok list => .ok { screens with list := list }
  | .selectRow index => screens.selectRow placeholder index
  | .memo input =>
      match screens.pushed with
      | none => .ok screens
      | some screen => .ok (screens.present (screen.perform input))
  | .back =>
      match screens.list.perform (.app (.closeMemo 0)) with
      | .error crash => .error crash
      | .ok list => .ok { list := list, pushed := none }
  | .layOut index =>
      match screens.list.perform (.layOut index) with
      | .error crash => .error crash
      | .ok list => .ok { screens with list := list }

/-- The pushed screen covers the list, and is used only while it is there. -/
def CanPerform (screens : MemoScreens) : Input → Prop
  | .addMemo => screens.pushed.isNone
  | .deleteMemo index =>
      screens.pushed.isNone ∧
        screens.list.CanPerform (.app (.deleteMemo index))
  | .selectRow index =>
      screens.pushed.isNone ∧ screens.list.CanPerform (.app (.openMemo index))
  | .memo input =>
      match screens.pushed with
      | none => False
      | some screen => screen.CanPerform input
  | .back => screens.pushed.isSome
  | .layOut index => screens.list.CanPerform (.layOut index)

instance (screens : MemoScreens) (input : Input) :
    Decidable (screens.CanPerform input) :=
  match input with
  | .addMemo => inferInstanceAs (Decidable (_ = true))
  | .deleteMemo _ => inferInstanceAs (Decidable (_ ∧ _))
  | .selectRow _ => inferInstanceAs (Decidable (_ ∧ _))
  | .memo input =>
      match isPushed : screens.pushed with
      | none => .isFalse (by simp [CanPerform, isPushed])
      | some screen =>
          decidable_of_iff (screen.CanPerform input)
            (by simp [CanPerform, isPushed])
  | .back => inferInstanceAs (Decidable (_ = true))
  | .layOut index =>
      inferInstanceAs (Decidable (screens.list.CanPerform (.layOut index)))

/-- The screens as a system. -/
def system (placeholder : String) : System MemoScreens Input Crash where
  Enabled := CanPerform
  step := perform placeholder

instance (placeholder : String) (screens : MemoScreens) (input : Input) :
    Decidable ((system placeholder).Enabled screens input) :=
  inferInstanceAs (Decidable (screens.CanPerform input))

/-! ## What the screens mean for the list -/

/-- The uses of the list screen and of the view models that an input amounts
to. An edit means nothing before it is announced. -/
def translate (screens : MemoScreens) : Input → List TableViewController.Input
  | .addMemo => [.app .addMemo]
  | .deleteMemo index => [.app (.deleteMemo index)]
  | .selectRow index => [.app (.openMemo index)]
  | .memo (.edit _) => []
  | .memo .deliver =>
      match screens.pushed with
      | none => []
      | some screen => [.app (.editText 0 (some screen.memoText.text))]
  | .memo .tapSave => [.app (.tapSave 0)]
  | .back => [.app (.closeMemo 0)]
  | .layOut index => [.layOut index]

/-- A pushed screen is bound to the detail and the store of the app, and shows
the title of the detail. -/
structure BoundTo (screen : MemoViewController) (app : MemoApp) : Prop where
  realm : screen.realm = app.realm
  label : screen.label = screen.viewModel.memoTitle.value
  synchronized : ∃ announced,
    screen.Synchronized ⟨screen.memoText.text, announced⟩
  detail : ∃ detail,
    app.details = [detail] ∧ detail.viewModel = screen.viewModel

/-- A screen is pushed exactly while a detail is open, and bound to it. -/
def Pushed (pushed : Option MemoViewController) (app : MemoApp) : Prop :=
  match pushed with
  | none => app.details = []
  | some screen => BoundTo screen app

/-- The list screen is the one of the system of both, its app represents a
notebook, and the pushed screen is bound to its detail. -/
structure Covers (screens : MemoScreens) (list : TableViewController) : Prop where
  same : screens.list = list
  bound : list.Bound
  represents : ∃ notebook, list.app.Represents notebook
  pushed : Pushed screens.pushed list.app

theorem launch_covers (realm : Realm) :
    Covers (launch realm) (.bainding realm) where
  same := rfl
  bound := TableViewController.bainding_bound realm
  represents := ⟨_, MemoApp.launch_represents realm⟩
  pushed := rfl

theorem used_app
    (list : TableViewController)
    (input : MemoApp.Input)
    (app : MemoApp) :
    (list.used input app).app = app := by
  unfold TableViewController.used
  split <;> rfl

/-- The list screen uses the app as the navigation stack lets it. -/
theorem enabled_app
    {list : TableViewController}
    (input : MemoApp.Input)
    (enabled : list.app.CanPerform input)
    (onScreen : list.app.OnScreen input) :
    TableViewController.navigation.Enabled list (.app input) := by
  refine ⟨enabled, ?_⟩
  intro use isUse
  cases isUse
  exact onScreen

/-- Steps of the list screen keep what the screens rest on. -/
theorem keeps_of_navigation
    {list after : TableViewController}
    {input : TableViewController.Input}
    (bound : list.Bound)
    (represents : ∃ notebook, list.app.Represents notebook)
    (enabled : TableViewController.navigation.Enabled list input)
    (performed : list.perform input = .ok after) :
    after.Bound ∧ ∃ notebook, after.app.Represents notebook := by
  obtain ⟨_, _, _, rfl, stillRepresents⟩ :=
    TableViewController.punctual_simulates.step list list input after
      ⟨rfl, represents⟩ enabled performed
  exact ⟨bound.step enabled.1 performed, stillRepresents⟩

/-- A step of the list screen is a run of one step. -/
theorem Covers.of_list_step
    {screens next : MemoScreens}
    {list after : TableViewController}
    {input : TableViewController.Input}
    (covers : Covers screens list)
    (enabled : TableViewController.navigation.Enabled list input)
    (performed : list.perform input = .ok after)
    (isNext : next.list = after)
    (pushed : Pushed next.pushed after.app) :
    ∃ last,
      TableViewController.navigation.Run list [input] last ∧
        Covers next last := by
  obtain ⟨bound, represents⟩ := keeps_of_navigation covers.bound
    covers.represents enabled performed
  exact ⟨after, .single enabled performed, isNext, bound, represents, pushed⟩

/-- What a bound screen does to its view model and to the store is done to the
app. -/
theorem BoundTo.present
    {screens : MemoScreens}
    {app : MemoApp}
    {screen : MemoViewController}
    {detail : Detail}
    (bound : BoundTo screen app)
    (isApp : screens.list.app = app)
    (oneDetail : app.details = [detail])
    (screenAfter : MemoViewController)
    (sameLabel : screenAfter.label = screen.label)
    (sameTitle :
      screenAfter.viewModel.memoTitle = screen.viewModel.memoTitle)
    (synchronized : ∃ announced,
      screenAfter.Synchronized ⟨screenAfter.memoText.text, announced⟩) :
    (screens.present screenAfter).list =
        { screens.list with
            app :=
              { app with
                  realm := screenAfter.realm
                  details :=
                    [{ detail with viewModel := screenAfter.viewModel }] } } ∧
      BoundTo screenAfter (screens.present screenAfter).list.app := by
  have sameList : (screens.present screenAfter).list =
      { screens.list with
          app :=
            { app with
                realm := screenAfter.realm
                details :=
                  [{ detail with viewModel := screenAfter.viewModel }] } } := by
    simp only [MemoScreens.present, isApp, oneDetail, List.map_cons,
      List.map_nil]
  refine ⟨sameList, ?_⟩
  rw [sameList]
  exact
    { realm := rfl
      label := by rw [sameLabel, bound.label, sameTitle]
      synchronized := synchronized
      detail := ⟨_, rfl, rfl⟩ }

/-- A use of the list while nothing is pushed. -/
theorem Covers.use_list
    {screens : MemoScreens}
    {list after : TableViewController}
    {input : MemoApp.Input}
    (covers : Covers screens list)
    (uncovered : screens.pushed = none)
    (enabled : list.app.CanPerform input)
    (onScreen : list.app.OnScreen input)
    (performed : list.perform (.app input) = .ok after)
    (noDetails : after.app.details = []) :
    ∃ last,
      TableViewController.navigation.Run list [.app input] last ∧
        Covers { screens with list := after } last := by
  apply covers.of_list_step (enabled_app input enabled onScreen) performed rfl
  simp only [Pushed, uncovered]
  exact noDetails

theorem Covers.no_details
    {screens : MemoScreens}
    {list : TableViewController}
    (covers : Covers screens list)
    (uncovered : screens.pushed = none) :
    list.app.details = [] := by
  have noDetails := covers.pushed
  rw [uncovered] at noDetails
  exact noDetails

theorem Covers.boundTo
    {screens : MemoScreens}
    {list : TableViewController}
    {screen : MemoViewController}
    (covers : Covers screens list)
    (isPushed : screens.pushed = some screen) :
    BoundTo screen list.app := by
  have pushed := covers.pushed
  rw [isPushed] at pushed
  exact pushed

theorem Covers.addMemo
    (placeholder : String)
    {screens next : MemoScreens}
    {list : TableViewController}
    (covers : Covers screens list)
    (uncovered : screens.pushed = none)
    (performed : screens.perform placeholder .addMemo = .ok next) :
    ∃ last,
      TableViewController.navigation.Run list [.app .addMemo] last ∧
        Covers next last := by
  obtain rfl := covers.same
  have noDetails := covers.no_details uncovered
  simp only [perform] at performed
  split at performed
  · contradiction
  · rename_i after listPerformed
    cases performed
    refine covers.use_list uncovered trivial noDetails listPerformed ?_
    obtain ⟨app, appPerformed, rfl⟩ :=
      TableViewController.perform_app_eq_ok.mp listPerformed
    obtain ⟨id, issued, rfl⟩ := MemoApp.perform_addMemo_eq_ok.mp appPerformed
    rw [used_app]
    exact noDetails

theorem Covers.deleteMemo
    (placeholder : String)
    {screens next : MemoScreens}
    {list : TableViewController}
    {index : Nat}
    (covers : Covers screens list)
    (uncovered : screens.pushed = none)
    (inRange : index < list.app.table.memoList.value.length)
    (performed : screens.perform placeholder (.deleteMemo index) = .ok next) :
    ∃ last,
      TableViewController.navigation.Run list [.app (.deleteMemo index)] last ∧
        Covers next last := by
  obtain rfl := covers.same
  have noDetails := covers.no_details uncovered
  simp only [perform] at performed
  split at performed
  · contradiction
  · rename_i after listPerformed
    cases performed
    refine covers.use_list uncovered inRange noDetails listPerformed ?_
    obtain ⟨app, appPerformed, rfl⟩ :=
      TableViewController.perform_app_eq_ok.mp listPerformed
    obtain ⟨row, stored, listed⟩ :=
      MemoApp.exists_listed_row covers.bound.coherent inRange
    rw [MemoApp.perform_deleteMemo stored listed] at appPerformed
    cases appPerformed
    rw [used_app]
    exact noDetails

theorem Covers.selectRow
    (placeholder : String)
    {screens next : MemoScreens}
    {list : TableViewController}
    {index : Nat}
    (covers : Covers screens list)
    (uncovered : screens.pushed = none)
    (inRange : index < list.app.table.memoList.value.length)
    (performed : screens.selectRow placeholder index = .ok next) :
    ∃ last,
      TableViewController.navigation.Run list [.app (.openMemo index)] last ∧
        Covers next last := by
  obtain rfl := covers.same
  have noDetails := covers.no_details uncovered
  obtain ⟨row, stored, listed⟩ :=
    MemoApp.exists_listed_row covers.bound.coherent inRange
  have opened := MemoApp.perform_openMemo stored listed
  rw [noDetails, List.nil_append] at opened
  have listPerformed :=
    TableViewController.perform_app_eq_ok.mpr ⟨_, opened, rfl⟩
  have hasText : (MemoViewModel.init (Memo.ofRow row)).memoText.value =
      some row.value.memoText := rfl
  have isBound := MemoViewController.binding_loaded hasText placeholder
    screens.list.app.realm
  have synchronized := MemoViewController.Synchronized.binding hasText
    placeholder screens.list.app.realm
  simp only [MemoScreens.selectRow, listPerformed, used_app,
    List.getLast?_singleton] at performed
  cases performed
  rw [isBound] at synchronized ⊢
  apply covers.of_list_step (enabled_app (.openMemo index) inRange noDetails) listPerformed
  · rfl
  · exact
      { realm := rfl
        label := rfl
        synchronized := ⟨_, synchronized⟩
        detail := ⟨_, rfl, rfl⟩ }

theorem Covers.edit
    {screens : MemoScreens}
    {list : TableViewController}
    {screen : MemoViewController}
    (covers : Covers screens list)
    (isPushed : screens.pushed = some screen)
    (text : String) :
    Covers (screens.present (screen.edit text)) list := by
  obtain rfl := covers.same
  have boundTo := covers.boundTo isPushed
  obtain ⟨detail, oneDetail, isDetail⟩ := boundTo.detail
  obtain ⟨announced, synchronized⟩ := boundTo.synchronized
  have edited :=
    MemoViewController.edit_of_observed synchronized.observed text
  have stillSynchronized :
      (screen.perform (.edit text)).Synchronized ⟨text, announced⟩ :=
    synchronized.step trivial
  simp only [MemoViewController.perform, edited] at stillSynchronized
  rw [edited]
  obtain ⟨sameList, stillBound⟩ := boundTo.present rfl oneDetail
    { screen with
        memoText.text := text
        mainQueue := screen.mainQueue ++ [.announceText] }
    rfl rfl ⟨announced, stillSynchronized⟩
  have unchanged : (screens.present
      { screen with
          memoText.text := text
          mainQueue := screen.mainQueue ++ [.announceText] }).list =
      screens.list := by
    rw [sameList, boundTo.realm, ← isDetail, ← oneDetail]
  refine ⟨unchanged, covers.bound, covers.represents, ?_⟩
  rw [unchanged] at stillBound
  exact stillBound

theorem Covers.deliver
    {screens : MemoScreens}
    {list : TableViewController}
    {screen : MemoViewController}
    (covers : Covers screens list)
    (isPushed : screens.pushed = some screen)
    (enabled : screen.CanPerform .deliver) :
    ∃ last,
      TableViewController.navigation.Run list
          [.app (.editText 0 (some screen.memoText.text))] last ∧
        Covers (screens.present screen.deliver) last := by
  obtain rfl := covers.same
  have boundTo := covers.boundTo isPushed
  obtain ⟨detail, oneDetail, isDetail⟩ := boundTo.detail
  obtain ⟨announced, synchronized⟩ := boundTo.synchronized
  obtain ⟨block, blocks, queued⟩ := List.exists_cons_of_ne_nil enabled
  cases block with
  | announceText =>
      have delivered :=
        MemoViewController.deliver_of_bound synchronized.bound queued
      have stillSynchronized :
          (screen.perform .deliver).Synchronized
            ⟨screen.memoText.text, screen.memoText.text⟩ :=
        synchronized.step enabled
      simp only [MemoViewController.perform, delivered] at stillSynchronized
      rw [delivered]
      obtain ⟨sameList, stillBound⟩ := boundTo.present rfl oneDetail
        { screen with
            viewModel.memoText := ⟨some screen.memoText.text⟩
            mainQueue := blocks }
        rfl rfl ⟨_, stillSynchronized⟩
      have edited : screens.list.perform
          (.app (.editText 0 (some screen.memoText.text))) =
          .ok (screens.present
            { screen with
                viewModel.memoText := ⟨some screen.memoText.text⟩
                mainQueue := blocks }).list := by
        rw [sameList, boundTo.realm, ← isDetail]
        simp only [TableViewController.perform, MemoApp.perform,
          TableViewController.used, TableViewController.setsMemoList,
          MemoApp.editText, oneDetail]
        rfl
      apply covers.of_list_step (enabled_app
        (.editText 0 (some screen.memoText.text)) ?_ trivial) edited rfl stillBound
      simp [MemoApp.CanPerform, oneDetail]

theorem Covers.tapSave
    {screens : MemoScreens}
    {list : TableViewController}
    {screen : MemoViewController}
    (covers : Covers screens list)
    (isPushed : screens.pushed = some screen) :
    ∃ last,
      TableViewController.navigation.Run list [.app (.tapSave 0)] last ∧
        Covers (screens.present screen.tapSave) last := by
  obtain rfl := covers.same
  have boundTo := covers.boundTo isPushed
  obtain ⟨detail, oneDetail, isDetail⟩ := boundTo.detail
  obtain ⟨announced, synchronized⟩ := boundTo.synchronized
  have tapped := MemoViewController.tapSave_of_bound synchronized.bound
  have stillSynchronized :
      (screen.perform .tapSave).Synchronized
        ⟨screen.memoText.text, announced⟩ :=
    synchronized.step trivial
  simp only [MemoViewController.perform, tapped] at stillSynchronized
  rw [tapped]
  obtain ⟨sameList, stillBound⟩ := boundTo.present rfl oneDetail
    { screen with
        viewModel := (screen.viewModel.tap screen.realm).1
        realm := (screen.viewModel.tap screen.realm).2 }
    rfl rfl ⟨announced, stillSynchronized⟩
  have saved : screens.list.perform (.app (.tapSave 0)) =
      .ok (screens.present
        { screen with
            viewModel := (screen.viewModel.tap screen.realm).1
            realm := (screen.viewModel.tap screen.realm).2 }).list := by
    rw [sameList, boundTo.realm, ← isDetail]
    simp only [TableViewController.perform, MemoApp.perform,
      TableViewController.used, TableViewController.setsMemoList,
      MemoApp.tapSave, oneDetail]
    rfl
  apply covers.of_list_step (enabled_app (.tapSave 0) ?_ trivial) saved rfl stillBound
  simp [MemoApp.CanPerform, oneDetail]

theorem Covers.back
    (placeholder : String)
    {screens next : MemoScreens}
    {list : TableViewController}
    {screen : MemoViewController}
    (covers : Covers screens list)
    (isPushed : screens.pushed = some screen)
    (performed : screens.perform placeholder .back = .ok next) :
    ∃ last,
      TableViewController.navigation.Run list [.app (.closeMemo 0)] last ∧
        Covers next last := by
  obtain rfl := covers.same
  have boundTo := covers.boundTo isPushed
  obtain ⟨detail, oneDetail, -⟩ := boundTo.detail
  simp only [perform] at performed
  split at performed
  · contradiction
  · rename_i after listPerformed
    cases performed
    have enabled : screens.list.app.CanPerform (.closeMemo 0) := by
      simp [MemoApp.CanPerform, oneDetail]
    apply covers.of_list_step (enabled_app _ enabled trivial) listPerformed rfl
    obtain ⟨app, appPerformed, rfl⟩ :=
      TableViewController.perform_app_eq_ok.mp listPerformed
    cases appPerformed
    simp [Pushed, used_app, oneDetail]

theorem Covers.layOut
    (placeholder : String)
    {screens next : MemoScreens}
    {list : TableViewController}
    {index : Nat}
    (covers : Covers screens list)
    (inRange : list.CanPerform (.layOut index))
    (performed : screens.perform placeholder (.layOut index) = .ok next) :
    ∃ last,
      TableViewController.navigation.Run list [.layOut index] last ∧
        Covers next last := by
  obtain rfl := covers.same
  obtain ⟨row, _, _, laidOut⟩ := covers.bound.layOut inRange
  simp only [perform, laidOut] at performed
  cases performed
  have enabled :
      TableViewController.navigation.Enabled screens.list (.layOut index) :=
    ⟨inRange, fun use isUse => by cases isUse⟩
  exact covers.of_list_step enabled laidOut rfl covers.pushed

/-- The step lemma: the list screen follows every step of the screens. -/
theorem list_follows (placeholder : String) :
    System.Translation (system placeholder) TableViewController.navigation
      translate Covers where
  step := by
    intro screens list input next covers enabled performed
    cases input with
    | addMemo =>
        have uncovered := Option.isNone_iff_eq_none.mp enabled
        exact covers.addMemo placeholder uncovered performed
    | deleteMemo index =>
        have inRange := enabled.2
        rw [covers.same] at inRange
        exact covers.deleteMemo placeholder
          (Option.isNone_iff_eq_none.mp enabled.1) inRange performed
    | selectRow index =>
        have inRange := enabled.2
        rw [covers.same] at inRange
        exact covers.selectRow placeholder
          (Option.isNone_iff_eq_none.mp enabled.1) inRange performed
    | memo input =>
        cases isPushed : screens.pushed with
        | none => simp [system, CanPerform, isPushed] at enabled
        | some screen =>
            simp only [system, CanPerform, isPushed] at enabled
            simp only [system, perform, isPushed] at performed
            cases performed
            cases input with
            | edit text => exact ⟨list, .nil, covers.edit isPushed text⟩
            | deliver =>
                simp only [translate, isPushed]
                exact covers.deliver isPushed enabled
            | tapSave => exact covers.tapSave isPushed
    | back =>
        obtain ⟨screen, isPushed⟩ := Option.isSome_iff_exists.mp enabled
        exact covers.back placeholder isPushed performed
    | layOut index =>
        have inRange := enabled
        simp only [system, CanPerform, covers.same] at inRange
        exact covers.layOut placeholder inRange performed

/-! ## The screens and the notebook -/

/-- The use of the app that an input of the list screen is. -/
def use : TableViewController.Input → List MemoApp.Input
  | .app input => [input]
  | .layOut _ => []

/-- The uses of the notebook along a list of inputs. -/
def uses
    (placeholder : String)
    (realm : Realm)
    (inputs : List Input) : List MemoApp.Input :=
  ((system placeholder).translated translate (launch realm) inputs).flatMap use

/-- The list screen uses the app. -/
theorem app_of_list_run
    {realm : Realm}
    {inputs : List TableViewController.Input}
    {list : TableViewController}
    (run : TableViewController.navigation.Run (.bainding realm) inputs list) :
    MemoApp.navigation.Run (.launch realm) (inputs.flatMap use) list.app := by
  induction run with
  | nil => exact .nil
  | @snoc inputs before after input run enabled performed inductionHypothesis =>
      rw [List.flatMap_append, List.flatMap_singleton]
      cases input with
      | app input =>
          obtain ⟨app, appPerformed, rfl⟩ :=
            TableViewController.perform_app_eq_ok.mp performed
          rw [used_app]
          exact .snoc inductionHypothesis
            ⟨enabled.1, enabled.2 input rfl⟩ appPerformed
      | layOut index =>
          have sameApp : after.app = before.app := by
            simp only [TableViewController.navigation, System.restrict,
              TableViewController.system, TableViewController.perform]
              at performed
            split at performed
            · contradiction
            · cases performed
              rfl
          rw [sameApp, use, List.append_nil]
          exact inductionHypothesis

/-- The pushed screen shows the open session: its title, and its text once the
main queue is empty. -/
def ShowsSession : Option MemoViewController → Option Session → Prop
  | none, none => True
  | some screen, some session =>
      screen.label = some session.title ∧
        (screen.mainQueue = [] →
          session.text = some screen.memoText.text)
  | _, _ => False

/-- What is on the screens is what is in the notebook. -/
structure Reflects (screens : MemoScreens) (notebook : Notebook) : Prop where
  memos : screens.list.app.realm.toFinmap = notebook.memos
  rows :
    screens.list.dataSource.itemModels.map screens.list.app.realm.value =
      notebook.listing.map .ok
  cells : ∀ (index : Nat) (title : String),
    screens.list.cells[index]? = some (some title) →
      ∃ memo, notebook.listing[index]? = some memo ∧ memo.memoTitle = title
  session : ShowsSession screens.pushed notebook.session

/-- The pushed screen shows what the detail of the app shows. -/
theorem Covers.showsSession
    {screens : MemoScreens}
    {list : TableViewController}
    {notebook : Notebook}
    (covers : Covers screens list)
    (represents : list.app.Represents notebook) :
    ShowsSession screens.pushed notebook.session := by
  cases isPushed : screens.pushed with
  | none =>
      rw [represents.session_eq_none (covers.no_details isPushed)]
      trivial
  | some screen =>
      have boundTo := covers.boundTo isPushed
      obtain ⟨detail, oneDetail, isDetail⟩ := boundTo.detail
      obtain ⟨announced, synchronized⟩ := boundTo.synchronized
      rcases represents.session_cases with
        ⟨noDetails, _⟩ | ⟨other, session, isOther, isSession, shows⟩
      · simp [oneDetail] at noDetails
      · obtain rfl : detail = other := by
          simpa using oneDetail.symm.trans isOther
        rw [isSession]
        constructor
        · rw [boundTo.label, ← isDetail, shows.title]
        · intro settled
          rw [← shows.text, isDetail, synchronized.announced,
            synchronized.settled settled]

/-- Every cell that has been laid out shows a title of the listing. -/
theorem cells_of_rows
    {screens : MemoScreens}
    {notebook : Notebook}
    (upToDate : screens.list.CellsUpToDate)
    (rows : screens.list.dataSource.itemModels.map
      screens.list.app.realm.value = notebook.listing.map .ok)
    {index : Nat}
    {title : String}
    (laidOut : screens.list.cells[index]? = some (some title)) :
    ∃ memo, notebook.listing[index]? = some memo ∧ memo.memoTitle = title := by
  obtain ⟨row, stored, isItem, isTitle⟩ := upToDate index title laidOut
  have atIndex := congrArg (fun values => values[index]?) rows
  simp only [List.getElem?_map, isItem, Option.map_some,
    Realm.value_ofRow stored] at atIndex
  obtain ⟨memo, isMemo, same⟩ := Option.map_eq_some_iff.mp atIndex.symm
  cases same
  exact ⟨_, isMemo, isTitle⟩

/-- An input that keeps the ids within `Int.max` does not fault. -/
theorem exists_perform
    {placeholder : String}
    {screens : MemoScreens}
    {realm : Realm}
    {used : List MemoApp.Input}
    {input : Input}
    (bound : screens.list.Bound)
    (within : screens.list.app.IdsWithin (MemoApp.idBound realm used))
    (enabled : screens.CanPerform input)
    (room : MemoApp.idBound realm
      (used ++ (translate screens input).flatMap use) ≤ SwiftInt.max.val) :
    ∃ after, screens.perform placeholder input = .ok after := by
  have app : ∀ input : MemoApp.Input,
      screens.list.app.CanPerform input →
        MemoApp.idBound realm (used ++ [input]) ≤ SwiftInt.max.val →
          ∃ list, screens.list.perform (.app input) = .ok list := by
    intro input possible room
    obtain ⟨after, performed⟩ :=
      MemoApp.exists_perform bound.coherent within possible room
    exact ⟨_, TableViewController.perform_app_eq_ok.mpr
      ⟨after, performed, rfl⟩⟩
  cases input with
  | addMemo =>
      obtain ⟨list, performed⟩ := app .addMemo trivial room
      simp only [perform, performed]
      exact ⟨_, rfl⟩
  | deleteMemo index =>
      obtain ⟨list, performed⟩ := app (.deleteMemo index) enabled.2 room
      simp only [perform, performed]
      exact ⟨_, rfl⟩
  | selectRow index =>
      obtain ⟨list, performed⟩ := app (.openMemo index) enabled.2 room
      simp only [perform, selectRow, performed]
      cases list.app.details.getLast? <;> exact ⟨_, rfl⟩
  | memo input =>
      simp only [perform]
      cases screens.pushed <;> exact ⟨_, rfl⟩
  | back => exact ⟨_, rfl⟩
  | layOut index =>
      obtain ⟨row, _, _, laidOut⟩ := bound.layOut enabled
      simp only [perform, laidOut]
      exact ⟨_, rfl⟩

/-- Every run of the screens is a run of the notebook, in which each announced
edit replaces the text of the session by the text that is shown. In the states
they reach, the list and its cells show the listing of the notebook, the pushed
screen shows the open session, and no input faults while the ids stay within
`Int.max`. -/
theorem screens_reflect_notebook
    {placeholder : String}
    {realm : Realm}
    {inputs : List Input}
    {screens : MemoScreens}
    (run : (system placeholder).Run (launch realm) inputs screens) :
    ∃ notebook,
      Notebook.system.Run (Notebook.new realm.toFinmap)
          (uses placeholder realm inputs) notebook ∧
        screens.Reflects notebook ∧
        ∀ input, screens.CanPerform input →
          MemoApp.idBound realm (uses placeholder realm (inputs ++ [input])) ≤
              SwiftInt.max.val →
            ∃ after, screens.perform placeholder input = .ok after := by
  obtain ⟨list, listRun, covers⟩ :=
    (list_follows placeholder).run (launch_covers realm) run
  have appRun := app_of_list_run listRun
  obtain ⟨notebook, notebookRun, represents⟩ :=
    MemoApp.notebook_simulates.run (MemoApp.launch_represents realm) appRun
  have within := MemoApp.IdsWithin.of_run (System.Run.of_restrict appRun)
  have upToDate := TableViewController.cells_up_to_date_of_navigation listRun
  have showsSession := covers.showsSession represents
  obtain rfl := covers.same
  have rows : screens.list.dataSource.itemModels.map
      screens.list.app.realm.value = notebook.listing.map .ok := by
    rw [covers.bound.items]
    exact represents.displayed_eq
  refine ⟨notebook, notebookRun, ?_, ?_⟩
  · exact
      { memos := represents.memos
        rows := rows
        cells := fun _ _ laidOut => cells_of_rows upToDate rows laidOut
        session := showsSession }
  · intro input enabled room
    rw [uses, run.translated_snoc, List.flatMap_append] at room
    exact exists_perform covers.bound within enabled room

/-- A memo is added, its text edited, announced and saved; back on the list, its
cell shows its title. -/
theorem screens_reflect_notebook_saved :
    ∃ screens notebook,
      (system "placeholder").Run (launch .empty)
          [.addMemo, .selectRow 0, .memo (.edit "a"), .memo .deliver,
            .memo .tapSave, .memo (.edit "b"), .back, .layOut 0] screens ∧
        Notebook.system.Run (Notebook.new (KeyedTable.toFinmap .empty))
          [.addMemo, .openMemo 0, .editText 0 (some "a"), .tapSave 0,
            .closeMemo 0] notebook ∧
        screens.list.app.realm.rows = [⟨0, 1, ⟨"title 1", "a"⟩⟩] ∧
        screens.list.cells = [some "title 1"] ∧
        screens.Reflects notebook := by
  have run : (system "placeholder").Run (launch .empty)
      [.addMemo, .selectRow 0, .memo (.edit "a"), .memo .deliver,
        .memo .tapSave, .memo (.edit "b"), .back, .layOut 0] _ :=
    System.run_of_replay rfl
  obtain ⟨notebook, notebookRun, reflects, -⟩ := screens_reflect_notebook run
  exact ⟨_, notebook, run, notebookRun, rfl, rfl, reflects⟩

end MemoScreens
end MVVMExample
