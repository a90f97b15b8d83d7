import MVVMExample.Memo.Adding
import MVVMExample.Memo.LateSave
import MVVMExample.Memo.Notebook

/-!
# The app behind its navigation stack refines the notebook

The navigation stack covers the list while a detail screen is open, so a memo
cannot be deleted under its own detail and no save is late. The cached list is
then always what a reload would show, although a save does not reload it, and
the store with the open detail is a notebook with its session.
-/

namespace MVVMExample
namespace MemoApp

open Storage Reactive Transition

/-- The list is on screen only while no detail is open. -/
def OnScreen (app : MemoApp) : Input → Prop
  | .addMemo => app.details = []
  | .deleteMemo _ => app.details = []
  | .openMemo _ => app.details = []
  | .editText _ _ => True
  | .tapSave _ => True
  | .closeMemo _ => True

instance (app : MemoApp) (input : Input) : Decidable (app.OnScreen input) :=
  match input with
  | .addMemo => inferInstanceAs (Decidable (app.details = []))
  | .deleteMemo _ => inferInstanceAs (Decidable (app.details = []))
  | .openMemo _ => inferInstanceAs (Decidable (app.details = []))
  | .editText _ _ => inferInstanceAs (Decidable True)
  | .tapSave _ => inferInstanceAs (Decidable True)
  | .closeMemo _ => inferInstanceAs (Decidable True)

/-- The app as its navigation stack lets it be used. -/
def navigation : System MemoApp Input Crash :=
  system.restrict OnScreen

instance (app : MemoApp) (input : Input) :
    Decidable (navigation.Enabled app input) :=
  inferInstanceAs (Decidable ((system.restrict OnScreen).Enabled app input))

/-- A detail shows a session. -/
structure Shows (detail : Detail) (session : Session) : Prop where
  id : detail.viewModel.id.value = some session.id
  title : detail.viewModel.memoTitle.value = some session.title
  text : detail.viewModel.memoText.value = session.text

/-- The open details are the open session. -/
def ShowsSession : List Detail → Option Session → Prop
  | [], none => True
  | [detail], some session => Shows detail session
  | _, _ => False

/-- An app represents a notebook. -/
structure Represents (app : MemoApp) (notebook : Notebook) : Prop where
  coherent : app.Coherent
  memos : app.realm.toFinmap = notebook.memos
  upToDate : app.UpToDate
  session : ShowsSession app.details notebook.session
  live : ∀ detail ∈ app.details, app.realm.Valid detail.openedOn

namespace Represents

variable {app : MemoApp} {notebook : Notebook}

/-- Either nothing is open on both sides, or one detail shows one session. -/
theorem session_cases (represents : app.Represents notebook) :
    (app.details = [] ∧ notebook.session = none) ∨
      ∃ detail session,
        app.details = [detail] ∧ notebook.session = some session ∧
          Shows detail session := by
  have shown := represents.session
  unfold ShowsSession at shown
  split at shown
  · rename_i noDetails noSession
    exact Or.inl ⟨noDetails, noSession⟩
  · rename_i detail session oneDetail oneSession
    exact Or.inr ⟨detail, session, oneDetail, oneSession, shown⟩
  · exact shown.elim

theorem session_eq_none
    (represents : app.Represents notebook)
    (noDetails : app.details = []) :
    notebook.session = none := by
  rcases represents.session_cases with ⟨_, noSession⟩ | ⟨_, _, oneDetail, _⟩
  · exact noSession
  · simp [noDetails] at oneDetail

/-- A detail index names the one detail, which shows the open session. -/
theorem session_of_index
    (represents : app.Represents notebook)
    {index : Nat}
    (inRange : index < app.details.length) :
    ∃ detail session,
      index = 0 ∧ app.details = [detail] ∧
        notebook.session = some session ∧ Shows detail session := by
  rcases represents.session_cases with
    ⟨noDetails, _⟩ | ⟨detail, session, oneDetail, oneSession, shows⟩
  · simp [noDetails] at inRange
  · have : index = 0 := by simpa [oneDetail] using inRange
    exact ⟨detail, session, this, oneDetail, oneSession, shows⟩

theorem ids_eq (represents : app.Represents notebook) :
    notebook.ids = app.realm.sorted.map Row.key := by
  rw [Notebook.ids, ← represents.memos, KeyedTable.map_key_sorted]

/-- Both sides issue the same id. -/
theorem freshId_eq (represents : app.Represents notebook) :
    notebook.freshId = MemoDao.newId app.realm := by
  unfold Notebook.freshId
  rw [represents.ids_eq, List.getLast?_map]
  cases last : app.realm.sorted.getLast? with
  | none =>
      exact (MemoDao.newId_of_empty
        (KeyedTable.getLast?_sorted_eq_none.mp last)).symm
  | some row => exact (MemoDao.newId_of_last last).symm

/-- The notebook lists the rows of the store. -/
theorem listing_eq (represents : app.Represents notebook) :
    notebook.listing = app.realm.sorted.map Memo.ofRow := by
  rw [Notebook.listing, represents.ids_eq, List.filterMap_map,
    ← List.filterMap_eq_map]
  refine List.filterMap_congr fun row listed => ?_
  have held : notebook.memos.lookup row.key = some row.value :=
    represents.memos ▸
      KeyedTable.lookup_toFinmap_of_stored (KeyedTable.mem_sorted.mp listed)
  simp only [Function.comp_apply, held]
  rfl

/-- Read through its references, the cached list is the listing of the
notebook. -/
theorem displayed_eq (represents : app.Represents notebook) :
    app.table.memoList.value.map app.realm.value =
      notebook.listing.map .ok := by
  rw [show app.table.memoList.value = _ from represents.upToDate,
    represents.listing_eq, Realm.objects, List.map_map, List.map_map]
  exact List.map_congr_left fun row listed =>
    Realm.value_ofRow (KeyedTable.mem_sorted.mp listed)

theorem length_memoList (represents : app.Represents notebook) :
    app.table.memoList.value.length = notebook.ids.length := by
  rw [show app.table.memoList.value = _ from represents.upToDate,
    represents.ids_eq, Realm.objects, List.length_map, List.length_map]

/-- A list index names one stored row on both sides. -/
theorem exists_row
    (represents : app.Represents notebook)
    {index : Nat}
    (inRange : index < app.table.memoList.value.length) :
    ∃ row ∈ app.realm.rows,
      app.table.memoList.value[index]? = some (MemoObject.ofRow row) ∧
        notebook.ids[index]? = some row.key := by
  have sameList : app.table.memoList.value = Realm.objects app.realm :=
    represents.upToDate
  rw [sameList, Realm.objects, List.length_map] at inRange
  refine ⟨app.realm.sorted[index],
    KeyedTable.mem_sorted.mp (List.getElem_mem inRange), ?_, ?_⟩
  · rw [sameList, Realm.objects, List.getElem?_map,
      List.getElem?_eq_getElem inRange]
    rfl
  · rw [represents.ids_eq, List.getElem?_map,
      List.getElem?_eq_getElem inRange]
    rfl

/-- No save is late: the memo of the open detail is stored. -/
theorem not_late
    (represents : app.Represents notebook)
    (input : Input) :
    ¬app.Late input := by
  cases input with
  | tapSave index =>
      rintro ⟨detail, alive, _, dead⟩
      exact dead (represents.live detail (List.mem_of_getElem? alive))
  | addMemo => exact id
  | deleteMemo index => exact id
  | openMemo index => exact id
  | editText index text => exact id
  | closeMemo index => exact id

/-- The notebook allows what the navigation stack allows. -/
theorem canPerform
    (represents : app.Represents notebook)
    {input : Input}
    (enabled : navigation.Enabled app input) :
    notebook.CanPerform input := by
  obtain ⟨possible, onScreen⟩ := enabled
  cases input with
  | addMemo => exact represents.session_eq_none onScreen
  | deleteMemo index =>
      exact ⟨represents.session_eq_none onScreen,
        represents.length_memoList ▸ possible⟩
  | openMemo index =>
      exact ⟨represents.session_eq_none onScreen,
        represents.length_memoList ▸ possible⟩
  | editText index text =>
      obtain ⟨_, _, isZero, _, isOpen, _⟩ := represents.session_of_index possible
      exact ⟨by simp [isOpen], isZero⟩
  | tapSave index =>
      obtain ⟨_, _, isZero, _, isOpen, _⟩ := represents.session_of_index possible
      exact ⟨by simp [isOpen], isZero⟩
  | closeMemo index =>
      obtain ⟨_, _, isZero, _, isOpen, _⟩ := represents.session_of_index possible
      exact ⟨by simp [isOpen], isZero⟩

/-- What the two sides must still agree on after a step. -/
structure Agrees (after : MemoApp) (next : Notebook) : Prop where
  memos : after.realm.toFinmap = next.memos
  session : ShowsSession after.details next.session
  live : ∀ detail ∈ after.details, after.realm.Valid detail.openedOn

theorem agrees_addMemo
    {after : MemoApp}
    (represents : app.Represents notebook)
    (onScreen : app.details = [])
    (performed : app.perform .addMemo = .ok after) :
    ∃ next, notebook.perform .addMemo = .ok next ∧ Agrees after next := by
  obtain ⟨id, issued, rfl⟩ := perform_addMemo_eq_ok.mp performed
  refine ⟨notebook.record (.put id (Notebook.blank id)), ?_, ?_⟩
  · simp only [Notebook.perform, represents.freshId_eq, issued]
  · constructor
    · rw [Notebook.memos_record, ← represents.memos]
      exact KeyedTable.toFinmap_upsert _ _ _
    · exact represents.session
    · simp [onScreen]

theorem agrees_deleteMemo
    {after : MemoApp}
    {index : Nat}
    (represents : app.Represents notebook)
    (inRange : index < app.table.memoList.value.length)
    (onScreen : app.details = [])
    (performed : app.perform (.deleteMemo index) = .ok after) :
    ∃ next, notebook.perform (.deleteMemo index) = .ok next ∧
      Agrees after next := by
  obtain ⟨row, stored, listed, isId⟩ := represents.exists_row inRange
  rw [perform_deleteMemo stored listed] at performed
  cases performed
  refine ⟨notebook.record (.erase row.key), ?_, ?_⟩
  · simp only [Notebook.perform, isId]
  · constructor
    · rw [Notebook.memos_record, ← represents.memos]
      exact KeyedTable.toFinmap_delete stored
    · exact represents.session
    · simp [onScreen]

theorem agrees_openMemo
    {after : MemoApp}
    {index : Nat}
    (represents : app.Represents notebook)
    (inRange : index < app.table.memoList.value.length)
    (onScreen : app.details = [])
    (performed : app.perform (.openMemo index) = .ok after) :
    ∃ next, notebook.perform (.openMemo index) = .ok next ∧
      Agrees after next := by
  obtain ⟨row, stored, listed, isId⟩ := represents.exists_row inRange
  rw [perform_openMemo stored listed] at performed
  cases performed
  refine ⟨notebook.openSession row.key, ?_, ?_⟩
  · simp only [Notebook.perform, isId]
  · have held : notebook.memos.lookup row.key = some row.value :=
      represents.memos ▸ KeyedTable.lookup_toFinmap_of_stored stored
    constructor
    · exact represents.memos
    · simp only [onScreen, List.nil_append, Notebook.openSession, held,
        Option.map_some]
      exact ⟨rfl, rfl, rfl⟩
    · intro detail alive
      rw [onScreen, List.nil_append, List.mem_singleton] at alive
      subst alive
      exact ⟨row, stored, rfl⟩

theorem agrees_editText
    {after : MemoApp}
    {index : Nat}
    {text : Option String}
    (represents : app.Represents notebook)
    (inRange : index < app.details.length)
    (performed : app.perform (.editText index text) = .ok after) :
    ∃ next, notebook.perform (.editText index text) = .ok next ∧
      Agrees after next := by
  obtain ⟨detail, session, rfl, oneDetail, oneSession, shows⟩ :=
    represents.session_of_index inRange
  have live := represents.live detail (by simp [oneDetail])
  cases performed
  refine ⟨_, rfl, ?_⟩
  have edited : (app.editText 0 text).details =
      [{ detail with viewModel.memoText := ⟨text⟩ }] := by
    simp [editText, oneDetail]
  constructor
  · exact represents.memos
  · rw [edited]
    simp only [oneSession, Option.map_some]
    exact ⟨shows.id, shows.title, rfl⟩
  · intro other alive
    rw [edited, List.mem_singleton] at alive
    subst alive
    exact live

/-- Saving the shown session is what both sides do. -/
theorem toFinmap_saved
    (represents : app.Represents notebook)
    {detail : Detail}
    {session : Session}
    (oneSession : notebook.session = some session)
    (shows : Shows detail session) :
    KeyedTable.toFinmap (detail.viewModel.saved app.realm) =
      notebook.save.memos := by
  obtain ⟨id, title, text⟩ := session
  unfold MemoViewModel.saved Notebook.save MemoViewModel.draft
  rw [shows.id, shows.title, shows.text, oneSession]
  cases text with
  | none => exact represents.memos
  | some text =>
      rw [Notebook.memos_record, ← represents.memos]
      exact KeyedTable.toFinmap_upsert _ _ _

theorem agrees_tapSave
    {after : MemoApp}
    {index : Nat}
    (represents : app.Represents notebook)
    (inRange : index < app.details.length)
    (performed : app.perform (.tapSave index) = .ok after) :
    ∃ next, notebook.perform (.tapSave index) = .ok next ∧
      Agrees after next := by
  obtain ⟨detail, session, rfl, oneDetail, oneSession, shows⟩ :=
    represents.session_of_index inRange
  have alive : app.details[0]? = some detail := by rw [oneDetail]; rfl
  have present : detail ∈ app.details := List.mem_of_getElem? alive
  obtain ⟨viewModel, tapped, _, sameId, sameTitle, sameText⟩ :=
    perform_tapSave alive (represents.coherent.tracked detail present)
  rw [tapped] at performed
  cases performed
  refine ⟨notebook.save, rfl, ?_⟩
  have sameSession : notebook.save.session = some session := by
    rw [← oneSession]
    unfold Notebook.save
    split <;> rfl
  constructor
  · exact represents.toFinmap_saved oneSession shows
  · rw [oneDetail, sameSession]
    exact ⟨sameId ▸ shows.id, sameTitle ▸ shows.title, sameText ▸ shows.text⟩
  · intro other inSet
    rw [oneDetail, List.set_cons_zero, List.mem_singleton] at inSet
    subst inSet
    exact valid_saved (represents.live detail present) _

theorem agrees_closeMemo
    {after : MemoApp}
    {index : Nat}
    (represents : app.Represents notebook)
    (inRange : index < app.details.length)
    (performed : app.perform (.closeMemo index) = .ok after) :
    ∃ next, notebook.perform (.closeMemo index) = .ok next ∧
      Agrees after next := by
  obtain ⟨detail, session, rfl, oneDetail, _⟩ :=
    represents.session_of_index inRange
  cases performed
  refine ⟨_, rfl, ?_⟩
  constructor
  · exact represents.memos
  · rw [oneDetail]
    trivial
  · simp [oneDetail]

end Represents

/-- The step lemma: the notebook follows every step of the app. -/
theorem notebook_simulates :
    System.Simulation navigation Notebook.system Represents where
  step := by
    intro app notebook input after represents enabled performed
    have agrees : ∃ next, notebook.perform input = .ok next ∧
        Represents.Agrees after next := by
      cases input with
      | addMemo => exact represents.agrees_addMemo enabled.2 performed
      | deleteMemo index =>
          exact represents.agrees_deleteMemo enabled.1 enabled.2 performed
      | openMemo index =>
          exact represents.agrees_openMemo enabled.1 enabled.2 performed
      | editText index text =>
          exact represents.agrees_editText enabled.1 performed
      | tapSave index => exact represents.agrees_tapSave enabled.1 performed
      | closeMemo index =>
          exact represents.agrees_closeMemo enabled.1 performed
    obtain ⟨next, followed, agrees⟩ := agrees
    exact ⟨represents.canPerform enabled, next, followed,
      { coherent := represents.coherent.step enabled.1 performed
        memos := agrees.memos
        upToDate := represents.upToDate.step represents.coherent enabled.1
          (represents.not_late input) performed
        session := agrees.session
        live := agrees.live }⟩

/-- A fresh app represents a fresh notebook. -/
theorem launch_represents (realm : Realm) :
    (launch realm).Represents (Notebook.new realm.toFinmap) where
  coherent := launch_coherent realm
  memos := rfl
  upToDate := rfl
  session := trivial
  live := by simp [launch]

/-- The navigation stack lets no save be late. -/
theorem punctual_of_navigation
    {realm : Realm}
    {inputs : List Input}
    {app : MemoApp}
    (run : navigation.Run (launch realm) inputs app) :
    punctual.Run (launch realm) inputs app := by
  have simulates : System.Simulation navigation punctual
      fun app other => other = app ∧ ∃ notebook, app.Represents notebook := by
    constructor
    rintro before _ input after ⟨rfl, notebook, represents⟩ enabled performed
    obtain ⟨_, next, _, stillRepresents⟩ :=
      notebook_simulates.step _ _ _ _ represents enabled performed
    exact ⟨⟨enabled.1, represents.not_late input⟩,
      after, performed, rfl, next, stillRepresents⟩
  obtain ⟨_, punctualRun, rfl, _⟩ :=
    simulates.run ⟨rfl, _, launch_represents realm⟩ run
  exact punctualRun

/-- A memo is saved on its screen, and deleted after the screen has been
left. -/
theorem punctual_of_navigation_saved :
    ∃ app,
      punctual.Run (launch .empty)
        [.addMemo, .openMemo 0, .editText 0 (some "text"), .tapSave 0,
          .closeMemo 0, .deleteMemo 0] app := by
  have run : navigation.Run (launch .empty)
      [.addMemo, .openMemo 0, .editText 0 (some "text"), .tapSave 0,
        .closeMemo 0, .deleteMemo 0] _ :=
    System.run_of_replay rfl
  exact ⟨_, punctual_of_navigation run⟩

/-- An input that keeps the ids within `Int.max` does not fault. -/
theorem exists_perform
    {app : MemoApp}
    {input : Input}
    {realm : Realm}
    {inputs : List Input}
    (coherent : app.Coherent)
    (within : app.IdsWithin (idBound realm inputs))
    (enabled : app.CanPerform input)
    (room : idBound realm (inputs ++ [input]) ≤ SwiftInt.max.val) :
    ∃ after, app.perform input = .ok after := by
  cases input with
  | addMemo =>
      rw [idBound_addMemo] at room
      exact exists_addMemo within room
  | deleteMemo index =>
      obtain ⟨row, stored, listed⟩ := exists_listed_row coherent enabled
      exact ⟨_, perform_deleteMemo stored listed⟩
  | openMemo index =>
      obtain ⟨row, stored, listed⟩ := exists_listed_row coherent enabled
      exact ⟨_, perform_openMemo stored listed⟩
  | editText index text => exact ⟨_, rfl⟩
  | tapSave index => exact ⟨_, rfl⟩
  | closeMemo index => exact ⟨_, rfl⟩

/-- Opening the memo at a list index shows what was last recorded for it. -/
def OpensRecorded
    (app : MemoApp)
    (notebook : Notebook)
    (initial : Finmap fun _ : SwiftInt => MemoContent) : Prop :=
  ∀ index id, app.details = [] → notebook.ids[index]? = some id →
    ∃ content after detail,
      Journal.recorded initial notebook.journal id = some content ∧
        navigation.step app (.openMemo index) = .ok after ∧
          after.details = [detail] ∧
            Shows detail ⟨id, content.memoTitle, some content.memoText⟩

theorem Represents.opensRecorded
    {app : MemoApp}
    {notebook : Notebook}
    {initial : Finmap fun _ : SwiftInt => MemoContent}
    {inputs : List Input}
    (represents : app.Represents notebook)
    (run : Notebook.system.Run (Notebook.new initial) inputs notebook) :
    app.OpensRecorded notebook initial := by
  intro index id noDetails isId
  have inRange : index < app.table.memoList.value.length := by
    rw [represents.length_memoList]
    exact (List.getElem?_eq_some_iff.mp isId).1
  obtain ⟨row, stored, listed, isKey⟩ := represents.exists_row inRange
  obtain rfl : row.key = id := Option.some.inj (isKey.symm.trans isId)
  have held : notebook.memos.lookup row.key = some row.value :=
    represents.memos ▸ KeyedTable.lookup_toFinmap_of_stored stored
  rw [Notebook.lookup_memos run] at held
  refine ⟨row.value, _, ⟨.init (Memo.ofRow row), MemoObject.ofRow row⟩, held,
    perform_openMemo stored listed, ?_, ⟨rfl, rfl, rfl⟩⟩
  rw [noDetails, List.nil_append]

/-- Every run of the app is a run of the notebook on the same inputs. In the
states they reach, the store holds the memos of the notebook; the list refers
to every stored memo once, in id order, and to nothing else; read through the
list, the memos are the listing of the notebook; an open detail shows the open
session; opening a memo shows what was last recorded for its id; and no input
faults while the ids stay within `Int.max`. -/
theorem app_refines_notebook
    {realm : Realm}
    {inputs : List Input}
    {app : MemoApp}
    (run : navigation.Run (launch realm) inputs app) :
    ∃ notebook,
      Notebook.system.Run (Notebook.new realm.toFinmap) inputs notebook ∧
        app.realm.toFinmap = notebook.memos ∧
        app.realm.ListedBy app.table.memoList.value ∧
        app.table.memoList.value.map app.realm.value =
          notebook.listing.map .ok ∧
        ShowsSession app.details notebook.session ∧
        app.OpensRecorded notebook realm.toFinmap ∧
        ∀ input, navigation.Enabled app input →
          idBound realm (inputs ++ [input]) ≤ SwiftInt.max.val →
            ∃ after, navigation.step app input = .ok after := by
  obtain ⟨notebook, notebookRun, represents⟩ :=
    notebook_simulates.run (launch_represents realm) run
  have within := IdsWithin.of_run (System.Run.of_restrict run)
  have listed : app.realm.ListedBy app.table.memoList.value := by
    rw [show app.table.memoList.value = _ from represents.upToDate]
    exact app.realm.listedBy_objects
  exact ⟨notebook, notebookRun, represents.memos, listed,
    represents.displayed_eq, represents.session,
    represents.opensRecorded notebookRun,
    fun input enabled room =>
      exists_perform represents.coherent within enabled.1 room⟩

/-- A memo is saved and deleted, and its id is issued again: the list then
shows the new memo, not what was saved before. -/
theorem reissued_id_shows_new_memo :
    ∃ app notebook,
      navigation.Run (launch .empty)
          [.addMemo, .openMemo 0, .editText 0 (some "text"), .tapSave 0,
            .closeMemo 0, .deleteMemo 0, .addMemo] app ∧
        app.table.memoList.value.map app.realm.value =
          [.ok ⟨1, "title 1", ""⟩] ∧
        app.realm.toFinmap = notebook.memos ∧
        app.table.memoList.value.map app.realm.value =
          notebook.listing.map .ok ∧
        app.OpensRecorded notebook (KeyedTable.toFinmap .empty) := by
  have run : navigation.Run (launch .empty)
      [.addMemo, .openMemo 0, .editText 0 (some "text"), .tapSave 0,
        .closeMemo 0, .deleteMemo 0, .addMemo] _ :=
    System.run_of_replay rfl
  obtain ⟨notebook, _, memos, _, displayed, _, opens, _⟩ :=
    app_refines_notebook run
  exact ⟨_, notebook, run, rfl, memos, displayed, opens⟩

end MemoApp
end MVVMExample
