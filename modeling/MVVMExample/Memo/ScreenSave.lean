import MVVMExample.Memo.Screen

/-!
# Saving from the memo screen

A tap reaches the save pipeline at once, while the text takes the main queue.
A save therefore stores the text that was announced last, which is the text
shown exactly when no later edit has changed it.
-/

namespace MVVMExample
namespace MemoViewController

open Storage Reactive Transition

/-- A tap wrote a memo with a given text to the store, and nothing else. -/
def WritesText
    (before after : MemoViewController)
    (memo : Memo)
    (text : String) : Prop :=
  after.realm.toFinmap =
    before.realm.toFinmap.insert memo.id ⟨memo.memoTitle, text⟩

/-- A tap wrote the text shown in the text view. -/
def WritesShown (before after : MemoViewController) (memo : Memo) : Prop :=
  WritesText before after memo before.memoText.text

/-- The edits since the last announcement, or since `binding()`, have left the
text as it was then. -/
def Announced (original : String) (inputs : List Input) : Prop :=
  (texts original inputs).shown = (texts original inputs).announced

/-- The screen can save under the id and the title of its memo. -/
structure Savable (screen : MemoViewController) (memo : Memo) : Prop where
  ready : screen.viewModel.Ready
  id : screen.viewModel.id.value = some memo.id
  title : screen.viewModel.memoTitle.value = some memo.memoTitle

/-- The step lemma: every input keeps the screen savable. -/
theorem Savable.step
    {screen : MemoViewController}
    {texts : Texts}
    {memo : Memo}
    {input : Input}
    (savable : screen.Savable memo)
    (synchronized : screen.Synchronized texts)
    (enabled : screen.CanPerform input) :
    (screen.perform input).Savable memo := by
  cases input with
  | edit text =>
      rw [perform, edit_of_observed synchronized.observed]
      exact ⟨savable.ready, savable.id, savable.title⟩
  | deliver =>
      obtain ⟨block, blocks, queued⟩ := List.exists_cons_of_ne_nil enabled
      cases block with
      | announceText =>
          rw [perform, deliver_of_bound synchronized.bound queued]
          exact ⟨savable.ready, savable.id, savable.title⟩
  | tapSave =>
      obtain ⟨pipeline, tapped, ready⟩ :=
        MemoViewModel.tap_of_ready savable.ready screen.realm
      rw [perform, tapSave_of_bound synchronized.bound, tapped]
      exact ⟨ready, savable.id, savable.title⟩

/-- The run lemma: the screen is savable after every run. -/
theorem Savable.of_run
    {memo : Memo}
    {content : String}
    {realm : Realm}
    {inputs : List Input}
    {screen : MemoViewController}
    (run : system.Run (loaded (.init memo) content realm).binding inputs
      screen) :
    screen.Savable memo := by
  have initially : (loaded (.init memo) content realm).binding.Savable memo := by
    rw [binding_loaded rfl]
    exact ⟨MemoViewModel.init_ready memo, rfl, rfl⟩
  refine (System.Run.invariant
    (fun inputs screen =>
      screen.Synchronized (texts memo.memoText inputs) ∧ screen.Savable memo)
    ⟨Synchronized.binding rfl content realm, initially⟩ ?_ run).2
  rintro inputs input before after ⟨synchronized, savable⟩ enabled performed
  cases performed
  rw [texts_snoc]
  exact ⟨synchronized.step enabled, savable.step synchronized enabled⟩

/-- A tap writes the text that was announced last. -/
theorem writesText_announced
    {screen : MemoViewController}
    {texts : Texts}
    {memo : Memo}
    (savable : screen.Savable memo)
    (synchronized : screen.Synchronized texts) :
    WritesText screen (screen.perform .tapSave) memo texts.announced := by
  obtain ⟨pipeline, tapped, _⟩ :=
    MemoViewModel.tap_of_ready savable.ready screen.realm
  have isDraft : screen.viewModel.draft =
      some ⟨memo.id, memo.memoTitle, texts.announced⟩ :=
    MemoViewModel.draft_eq_some.mpr
      ⟨savable.id, savable.title, synchronized.announced⟩
  rw [perform, tapSave_of_bound synchronized.bound, tapped, WritesText,
    MemoViewModel.saved, isDraft]
  exact KeyedTable.toFinmap_upsert _ _ _

/-- A tap writes at most one text. -/
theorem WritesText.unique
    {before after : MemoViewController}
    {memo : Memo}
    {first second : String}
    (writesFirst : WritesText before after memo first)
    (writesSecond : WritesText before after memo second) :
    first = second := by
  have firstHeld : after.realm.toFinmap.lookup memo.id =
      some ⟨memo.memoTitle, first⟩ := by
    rw [show after.realm.toFinmap = _ from writesFirst, Finmap.lookup_insert]
  have secondHeld : after.realm.toFinmap.lookup memo.id =
      some ⟨memo.memoTitle, second⟩ := by
    rw [show after.realm.toFinmap = _ from writesSecond, Finmap.lookup_insert]
  have same := firstHeld.symm.trans secondHeld
  injection same with same
  injection same

/-- After every run of edits, deliveries and taps, a tap writes the text shown
exactly when the edits since the last announcement have left the text as it was
then. In particular it does while no announcement is queued. -/
theorem tap_writes_shown_iff_announced
    {memo : Memo}
    {content : String}
    {realm : Realm}
    {inputs : List Input}
    {screen : MemoViewController}
    (run : system.Run (loaded (.init memo) content realm).binding inputs
      screen) :
    (∀ after, system.step screen .tapSave = .ok after →
      (WritesShown screen after memo ↔ Announced memo.memoText inputs)) ∧
      (screen.mainQueue = [] → Announced memo.memoText inputs) := by
  have synchronized := Synchronized.of_run rfl run
  have savable := Savable.of_run run
  refine ⟨fun after performed => ?_, fun empty =>
    (synchronized.settled empty).symm⟩
  cases performed
  have written := writesText_announced savable synchronized
  unfold WritesShown Announced
  rw [synchronized.shown]
  constructor
  · intro shown
    exact shown.unique written
  · intro same
    rw [same]
    exact written

/-- The store with one empty memo. -/
def oneMemo : Realm :=
  KeyedTable.upsert .empty 1 ⟨"title 1", ""⟩

/-- An edit that has been announced is saved. -/
theorem tap_after_delivery_writes_shown :
    ∃ screen after,
      system.Run
          (loaded (.init ⟨1, "title 1", ""⟩) "placeholder" oneMemo).binding
          [.edit "a", .deliver] screen ∧
        system.step screen .tapSave = .ok after ∧
        screen.memoText.text = "a" ∧
        WritesShown screen after ⟨1, "title 1", ""⟩ := by
  have run : system.Run
      (loaded (.init ⟨1, "title 1", ""⟩) "placeholder" oneMemo).binding
      [.edit "a", .deliver] _ :=
    System.run_of_replay rfl
  obtain ⟨writesShown, _⟩ := tap_writes_shown_iff_announced run
  exact ⟨_, _, run, rfl, rfl, (writesShown _ rfl).mpr rfl⟩

/-- A tap between an edit and its announcement stores the text before the
edit. -/
theorem tap_before_delivery_writes_old_text :
    ∃ screen after,
      system.Run
          (loaded (.init ⟨1, "title 1", ""⟩) "placeholder" oneMemo).binding
          [.edit "a"] screen ∧
        system.step screen .tapSave = .ok after ∧
        screen.memoText.text = "a" ∧
        after.realm.rows = [⟨0, 1, ⟨"title 1", ""⟩⟩] ∧
        ¬WritesShown screen after ⟨1, "title 1", ""⟩ := by
  refine ⟨_, _, System.run_of_replay rfl, rfl, rfl, rfl, fun shown => ?_⟩
  have held := congrArg (Finmap.lookup (1 : SwiftInt)) shown
  rw [Finmap.lookup_insert] at held
  exact absurd held (by decide)

end MemoViewController
end MVVMExample
