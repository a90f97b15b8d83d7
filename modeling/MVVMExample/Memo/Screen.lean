import MVVMExample.Memo.ViewModel
import MVVMExample.Transition.System

/-!
# The text binding of the memo screen

`binding()` drives `memoText` into the text view and then binds the text of the
text view back into `memoText`. A change of the text is announced by a block on
the main queue, which reads the text current when it runs. A driver applies a
value at once.

The loop settles: a delivered text is the text shown, so the driver finds
nothing to write, and a delivery queues no further delivery. Texts that differ
only in the encoding of a character count as different here.
-/

namespace MVVMExample

open Storage Reactive Transition

/-- A block of the main queue. -/
inductive Block
  | announceText
  deriving DecidableEq

/-- A text view, and whether its text storage is observed. -/
structure UITextView where
  text : String
  observed : Bool := false
  deriving DecidableEq

namespace UITextView

/-- Replace the text. An observed text storage queues an announcement. -/
def replace (view : UITextView) (text : String) : UITextView × List Block :=
  ({ view with text := text },
    if view.observed then [.announceText] else [])

/-- The sink of `rx.text`, which writes only a text that differs. -/
def valueSink (view : UITextView) (text : Option String) :
    UITextView × List Block :=
  if some view.text ≠ text then view.replace (text.getD "") else (view, [])

@[simp] theorem valueSink_self (view : UITextView) :
    view.valueSink (some view.text) = (view, []) := by
  simp [valueSink]

end UITextView

/-- Which subscriptions of `binding()` have been made. -/
structure DisposeBag where
  title : Bool := false
  memoText : Bool := false
  saveTap : Bool := false
  saving : Bool := false
  deriving DecidableEq

/-- The memo screen with its part of the main queue and the store. -/
structure MemoViewController where
  viewModel : MemoViewModel
  label : Option String := none
  memoText : UITextView
  disposeBag : DisposeBag := {}
  mainQueue : List Block := []
  realm : Realm

namespace MemoViewController

/-- Apply a driven text to the text view. -/
def drive (screen : MemoViewController) (text : Option String) :
    MemoViewController :=
  let written := screen.memoText.valueSink text
  { screen with
      memoText := written.1
      mainQueue := screen.mainQueue ++ written.2 }

/-- Set the variable `memoText`, which its driver applies to the text view. -/
def setMemoText (screen : MemoViewController) (text : Option String) :
    MemoViewController :=
  let stored := { screen with viewModel.memoText := ⟨text⟩ }
  if screen.disposeBag.memoText then stored.drive text else stored

/-- Drive the title into the label. -/
def driveTitle (screen : MemoViewController) : MemoViewController :=
  { screen with
      label := screen.viewModel.memoTitle.value
      disposeBag.title := true }

/-- Drive `memoText` into the text view, starting with its current value. -/
def driveMemoText (screen : MemoViewController) : MemoViewController :=
  { screen with disposeBag.memoText := true }.drive
    screen.viewModel.memoText.value

/-- Bind the save button to `tapButton`. -/
def bindSaveTap (screen : MemoViewController) : MemoViewController :=
  { screen with disposeBag.saveTap := true }

/-- Subscribe to the results of saves. -/
def subscribeSaving (screen : MemoViewController) : MemoViewController :=
  { screen with disposeBag.saving := true }

/-- Bind the text of the text view to `memoText`: emit the current text, then
observe the text storage. -/
def bindMemoText (screen : MemoViewController) : MemoViewController :=
  { screen.setMemoText (some screen.memoText.text) with
      memoText.observed := true }

/-- The bindings, in the order of the source. -/
def binding (screen : MemoViewController) : MemoViewController :=
  screen.driveTitle.driveMemoText.bindSaveTap.subscribeSaving.bindMemoText

/-- What happens to an open screen: the user replaces the text, the main queue
runs its first block, or the save button is tapped. -/
inductive Input
  | edit (text : String)
  | deliver
  | tapSave
  deriving DecidableEq

/-- The user replaces the text. -/
def edit (screen : MemoViewController) (text : String) : MemoViewController :=
  let replaced := screen.memoText.replace text
  { screen with
      memoText := replaced.1
      mainQueue := screen.mainQueue ++ replaced.2 }

/-- The main queue runs its first block. -/
def deliver (screen : MemoViewController) : MemoViewController :=
  match screen.mainQueue with
  | [] => screen
  | .announceText :: blocks =>
      { screen with mainQueue := blocks }.setMemoText
        (some screen.memoText.text)

/-- The save button is tapped. -/
def tapSave (screen : MemoViewController) : MemoViewController :=
  if screen.disposeBag.saveTap && screen.disposeBag.saving then
    let tapped := screen.viewModel.tap screen.realm
    { screen with viewModel := tapped.1, realm := tapped.2 }
  else screen

/-- Perform one input. -/
def perform (screen : MemoViewController) : Input → MemoViewController
  | .edit text => screen.edit text
  | .deliver => screen.deliver
  | .tapSave => screen.tapSave

/-- The queue runs a block only when it has one. -/
def CanPerform (screen : MemoViewController) : Input → Prop
  | .edit _ => True
  | .deliver => screen.mainQueue ≠ []
  | .tapSave => True

instance (screen : MemoViewController) (input : Input) :
    Decidable (screen.CanPerform input) :=
  match input with
  | .edit _ => inferInstanceAs (Decidable True)
  | .deliver => inferInstanceAs (Decidable (_ ≠ _))
  | .tapSave => inferInstanceAs (Decidable True)

/-- The open screen: edits, deliveries and taps interleave freely. -/
def system : System MemoViewController Input Crash where
  Enabled := CanPerform
  step := fun screen input => .ok (screen.perform input)

instance (screen : MemoViewController) (input : Input) :
    Decidable (system.Enabled screen input) :=
  inferInstanceAs (Decidable (screen.CanPerform input))

/-- A loaded screen before `binding()`, with any text in its text view. -/
def loaded (viewModel : MemoViewModel) (content : String) (realm : Realm) :
    MemoViewController where
  viewModel := viewModel
  memoText := { text := content }
  realm := realm

/-! ## The texts of a run -/

/-- The text shown, and the text shown when it was last announced. -/
structure Texts where
  shown : String
  announced : String

/-- The texts after an input. -/
def Texts.after (texts : Texts) : Input → Texts
  | .edit text => { texts with shown := text }
  | .deliver => { texts with announced := texts.shown }
  | .tapSave => texts

/-- The texts after a list of inputs to a screen that shows a text. -/
def texts (original : String) (inputs : List Input) : Texts :=
  inputs.foldl Texts.after ⟨original, original⟩

theorem texts_snoc
    (original : String)
    (inputs : List Input)
    (input : Input) :
    texts original (inputs ++ [input]) = (texts original inputs).after input := by
  rw [texts, List.foldl_append]
  rfl

/-! ## The invariant of the binding -/

/-- The bindings are made, the view and the view model hold the texts of the
run, and only a queued block can make them differ. -/
structure Synchronized (screen : MemoViewController) (texts : Texts) : Prop where
  bound : screen.disposeBag = ⟨true, true, true, true⟩
  observed : screen.memoText.observed = true
  shown : screen.memoText.text = texts.shown
  announced : screen.viewModel.memoText.value = some texts.announced
  settled : screen.mainQueue = [] → texts.announced = texts.shown

/-- After `binding()` both sides hold the original text of the memo. -/
theorem binding_loaded
    {viewModel : MemoViewModel}
    {original : String}
    (hasText : viewModel.memoText.value = some original)
    (content : String)
    (realm : Realm) :
    (loaded viewModel content realm).binding =
      { viewModel := viewModel
        label := viewModel.memoTitle.value
        memoText := ⟨original, true⟩
        disposeBag := ⟨true, true, true, true⟩
        mainQueue := []
        realm := realm } := by
  have sameVariable : viewModel.memoText = ⟨some original⟩ := by
    rw [← hasText]
  have written : UITextView.valueSink ⟨content, false⟩ (some original) =
      (⟨original, false⟩, []) := by
    unfold UITextView.valueSink
    split
    · rfl
    · rename_i same
      obtain rfl : content = original := by simpa using same
      rfl
  have driven : (loaded viewModel content realm).driveTitle.driveMemoText =
      { viewModel := viewModel
        label := viewModel.memoTitle.value
        memoText := ⟨original, false⟩
        disposeBag := ⟨true, true, false, false⟩
        mainQueue := []
        realm := realm } := by
    simp only [loaded, driveTitle, driveMemoText, drive, hasText, written]
    rfl
  have unchanged : UITextView.valueSink ⟨original, false⟩ (some original) =
      (⟨original, false⟩, []) :=
    UITextView.valueSink_self ⟨original, false⟩
  rw [binding, driven]
  simp only [bindSaveTap, subscribeSaving, bindMemoText, setMemoText, drive,
    unchanged, ← sameVariable]
  rfl

/-- A delivery updates `memoText` and nothing else: the driver finds the text
it is about to write already shown. -/
theorem deliver_of_bound
    {screen : MemoViewController}
    {blocks : List Block}
    (bound : screen.disposeBag = ⟨true, true, true, true⟩)
    (queued : screen.mainQueue = .announceText :: blocks) :
    screen.deliver =
      { screen with
          viewModel.memoText := ⟨some screen.memoText.text⟩
          mainQueue := blocks } := by
  simp [deliver, queued, setMemoText, drive, bound]

/-- An edit changes the text shown and queues one announcement. -/
theorem edit_of_observed
    {screen : MemoViewController}
    (observed : screen.memoText.observed = true)
    (text : String) :
    screen.edit text =
      { screen with
          memoText.text := text
          mainQueue := screen.mainQueue ++ [.announceText] } := by
  simp [edit, UITextView.replace, observed]

/-- A tap goes to the save pipeline. -/
theorem tapSave_of_bound
    {screen : MemoViewController}
    (bound : screen.disposeBag = ⟨true, true, true, true⟩) :
    screen.tapSave =
      { screen with
          viewModel := (screen.viewModel.tap screen.realm).1
          realm := (screen.viewModel.tap screen.realm).2 } := by
  simp [tapSave, bound]

theorem Synchronized.binding
    {viewModel : MemoViewModel}
    {original : String}
    (hasText : viewModel.memoText.value = some original)
    (content : String)
    (realm : Realm) :
    (loaded viewModel content realm).binding.Synchronized
      (texts original []) := by
  rw [binding_loaded hasText]
  exact
    { bound := rfl
      observed := rfl
      shown := rfl
      announced := hasText
      settled := fun _ => rfl }

/-- The step lemma: every input keeps the two sides synchronized. -/
theorem Synchronized.step
    {screen : MemoViewController}
    {texts : Texts}
    {input : Input}
    (synchronized : screen.Synchronized texts)
    (enabled : screen.CanPerform input) :
    (screen.perform input).Synchronized (texts.after input) := by
  cases input with
  | edit text =>
      rw [perform, edit_of_observed synchronized.observed]
      exact
        { bound := synchronized.bound
          observed := synchronized.observed
          shown := rfl
          announced := synchronized.announced
          settled := by simp }
  | deliver =>
      obtain ⟨block, blocks, queued⟩ := List.exists_cons_of_ne_nil enabled
      cases block with
      | announceText =>
          rw [perform, deliver_of_bound synchronized.bound queued]
          exact
            { bound := synchronized.bound
              observed := synchronized.observed
              shown := synchronized.shown
              announced := congrArg some synchronized.shown
              settled := fun _ => rfl }
  | tapSave =>
      rw [perform, tapSave_of_bound synchronized.bound]
      exact
        { bound := synchronized.bound
          observed := synchronized.observed
          shown := synchronized.shown
          announced := synchronized.announced
          settled := synchronized.settled }

/-- The run lemma: the two sides are synchronized after every run. -/
theorem Synchronized.of_run
    {viewModel : MemoViewModel}
    {original content : String}
    {realm : Realm}
    {inputs : List Input}
    {screen : MemoViewController}
    (hasText : viewModel.memoText.value = some original)
    (run : system.Run (loaded viewModel content realm).binding inputs screen) :
    screen.Synchronized (texts original inputs) := by
  refine System.Run.invariant
    (fun inputs screen => screen.Synchronized (texts original inputs))
    (Synchronized.binding hasText content realm) ?_ run
  intro inputs input before after synchronized enabled performed
  cases performed
  rw [texts_snoc]
  exact synchronized.step enabled

/-- With no new edit the queue drains in as many deliveries as it has blocks,
and the text shown stays. -/
theorem Synchronized.drains
    {screen : MemoViewController}
    {texts : Texts}
    (synchronized : screen.Synchronized texts) :
    ∃ drained,
      system.Run screen (.replicate screen.mainQueue.length .deliver) drained ∧
        drained.mainQueue = [] ∧ drained.memoText = screen.memoText := by
  generalize queued : screen.mainQueue = blocks
  induction blocks generalizing screen texts with
  | nil => exact ⟨screen, .nil, queued, rfl⟩
  | cons block blocks inductionHypothesis =>
      cases block with
      | announceText =>
          have enabled : screen.CanPerform .deliver := by
            simp [CanPerform, queued]
          have delivered := deliver_of_bound synchronized.bound queued
          have laterQueue : screen.deliver.mainQueue = blocks := by
            rw [delivered]
          have sameView : screen.deliver.memoText = screen.memoText := by
            rw [delivered]
          obtain ⟨drained, run, emptied, kept⟩ :=
            inductionHypothesis (synchronized.step enabled) laterQueue
          exact ⟨drained, .cons enabled rfl run, emptied, kept.trans sameView⟩

/-- Completing `binding()` leaves the text view and `memoText` at the original
text of the memo, with nothing queued. After every run of edits, deliveries and
taps, the text shown is the last edit; a delivery never changes it and takes
its block off the queue without queueing another; the queue drains in as many
deliveries as it has blocks; and whenever it is empty, `memoText` is the text
shown. -/
theorem text_binding_settles
    {viewModel : MemoViewModel}
    {original content : String}
    {realm : Realm}
    {inputs : List Input}
    {screen : MemoViewController}
    (hasText : viewModel.memoText.value = some original)
    (run : system.Run (loaded viewModel content realm).binding inputs screen) :
    ((loaded viewModel content realm).binding.memoText.text = original ∧
        (loaded viewModel content realm).binding.viewModel.memoText.value =
          some original ∧
        (loaded viewModel content realm).binding.mainQueue = []) ∧
      screen.memoText.text = (texts original inputs).shown ∧
      (∀ after, system.Enabled screen .deliver →
        system.step screen .deliver = .ok after →
          after.memoText = screen.memoText ∧
            after.mainQueue.length + 1 = screen.mainQueue.length) ∧
      (∃ drained,
        system.Run screen (.replicate screen.mainQueue.length .deliver)
            drained ∧
          drained.mainQueue = [] ∧ drained.memoText = screen.memoText) ∧
      (screen.mainQueue = [] →
        screen.viewModel.memoText.value = some screen.memoText.text) := by
  have synchronized := Synchronized.of_run hasText run
  refine ⟨?_, synchronized.shown, ?_, synchronized.drains, ?_⟩
  · rw [binding_loaded hasText]
    exact ⟨rfl, hasText, rfl⟩
  · intro after enabled performed
    obtain ⟨block, blocks, queued⟩ := List.exists_cons_of_ne_nil enabled
    cases block with
    | announceText =>
        cases performed
        rw [perform, deliver_of_bound synchronized.bound queued, queued]
        exact ⟨rfl, rfl⟩
  · intro empty
    rw [synchronized.announced, synchronized.settled empty, synchronized.shown]

/-- Two edits and one delivery: the delivery announces the second edit, and one
block is left. -/
theorem text_binding_settles_after_two_edits :
    ∃ screen,
      system.Run
          (loaded (.init ⟨1, "title 1", "text"⟩) "placeholder" .empty).binding
          [.edit "a", .edit "b", .deliver] screen ∧
        screen.memoText.text = "b" ∧ screen.mainQueue = [.announceText] ∧
        ∃ drained,
          system.Run screen (.replicate 1 .deliver) drained ∧
            drained.mainQueue = [] ∧ drained.memoText = screen.memoText := by
  have run : system.Run
      (loaded (.init ⟨1, "title 1", "text"⟩) "placeholder" .empty).binding
      [.edit "a", .edit "b", .deliver] _ :=
    System.run_of_replay rfl
  obtain ⟨_, shown, _, drains, _⟩ := text_binding_settles rfl run
  exact ⟨_, run, shown, rfl, drains⟩

end MemoViewController
end MVVMExample
