import MVVMExample.Main.TestFireBase
import MVVMExample.Reactive.Operator

/-!
# The main screen and the screen it presents

A tap writes the text of the main screen to the database and presents the next
screen. The view model of the next screen was created together with the main
screen, and its label has what `getValue()` returned then.
-/

namespace MVVMExample

open Reactive Storage Transition

/-- The view model of the next screen. -/
structure NextViewModel where
  label : Variable (Option String) := ⟨some ""⟩
  deriving DecidableEq

/-- Label the next screen with what the database returns. -/
def NextViewModel.init (database : FirebaseDatabase) :
    FirebaseDatabase × NextViewModel :=
  let read := TestFireBase.getValue database
  (read.1, { label := ⟨some read.2⟩ })

/-- State of the operators between the text and the button: the test of the
text, `share(replay: 1)` and the driver. -/
abbrev IsButtonEnable :=
  (Operator.Sink × Operator.ShareReplay Bool) × Operator.Driver Bool

/-- State of the operators behind the mapping of a tap: `share(replay: 1)` and
the driver. -/
abbrev ButtonTapObsarvable :=
  Operator.ShareReplay Unit × Operator.Driver Unit

/-- The view model of the main screen. -/
structure MainViewModel where
  text : Variable (Option String) := ⟨some ""⟩
  buttonTap : Operator.Sink := {}
  isButtonEnable : IsButtonEnable := (({}, {}), (({}, {}), {}))
  buttonTapObsarvable : ButtonTapObsarvable := ({}, (({}, {}), {}))
  deriving DecidableEq

namespace MainViewModel

/-- `!$0!.isEmpty`. -/
def notEmpty : Option String → Except Crash Bool
  | none =>
      .error (.exception
        "Unexpectedly found nil while unwrapping an Optional value")
  | some text => .ok (text ≠ "")

/-- From a tested text to the button. -/
def enable (isButtonEnable : Bool) :
    Operator IsButtonEnable SwiftError (Option String) Bool :=
  ((Operator.map fun _ => isButtonEnable).comp Operator.shareReplay).comp
    (Operator.asDriver false)

/-- The text that a tap submits. -/
def submitted (viewModel : MainViewModel) : String :=
  viewModel.text.value.getD ""

/-- The mapping of a tap, which writes the submitted text. -/
def mapTap (viewModel : MainViewModel) (database : FirebaseDatabase) :
    FirebaseDatabase × Operator.Sink × List (Event SwiftError Unit) :=
  let mapped := Operator.map (fun _ : Unit => ()) viewModel.buttonTap (.next ())
  (TestFireBase.setValue database viewModel.submitted, mapped)

/-- What follows the mapping of taps. -/
def downstream : Operator ButtonTapObsarvable SwiftError Unit Unit :=
  Operator.shareReplay.comp Operator.asDriverOrEmpty

/-- Nothing between the text and the button has terminated. -/
def EnableReady (state : IsButtonEnable) : Prop :=
  (state.1.1.disposed = false ∧ state.1.2.disposed = false) ∧
    Operator.DriverReady state.2

/-- Nothing behind the button has terminated. -/
def Ready (viewModel : MainViewModel) : Prop :=
  viewModel.buttonTap.disposed = false ∧
    viewModel.buttonTapObsarvable.1.disposed = false ∧
      Operator.DriverReady viewModel.buttonTapObsarvable.2

theorem enable_relays (isButtonEnable : Bool) :
    (enable isButtonEnable).Relays EnableReady fun _ => isButtonEnable :=
  ((Operator.map_relays _).comp Operator.shareReplay_relays).comp
    (Operator.asDriver_relays false)

/-- The mapping of a tap writes the submitted text and forwards the tap. -/
theorem mapTap_of_ready
    {viewModel : MainViewModel}
    (ready : viewModel.Ready)
    (database : FirebaseDatabase) :
    viewModel.mapTap database =
      (TestFireBase.setValue database viewModel.submitted,
        viewModel.buttonTap, [.next ()]) := by
  simp [mapTap, Operator.map, Operator.Sink.forwardOn, ready.1]

theorem downstream_relays :
    downstream.Relays
      (fun state =>
        state.1.disposed = false ∧ Operator.DriverReady state.2)
      id :=
  Operator.shareReplay_relays.comp Operator.asDriverOrEmpty_relays

end MainViewModel

/-- The main screen, the view models it has presented, and the database. -/
structure MainViewController where
  text : Option String
  viewModel : MainViewModel := {}
  nextViewModel : NextViewModel
  isEnabled : Bool := true
  presented : List NextViewModel := []
  database : FirebaseDatabase

namespace MainViewController

/-- Create the main screen with its view models, with any text in its text
field. -/
def init (database : FirebaseDatabase) (text : Option String) :
    MainViewController :=
  let next := NextViewModel.init database
  { text := text, nextViewModel := next.2, database := next.1 }

/-- Bind the text field to the variable, starting with its current text. -/
def bindText (screen : MainViewController) : MainViewController :=
  { screen with viewModel.text := ⟨screen.text⟩ }

/-- The variable emits its text, which enables or disables the button. -/
def driveIsEnabled (screen : MainViewController) :
    Except Crash MainViewController :=
  match MainViewModel.notEmpty screen.viewModel.text.value with
  | .error crash => .error crash
  | .ok notEmpty =>
      let driven := MainViewModel.enable notEmpty
        screen.viewModel.isButtonEnable (.next screen.viewModel.text.value)
      .ok { screen with
              viewModel.isButtonEnable := driven.1
              isEnabled := Event.latest screen.isEnabled driven.2 }

/-- The bindings of the main screen. -/
def viewDidLoad (screen : MainViewController) :
    Except Crash MainViewController :=
  screen.bindText.driveIsEnabled

/-- The text field is edited. -/
def editText (screen : MainViewController) (text : Option String) :
    Except Crash MainViewController :=
  { screen with text := text, viewModel.text := ⟨text⟩ }.driveIsEnabled

/-- Present the next screen. -/
def gotoNextViewController (screen : MainViewController) :
    MainViewController :=
  { screen with presented := screen.presented ++ [screen.nextViewModel] }

/-- React to the events that reach the driver of taps. -/
def drive (screen : MainViewController) :
    List (Event SwiftError Unit) → MainViewController
  | [] => screen
  | .next _ :: events => screen.gotoNextViewController.drive events
  | _ :: events => screen.drive events

/-- The button emits a tap. -/
def tap (screen : MainViewController) : MainViewController :=
  let mapped := screen.viewModel.mapTap screen.database
  let driven := MainViewModel.downstream.feed
    screen.viewModel.buttonTapObsarvable mapped.2.2
  { screen with
      viewModel.buttonTap := mapped.2.1
      viewModel.buttonTapObsarvable := driven.1
      database := mapped.1 }.drive driven.2

/-- What happens to the main screen: its text is edited, its button is tapped,
or the database is used or delivers. -/
inductive Input
  | editText (text : Option String)
  | tap
  | database (input : TestFireBase.Input)
  deriving DecidableEq

/-- Perform one input. -/
def perform (screen : MainViewController) :
    Input → Except Crash MainViewController
  | .editText text => screen.editText text
  | .tap => .ok screen.tap
  | .database input =>
      .ok { screen with
              database := TestFireBase.perform screen.database input }

/-- The database delivers only to registered blocks. -/
def CanPerform (screen : MainViewController) : Input → Prop
  | .editText _ => True
  | .tap => True
  | .database input => TestFireBase.CanPerform screen.database input

instance (screen : MainViewController) (input : Input) :
    Decidable (screen.CanPerform input) :=
  match input with
  | .editText _ => inferInstanceAs (Decidable True)
  | .tap => inferInstanceAs (Decidable True)
  | .database input =>
      inferInstanceAs (Decidable (TestFireBase.CanPerform _ input))

/-- Edits, taps and the database interleave freely. -/
def system : System MainViewController Input Crash where
  Enabled := CanPerform
  step := perform

instance (screen : MainViewController) (input : Input) :
    Decidable (system.Enabled screen input) :=
  inferInstanceAs (Decidable (screen.CanPerform input))

/-! ## What is presented -/

/-- The view model has the text of the text field, which is not missing, the
button shows whether it is empty, nothing has terminated, and the next screen is
labelled with the empty text. -/
structure Running (screen : MainViewController) : Prop where
  text : screen.text = some screen.viewModel.submitted
  bound : screen.viewModel.text.value = screen.text
  isEnabled : screen.isEnabled = true ↔ screen.viewModel.submitted ≠ ""
  enableReady : MainViewModel.EnableReady screen.viewModel.isButtonEnable
  ready : screen.viewModel.Ready
  label : screen.nextViewModel.label.value = some ""

/-- A text that is not missing drives the button with whether it is empty. -/
theorem driveIsEnabled_of_present
    {screen : MainViewController}
    {text : String}
    (present : screen.viewModel.text.value = some text)
    (ready : MainViewModel.EnableReady screen.viewModel.isButtonEnable) :
    ∃ isButtonEnable, MainViewModel.EnableReady isButtonEnable ∧
      screen.driveIsEnabled =
        .ok { screen with
                viewModel.isButtonEnable := isButtonEnable
                isEnabled := decide (text ≠ "") } := by
  obtain ⟨stillReady, driven⟩ := MainViewModel.enable_relays
    (decide (text ≠ "")) screen.viewModel.isButtonEnable (some text) ready
  refine ⟨_, stillReady, ?_⟩
  simp only [driveIsEnabled, present, MainViewModel.notEmpty, driven]
  rfl

/-- A missing text ends the process. -/
theorem driveIsEnabled_of_missing
    {screen : MainViewController}
    (missing : screen.viewModel.text.value = none) :
    screen.driveIsEnabled =
      .error (.exception
        "Unexpectedly found nil while unwrapping an Optional value") := by
  simp only [driveIsEnabled, missing, MainViewModel.notEmpty]

/-- A screen that has driven its button is running. -/
theorem Running.of_driveIsEnabled
    {screen after : MainViewController}
    (sameText : screen.viewModel.text.value = screen.text)
    (enableReady : MainViewModel.EnableReady screen.viewModel.isButtonEnable)
    (ready : screen.viewModel.Ready)
    (label : screen.nextViewModel.label.value = some "")
    (driven : screen.driveIsEnabled = .ok after) :
    after.Running := by
  cases present : screen.viewModel.text.value with
  | none =>
      rw [driveIsEnabled_of_missing present] at driven
      contradiction
  | some text =>
      obtain ⟨isButtonEnable, stillReady, enabled⟩ :=
        driveIsEnabled_of_present present enableReady
      rw [enabled] at driven
      cases driven
      have submits : screen.viewModel.submitted = text := by
        rw [MainViewModel.submitted, present]
        rfl
      exact
        { text := (sameText.symm.trans present).trans
            (congrArg some submits.symm)
          bound := sameText
          isEnabled := decide_eq_true_iff.trans (submits ▸ Iff.rfl)
          enableReady := stillReady
          ready := ready
          label := label }

/-- A loaded screen is running. -/
theorem viewDidLoad_running
    {database : FirebaseDatabase}
    {text : Option String}
    {screen : MainViewController}
    (loaded : (init database text).viewDidLoad = .ok screen) :
    screen.Running :=
  Running.of_driveIsEnabled rfl ⟨⟨rfl, rfl⟩, ⟨rfl, rfl⟩, rfl⟩
    ⟨rfl, rfl, ⟨rfl, rfl⟩, rfl⟩ rfl loaded

/-- A tap writes the submitted text and presents the next view model once. -/
theorem tap_of_ready
    {screen : MainViewController}
    (ready : screen.viewModel.Ready) :
    ∃ buttonTapObsarvable,
      { screen.viewModel with
          buttonTapObsarvable := buttonTapObsarvable }.Ready ∧
      screen.tap =
        { screen with
            viewModel.buttonTapObsarvable := buttonTapObsarvable
            database := TestFireBase.setValue screen.database
              screen.viewModel.submitted
            presented := screen.presented ++ [screen.nextViewModel] } := by
  obtain ⟨stillReady, driven⟩ := MainViewModel.downstream_relays
    screen.viewModel.buttonTapObsarvable () ready.2
  refine ⟨(MainViewModel.downstream
    screen.viewModel.buttonTapObsarvable (.next ())).1,
    ⟨ready.1, stillReady⟩, ?_⟩
  simp only [tap, MainViewModel.mapTap_of_ready ready, Operator.feed_cons,
    Operator.feed_nil, driven, List.append_nil]
  rfl

/-- The step lemma: every input that does not fault keeps the screen
running. -/
theorem Running.step
    {screen after : MainViewController}
    {input : Input}
    (running : screen.Running)
    (performed : screen.perform input = .ok after) :
    after.Running := by
  cases input with
  | editText text =>
      have edited : driveIsEnabled
          { screen with text := text, viewModel.text := ⟨text⟩ } = .ok after :=
        performed
      refine Running.of_driveIsEnabled ?_ ?_ ?_ ?_ edited
      · rfl
      · exact running.enableReady
      · exact running.ready
      · exact running.label
  | tap =>
      obtain ⟨buttonTapObsarvable, ready, tapped⟩ := tap_of_ready running.ready
      rw [perform, tapped] at performed
      cases performed
      exact { running with ready := ready }
  | database input =>
      cases performed
      exact { running with label := running.label }

/-- The run lemma: a loaded screen is running after every run. -/
theorem Running.of_run
    {database : FirebaseDatabase}
    {text : Option String}
    {inputs : List Input}
    {loaded screen : MainViewController}
    (load : (init database text).viewDidLoad = .ok loaded)
    (run : system.Run loaded inputs screen) :
    screen.Running := by
  refine System.Run.invariant (fun _ screen => screen.Running)
    (viewDidLoad_running load) ?_ run
  intro _ input before after running _ performed
  exact running.step performed

/-- A tap presents one more screen, labelled with the text it submitted. -/
def PresentsSubmitted (before after : MainViewController) : Prop :=
  ∃ next, after.presented = before.presented ++ [next] ∧
    next.label.value = some before.viewModel.submitted

/-- A tap presents the text it submitted exactly when that text is empty. -/
theorem Running.presentsSubmitted_iff
    {screen : MainViewController}
    (running : screen.Running) :
    PresentsSubmitted screen screen.tap ↔ screen.viewModel.submitted = "" := by
  obtain ⟨_, _, tapped⟩ := tap_of_ready running.ready
  unfold PresentsSubmitted
  rw [tapped]
  constructor
  · rintro ⟨next, presents, isLabel⟩
    obtain rfl := List.singleton_inj.mp (List.append_cancel_left presents)
    exact Option.some.inj (isLabel.symm.trans running.label)
  · intro isEmpty
    exact ⟨screen.nextViewModel, rfl, isEmpty ▸ running.label⟩

/-- An enabled button never presents what it submits. -/
theorem Running.not_presentsSubmitted_of_isEnabled
    {screen : MainViewController}
    (running : screen.Running)
    (isEnabled : screen.isEnabled = true) :
    ¬PresentsSubmitted screen screen.tap := by
  rw [running.presentsSubmitted_iff]
  exact running.isEnabled.mp isEnabled

/-- After every run of calls and deliveries on every initial tree, `getValue()`
returns what the last writing call wrote exactly when that call cleared the
value. After every run of the main screen, a tap presents the text it submitted
exactly when that text is empty. -/
theorem reads_back_iff_cleared
    {initial : PathTree String Scalar}
    {calls : List TestFireBase.Input}
    {database launched : FirebaseDatabase}
    {text : Option String}
    {inputs : List Input}
    {loaded screen after : MainViewController}
    (databaseRun : TestFireBase.system.Run ⟨initial, []⟩ calls database)
    (load : (init launched text).viewDidLoad = .ok loaded)
    (screenRun : system.Run loaded inputs screen)
    (tapped : system.step screen .tap = .ok after) :
    TestFireBase.ReadsInitial initial database ∧
      (TestFireBase.ReadsBack calls database ↔
        ∃ call ∈ TestFireBase.lastCall calls, call.Clears) ∧
      (PresentsSubmitted screen after ↔ screen.viewModel.submitted = "") := by
  refine ⟨TestFireBase.ReadsInitial.of_run databaseRun,
    TestFireBase.readsBack_iff, ?_⟩
  cases tapped
  exact (Running.of_run load screenRun).presentsSubmitted_iff

/-- An empty database. -/
def emptyTree : PathTree String Scalar where
  leaves := []
  incomparable := .nil

/-- A deleted value is read back, and an empty text is presented. -/
theorem cleared_value_reads_back :
    (∃ database,
      TestFireBase.system.Run ⟨emptyTree, []⟩
          [.call (.updateValue "a"), .call .deleteValue] database ∧
        TestFireBase.ReadsBack
          [.call (.updateValue "a"), .call .deleteValue] database) ∧
      ∃ loaded screen after,
        (init ⟨emptyTree, []⟩ (some "")).viewDidLoad = .ok loaded ∧
          system.Run loaded [.editText (some "")] screen ∧
          system.step screen .tap = .ok after ∧
          PresentsSubmitted screen after := by
  have databaseRun : TestFireBase.system.Run ⟨emptyTree, []⟩
      [.call (.updateValue "a"), .call .deleteValue] _ :=
    System.run_of_replay rfl
  obtain ⟨loaded, screen, load, screenRun, isEmpty⟩ :
      ∃ loaded screen,
        (init ⟨emptyTree, []⟩ (some "")).viewDidLoad = .ok loaded ∧
          system.Run loaded [.editText (some "")] screen ∧
          screen.viewModel.submitted = "" :=
    ⟨_, _, rfl, System.run_of_replay rfl, rfl⟩
  obtain ⟨_, reads, presents⟩ :=
    reads_back_iff_cleared databaseRun load screenRun rfl
  exact ⟨⟨_, databaseRun, reads.mpr ⟨.deleteValue, rfl, Or.inl rfl⟩⟩,
    loaded, screen, _, load, screenRun, rfl, presents.mpr isEmpty⟩

/-- After `setValue("a")` or `updateValue("a")` and a delivery, `getValue()`
returns the empty string; and the text "a" is presented with an empty label. -/
theorem written_value_is_not_read_back :
    (∃ database,
      TestFireBase.system.Run ⟨emptyTree, []⟩
          [.getValue, .call (.setValue "a"), .deliver 0] database ∧
        (TestFireBase.getValue database).2 = "") ∧
      (∃ database,
        TestFireBase.system.Run ⟨emptyTree, []⟩
            [.getValue, .call (.updateValue "a"), .deliver 0] database ∧
          (TestFireBase.getValue database).2 = "") ∧
      ∃ loaded screen after,
        (init ⟨emptyTree, []⟩ (some "")).viewDidLoad = .ok loaded ∧
          system.Run loaded [.editText (some "a")] screen ∧
          screen.isEnabled = true ∧
          system.step screen .tap = .ok after ∧
          screen.viewModel.submitted = "a" ∧
          after.presented = [{ label := ⟨some ""⟩ }] :=
  ⟨⟨_, System.run_of_replay rfl, rfl⟩, ⟨_, System.run_of_replay rfl, rfl⟩,
    _, _, _, rfl, System.run_of_replay rfl, rfl, rfl, rfl, rfl⟩

end MainViewController
end MVVMExample
