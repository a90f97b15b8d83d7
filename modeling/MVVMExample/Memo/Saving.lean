import MVVMExample.Memo.ViewModel
import MVVMExample.Transition.System

/-!
# The save pipeline over whole runs

The detail view model alone: its three variables are set to arbitrary values,
missing ones included, and its save button is tapped, in any order. One
subscriber is connected from the start and never taps from inside its handler.

Every tap finds the pipeline ready, so `flatMapFirst` discards none of them,
nothing terminates and the error fallback is never used.
-/

namespace MVVMExample
namespace Saving

open Storage Reactive Transition

/-- What the environment does to the view model. -/
inductive Input
  | setId (id : Option SwiftInt)
  | setTitle (title : Option String)
  | setText (text : Option String)
  | tap
  deriving DecidableEq

/-- The view model and the store it saves to. -/
structure State where
  viewModel : MemoViewModel
  realm : Realm

/-- Perform one input. -/
def State.perform (state : State) : Input → State
  | .setId id => { state with viewModel.id := ⟨id⟩ }
  | .setTitle title => { state with viewModel.memoTitle := ⟨title⟩ }
  | .setText text => { state with viewModel.memoText := ⟨text⟩ }
  | .tap =>
      let tapped := state.viewModel.tap state.realm
      ⟨tapped.1, tapped.2⟩

/-- Every input is possible at any time, and none of them traps. -/
def system : System State Input Crash where
  Enabled := fun _ _ => True
  step := fun state input => .ok (state.perform input)

instance (state : State) (input : Input) :
    Decidable (system.Enabled state input) :=
  inferInstanceAs (Decidable True)

/-- A view model with given variables whose subscriber has just connected. -/
def connected
    (id : Option SwiftInt)
    (title text : Option String)
    (realm : Realm) : State where
  viewModel := { id := ⟨id⟩, memoTitle := ⟨title⟩, memoText := ⟨text⟩ }
  realm := realm

/-! ## What the subscriber should see -/

/-- The values of the three variables. -/
structure Fields where
  id : Option SwiftInt
  title : Option String
  text : Option String

namespace Fields

/-- No value is missing. -/
def Complete (fields : Fields) : Prop :=
  fields.id ≠ none ∧ fields.title ≠ none ∧ fields.text ≠ none

instance (fields : Fields) : Decidable fields.Complete :=
  inferInstanceAs (Decidable (_ ∧ _ ∧ _))

/-- The values after an input. -/
def after (fields : Fields) : Input → Fields
  | .setId id => { fields with id := id }
  | .setTitle title => { fields with title := title }
  | .setText text => { fields with text := text }
  | .tap => fields

/-- The truthful result of a save with these values. -/
def report (fields : Fields) : MemoViewModel.Result :=
  if fields.Complete then .success "success!!" else .failure "failed..."

/-- One truthful result for each tap, in tap order. -/
def reports : Fields → List Input → List MemoViewModel.Result
  | _, [] => []
  | fields, .tap :: inputs => fields.report :: reports fields inputs
  | fields, input :: inputs => reports (fields.after input) inputs

/-- The values after a list of inputs. -/
def afterAll (fields : Fields) (inputs : List Input) : Fields :=
  inputs.foldl after fields

theorem reports_append
    (fields : Fields)
    (first second : List Input) :
    fields.reports (first ++ second) =
      fields.reports first ++ (fields.afterAll first).reports second := by
  induction first generalizing fields with
  | nil => rfl
  | cons input inputs inductionHypothesis =>
      cases input with
      | tap =>
          exact congrArg (fields.report :: ·) (inductionHypothesis fields)
      | setId id => exact inductionHypothesis (fields.after (.setId id))
      | setTitle title =>
          exact inductionHypothesis (fields.after (.setTitle title))
      | setText text => exact inductionHypothesis (fields.after (.setText text))

theorem afterAll_append
    (fields : Fields)
    (inputs : List Input)
    (input : Input) :
    fields.afterAll (inputs ++ [input]) =
      (fields.afterAll inputs).after input := by
  rw [afterAll, List.foldl_append]
  rfl

/-- Inputs other than taps are not reported. -/
theorem reports_of_ne_tap
    (fields : Fields)
    {input : Input}
    (notTap : input ≠ .tap) :
    fields.reports [input] = [] := by
  cases input with
  | tap => exact absurd rfl notTap
  | setId id => rfl
  | setTitle title => rfl
  | setText text => rfl

/-- There are as many reports as taps. -/
theorem length_reports
    (fields : Fields)
    (inputs : List Input) :
    (fields.reports inputs).length = inputs.count .tap := by
  induction inputs generalizing fields with
  | nil => rfl
  | cons input inputs inductionHypothesis =>
      cases input <;> simp [reports, inductionHypothesis]

end Fields

/-- The values of the variables of a view model. -/
def fieldsOf (viewModel : MemoViewModel) : Fields :=
  ⟨viewModel.id.value, viewModel.memoTitle.value, viewModel.memoText.value⟩

theorem result_eq_report (viewModel : MemoViewModel) :
    viewModel.result = (fieldsOf viewModel).report := by
  rcases viewModel with ⟨⟨_ | id⟩, ⟨_ | title⟩, ⟨_ | text⟩, pipeline, received⟩ <;>
    rfl

/-- Nothing in the pipeline has terminated, no error was caught, and the next
tap will be accepted. -/
structure Alive (pipeline : SavingObservable) : Prop where
  accepts : MergeSink.idle pipeline.flatMapFirst = true
  sourceOpen : pipeline.flatMapFirst.Open
  notCaught : pipeline.downstream.1.caught = false
  notTerminated : pipeline.downstream.1.disposed = false
  connected : pipeline.downstream.2.disposed = false

/-- One tap appends its result and stores the values of the moment, if none is
missing; otherwise it leaves the store as it was. -/
structure TapOutcome (before after : State) : Prop where
  delivered : after.viewModel.received =
    before.viewModel.received ++ [.next (fieldsOf before.viewModel).report]
  stored : ∀ id title text,
    fieldsOf before.viewModel = ⟨some id, some title, some text⟩ →
      after.realm.toFinmap = before.realm.toFinmap.insert id ⟨title, text⟩ ∧
        ∀ row, row.key ≠ id →
          (row ∈ after.realm.rows ↔ row ∈ before.realm.rows)
  refused : ¬(fieldsOf before.viewModel).Complete →
    after.realm = before.realm

/-- The invariant of the run: the pipeline is ready, the variables have the
values that were set, and the truthful results have been received. -/
structure Invariant
    (initial : Fields)
    (inputs : List Input)
    (state : State) : Prop where
  ready : state.viewModel.Ready
  fields : fieldsOf state.viewModel = initial.afterAll inputs
  received : state.viewModel.received = (initial.reports inputs).map .next

theorem alive_of_ready
    {viewModel : MemoViewModel}
    (ready : viewModel.Ready) :
    Alive viewModel.savingObservable := by
  obtain ⟨idle, notCaught, connected⟩ := ready
  exact
    { accepts := by rw [idle]; rfl
      sourceOpen := by rw [idle]; exact ⟨rfl, rfl⟩
      notCaught := by rw [notCaught]
      notTerminated := by rw [notCaught]
      connected := connected }

/-- An input other than a tap preserves the invariant when it only changes
the values of the variables. -/
theorem Invariant.quiet
    {initial : Fields}
    {inputs : List Input}
    {before after : State}
    {input : Input}
    (invariant : Invariant initial inputs before)
    (notTap : input ≠ .tap)
    (ready : after.viewModel.Ready)
    (fields : fieldsOf after.viewModel =
      (fieldsOf before.viewModel).after input)
    (received : after.viewModel.received = before.viewModel.received) :
    Invariant initial (inputs ++ [input]) after where
  ready := ready
  fields := by rw [fields, invariant.fields, Fields.afterAll_append]
  received := by
    rw [received, invariant.received, Fields.reports_append,
      Fields.reports_of_ne_tap _ notTap, List.append_nil]

/-- The step lemma: every input preserves the invariant. -/
theorem Invariant.step
    {initial : Fields}
    {inputs : List Input}
    {state : State}
    (invariant : Invariant initial inputs state)
    (input : Input) :
    Invariant initial (inputs ++ [input]) (state.perform input) := by
  cases input with
  | tap =>
      obtain ⟨pipeline, tapped, idle, notCaught, connected⟩ :=
        MemoViewModel.tap_of_ready invariant.ready state.realm
      constructor
      · simp only [State.perform, tapped]
        exact ⟨idle, notCaught, connected⟩
      · rw [Fields.afterAll_append, ← invariant.fields]
        simp only [State.perform, tapped]
        rfl
      · rw [Fields.reports_append, ← invariant.fields]
        simp only [State.perform, tapped, invariant.received,
          result_eq_report]
        rw [List.map_append]
        rfl
  | setId id => exact invariant.quiet (by simp) invariant.ready rfl rfl
  | setTitle title => exact invariant.quiet (by simp) invariant.ready rfl rfl
  | setText text => exact invariant.quiet (by simp) invariant.ready rfl rfl

/-- The run lemma: the invariant holds after every run. -/
theorem Invariant.of_run
    {id : Option SwiftInt}
    {title text : Option String}
    {realm : Realm}
    {inputs : List Input}
    {state : State}
    (run : system.Run (connected id title text realm) inputs state) :
    Invariant ⟨id, title, text⟩ inputs state := by
  refine System.Run.invariant (Invariant ⟨id, title, text⟩)
    ⟨⟨rfl, rfl, rfl⟩, rfl, rfl⟩ ?_ run
  intro inputs input before after invariant _ performed
  cases performed
  exact invariant.step input

/-- What one tap on a ready pipeline does. -/
theorem tapOutcome_of_ready
    {state : State}
    (ready : state.viewModel.Ready) :
    TapOutcome state (state.perform .tap) := by
  obtain ⟨pipeline, tapped, _⟩ :=
    MemoViewModel.tap_of_ready ready state.realm
  have savedRealm : (state.perform .tap).realm =
      state.viewModel.saved state.realm := by
    simp only [State.perform, tapped]
  constructor
  · simp only [State.perform, tapped, result_eq_report]
  · intro id title text complete
    injection complete with hasId hasTitle hasText
    have isDraft : state.viewModel.draft = some ⟨id, title, text⟩ :=
      MemoViewModel.draft_eq_some.mpr ⟨hasId, hasTitle, hasText⟩
    rw [savedRealm, MemoViewModel.saved, isDraft]
    refine ⟨KeyedTable.toFinmap_upsert _ _ _, fun row otherId => ?_⟩
    exact KeyedTable.mem_rows_upsert_of_ne otherId
  · intro incomplete
    have noDraft : state.viewModel.draft = none := by
      apply Option.eq_none_iff_forall_ne_some.mpr
      intro memo isDraft
      obtain ⟨hasId, hasTitle, hasText⟩ :=
        MemoViewModel.draft_eq_some.mp isDraft
      apply incomplete
      simp [Fields.Complete, fieldsOf, hasId, hasTitle, hasText]
    rw [savedRealm, MemoViewModel.saved, noDraft]

/-- Over every run of updates and taps, the subscriber receives exactly the
truthful result of each tap, in tap order; the pipeline stays alive; a tap
changes the store exactly by its own memo, or not at all; and other inputs
deliver and store nothing. -/
theorem every_tap_reported_once
    {id : Option SwiftInt}
    {title text : Option String}
    {realm : Realm}
    {inputs : List Input}
    {state : State}
    (run : system.Run (connected id title text realm) inputs state) :
    state.viewModel.received =
        (Fields.reports ⟨id, title, text⟩ inputs).map .next ∧
      state.viewModel.received.length = inputs.count .tap ∧
      Alive state.viewModel.savingObservable ∧
      (∀ after, system.step state .tap = .ok after → TapOutcome state after) ∧
      ∀ input after, input ≠ .tap → system.step state input = .ok after →
        after.realm = state.realm ∧
          after.viewModel.received = state.viewModel.received := by
  have invariant := Invariant.of_run run
  refine ⟨invariant.received, ?_, alive_of_ready invariant.ready,
    ?_, ?_⟩
  · rw [invariant.received, List.length_map, Fields.length_reports]
  · intro after performed
    cases performed
    exact tapOutcome_of_ready invariant.ready
  · intro input after notTap performed
    cases performed
    cases input with
    | tap => exact absurd rfl notTap
    | setId id => exact ⟨rfl, rfl⟩
    | setTitle title => exact ⟨rfl, rfl⟩
    | setText text => exact ⟨rfl, rfl⟩

/-- A save, then a tap with the text missing: both are reported, and the next
tap is still served. -/
theorem failure_after_success_reported :
    ∃ state,
      system.Run (connected (some 1) (some "title 1") (some "text") .empty)
          [.tap, .setText none, .tap] state ∧
        state.viewModel.received =
          [.next (.success "success!!"), .next (.failure "failed...")] ∧
        ∀ after, system.step state .tap = .ok after →
          TapOutcome state after := by
  have run : system.Run
      (connected (some 1) (some "title 1") (some "text") .empty)
      [.tap, .setText none, .tap] _ :=
    System.run_of_replay rfl
  obtain ⟨received, _, _, outcome, _⟩ := every_tap_reported_once run
  exact ⟨_, run, received, outcome⟩

end Saving
end MVVMExample
