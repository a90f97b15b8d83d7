import MVVMExample.Main.Screen

/-!
# What the main screen leaves in the database

Taps write the submitted text to `user/01`, the other writing calls go to
`test/val`. The tree after a run is the initial tree without what the writes
replaced, with the last submitted text and with what was written to `test/val`
last.
-/

namespace MVVMExample

open Storage Transition

/-- What the writing calls so far come to: the last value of `user/01/val`, the
last value of `test/val` or its removal, and whether `updateValue` was called. -/
structure Writes where
  user : Option String := none
  test : Option (Option String) := none
  updated : Bool := false
  deriving DecidableEq

namespace Writes

/-- One more call. -/
def perform (writes : Writes) : TestFireBase.Call → Writes
  | .setValue value => { writes with user := some value }
  | .updateValue value =>
      { writes with test := some (some value), updated := true }
  | .deleteValue => { writes with test := some none }

/-- A write to `user/01` replaces everything comparable with it; one to
`test/val` does so if it adds something. -/
structure Spares (writes : Writes) (path : List String) : Prop where
  user : writes.user.isSome = true → ¬Comparable ["user", "01"] path
  removed : writes.test.isSome = true → ¬["test", "val"] <+: path
  updated : writes.updated = true → ¬Comparable ["test", "val"] path

/-- The leaves of the initial tree that the writes spare, and the two written
ones. -/
def Leaf
    (writes : Writes)
    (initial : PathTree String Scalar)
    (leaf : List String × Scalar) : Prop :=
  (leaf ∈ initial.leaves ∧ writes.Spares leaf.1) ∨
    (∃ value, writes.user = some value ∧
      leaf = (["user", "01", "val"], .string value)) ∨
    ∃ value, writes.test = some (some value) ∧
      leaf = (["test", "val"], .string value)

theorem leaf_new
    (initial : PathTree String Scalar)
    (leaf : List String × Scalar) :
    leaf ∈ initial.leaves ↔ Leaf {} initial leaf := by
  constructor
  · intro present
    exact .inl ⟨present, by simp, by simp, by simp⟩
  · rintro (⟨present, _⟩ | ⟨_, impossible, _⟩ | ⟨_, impossible, _⟩)
    · exact present
    · contradiction
    · contradiction

variable
    {writes : Writes}
    {initial : PathTree String Scalar}
    {leaf : List String × Scalar}

/-- The two places are apart. -/
theorem places_apart :
    ¬Comparable ["user", "01"] ["test", "val"] ∧
      ¬Comparable ["test", "val"] ["user", "01", "val"] ∧
      ¬["test", "val"] <+: ["user", "01", "val"] := by
  decide

/-- A write to `user/01` leaves what it is not comparable with. -/
theorem leaf_setValue (value : String) :
    (writes.Leaf initial leaf ∧ ¬Comparable ["user", "01"] leaf.1) ∨
        leaf = (["user", "01", "val"], .string value) ↔
      (writes.perform (.setValue value)).Leaf initial leaf := by
  constructor
  · rintro (⟨⟨present, spares⟩ | ⟨old, _, rfl⟩ | isTest, notUser⟩ | rfl)
    · exact .inl ⟨present, fun _ => notUser, spares.removed, spares.updated⟩
    · exact absurd (.inl ⟨["val"], rfl⟩) notUser
    · exact .inr (.inr isTest)
    · exact .inr (.inl ⟨value, rfl, rfl⟩)
  · rintro (⟨present, spares⟩ | ⟨_, same, rfl⟩ | ⟨test, isTest, rfl⟩)
    · by_cases wasWritten : writes.user.isSome = true
      · exact .inl ⟨.inl ⟨present, fun _ => spares.user rfl, spares.removed,
          spares.updated⟩, spares.user rfl⟩
      · exact .inl ⟨.inl ⟨present, fun written => absurd written wasWritten,
          spares.removed, spares.updated⟩, spares.user rfl⟩
    · rw [Option.some.inj same]
      exact .inr rfl
    · exact .inl ⟨.inr (.inr ⟨test, isTest, rfl⟩), places_apart.1⟩

/-- An update of `test` leaves what is not comparable with `test/val`. -/
theorem leaf_updateValue (value : String) :
    (writes.Leaf initial leaf ∧ ¬Comparable ["test", "val"] leaf.1) ∨
        leaf = (["test", "val"], .string value) ↔
      (writes.perform (.updateValue value)).Leaf initial leaf := by
  constructor
  · rintro (⟨⟨present, spares⟩ | ⟨user, isUser, rfl⟩ | ⟨_, _, rfl⟩, notTest⟩ |
      rfl)
    · exact .inl ⟨present, spares.user, fun _ below => notTest (.inl below),
        fun _ => notTest⟩
    · exact .inr (.inl ⟨user, isUser, rfl⟩)
    · exact absurd (.inl (List.prefix_refl _)) notTest
    · exact .inr (.inr ⟨value, rfl, rfl⟩)
  · rintro (⟨present, spares⟩ | ⟨user, isUser, rfl⟩ | ⟨_, same, rfl⟩)
    · have notTest := spares.updated rfl
      exact .inl ⟨.inl ⟨present, spares.user,
        fun _ below => notTest (.inl below), fun _ => notTest⟩, notTest⟩
    · exact .inl ⟨.inr (.inl ⟨user, isUser, rfl⟩), places_apart.2.1⟩
    · rw [Option.some.inj (Option.some.inj same)]
      exact .inr rfl

/-- A removal leaves what is not below `test/val`. -/
theorem leaf_deleteValue :
    (writes.Leaf initial leaf ∧ ¬["test", "val"] <+: leaf.1) ↔
      (writes.perform .deleteValue).Leaf initial leaf := by
  constructor
  · rintro ⟨⟨present, spares⟩ | ⟨user, isUser, rfl⟩ | ⟨_, _, rfl⟩, notBelow⟩
    · exact .inl ⟨present, spares.user, fun _ => notBelow, spares.updated⟩
    · exact .inr (.inl ⟨user, isUser, rfl⟩)
    · exact absurd (List.prefix_refl _) notBelow
  · rintro (⟨present, spares⟩ | ⟨user, isUser, rfl⟩ | ⟨_, impossible, _⟩)
    · exact ⟨.inl ⟨present, spares.user, fun _ => spares.removed rfl,
        spares.updated⟩, spares.removed rfl⟩
    · exact ⟨.inr (.inl ⟨user, isUser, rfl⟩), places_apart.2.2⟩
    · simp [perform] at impossible

/-- The step lemma: a call leaves the leaves that the writes say. -/
theorem leaf_perform
    {database : FirebaseDatabase}
    (leaves : ∀ leaf, leaf ∈ database.tree.leaves ↔ writes.Leaf initial leaf)
    (call : TestFireBase.Call)
    (leaf : List String × Scalar) :
    leaf ∈ (call.perform database).tree.leaves ↔
      (writes.perform call).Leaf initial leaf := by
  cases call with
  | setValue value =>
      rw [← leaf_setValue, ← leaves]
      exact PathTree.mem_leaves_write.trans (or_congr_right (by
        simp [PathTree.singleton, eq_comm]))
  | updateValue value =>
      rw [← leaf_updateValue, ← leaves]
      exact PathTree.mem_leaves_write.trans (or_congr_right (by
        simp [PathTree.singleton, eq_comm]))
  | deleteValue =>
      rw [← leaf_deleteValue, ← leaves]
      exact PathTree.mem_leaves_remove

end Writes

namespace MainViewController

/-- The use of the main screen so far: the text, the number of taps, and the
writes. -/
structure History where
  text : String
  taps : Nat := 0
  writes : Writes := {}
  deriving DecidableEq

namespace History

/-- One more input. -/
def perform (history : History) : Input → History
  | .editText text => { history with text := text.getD "" }
  | .tap =>
      { history with
          taps := history.taps + 1
          writes := history.writes.perform (.setValue history.text) }
  | .database (.call call) =>
      { history with writes := history.writes.perform call }
  | .database _ => history

/-- The use of a screen that started with a text. -/
def after (text : String) (inputs : List Input) : History :=
  inputs.foldl perform { text := text }

theorem after_snoc (text : String) (inputs : List Input) (input : Input) :
    after text (inputs ++ [input]) = (after text inputs).perform input := by
  rw [after, List.foldl_append]
  rfl

end History

/-- The screen shows the text, has presented once for each tap, and has left in
the database what was written. -/
structure Reflects
    (screen : MainViewController)
    (initial : PathTree String Scalar)
    (history : History) : Prop where
  running : screen.Running
  text : screen.viewModel.submitted = history.text
  presented : screen.presented.length = history.taps
  labels : ∀ next ∈ screen.presented, next.label.value = some ""
  leaves : ∀ leaf, leaf ∈ screen.database.tree.leaves ↔
    history.writes.Leaf initial leaf

/-- Driving the button changes neither the text nor the database. -/
theorem same_of_driveIsEnabled
    {screen after : MainViewController}
    (driven : screen.driveIsEnabled = .ok after) :
    after.viewModel.submitted = screen.viewModel.submitted ∧
      after.presented = screen.presented ∧ after.database = screen.database := by
  unfold driveIsEnabled at driven
  split at driven
  · contradiction
  · cases driven
    exact ⟨rfl, rfl, rfl⟩

namespace Reflects

variable
    {screen after : MainViewController}
    {initial : PathTree String Scalar}
    {history : History}

/-- The step lemma. -/
theorem step
    (reflects : screen.Reflects initial history)
    {input : Input}
    (performed : screen.perform input = .ok after) :
    after.Reflects initial (history.perform input) := by
  have running := reflects.running.step performed
  cases input with
  | editText text =>
      obtain ⟨sameText, presented, database⟩ :=
        same_of_driveIsEnabled performed
      exact
        { running := running
          text := sameText
          presented := by
            rw [presented]
            exact reflects.presented
          labels := by
            rw [presented]
            exact reflects.labels
          leaves := by
            rw [database]
            exact reflects.leaves }
  | tap =>
      obtain ⟨_, _, tapped⟩ := tap_of_ready reflects.running.ready
      rw [perform, tapped] at performed
      cases performed
      exact
        { running := running
          text := reflects.text
          presented := by
            simp only [List.length_append, List.length_singleton,
              reflects.presented, History.perform]
          labels := by
            intro next present
            rcases List.mem_append.mp present with old | new
            · exact reflects.labels next old
            · rw [List.mem_singleton.mp new]
              exact reflects.running.label
          leaves := by
            rw [History.perform, ← reflects.text]
            exact Writes.leaf_perform reflects.leaves (.setValue _) }
  | database input =>
      cases performed
      cases input with
      | call call =>
          exact
            { running := running
              text := reflects.text
              presented := reflects.presented
              labels := reflects.labels
              leaves := Writes.leaf_perform reflects.leaves call }
      | getValue =>
          exact { reflects with running := running }
      | deliver observer =>
          exact { reflects with running := running }

end Reflects

/-- After every run of the main screen the database has the leaves of the initial
tree that the writes spared, the last submitted text at `user/01/val`, and what
was last written to `test/val`; the next screen was presented once for each tap,
always labelled with the empty text; and only an edit that leaves no text ends
the process. -/
theorem database_reflects_run
    {database : FirebaseDatabase}
    {text : String}
    {inputs : List Input}
    {loaded screen : MainViewController}
    (load : (init database (some text)).viewDidLoad = .ok loaded)
    (run : system.Run loaded inputs screen) :
    (∀ leaf, leaf ∈ screen.database.tree.leaves ↔
        (History.after text inputs).writes.Leaf database.tree leaf) ∧
      screen.presented.length = (History.after text inputs).taps ∧
      (∀ next ∈ screen.presented, next.label.value = some "") ∧
      ∀ input, (∃ after, system.step screen input = .ok after) ↔
        input ≠ .editText none := by
  have initially : loaded.Reflects database.tree (History.after text []) := by
    obtain ⟨sameText, presented, sameDatabase⟩ :=
      same_of_driveIsEnabled load
    exact
      { running := viewDidLoad_running load
        text := sameText
        presented := by
          rw [presented]
          rfl
        labels := by
          rw [presented]
          exact fun _ impossible => absurd impossible List.not_mem_nil
        leaves := by
          rw [sameDatabase]
          exact Writes.leaf_new database.tree }
  have reflects : screen.Reflects database.tree (History.after text inputs) := by
    refine System.Run.invariant
      (fun inputs screen =>
        screen.Reflects database.tree (History.after text inputs))
      initially ?_ run
    intro inputs input before after reflects _ performed
    rw [History.after_snoc]
    exact reflects.step performed
  refine ⟨reflects.leaves, reflects.presented, reflects.labels, ?_⟩
  intro input
  cases input with
  | editText edited =>
      cases edited with
      | none =>
          have missing :
              ({ screen with text := none, viewModel.text := ⟨none⟩ } :
                MainViewController).viewModel.text.value = none := rfl
          have crashed := driveIsEnabled_of_missing missing
          simp [system, perform, editText, crashed]
      | some edited =>
          have present :
              ({ screen with
                  text := some edited
                  viewModel.text := ⟨some edited⟩ } :
                MainViewController).viewModel.text.value = some edited := rfl
          obtain ⟨_, _, enabled⟩ :=
            driveIsEnabled_of_present present reflects.running.enableReady
          simp [system, perform, editText, enabled]
  | tap => simp [system, perform]
  | database input => simp [system, perform]

/-- The text "b" is submitted after "a", a leaf below `user/01` is gone, and what
was written to `test/val` has been removed. -/
theorem database_reflects_run_twice :
    ∃ loaded screen,
      (init ⟨.singleton ["user", "01", "name"] (.string "c"), []⟩
          (some "a")).viewDidLoad = .ok loaded ∧
        system.Run loaded
          [.tap, .database (.call (.updateValue "d")), .editText (some "b"),
            .tap, .database (.call .deleteValue)] screen ∧
        screen.presented.length = 2 ∧
        ∀ leaf, leaf ∈ screen.database.tree.leaves ↔
          leaf = (["user", "01", "val"], Scalar.string "b") := by
  obtain ⟨loaded, screen, load, run⟩ : ∃ loaded screen,
      (init ⟨.singleton ["user", "01", "name"] (.string "c"), []⟩
          (some "a")).viewDidLoad = .ok loaded ∧
        system.Run loaded
          [.tap, .database (.call (.updateValue "d")), .editText (some "b"),
            .tap, .database (.call .deleteValue)] screen :=
    ⟨_, _, rfl, System.run_of_replay rfl⟩
  obtain ⟨leaves, presented, _⟩ := database_reflects_run load run
  refine ⟨loaded, screen, load, run, presented, fun leaf => ?_⟩
  rw [leaves]
  constructor
  · rintro (⟨present, spares⟩ | ⟨_, same, rfl⟩ | ⟨_, impossible, _⟩)
    · obtain rfl := List.mem_singleton.mp present
      exact absurd (.inl ⟨["name"], rfl⟩) (spares.user rfl)
    · rw [← Option.some.inj same]
      rfl
    · exact absurd (Option.some.inj impossible) (by simp)
  · rintro rfl
    exact .inr (.inl ⟨"b", rfl, rfl⟩)

end MainViewController
end MVVMExample
