import MVVMExample.Platform
import MVVMExample.Storage.PathTree
import MVVMExample.Transition.System

/-!
# The Firebase wrapper

`TestFireBase` writes to two locations of the database and reads a third one.
`getValue()` registers a block that will store the value of a snapshot in a
local variable, and returns the variable before the block has run.
-/

namespace MVVMExample

open Storage Transition

/-- A leaf of a JSON tree. -/
inductive Scalar
  | string (value : String)
  | number (literal : String)
  | bool (value : Bool)
  deriving DecidableEq

/-- `snap.value as? String ?? ""`. -/
def stringValue : Snapshot Scalar → String
  | .leaf (.string value) => value
  | _ => ""

/-- The database, and the local variable of each call of `getValue()` so far,
which its block keeps writing to. -/
structure FirebaseDatabase where
  tree : PathTree String Scalar
  captured : List String := []

namespace TestFireBase

/-- Replace `user/01` by `["val": value]`. -/
def setValue (database : FirebaseDatabase) (value : String) :
    FirebaseDatabase :=
  { database with
      tree := database.tree.write ["user", "01"]
        (.singleton ["val"] (.string value)) }

/-- Observe `test` and return the local variable. -/
def getValue (database : FirebaseDatabase) : FirebaseDatabase × String :=
  let value := ""
  ({ database with captured := database.captured ++ [value] }, value)

/-- Update the children `["val": value]` of `test`. -/
def updateValue (database : FirebaseDatabase) (value : String) :
    FirebaseDatabase :=
  { database with
      tree := database.tree.write ["test", "val"]
        (.singleton [] (.string value)) }

/-- Remove `test/val`. -/
def deleteValue (database : FirebaseDatabase) : FirebaseDatabase :=
  { database with tree := database.tree.remove ["test", "val"] }

/-- The database runs the block of one call of `getValue()` with the current
snapshot of `test`. -/
def deliver (database : FirebaseDatabase) (observer : Nat) :
    FirebaseDatabase :=
  { database with
      captured := database.captured.set observer
        (stringValue (database.tree.snapshot ["test"])) }

/-- The writing calls of the wrapper. -/
inductive Call
  | setValue (value : String)
  | updateValue (value : String)
  | deleteValue
  deriving DecidableEq

namespace Call

/-- Perform a writing call. -/
def perform (database : FirebaseDatabase) : Call → FirebaseDatabase
  | .setValue value => TestFireBase.setValue database value
  | .updateValue value => TestFireBase.updateValue database value
  | .deleteValue => TestFireBase.deleteValue database

/-- What should be read after a call. -/
def expected : Call → String
  | .setValue value => value
  | .updateValue value => value
  | .deleteValue => ""

/-- A call that deletes, or writes the empty string. -/
def Clears (call : Call) : Prop :=
  call = .deleteValue ∨ call = .setValue "" ∨ call = .updateValue ""

theorem expected_eq_empty_iff {call : Call} :
    call.expected = "" ↔ call.Clears := by
  cases call <;> simp [expected, Clears]

end Call

/-- What happens to the database: a writing call, a call of `getValue()`, or a
delivery to the block of an earlier `getValue()`. -/
inductive Input
  | call (call : Call)
  | getValue
  | deliver (observer : Nat)
  deriving DecidableEq

/-- Perform one input. -/
def perform (database : FirebaseDatabase) : Input → FirebaseDatabase
  | .call call => call.perform database
  | .getValue => (getValue database).1
  | .deliver observer => deliver database observer

/-- Only registered blocks run. -/
def CanPerform (database : FirebaseDatabase) : Input → Prop
  | .call _ => True
  | .getValue => True
  | .deliver observer => observer < database.captured.length

instance (database : FirebaseDatabase) (input : Input) :
    Decidable (CanPerform database input) :=
  match input with
  | .call _ => inferInstanceAs (Decidable True)
  | .getValue => inferInstanceAs (Decidable True)
  | .deliver _ => inferInstanceAs (Decidable (_ < _))

/-- Calls and deliveries interleave freely. -/
def system : System FirebaseDatabase Input Crash where
  Enabled := CanPerform
  step := fun database input => .ok (perform database input)

instance (database : FirebaseDatabase) (input : Input) :
    Decidable (system.Enabled database input) :=
  inferInstanceAs (Decidable (CanPerform database input))

/-- The last writing call of a list of inputs. -/
def lastCall (inputs : List Input) : Option Call :=
  (inputs.filterMap fun input =>
    match input with
    | .call call => some call
    | _ => none).getLast?

/-- A following `getValue()` returns what the last writing call wrote. -/
def ReadsBack (inputs : List Input) (database : FirebaseDatabase) : Prop :=
  ∃ call ∈ lastCall inputs, (getValue database).2 = call.expected

/-- The value is read back exactly when the last writing call cleared it. -/
theorem readsBack_iff {inputs : List Input} {database : FirebaseDatabase} :
    ReadsBack inputs database ↔ ∃ call ∈ lastCall inputs, call.Clears := by
  unfold ReadsBack
  apply exists_congr
  intro call
  apply and_congr_right
  intro _
  rw [← Call.expected_eq_empty_iff]
  exact eq_comm

/-! ## Where the writes go, and what the reader can see -/

/-- `setValue` writes to `user/01/val`. -/
theorem snapshot_setValue (database : FirebaseDatabase) (value : String) :
    (setValue database value).tree.snapshot ["user", "01", "val"] =
      .leaf (.string value) :=
  PathTree.snapshot_write_self database.tree _ ["user", "01"]
    (PathTree.snapshot_singleton_self ["val"] _)

/-- `updateValue` writes to `test/val`. -/
theorem snapshot_updateValue (database : FirebaseDatabase) (value : String) :
    (updateValue database value).tree.snapshot ["test", "val"] =
      .leaf (.string value) :=
  PathTree.snapshot_write_self database.tree _ ["test", "val"]
    (PathTree.snapshot_singleton_self [] _)

/-- `deleteValue` removes `test/val`. -/
theorem snapshot_deleteValue (database : FirebaseDatabase) :
    (deleteValue database).tree.snapshot ["test", "val"] = .null :=
  PathTree.snapshot_remove_self database.tree ["test", "val"]

/-- After `updateValue` there is a dictionary at `test`, not a string. -/
theorem snapshot_test_updateValue
    (database : FirebaseDatabase)
    (value : String) :
    (updateValue database value).tree.snapshot ["test"] = .dictionary :=
  PathTree.snapshot_write_above (PathTree.snapshot_singleton_self [] _)
    (by decide) (by decide)

/-- No writing call puts a leaf at `test`. -/
theorem snapshot_test_of_perform
    {database : FirebaseDatabase}
    {call : Call}
    {value : Scalar}
    (found : (call.perform database).tree.snapshot ["test"] = .leaf value) :
    database.tree.snapshot ["test"] = .leaf value := by
  cases call with
  | setValue text =>
      exact (PathTree.snapshot_write_eq_leaf_of_incomparable
        (by decide)).mp found
  | updateValue text =>
      rw [Call.perform, snapshot_test_updateValue] at found
      contradiction
  | deleteValue =>
      exact (PathTree.snapshot_remove_eq_leaf (by decide)).mp found

/-- A leaf at `test`, and a string that any block has stored, are from the
initial tree. -/
structure ReadsInitial
    (initial : PathTree String Scalar)
    (database : FirebaseDatabase) : Prop where
  leaf : ∀ value, database.tree.snapshot ["test"] = .leaf value →
    initial.snapshot ["test"] = .leaf value
  captured : ∀ value ∈ database.captured,
    value = "" ∨ initial.snapshot ["test"] = .leaf (.string value)

theorem stringValue_cases (snapshot : Snapshot Scalar) :
    stringValue snapshot = "" ∨
      snapshot = .leaf (.string (stringValue snapshot)) := by
  unfold stringValue
  split
  · exact Or.inr rfl
  · exact Or.inl rfl

/-- The step lemma: whatever is called or delivered, the reader sees nothing
but the initial tree. -/
theorem ReadsInitial.step
    {initial : PathTree String Scalar}
    {database : FirebaseDatabase}
    (reads : ReadsInitial initial database)
    (input : Input) :
    ReadsInitial initial (perform database input) := by
  cases input with
  | call call =>
      refine ⟨fun value found => reads.leaf value
        (snapshot_test_of_perform found), ?_⟩
      cases call <;> exact reads.captured
  | getValue =>
      refine ⟨reads.leaf, fun value listed => ?_⟩
      rcases List.mem_append.mp listed with old | new
      · exact reads.captured value old
      · exact Or.inl (List.mem_singleton.mp new)
  | deliver observer =>
      refine ⟨reads.leaf, fun value listed => ?_⟩
      rcases List.mem_or_eq_of_mem_set listed with old | rfl
      · exact reads.captured value old
      · rcases stringValue_cases (database.tree.snapshot ["test"]) with
          empty | isString
        · exact Or.inl empty
        · exact Or.inr (reads.leaf _ isString)

/-- The run lemma. -/
theorem ReadsInitial.of_run
    {initial : PathTree String Scalar}
    {inputs : List Input}
    {database : FirebaseDatabase}
    (run : system.Run ⟨initial, []⟩ inputs database) :
    ReadsInitial initial database := by
  refine System.Run.invariant
    (fun _ database => ReadsInitial initial database)
    ⟨fun _ found => found, by simp⟩ ?_ run
  intro _ input before after reads _ performed
  cases performed
  exact reads.step input

end TestFireBase
end MVVMExample
