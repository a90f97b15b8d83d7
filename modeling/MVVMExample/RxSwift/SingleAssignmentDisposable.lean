import MVVMExample.Platform
import MVVMExample.Transition.Pool
import Mathlib.Data.Multiset.Filter

/-!
# Disposables that are assigned once

`SingleAssignmentDisposable` and the `SinkDisposer` of a producer are assigned
their resources after they have been handed out, so that disposal may come
before, after or in the middle of the assignment. Both coordinate with an atomic
or on one integer: the call that finds the flag of the other one set disposes of
the resources.

In every interleaving of one assignment with any number of disposals, the
resources are disposed of at most once and in order; when the calls have
returned, they have been disposed of if there was a disposal, and the reference
to them is cleared; and neither fatal error is reached.
-/

namespace MVVMExample
namespace RxSwift

open Transition

/-- The shared state: the flags, the resources once they have been assigned, and
the resources that have been disposed of so far. -/
structure DisposerState (Resource : Type*) where
  state : BitVec 32 := 0
  resources : Option (List Resource) := none
  disposed : List Resource := []
  deriving DecidableEq

/-- The flag `disposed`. -/
def disposedFlag : BitVec 32 := 1

/-- The flag `disposableSet`, which is also `sinkAndSubscriptionSet`. -/
def assignedFlag : BitVec 32 := 2

/-- The messages of the two fatal errors of a disposer. -/
structure DisposerMessages where
  alreadySet : String
  notSet : String

/-- The messages of `SingleAssignmentDisposable`. -/
def singleAssignmentMessages : DisposerMessages where
  alreadySet := "oldState.disposable != nil"
  notSet := "Disposable not set"

/-- The messages of `SinkDisposer`. -/
def sinkDisposerMessages : DisposerMessages where
  alreadySet := "Sink and subscription were already set"
  notSet := "Sink not set"

/-- Calls of a disposer, by their next action. -/
inductive DisposerCall (Resource : Type*)
  | assign (resources : List Resource)
  | setFlag (resources : List Resource)
  | dispose
  | take
  | disposeOf (resources : List Resource)
  | returned
  deriving DecidableEq

namespace DisposerCall

variable {Resource : Type*}

/-- `SingleAssignmentDisposable.setDisposable` -/
def setDisposable (disposable : Resource) : DisposerCall Resource :=
  .assign [disposable]

/-- `SinkDisposer.setSinkAndSubscription` -/
def setSinkAndSubscription (sink subscription : Resource) :
    DisposerCall Resource :=
  .assign [sink, subscription]

/-- The next action of a call. -/
def next (messages : DisposerMessages) (shared : DisposerState Resource) :
    DisposerCall Resource →
      Option (Except Trap (DisposerState Resource × DisposerCall Resource))
  | .assign resources =>
      some (.ok ({ shared with resources := some resources },
        .setFlag resources))
  | .setFlag resources =>
      let previousState := shared.state
      let shared := { shared with state := previousState ||| assignedFlag }
      if previousState &&& assignedFlag ≠ 0 then
        some (.error (.fatalError messages.alreadySet))
      else if previousState &&& disposedFlag ≠ 0 then
        some (.ok (shared, .disposeOf resources))
      else some (.ok (shared, .returned))
  | .dispose =>
      let previousState := shared.state
      let shared := { shared with state := previousState ||| disposedFlag }
      if previousState &&& disposedFlag ≠ 0 then some (.ok (shared, .returned))
      else if previousState &&& assignedFlag ≠ 0 then some (.ok (shared, .take))
      else some (.ok (shared, .returned))
  | .take =>
      match shared.resources with
      | none => some (.error (.fatalError messages.notSet))
      | some resources => some (.ok (shared, .disposeOf resources))
  | .disposeOf (resource :: resources) =>
      some (.ok ({ shared with disposed := shared.disposed ++ [resource] },
        .disposeOf resources))
  | .disposeOf [] => some (.ok ({ shared with resources := none }, .returned))
  | .returned => none

/-- Calls start with an assignment or a disposal. -/
def CanStart (_ : DisposerState Resource) : DisposerCall Resource → Prop
  | .assign _ => True
  | .dispose => True
  | _ => False

instance (shared : DisposerState Resource) (call : DisposerCall Resource) :
    Decidable (CanStart shared call) :=
  match call with
  | .assign _ => inferInstanceAs (Decidable True)
  | .setFlag _ => inferInstanceAs (Decidable False)
  | .dispose => inferInstanceAs (Decidable True)
  | .take => inferInstanceAs (Decidable False)
  | .disposeOf _ => inferInstanceAs (Decidable False)
  | .returned => inferInstanceAs (Decidable False)

/-- Calls of a disposer on any threads. -/
def program (messages : DisposerMessages) :
    Program (DisposerState Resource) (DisposerCall Resource) Trap where
  CanStart := CanStart
  next := next messages

instance
    (messages : DisposerMessages)
    (shared : DisposerState Resource)
    (call : DisposerCall Resource) :
    Decidable ((program messages).CanStart shared call) :=
  inferInstanceAs (Decidable (CanStart shared call))

/-- A call that takes part in the assignment or in the disposal of the
resources. -/
def active : DisposerCall Resource → Bool
  | .dispose => false
  | .returned => false
  | _ => true

/-- The resources of the assignments among a list of inputs. -/
def assignments (inputs : List (PoolInput (DisposerCall Resource))) :
    List (List Resource) :=
  inputs.filterMap fun input =>
    match input with
    | .start (.assign resources) => some resources
    | _ => none

/-- A disposal was started. -/
def DisposeStarted (inputs : List (PoolInput (DisposerCall Resource))) : Prop :=
  PoolInput.start .dispose ∈ inputs

/-- How far assignment and disposal have got. The list has the calls that take
part in them. -/
inductive Progress :
    List (List Resource) → DisposerState Resource →
      List (DisposerCall Resource) → Prop
  | unassigned
      {state : BitVec 32}
      {resources : Option (List Resource)}
      (flags : state = 0 ∨ state = 1) :
      Progress [] ⟨state, resources, []⟩ []
  | assigning
      {state : BitVec 32}
      {resources : Option (List Resource)}
      {assigned : List Resource}
      (flags : state = 0 ∨ state = 1) :
      Progress [assigned] ⟨state, resources, []⟩ [.assign assigned]
  | settingFlag
      {state : BitVec 32}
      {assigned : List Resource}
      (flags : state = 0 ∨ state = 1) :
      Progress [assigned] ⟨state, some assigned, []⟩ [.setFlag assigned]
  | assigned
      {assigned : List Resource} :
      Progress [assigned] ⟨2, some assigned, []⟩ []
  | taking
      {assigned : List Resource} :
      Progress [assigned] ⟨3, some assigned, []⟩ [.take]
  | disposing
      {resources : Option (List Resource)}
      {disposed rest : List Resource} :
      Progress [disposed ++ rest] ⟨3, resources, disposed⟩ [.disposeOf rest]
  | disposed
      {assigned : List Resource} :
      Progress [assigned] ⟨3, none, assigned⟩ []

/-- The call, if it takes part. -/
def part (call : DisposerCall Resource) : List (DisposerCall Resource) :=
  if call.active then [call] else []

theorem filter_active_cons
    (call : DisposerCall Resource)
    (others : Multiset (DisposerCall Resource)) :
    (call ::ₘ others).filter (fun call => call.active = true) =
      (call.part : Multiset (DisposerCall Resource)) +
        others.filter (fun call => call.active = true) := by
  cases isActive : call.active <;> simp [part, isActive]

namespace Progress

variable
    {assigned : List (List Resource)}
    {shared : DisposerState Resource}
    {taking : List (DisposerCall Resource)}

/-- At most one call takes part at a time. -/
theorem eq_singleton
    {call : DisposerCall Resource}
    {others : Multiset (DisposerCall Resource)}
    (progress : Progress assigned shared taking)
    (isActive : call.active = true)
    (isTaking :
      (call ::ₘ others).filter (fun call => call.active = true) = taking) :
    taking = [call] ∧
      others.filter (fun call => call.active = true) = 0 := by
  rw [filter_active_cons, part, if_pos isActive] at isTaking
  have size : taking.length ≤ 1 := by
    cases progress <;> simp
  have card := congrArg Multiset.card isTaking
  simp only [Multiset.card_add, Multiset.coe_card, List.length_singleton]
    at card
  have nothing : others.filter (fun call => call.active = true) = 0 :=
    Multiset.card_eq_zero.mp (by omega)
  rw [nothing, Multiset.add_zero, Multiset.coe_eq_coe] at isTaking
  exact ⟨List.perm_singleton.mp isTaking.symm, nothing⟩

/-- The next action of a call that takes part is no fatal error. -/
theorem next_active
    {call : DisposerCall Resource}
    (progress : Progress assigned shared [call])
    (messages : DisposerMessages) :
    ∃ after later, next messages shared call = some (.ok (after, later)) ∧
      Progress assigned after later.part ∧ later ≠ .dispose ∧
        after.state &&& disposedFlag = shared.state &&& disposedFlag := by
  cases progress with
  | @assigning state resources assigned flags =>
      exact ⟨⟨state, some assigned, []⟩, .setFlag assigned, rfl,
        .settingFlag flags, by simp, rfl⟩
  | @settingFlag state assigned flags =>
      rcases flags with rfl | rfl
      · refine ⟨⟨2, some assigned, []⟩, .returned, ?_, .assigned, by simp, ?_⟩
        · simp [next, assignedFlag, disposedFlag]
        · simp [disposedFlag]
      · have disposing : Progress [[] ++ assigned] ⟨3, some assigned, []⟩
            [.disposeOf assigned] := .disposing
        refine ⟨_, .disposeOf assigned, ?_, disposing, by simp, ?_⟩
        · simp [next, assignedFlag, disposedFlag]
        · simp [disposedFlag]
  | @taking assigned =>
      have disposing : Progress [[] ++ assigned] ⟨3, some assigned, []⟩
          [.disposeOf assigned] := .disposing
      exact ⟨_, .disposeOf assigned, rfl, disposing, by simp, rfl⟩
  | @disposing resources disposed rest =>
      cases rest with
      | nil =>
          refine ⟨⟨3, none, disposed⟩, .returned, rfl, ?_, by simp, rfl⟩
          rw [List.append_nil]
          exact .disposed
      | cons resource rest =>
          have moved : disposed ++ resource :: rest =
              (disposed ++ [resource]) ++ rest := by simp
          rw [moved]
          exact ⟨⟨3, resources, disposed ++ [resource]⟩, .disposeOf rest, rfl,
            .disposing, by simp, rfl⟩

/-- A disposal sets its flag, and takes the resources if they are assigned and
it is the first. -/
theorem next_dispose
    (progress : Progress assigned shared taking)
    (messages : DisposerMessages) :
    ∃ after later, next messages shared .dispose = some (.ok (after, later)) ∧
      Progress assigned after (later.part ++ taking) ∧ later ≠ .dispose ∧
        after.state &&& disposedFlag ≠ 0 := by
  have flag : (1 : BitVec 32) &&& disposedFlag ≠ 0 ∧
      (3 : BitVec 32) &&& disposedFlag ≠ 0 := by decide
  cases progress with
  | @unassigned state resources flags =>
      refine ⟨⟨1, resources, []⟩, .returned, ?_, .unassigned (.inr rfl),
        by simp, flag.1⟩
      rcases flags with rfl | rfl <;> simp [next, assignedFlag, disposedFlag]
  | @assigning state resources assigned flags =>
      refine ⟨⟨1, resources, []⟩, .returned, ?_, .assigning (.inr rfl),
        by simp, flag.1⟩
      rcases flags with rfl | rfl <;> simp [next, assignedFlag, disposedFlag]
  | @settingFlag state assigned flags =>
      refine ⟨⟨1, some assigned, []⟩, .returned, ?_, .settingFlag (.inr rfl),
        by simp, flag.1⟩
      rcases flags with rfl | rfl <;> simp [next, assignedFlag, disposedFlag]
  | @assigned assigned =>
      refine ⟨⟨3, some assigned, []⟩, .take, ?_, .taking, by simp, flag.2⟩
      simp [next, assignedFlag, disposedFlag]
  | @taking assigned =>
      refine ⟨⟨3, some assigned, []⟩, .returned, ?_, .taking, by simp, flag.2⟩
      simp [next, disposedFlag]
  | @disposing resources disposed rest =>
      refine ⟨⟨3, resources, disposed⟩, .returned, ?_, .disposing, by simp,
        flag.2⟩
      simp [next, disposedFlag]
  | @disposed assigned =>
      refine ⟨⟨3, none, assigned⟩, .returned, ?_, .disposed, by simp, flag.2⟩
      simp [next, disposedFlag]

end Progress

/-- The invariant: progress is as the calls say, and a disposal that was started
has set its flag or will do so. -/
structure Coordinated
    (inputs : List (PoolInput (DisposerCall Resource)))
    (shared : DisposerState Resource)
    (calls : Multiset (DisposerCall Resource)) : Prop where
  progress : ∃ taking : List (DisposerCall Resource),
    calls.filter (fun call => call.active = true) = taking ∧
      Progress (assignments inputs) shared taking
  flagged : DisposeStarted inputs →
    DisposerCall.dispose ∈ calls ∨ shared.state &&& disposedFlag ≠ 0
  started :
    DisposerCall.dispose ∈ calls ∨ shared.state &&& disposedFlag ≠ 0 →
      DisposeStarted inputs

theorem coordinated_new :
    Coordinated [] ({} : DisposerState Resource) 0 where
  progress := ⟨[], rfl, .unassigned (.inl rfl)⟩
  flagged := by simp [DisposeStarted]
  started := by
    rintro (present | flagged)
    · simp at present
    · simp at flagged

namespace Coordinated

variable
    {inputs : List (PoolInput (DisposerCall Resource))}
    {shared : DisposerState Resource}
    {messages : DisposerMessages}

/-- Starting the only assignment, or a disposal. -/
theorem start
    {calls : Multiset (DisposerCall Resource)}
    {call : DisposerCall Resource}
    (coordinated : Coordinated inputs shared calls)
    (canStart : CanStart shared call)
    (single : (assignments (inputs ++ [.start call])).length ≤ 1) :
    Coordinated (inputs ++ [.start call]) shared (call ::ₘ calls) := by
  obtain ⟨taking, isTaking, progress⟩ := coordinated.progress
  have flagged := coordinated.flagged
  have started := coordinated.started
  cases call with
  | assign resources =>
      have assigned : assignments (inputs ++ [.start (.assign resources)]) =
          assignments inputs ++ [resources] := by
        simp [assignments]
      rw [assigned, List.length_append, List.length_singleton] at single
      have none : assignments inputs = [] :=
        List.length_eq_zero_iff.mp (by omega)
      rw [none] at progress
      constructor
      · refine ⟨[.assign resources], ?_, ?_⟩
        · cases progress with
          | unassigned flags =>
              rw [filter_active_cons, isTaking]
              rfl
        · rw [assigned, none]
          cases progress with
          | unassigned flags => exact .assigning flags
      · simpa [DisposeStarted] using flagged
      · simpa [DisposeStarted] using started
  | dispose =>
      constructor
      · refine ⟨taking, ?_, ?_⟩
        · rw [filter_active_cons, isTaking]
          exact Multiset.zero_add _
        · simpa [assignments] using progress
      · simp
      · simp [DisposeStarted]
  | setFlag resources => contradiction
  | take => contradiction
  | disposeOf resources => contradiction
  | returned => contradiction

/-- No action of a call is a fatal error, and every action keeps the
invariant. -/
theorem next
    {call : DisposerCall Resource}
    {others : Multiset (DisposerCall Resource)}
    {result : Except Trap (DisposerState Resource × DisposerCall Resource)}
    (coordinated : Coordinated inputs shared (call ::ₘ others))
    (ran : next messages shared call = some result)
    (index : Nat) :
    ∃ after later, result = .ok (after, later) ∧
      Coordinated (inputs ++ [.run index]) after (later ::ₘ others) := by
  obtain ⟨taking, isTaking, progress⟩ := coordinated.progress
  have flagged := coordinated.flagged
  have started := coordinated.started
  have sameAssignments : assignments (inputs ++ [.run index]) =
      assignments inputs := by
    simp [assignments]
  have sameStarted : DisposeStarted (inputs ++ [.run index]) ↔
      DisposeStarted inputs := by
    simp [DisposeStarted]
  cases isActive : call.active with
  | true =>
      obtain ⟨rfl, nothing⟩ := progress.eq_singleton isActive isTaking
      obtain ⟨after, later, next, stillProgress, notDispose, sameFlag⟩ :=
        progress.next_active messages
      obtain rfl := Option.some.inj (ran.symm.trans next)
      have notDisposing : call ≠ .dispose := by
        rintro rfl
        contradiction
      refine ⟨after, later, rfl, ⟨later.part, ?_, ?_⟩, ?_, ?_⟩
      · rw [filter_active_cons, nothing, Multiset.add_zero]
      · rwa [sameAssignments]
      · rw [sameStarted, sameFlag]
        simpa [notDisposing.symm, notDispose.symm] using flagged
      · rw [sameStarted, sameFlag]
        simpa [notDisposing.symm, notDispose.symm] using started
  | false =>
      cases call with
      | dispose =>
          obtain ⟨after, later, next, stillProgress, notDispose, isFlagged⟩ :=
            progress.next_dispose messages
          obtain rfl := Option.some.inj (ran.symm.trans next)
          refine ⟨after, later, rfl, ⟨later.part ++ taking, ?_, ?_⟩, ?_, ?_⟩
          · rw [filter_active_cons, ← Multiset.coe_add, ← isTaking,
              filter_active_cons]
            simp [part, active]
          · rwa [sameAssignments]
          · exact fun _ => .inr isFlagged
          · rw [sameStarted]
            exact fun _ => started (.inl (Multiset.mem_cons_self _ _))
      | returned => simp [DisposerCall.next] at ran
      | assign resources => contradiction
      | setFlag resources => contradiction
      | take => contradiction
      | disposeOf resources => contradiction

/-- The run lemma. -/
theorem of_run
    {pool : Pool (DisposerState Resource) (DisposerCall Resource)}
    (run : (program messages).system.Run ⟨{}, []⟩ inputs pool)
    (single : (assignments inputs).length ≤ 1) :
    Coordinated inputs pool.shared pool.calls := by
  have fewer : ∀ (inputs : List (PoolInput (DisposerCall Resource))) input,
      (assignments (inputs ++ [input])).length ≤ 1 →
        (assignments inputs).length ≤ 1 := by
    intro inputs input few
    rw [assignments, List.filterMap_append, List.length_append] at few
    unfold assignments
    omega
  refine Program.invariant
    (fun inputs shared calls => (assignments inputs).length ≤ 1 →
      Coordinated inputs shared calls)
    (fun _ => coordinated_new) ?_ ?_ run single
  · intro inputs shared calls call coordinated canStart few
    exact (coordinated (fewer _ _ few)).start canStart few
  · intro inputs index shared after call later others coordinated ran few
    obtain ⟨_, _, isResult, stillCoordinated⟩ :=
      (coordinated (fewer _ _ few)).next ran index
    cases isResult
    exact stillCoordinated

end Coordinated

/-- What was disposed of is a beginning of what was assigned. -/
theorem Progress.prefix_assigned
    {assigned : List (List Resource)}
    {shared : DisposerState Resource}
    {taking : List (DisposerCall Resource)}
    (progress : Progress assigned shared taking) :
    shared.disposed <+: assigned.flatten := by
  cases progress <;> simp

/-- In every interleaving of at most one assignment with any number of disposals,
the resources are disposed of at most once and in order, and no action is a fatal
error. When all calls have returned, the resources have been disposed of if a
disposal was started, and are not referenced any more; otherwise none of them has
been. -/
theorem disposed_once
    {messages : DisposerMessages}
    {inputs : List (PoolInput (DisposerCall Resource))}
    {pool : Pool (DisposerState Resource) (DisposerCall Resource)}
    (run : (program messages).system.Run ⟨{}, []⟩ inputs pool)
    (single : (assignments inputs).length ≤ 1) :
    pool.shared.disposed <+: (assignments inputs).flatten ∧
      (∀ input, (program messages).system.Enabled pool input →
        ∃ after, (program messages).system.step pool input = .ok after) ∧
      ((∀ call ∈ pool.calls, call = .returned) →
        (DisposeStarted inputs →
          pool.shared.disposed = (assignments inputs).flatten ∧
            (assignments inputs ≠ [] → pool.shared.resources = none)) ∧
        (¬DisposeStarted inputs → pool.shared.disposed = [])) := by
  have coordinated := Coordinated.of_run run single
  obtain ⟨taking, isTaking, progress⟩ := coordinated.progress
  refine ⟨progress.prefix_assigned, ?_, ?_⟩
  · intro input enabled
    refine Program.exists_perform ?_ enabled
    intro call others isCall fault faulted
    rw [isCall] at coordinated
    obtain ⟨_, _, isResult, _⟩ := coordinated.next faulted 0
    cases isResult
  · intro allReturned
    have nothing : taking = [] := by
      rw [← Multiset.coe_eq_zero, ← isTaking, Multiset.filter_eq_nil]
      intro call present
      rw [allReturned call present]
      exact Bool.false_ne_true
    have noneWaits : DisposerCall.dispose ∉
        (pool.calls : Multiset (DisposerCall Resource)) := by
      intro present
      exact absurd (allReturned _ present) (by simp)
    have flag : pool.shared.state &&& disposedFlag ≠ 0 ↔
        DisposeStarted inputs :=
      ⟨fun flagged => coordinated.started (.inr flagged), fun started =>
        (coordinated.flagged started).resolve_left noneWaits⟩
    rw [← flag]
    obtain ⟨shared, calls⟩ := pool
    subst nothing
    generalize assignments inputs = assigned at progress
    cases progress with
    | unassigned flags => simp
    | assigned => simp [disposedFlag]
    | disposed => simp [disposedFlag]

/-- The disposal comes between the assignment and its flag. -/
theorem disposed_once_between :
    ∃ pool : Pool (DisposerState Nat) (DisposerCall Nat),
      (program sinkDisposerMessages).system.Run ⟨{}, []⟩
          [.start (setSinkAndSubscription 1 2), .run 0, .start .dispose, .run 1,
            .run 0, .run 0, .run 0, .run 0] pool ∧
        pool.calls = [.returned, .returned] ∧
        pool.shared.disposed = [1, 2] ∧ pool.shared.resources = none := by
  have run : (program sinkDisposerMessages).system.Run ⟨{}, []⟩
      [.start (setSinkAndSubscription 1 2), .run 0, .start .dispose, .run 1,
        .run 0, .run 0, .run 0, .run 0]
      (_ : Pool (DisposerState Nat) (DisposerCall Nat)) :=
    System.run_of_replay rfl
  obtain ⟨_, _, returned⟩ := disposed_once run (by decide)
  obtain ⟨disposed, cleared⟩ :=
    (returned (by decide)).1 (by simp [DisposeStarted])
  exact ⟨_, run, rfl, disposed, cleared (by decide)⟩

end DisposerCall

/-! ## Calls that run alone -/

/-- A single-assignment disposable between its calls. The history has how often
its disposable was disposed of. -/
structure SingleAssignmentDisposable where
  isDisposed : Bool := false
  disposableSet : Bool := false
  disposals : Nat := 0
  deriving DecidableEq

namespace SingleAssignmentDisposable

/-- Set the disposable. -/
def setDisposable (single : SingleAssignmentDisposable) :
    Except Trap SingleAssignmentDisposable :=
  if single.disposableSet then
    .error (.fatalError singleAssignmentMessages.alreadySet)
  else
    .ok { single with
            disposableSet := true
            disposals := single.disposals + if single.isDisposed then 1 else 0 }

/-- Dispose of the disposable, now or when it is set. -/
def dispose (single : SingleAssignmentDisposable) :
    SingleAssignmentDisposable :=
  if single.isDisposed then single
  else
    { single with
        isDisposed := true
        disposals := single.disposals + if single.disposableSet then 1 else 0 }

/-- The disposable has been disposed of once if it has been set and a call has
disposed of it, and not yet otherwise. -/
def Once (single : SingleAssignmentDisposable) : Prop :=
  single.disposals = (single.disposableSet && single.isDisposed).toNat

theorem once_new : Once {} := rfl

@[simp] theorem dispose_isDisposed (single : SingleAssignmentDisposable) :
    single.dispose.isDisposed = true := by
  unfold dispose
  split
  · assumption
  · rfl

@[simp] theorem dispose_disposableSet (single : SingleAssignmentDisposable) :
    single.dispose.disposableSet = single.disposableSet := by
  unfold dispose
  split <;> rfl

theorem disposals_le_dispose (single : SingleAssignmentDisposable) :
    single.disposals ≤ single.dispose.disposals := by
  unfold dispose
  split
  · exact Nat.le_refl _
  · exact Nat.le_add_right _ _

namespace Once

variable {single : SingleAssignmentDisposable}

theorem dispose (once : single.Once) : single.dispose.Once := by
  obtain ⟨isDisposed, disposableSet, disposals⟩ := single
  obtain rfl : disposals = (disposableSet && isDisposed).toNat := once
  cases isDisposed <;> cases disposableSet <;> rfl

/-- A disposable that has not been set is set without a fatal error. -/
theorem setDisposable
    (once : single.Once)
    (notSet : single.disposableSet = false) :
    ∃ after, single.setDisposable = .ok after ∧ after.Once ∧
      after.isDisposed = single.isDisposed ∧ after.disposableSet = true := by
  obtain ⟨isDisposed, disposableSet, disposals⟩ := single
  obtain rfl : disposableSet = false := notSet
  obtain rfl : disposals = (false && isDisposed).toNat := once
  refine ⟨_, rfl, ?_, rfl, rfl⟩
  cases isDisposed <;> rfl

/-- The disposable is disposed of at most once. -/
theorem le_one (once : single.Once) : single.disposals ≤ 1 := by
  rw [show single.disposals = _ from once]
  exact Bool.toNat_le _

end Once
end SingleAssignmentDisposable

namespace DisposerCall

variable {Resource : Type*}

/-- A call runs to its end while no other call does. -/
inductive Alone (messages : DisposerMessages) :
    DisposerState Resource → DisposerCall Resource →
      Except Trap (DisposerState Resource) → Prop
  | returned (shared : DisposerState Resource) :
      Alone messages shared .returned (.ok shared)
  | trap
      {shared : DisposerState Resource}
      {call : DisposerCall Resource}
      {trap : Trap}
      (trapped : next messages shared call = some (.error trap)) :
      Alone messages shared call (.error trap)
  | step
      {shared later : DisposerState Resource}
      {call rest : DisposerCall Resource}
      {result : Except Trap (DisposerState Resource)}
      (acted : next messages shared call = some (.ok (later, rest)))
      (alone : Alone messages later rest result) :
      Alone messages shared call result

/-- The shared state between calls: the flags, the resource while it has to be
kept, and how often it was disposed of. -/
def between
    (resource : Resource)
    (single : SingleAssignmentDisposable) : DisposerState Resource :=
  let disposed := List.replicate single.disposals resource
  match single.isDisposed, single.disposableSet with
  | false, false => ⟨0, none, disposed⟩
  | true, false => ⟨disposedFlag, none, disposed⟩
  | false, true => ⟨assignedFlag, some [resource], disposed⟩
  | true, true => ⟨disposedFlag ||| assignedFlag, none, disposed⟩

/-- An assignment that runs alone has the effect of the single step
`setDisposable`. -/
theorem setDisposable_alone
    (resource : Resource)
    (single : SingleAssignmentDisposable) :
    Alone singleAssignmentMessages (between resource single)
      (setDisposable resource)
      (single.setDisposable.map (between resource)) := by
  obtain ⟨isDisposed, disposableSet, disposals⟩ := single
  have trapped (flags : BitVec 32) (isSet : flags &&& assignedFlag ≠ 0)
      (disposed : List Resource) :
      Alone singleAssignmentMessages ⟨flags, some [resource], disposed⟩
        (.setFlag [resource])
        (.error (.fatalError singleAssignmentMessages.alreadySet)) :=
    .trap (by simp only [next, if_pos isSet])
  apply Alone.step rfl
  cases disposableSet with
  | true =>
      cases isDisposed with
      | false => exact trapped assignedFlag (by decide) _
      | true => exact trapped (disposedFlag ||| assignedFlag) (by decide) _
  | false =>
      cases isDisposed with
      | false =>
          have flagged : next singleAssignmentMessages
              ⟨0, some [resource], List.replicate disposals resource⟩
              (.setFlag [resource]) =
                some (.ok (⟨assignedFlag, some [resource],
                  List.replicate disposals resource⟩, .returned)) := by
            simp [next]
          exact Alone.step flagged (Alone.returned _)
      | true =>
          have flagged : next singleAssignmentMessages
              ⟨disposedFlag, some [resource],
                List.replicate disposals resource⟩
              (.setFlag [resource]) =
                some (.ok (⟨disposedFlag ||| assignedFlag, some [resource],
                  List.replicate disposals resource⟩,
                  .disposeOf [resource])) := by
            simp [next, disposedFlag, assignedFlag]
          apply Alone.step flagged
          apply Alone.step rfl
          apply Alone.step rfl
          rw [← List.replicate_succ']
          exact Alone.returned _

/-- A disposal that runs alone has the effect of the single step `dispose`. -/
theorem dispose_alone
    (resource : Resource)
    (single : SingleAssignmentDisposable) :
    Alone singleAssignmentMessages (between resource single) .dispose
      (.ok (between resource single.dispose)) := by
  obtain ⟨isDisposed, disposableSet, disposals⟩ := single
  have again (flags : BitVec 32) (isDisposed : flags &&& disposedFlag ≠ 0)
      (same : flags ||| disposedFlag = flags)
      (resources : Option (List Resource))
      (disposed : List Resource) :
      Alone singleAssignmentMessages ⟨flags, resources, disposed⟩ .dispose
        (.ok ⟨flags, resources, disposed⟩) := by
    have acted : next singleAssignmentMessages ⟨flags, resources, disposed⟩
        .dispose = some (.ok (⟨flags, resources, disposed⟩, .returned)) := by
      simp only [next, if_pos isDisposed, same]
    exact Alone.step acted (Alone.returned _)
  cases isDisposed with
  | true =>
      cases disposableSet with
      | false => exact again disposedFlag (by decide) (by decide) _ _
      | true =>
          exact again (disposedFlag ||| assignedFlag) (by decide) (by decide) _ _
  | false =>
      cases disposableSet with
      | false =>
          have flagged : next singleAssignmentMessages
              ⟨0, none, List.replicate disposals resource⟩ .dispose =
                some (.ok (⟨disposedFlag, none,
                  List.replicate disposals resource⟩, .returned)) := by
            simp [next]
          exact Alone.step flagged (Alone.returned _)
      | true =>
          have flagged : next singleAssignmentMessages
              ⟨assignedFlag, some [resource],
                List.replicate disposals resource⟩ .dispose =
                some (.ok (⟨disposedFlag ||| assignedFlag, some [resource],
                  List.replicate disposals resource⟩, .take)) := by
            simp [next, disposedFlag, assignedFlag]
          apply Alone.step flagged
          apply Alone.step rfl
          apply Alone.step rfl
          apply Alone.step rfl
          rw [← List.replicate_succ']
          exact Alone.returned _

end DisposerCall
end RxSwift
end MVVMExample
