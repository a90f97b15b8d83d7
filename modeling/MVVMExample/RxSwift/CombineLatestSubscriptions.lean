import MVVMExample.RxSwift.CombineLatest

/-!
# The subscriptions of a combining sink

The subscription to a source is disposed of when the source ends, and by the group
when the combined sequence ends or is disposed of, which may happen while later
sources are still being subscribed to. In every interleaving each of them is
released once, and none before its source or the combined sequence has ended or
has been disposed of.
-/

namespace MVVMExample
namespace RxSwift

open Reactive Transition

namespace CombineLatestSink

variable
    {Failure Result : Type*}
    {arity : Nat}
    {Element : Fin arity → Type*}
    {resultSelector : ((index : Fin arity) → Element index) →
      Except Failure Result}
    {sink after : CombineLatestSink Failure Result Element}

/-- Which subscriptions have been disposed of, and how far the disposer has
got. -/
structure Custody (sink : CombineLatestSink Failure Result Element) : Prop where
  once : ∀ index, (sink.subscriptions index).Once
  isDisposed : ∀ index, (sink.subscriptions index).isDisposed = true ↔
    sink.ended index = true ∨ index < sink.released
  assigned : sink.cancel.disposableSet = true →
    ∀ index, (sink.subscriptions index).disposableSet = true
  cancelOnce : sink.cancel.Once
  canceled : sink.disposed = true → sink.cancel.isDisposed = true
  sinkDisposed : 0 < sink.sinkDisposals → sink.disposed = true
  sinkDisposals : sink.sinkDisposals ≤ sink.cancel.disposals
  groupDisposals : sink.groupDisposals ≤ sink.sinkDisposals
  released : 0 < sink.released → 0 < sink.groupDisposals

namespace Custody

theorem new : ({} : CombineLatestSink Failure Result Element).Custody where
  once := fun _ => SingleAssignmentDisposable.once_new
  isDisposed := fun _ => by simp
  assigned := fun impossible => by cases impossible
  cancelOnce := SingleAssignmentDisposable.once_new
  canceled := fun impossible => by cases impossible
  sinkDisposed := fun impossible => absurd impossible (Nat.lt_irrefl 0)
  sinkDisposals := Nat.le_refl 0
  groupDisposals := Nat.le_refl 0
  released := id

theorem forwardOn
    (custody : sink.Custody)
    (event : Event Failure Result) :
    (sink.forwardOn event).Custody := by
  unfold CombineLatestSink.forwardOn
  split
  · exact custody
  · exact { custody with }

theorem dispose (custody : sink.Custody) : sink.dispose.Custody where
  once := custody.once
  isDisposed := custody.isDisposed
  assigned := fun isSet => custody.assigned (by
    rwa [CombineLatestSink.dispose,
      SingleAssignmentDisposable.dispose_disposableSet] at isSet)
  cancelOnce := custody.cancelOnce.dispose
  canceled := fun _ => sink.cancel.dispose_isDisposed
  sinkDisposed := fun _ => rfl
  sinkDisposals :=
    Nat.le_trans custody.sinkDisposals sink.cancel.disposals_le_dispose
  groupDisposals := custody.groupDisposals
  released := custody.released

/-- The subscription to one source is disposed of. -/
theorem disposeThis
    (custody : sink.Custody)
    (index : Fin arity) :
    (sink.disposeThis index).Custody :=
  { custody with
    once := fun other => by
      dsimp only [CombineLatestSink.disposeThis]
      by_cases same : other = index
      · subst same
        rw [Function.update_self]
        exact (custody.once other).dispose
      · rw [Function.update_of_ne same]
        exact custody.once other
    isDisposed := fun other => by
      dsimp only [CombineLatestSink.disposeThis]
      by_cases same : other = index
      · subst same
        simp
      · rw [Function.update_of_ne same, Function.update_of_ne same]
        exact custody.isDisposed other
    assigned := fun isSet other => by
      dsimp only [CombineLatestSink.disposeThis]
      by_cases same : other = index
      · subst same
        rw [Function.update_self,
          SingleAssignmentDisposable.dispose_disposableSet]
        exact custody.assigned isSet other
      · rw [Function.update_of_ne same]
        exact custody.assigned isSet other }

/-- An element of a source changes no subscription until the sequence ends. -/
theorem settle
    (custody : sink.Custody)
    (index : Fin arity) :
    (sink.settle resultSelector index).Custody := by
  unfold CombineLatestSink.settle
  split
  · split
    · exact (custody.forwardOn _).dispose
    · exact custody
  · split
    · exact (custody.forwardOn _).dispose
    · exact custody.forwardOn _

theorem store
    (custody : sink.Custody)
    (index : Fin arity)
    (value : Element index) :
    ((sink.setLatestValue index value).countValue index).Custody := by
  unfold countValue
  split
  · exact { custody with }
  · exact { custody with }

theorem done
    (custody : sink.Custody)
    (index : Fin arity) :
    (sink.done index).Custody := by
  unfold CombineLatestSink.done
  split
  · exact custody
  · dsimp only
    split
    · apply dispose
      apply forwardOn
      exact { custody with }
    · exact { custody with }

/-- An event of a source. -/
theorem on
    (custody : sink.Custody)
    (counts : sink.Counts)
    {index : Fin arity}
    {event : Event Failure (Element index)}
    (performed : sink.on resultSelector index event = .ok after) :
    after.Custody := by
  cases event with
  | next value =>
      have isAfter :=
        (next_eq (counts.store index value)).symm.trans performed
      cases isAfter
      exact (custody.store index value).settle index
  | error failure =>
      cases performed
      exact ((custody.disposeThis index).forwardOn _).dispose
  | completed =>
      cases performed
      exact (custody.disposeThis index).done index

/-- A subscription to a source has returned. -/
theorem setDisposable
    (custody : sink.Custody)
    {index : Fin arity}
    (notSet : (sink.subscriptions index).disposableSet = false)
    (performed : sink.setDisposable index = .ok after) :
    after.Custody := by
  obtain ⟨subscription, set, once, sameDisposed, isSet⟩ :=
    (custody.once index).setDisposable notSet
  simp only [CombineLatestSink.setDisposable, set] at performed
  cases performed
  exact
    { custody with
      once := fun other => by
        dsimp only
        by_cases same : other = index
        · subst same
          rw [Function.update_self]
          exact once
        · rw [Function.update_of_ne same]
          exact custody.once other
      isDisposed := fun other => by
        dsimp only
        by_cases same : other = index
        · subst same
          rw [Function.update_self, sameDisposed]
          exact custody.isDisposed other
        · rw [Function.update_of_ne same]
          exact custody.isDisposed other
      assigned := fun assigned other => by
        dsimp only
        by_cases same : other = index
        · subst same
          rw [Function.update_self]
          exact isSet
        · rw [Function.update_of_ne same]
          exact custody.assigned assigned other }

/-- All subscriptions have returned, and the disposer gets the sink and the
group. -/
theorem setSinkAndSubscription
    (custody : sink.Custody)
    (notSet : sink.cancel.disposableSet = false)
    (allSet : ∀ index, (sink.subscriptions index).disposableSet = true)
    (performed : sink.setSinkAndSubscription = .ok after) :
    after.Custody := by
  obtain ⟨cancel, set, once, sameDisposed, isSet⟩ :=
    custody.cancelOnce.setDisposable notSet
  have more : sink.cancel.disposals ≤ cancel.disposals := by
    have none : sink.cancel.disposals = 0 := by
      rw [show sink.cancel.disposals = _ from custody.cancelOnce, notSet]
      rfl
    omega
  simp only [CombineLatestSink.setSinkAndSubscription, set] at performed
  cases performed
  exact
    { custody with
      assigned := fun _ => allSet
      cancelOnce := once
      canceled := fun disposed => sameDisposed.trans (custody.canceled disposed)
      sinkDisposals := Nat.le_trans custody.sinkDisposals more }

/-- The group disposes of its next subscription. -/
theorem disposeNext
    (custody : sink.Custody)
    (begun : 0 < sink.groupDisposals)
    (inside : sink.released < arity) :
    sink.disposeNext.Custody := by
  rw [CombineLatestSink.disposeNext, dif_pos inside]
  exact
    { custody with
      once := fun other => by
        dsimp only
        by_cases same : other = ⟨sink.released, inside⟩
        · rw [same, Function.update_self]
          exact (custody.once _).dispose
        · rw [Function.update_of_ne same]
          exact custody.once other
      isDisposed := fun other => by
        dsimp only
        by_cases same : other = ⟨sink.released, inside⟩
        · rw [same, Function.update_self]
          simp
        · rw [Function.update_of_ne same, custody.isDisposed other]
          have different : other.val ≠ sink.released :=
            fun equal => same (Fin.ext equal)
          have sameRange : other.val < sink.released ↔
              other.val < sink.released + 1 := by
            omega
          rw [sameRange]
      assigned := fun assigned other => by
        dsimp only
        by_cases same : other = ⟨sink.released, inside⟩
        · rw [same, Function.update_self,
            SingleAssignmentDisposable.dispose_disposableSet]
          exact custody.assigned assigned _
        · rw [Function.update_of_ne same]
          exact custody.assigned assigned other
      released := fun _ => begun }

/-- The step lemma. -/
theorem step
    (custody : sink.Custody)
    (counts : sink.Counts)
    {input : Input Failure Element}
    (enabled : sink.CanPerform input)
    (performed : sink.perform resultSelector input = .ok after) :
    after.Custody := by
  cases input with
  | source index event => exact custody.on counts performed
  | setDisposable index => exact custody.setDisposable enabled.2 performed
  | setSinkAndSubscription =>
      obtain ⟨allSubscribed, allSet, notSet⟩ := enabled
      exact custody.setSinkAndSubscription notSet
        (fun index => allSet index (by rw [allSubscribed]; exact index.isLt))
        performed
  | subscribe =>
      cases performed
      exact { custody with }
  | dispose =>
      cases performed
      exact
        { custody with
          assigned := fun isSet => custody.assigned (by
            rwa [SingleAssignmentDisposable.dispose_disposableSet] at isSet)
          cancelOnce := custody.cancelOnce.dispose
          canceled := fun _ => sink.cancel.dispose_isDisposed
          sinkDisposals := Nat.le_trans custody.sinkDisposals
            sink.cancel.disposals_le_dispose }
  | disposeSink =>
      cases performed
      have canDispose : sink.sinkDisposals < sink.cancel.disposals := enabled
      have more := sink.cancel.disposals_le_dispose
      exact
        { custody.dispose with
          sinkDisposed := fun _ => rfl
          sinkDisposals := Nat.le_trans canDispose more
          groupDisposals := Nat.le_succ_of_le custody.groupDisposals }
  | disposeGroup =>
      cases performed
      exact
        { custody with
          groupDisposals := enabled
          released := fun _ => Nat.succ_pos _ }
  | disposeNext =>
      cases performed
      exact custody.disposeNext enabled.1 enabled.2

/-- The run lemma. -/
theorem of_run
    {inputs : List (Input Failure Element)}
    (run : (system resultSelector).Run {} inputs sink) :
    sink.Custody := by
  have both : sink.Follows (.after resultSelector inputs) ∧ sink.Custody := by
    refine System.Run.invariant
      (fun inputs sink =>
        sink.Follows (.after resultSelector inputs) ∧ sink.Custody)
      ⟨.of_run .nil, .new⟩ ?_ run
    rintro inputs input before after ⟨follows, custody⟩ enabled performed
    exact ⟨follows.step enabled performed,
      custody.step follows.counts enabled performed⟩
  exact both.2

end Custody

/-- `run` and the calls that dispose of things have returned. -/
structure AtRest (sink : CombineLatestSink Failure Result Element) : Prop where
  assigned : sink.cancel.disposableSet = true
  sinkDisposed : sink.sinkDisposals = sink.cancel.disposals
  groupDisposed : sink.groupDisposals = sink.sinkDisposals
  released : 0 < sink.groupDisposals → sink.released = arity

namespace Custody

/-- The group is released only when the sink has been disposed of. -/
theorem disposed_of_released
    (custody : sink.Custody)
    (begun : 0 < sink.released) :
    sink.disposed = true := by
  have group := custody.released begun
  have ofSink := custody.groupDisposals
  exact custody.sinkDisposed (by omega)

/-- At rest, the group has been released if the sink has been disposed of. -/
theorem released_of_disposed
    (custody : sink.Custody)
    (atRest : sink.AtRest)
    (disposed : sink.disposed = true) :
    sink.released = arity := by
  have once : sink.cancel.disposals = 1 := by
    rw [show sink.cancel.disposals = _ from custody.cancelOnce,
      custody.canceled disposed, atRest.assigned]
    rfl
  have sinkDisposed := atRest.sinkDisposed
  have groupDisposed := atRest.groupDisposed
  exact atRest.released (by omega)

end Custody

/-- In every interleaving the subscription to a source is released at most once,
and not before the source or the combined sequence has ended or has been disposed
of. When no call is in the middle of something, it has been released just then. -/
theorem source_subscriptions_released_once
    {inputs : List (Input Failure Element)}
    (run : (system resultSelector).Run {} inputs sink)
    (index : Fin arity) :
    (sink.subscriptions index).disposals ≤ 1 ∧
      ((sink.subscriptions index).disposals = 1 →
        sink.disposed = true ∨ sink.ended index = true) ∧
      (sink.AtRest → (sink.subscriptions index).disposals =
        if sink.disposed ∨ sink.ended index then 1 else 0) := by
  have custody := Custody.of_run run
  have disposals : (sink.subscriptions index).disposals =
      ((sink.subscriptions index).disposableSet &&
        (sink.subscriptions index).isDisposed).toNat :=
    custody.once index
  have isDisposed := custody.isDisposed index
  refine ⟨(custody.once index).le_one, ?_, ?_⟩
  · intro isReleased
    rw [disposals, Bool.toNat_eq_one, Bool.and_eq_true] at isReleased
    rcases isDisposed.mp isReleased.2 with ended | inside
    · exact .inr ended
    · exact .inl (custody.disposed_of_released (Nat.zero_lt_of_lt inside))
  · intro atRest
    have released : (sink.subscriptions index).isDisposed = true ↔
        sink.disposed = true ∨ sink.ended index = true := by
      rw [isDisposed, or_comm]
      refine or_congr_left ⟨fun inside => ?_, fun disposed => ?_⟩
      · exact custody.disposed_of_released (Nat.zero_lt_of_lt inside)
      · rw [custody.released_of_disposed atRest disposed]
        exact index.isLt
    rw [disposals, custody.assigned atRest.assigned index, Bool.true_and]
    split
    · rename_i finished
      rw [released.mpr finished]
      rfl
    · rename_i notFinished
      rw [Bool.eq_false_of_not_eq_true fun set => notFinished (released.mp set)]
      rfl

/-- The sequence is disposed of while the second source is still being subscribed
to; the first source has completed by then. -/
theorem source_subscriptions_released_once_early :
    ∃ sink : CombineLatestSink Unit Nat (fun _ : Fin 2 => Nat),
      (system fun elements => .ok (elements 0 + elements 1)).Run {}
          [.subscribe, .source 0 (.next 1), .source 0 .completed,
            .setDisposable 0, .subscribe, .dispose, .setDisposable 1,
            .setSinkAndSubscription, .disposeSink, .disposeGroup, .disposeNext,
            .disposeNext]
          sink ∧
        (sink.subscriptions 0).disposals = 1 ∧
        (sink.subscriptions 1).disposals =
          if sink.disposed ∨ sink.ended 1 then 1 else 0 := by
  have run : (system fun elements => .ok (elements 0 + elements 1)).Run {}
      [.subscribe, .source 0 (.next 1), .source 0 .completed, .setDisposable 0,
        .subscribe, .dispose, .setDisposable 1, .setSinkAndSubscription,
        .disposeSink, .disposeGroup, .disposeNext, .disposeNext]
      (_ : CombineLatestSink Unit Nat (fun _ : Fin 2 => Nat)) :=
    System.run_of_replay rfl
  exact ⟨_, run, rfl,
    (source_subscriptions_released_once run 1).2.2
      ⟨rfl, rfl, rfl, fun _ => rfl⟩⟩

end CombineLatestSink
end RxSwift
end MVVMExample
