import Mathlib.Data.Finset.Card
import MVVMExample.Reactive.Grammar
import MVVMExample.RxSwift.CompositeDisposable
import MVVMExample.RxSwift.SingleAssignmentDisposable

/-!
# Merging of inner sequences

A merging sink maps each element of its source to an inner sequence and forwards
the events of all of them. The source, the inner sequences, subscriptions that
have not returned yet and disposals interleave: only the reactions of the sink
are done under its lock.

In every interleaving the observer sees the elements of the inner sequences up to
the first error, a completion when the source and every inner sequence have
completed, and nothing after that. The subscriptions of a sequence that has ended
or has been disposed of are each released once, also those that were still being
made.
-/

namespace MVVMExample
namespace RxSwift

open Reactive Transition

/-- Which elements of the source are mapped. -/
inductive MergeKind
  | flatMap
  | flatMapFirst
  deriving DecidableEq

/-- How far a subscription to an inner sequence has got. It is refused by a group
that has been disposed of. -/
inductive InnerStage
  | arrived
  | refused
  | subscribed (disposeKey : BagKey)
  deriving DecidableEq

/-- The inner sequence has been subscribed to. -/
def InnerStage.isSubscribed : InnerStage → Bool
  | .subscribed _ => true
  | _ => false

/-- An inner sequence, its observer and its subscription. The history has whether
it has sent a stop event. -/
structure MergeSinkIter (SourceSequence : Type*) where
  source : SourceSequence
  stage : InnerStage := .arrived
  iterDisposable : SingleAssignmentDisposable := {}
  ended : Bool := false
  deriving DecidableEq

/-- The group of a merging sink: the subscription to the source, and those to the
inner sequences by their numbers. -/
abbrev MergeGroup := CompositeDisposable.InUse (Option Nat)

/-- A merging sink with its canceling disposer. The history has the events
forwarded to the observer, whether the source has sent a stop event, and how
often the disposer has disposed of the sink and of the group. -/
structure MergeSink (Failure Element SourceSequence : Type*) where
  group : MergeGroup := (CompositeDisposable.InUse.insert {} none).1
  sourceSubscription : SingleAssignmentDisposable := {}
  activeCount : Int := 0
  stopped : Bool := false
  disposed : Bool := false
  cancel : SingleAssignmentDisposable := {}
  iters : List (MergeSinkIter SourceSequence) := []
  emitted : List (Event Failure Element) := []
  sourceEnded : Bool := false
  sinkDisposals : Nat := 0
  groupDisposals : Nat := 0
  deriving DecidableEq

namespace MergeSink

variable {Failure Element SourceElement SourceSequence : Type*}

/-- Forward an event, unless the sink has been disposed of. -/
def forwardOn
    (sink : MergeSink Failure Element SourceSequence)
    (event : Event Failure Element) :
    MergeSink Failure Element SourceSequence :=
  if sink.disposed then sink
  else { sink with emitted := sink.emitted ++ [event] }

/-- Dispose of the sink. -/
def dispose (sink : MergeSink Failure Element SourceSequence) :
    MergeSink Failure Element SourceSequence :=
  { sink with disposed := true, cancel := sink.cancel.dispose }

/-- Complete once the source has completed and no inner sequence is active. -/
def checkCompleted (sink : MergeSink Failure Element SourceSequence) :
    MergeSink Failure Element SourceSequence :=
  if sink.stopped ∧ sink.activeCount = 0 then (sink.forwardOn .completed).dispose
  else sink

/-- Whether the next element of the source is mapped. -/
def subscribeNext
    (kind : MergeKind)
    (sink : MergeSink Failure Element SourceSequence) : Bool :=
  match kind with
  | .flatMap => true
  | .flatMapFirst => sink.activeCount = 0

/-- Map an element of the source; its inner sequence is subscribed to later. -/
def nextElementArrived
    (kind : MergeKind)
    (performMap : SourceElement → Except Failure SourceSequence)
    (sink : MergeSink Failure Element SourceSequence)
    (element : SourceElement) : MergeSink Failure Element SourceSequence :=
  if subscribeNext kind sink then
    match performMap element with
    | .error failure => (sink.forwardOn (.error failure)).dispose
    | .ok value =>
        { sink with
            activeCount := sink.activeCount + 1
            iters := sink.iters ++ [{ source := value }] }
  else sink

/-- React to an event of the source. -/
def on
    (kind : MergeKind)
    (performMap : SourceElement → Except Failure SourceSequence)
    (sink : MergeSink Failure Element SourceSequence) :
    Event Failure SourceElement → MergeSink Failure Element SourceSequence
  | .next element => sink.nextElementArrived kind performMap element
  | .error failure =>
      ({ sink with sourceEnded := true }.forwardOn (.error failure)).dispose
  | .completed =>
      checkCompleted
        { sink with
            sourceEnded := true
            stopped := true
            sourceSubscription := sink.sourceSubscription.dispose }

/-- Replace an inner sequence. -/
def update
    (sink : MergeSink Failure Element SourceSequence)
    (index : Nat)
    (iter : MergeSinkIter SourceSequence) :
    MergeSink Failure Element SourceSequence :=
  { sink with iters := sink.iters.set index iter }

/-- Insert the subscription to an inner sequence into the group and subscribe to
the inner sequence, if the group takes it. -/
def subscribeInner
    (sink : MergeSink Failure Element SourceSequence)
    (index : Nat) : MergeSink Failure Element SourceSequence :=
  match sink.iters[index]? with
  | none => sink
  | some iter =>
      let inserted := sink.group.insert (some index)
      { sink.update index
          { iter with
              stage :=
                match inserted.2 with
                | none => .refused
                | some disposeKey => .subscribed disposeKey } with
        group := inserted.1 }

/-- React to an event of an inner sequence. -/
def onInner
    (sink : MergeSink Failure Element SourceSequence)
    (index : Nat)
    (event : Event Failure Element) :
    Except Trap (MergeSink Failure Element SourceSequence) :=
  match sink.iters[index]? with
  | some iter =>
      match iter.stage, event with
      | .subscribed _, .next element => .ok (sink.forwardOn (.next element))
      | .subscribed _, .error failure =>
          .ok ((sink.update index { iter with ended := true }).forwardOn
            (.error failure)).dispose
      | .subscribed disposeKey, .completed =>
          match sink.group.remove disposeKey with
          | .error trap => .error trap
          | .ok group =>
              .ok (checkCompleted
                { sink.update index { iter with ended := true } with
                  group := group
                  activeCount := sink.activeCount - 1 })
      | _, _ => .ok sink
  | none => .ok sink

/-- The subscription to an inner sequence has returned. -/
def setIterDisposable
    (sink : MergeSink Failure Element SourceSequence)
    (index : Nat) : Except Trap (MergeSink Failure Element SourceSequence) :=
  match sink.iters[index]? with
  | none => .ok sink
  | some iter =>
      match iter.iterDisposable.setDisposable with
      | .error trap => .error trap
      | .ok iterDisposable =>
          .ok (sink.update index { iter with iterDisposable := iterDisposable })

/-- The subscription to the source has returned. -/
def setSourceDisposable (sink : MergeSink Failure Element SourceSequence) :
    Except Trap (MergeSink Failure Element SourceSequence) :=
  match sink.sourceSubscription.setDisposable with
  | .error trap => .error trap
  | .ok sourceSubscription =>
      .ok { sink with sourceSubscription := sourceSubscription }

/-- `run` has returned, and the disposer is assigned the sink and the group. -/
def setSinkAndSubscription (sink : MergeSink Failure Element SourceSequence) :
    Except Trap (MergeSink Failure Element SourceSequence) :=
  match sink.cancel.setDisposable with
  | .error trap => .error trap
  | .ok cancel => .ok { sink with cancel := cancel }

/-- The disposer disposes of the sink. -/
def disposeSink (sink : MergeSink Failure Element SourceSequence) :
    MergeSink Failure Element SourceSequence :=
  { sink.dispose with sinkDisposals := sink.sinkDisposals + 1 }

/-- The disposer disposes of the group. -/
def disposeGroup (sink : MergeSink Failure Element SourceSequence) :
    MergeSink Failure Element SourceSequence :=
  { sink with
      group := sink.group.dispose
      groupDisposals := sink.groupDisposals + 1 }

/-- A member of the group is disposed of. -/
def disposeMember
    (sink : MergeSink Failure Element SourceSequence) :
    Option Nat → MergeSink Failure Element SourceSequence
  | none =>
      { sink with sourceSubscription := sink.sourceSubscription.dispose }
  | some index =>
      match sink.iters[index]? with
      | none => sink
      | some iter =>
          sink.update index
            { iter with iterDisposable := iter.iterDisposable.dispose }

/-- A call that has taken a member out of the group disposes of it. -/
def disposeNext
    (sink : MergeSink Failure Element SourceSequence)
    (position : Nat) : MergeSink Failure Element SourceSequence :=
  match sink.group.disposal.doomed[position]? with
  | none => sink
  | some member =>
      { sink.disposeMember member with group := sink.group.next position }

/-- Events of the source and of the inner sequences, and the progress of
subscriptions and disposals. -/
inductive Input (Failure Element SourceElement : Type*)
  | source (event : Event Failure SourceElement)
  | subscribeInner (index : Nat)
  | inner (index : Nat) (event : Event Failure Element)
  | setIterDisposable (index : Nat)
  | setSourceDisposable
  | setSinkAndSubscription
  | dispose
  | disposeSink
  | disposeGroup
  | disposeNext (position : Nat)
  deriving DecidableEq

/-- Perform one input. -/
def perform
    (kind : MergeKind)
    (performMap : SourceElement → Except Failure SourceSequence)
    (sink : MergeSink Failure Element SourceSequence) :
    Input Failure Element SourceElement →
      Except Trap (MergeSink Failure Element SourceSequence)
  | .source event => .ok (sink.on kind performMap event)
  | .subscribeInner index => .ok (sink.subscribeInner index)
  | .inner index event => sink.onInner index event
  | .setIterDisposable index => sink.setIterDisposable index
  | .setSourceDisposable => sink.setSourceDisposable
  | .setSinkAndSubscription => sink.setSinkAndSubscription
  | .dispose => .ok { sink with cancel := sink.cancel.dispose }
  | .disposeSink => .ok sink.disposeSink
  | .disposeGroup => .ok sink.disposeGroup
  | .disposeNext position => .ok (sink.disposeNext position)

/-- An inner sequence satisfies a condition. -/
def OfIter
    (sink : MergeSink Failure Element SourceSequence)
    (index : Nat)
    (condition : MergeSinkIter SourceSequence → Prop) : Prop :=
  match sink.iters[index]? with
  | none => False
  | some iter => condition iter

instance
    (sink : MergeSink Failure Element SourceSequence)
    (index : Nat)
    (condition : MergeSinkIter SourceSequence → Prop)
    [DecidablePred condition] :
    Decidable (sink.OfIter index condition) := by
  unfold OfIter
  split <;> infer_instance

/-- The source and the inner sequences send nothing after a stop event, the inner
ones only when they have been subscribed to; calls go on where they are. -/
def CanPerform (sink : MergeSink Failure Element SourceSequence) :
    Input Failure Element SourceElement → Prop
  | .source _ => sink.sourceEnded = false
  | .subscribeInner index =>
      sink.OfIter index fun iter => iter.stage = .arrived
  | .inner index _ =>
      sink.OfIter index fun iter =>
        iter.stage.isSubscribed = true ∧ iter.ended = false
  | .setIterDisposable index =>
      sink.OfIter index fun iter =>
        iter.stage.isSubscribed = true ∧
          iter.iterDisposable.disposableSet = false
  | .setSourceDisposable => sink.sourceSubscription.disposableSet = false
  | .setSinkAndSubscription =>
      sink.sourceSubscription.disposableSet = true ∧
        sink.cancel.disposableSet = false
  | .dispose => True
  | .disposeSink => sink.sinkDisposals < sink.cancel.disposals
  | .disposeGroup => sink.groupDisposals < sink.sinkDisposals
  | .disposeNext position => position < sink.group.disposal.doomed.length

instance
    (sink : MergeSink Failure Element SourceSequence)
    (input : Input Failure Element SourceElement) :
    Decidable (sink.CanPerform input) :=
  match input with
  | .source _ => inferInstanceAs (Decidable (_ = false))
  | .subscribeInner _ => inferInstanceAs (Decidable (sink.OfIter _ _))
  | .inner _ _ => inferInstanceAs (Decidable (sink.OfIter _ _))
  | .setIterDisposable _ => inferInstanceAs (Decidable (sink.OfIter _ _))
  | .setSourceDisposable => inferInstanceAs (Decidable (_ = false))
  | .setSinkAndSubscription => inferInstanceAs (Decidable (_ ∧ _))
  | .dispose => inferInstanceAs (Decidable True)
  | .disposeSink => inferInstanceAs (Decidable (_ < _))
  | .disposeGroup => inferInstanceAs (Decidable (_ < _))
  | .disposeNext _ => inferInstanceAs (Decidable (_ < _))

/-- A merging sink in any interleaving. -/
def system
    (kind : MergeKind)
    (performMap : SourceElement → Except Failure SourceSequence) :
    System (MergeSink Failure Element SourceSequence)
      (Input Failure Element SourceElement) Trap where
  Enabled := CanPerform
  step := perform kind performMap

instance
    (kind : MergeKind)
    (performMap : SourceElement → Except Failure SourceSequence)
    (sink : MergeSink Failure Element SourceSequence)
    (input : Input Failure Element SourceElement) :
    Decidable ((system kind performMap).Enabled sink input) :=
  inferInstanceAs (Decidable (sink.CanPerform input))

end MergeSink

/-! ## What merging is for -/

/-- A merged sequence as its observer sees it: how many inner sequences have been
opened, which of them have not completed, whether the source has completed,
whether the sequence is over, and its events. -/
structure Flattened (Failure Element : Type*) where
  opened : Nat := 0
  active : Finset Nat := ∅
  sourceCompleted : Bool := false
  isOver : Bool := false
  output : List (Event Failure Element) := []

namespace Flattened

variable {Failure Element SourceElement SourceSequence : Type*}

/-- The sequence ends with a stop event. -/
def finish
    (flattened : Flattened Failure Element)
    (event : Event Failure Element) : Flattened Failure Element :=
  { flattened with isOver := true, output := flattened.output ++ [event] }

/-- The sequence completes when the source and all inner sequences have. -/
def complete (flattened : Flattened Failure Element) :
    Flattened Failure Element :=
  if flattened.sourceCompleted ∧ flattened.active = ∅ then
    flattened.finish .completed
  else flattened

/-- `flatMap` opens an inner sequence for every element, `flatMapFirst` only when
there is no other one. -/
def accepts (kind : MergeKind) (flattened : Flattened Failure Element) : Bool :=
  match kind with
  | .flatMap => true
  | .flatMapFirst => flattened.active = ∅

/-- Open an inner sequence, or fail. -/
def openNext
    (kind : MergeKind)
    (performMap : SourceElement → Except Failure SourceSequence)
    (flattened : Flattened Failure Element)
    (element : SourceElement) : Flattened Failure Element :=
  if flattened.accepts kind then
    match performMap element with
    | .error failure => flattened.finish (.error failure)
    | .ok _ =>
        { flattened with
            opened := flattened.opened + 1
            active := insert flattened.opened flattened.active }
  else flattened

/-- The effect of an input on a sequence that is not over. -/
def react
    (kind : MergeKind)
    (performMap : SourceElement → Except Failure SourceSequence)
    (flattened : Flattened Failure Element) :
    MergeSink.Input Failure Element SourceElement → Flattened Failure Element
  | .source (.next element) => flattened.openNext kind performMap element
  | .source (.error failure) => flattened.finish (.error failure)
  | .source .completed => complete { flattened with sourceCompleted := true }
  | .inner _ (.next element) =>
      { flattened with output := flattened.output ++ [.next element] }
  | .inner _ (.error failure) => flattened.finish (.error failure)
  | .inner index .completed =>
      complete { flattened with active := flattened.active.erase index }
  | .disposeSink => { flattened with isOver := true }
  | _ => flattened

/-- The effect of an input. -/
def perform
    (kind : MergeKind)
    (performMap : SourceElement → Except Failure SourceSequence)
    (flattened : Flattened Failure Element)
    (input : MergeSink.Input Failure Element SourceElement) :
    Flattened Failure Element :=
  if flattened.isOver then flattened else flattened.react kind performMap input

/-- The merged sequence after a number of inputs. -/
def after
    (kind : MergeKind)
    (performMap : SourceElement → Except Failure SourceSequence)
    (inputs : List (MergeSink.Input Failure Element SourceElement)) :
    Flattened Failure Element :=
  inputs.foldl (perform kind performMap) {}

theorem after_snoc
    (kind : MergeKind)
    (performMap : SourceElement → Except Failure SourceSequence)
    (inputs : List (MergeSink.Input Failure Element SourceElement))
    (input : MergeSink.Input Failure Element SourceElement) :
    after kind performMap (inputs ++ [input]) =
      (after kind performMap inputs).perform kind performMap input := by
  rw [after, List.foldl_append]
  rfl

/-- The sequence keeps to the grammar; it completes when the source and all inner
sequences have completed. -/
structure Grammatical (flattened : Flattened Failure Element) : Prop where
  grammar : Grammar flattened.isOver flattened.output
  completed : .completed ∈ flattened.output →
    flattened.sourceCompleted = true ∧ flattened.active = ∅
  incomplete : flattened.isOver = false → flattened.sourceCompleted = true →
    flattened.active ≠ ∅

namespace Grammatical

variable {flattened before : Flattened Failure Element}

/-- The events of a running sequence. -/
theorem running
    (grammatical : flattened.Grammatical)
    (running : flattened.isOver = false) :
    Grammar false flattened.output :=
  running ▸ grammatical.grammar

/-- A running sequence ends. -/
theorem finish
    (grammatical : before.Grammatical)
    (running : before.isOver = false)
    (sameOutput : flattened.output = before.output)
    {event : Event Failure Element}
    (completes : event = .completed →
      flattened.sourceCompleted = true ∧ flattened.active = ∅) :
    (flattened.finish event).Grammatical where
  grammar := by
    rw [Flattened.finish, sameOutput]
    exact (grammatical.running running).finish event
  completed := fun present => by
    rcases List.mem_append.mp present with old | new
    · rw [sameOutput] at old
      exact absurd old (grammatical.running running).notMem_completed
    · exact completes (List.mem_singleton.mp new).symm
  incomplete := fun impossible => by cases impossible

/-- A running sequence completes if it can. -/
theorem complete
    (grammatical : before.Grammatical)
    (running : before.isOver = false)
    (sameOver : flattened.isOver = before.isOver)
    (sameOutput : flattened.output = before.output) :
    flattened.complete.Grammatical := by
  unfold Flattened.complete
  split
  · rename_i isComplete
    exact grammatical.finish running sameOutput fun _ => isComplete
  · rename_i notComplete
    exact
      { grammar := by
          rw [sameOver, sameOutput]
          exact grammatical.grammar
        completed := fun present => by
          rw [sameOutput] at present
          exact absurd present (grammatical.running running).notMem_completed
        incomplete := fun _ sourceCompleted isEmpty =>
          notComplete ⟨sourceCompleted, isEmpty⟩ }

theorem openNext
    (grammatical : flattened.Grammatical)
    (running : flattened.isOver = false)
    (kind : MergeKind)
    (performMap : SourceElement → Except Failure SourceSequence)
    (element : SourceElement) :
    (flattened.openNext kind performMap element).Grammatical := by
  unfold Flattened.openNext
  split
  · split
    · exact grammatical.finish running rfl fun impossible => by cases impossible
    · exact
        { grammar := grammatical.grammar
          completed := fun present =>
            absurd present (grammatical.running running).notMem_completed
          incomplete := fun _ _ => Finset.insert_ne_empty _ _ }
  · exact grammatical

/-- An element of an inner sequence is forwarded. -/
theorem next
    (grammatical : flattened.Grammatical)
    (running : flattened.isOver = false)
    (element : Element) :
    Grammatical
      { flattened with output := flattened.output ++ [.next element] } := by
  have grammar := (grammatical.running running).next element
  exact
    { grammar := running.symm ▸ grammar
      completed := fun present => absurd present grammar.notMem_completed
      incomplete := grammatical.incomplete }

/-- Every input keeps to the grammar. -/
theorem perform
    (grammatical : flattened.Grammatical)
    (kind : MergeKind)
    (performMap : SourceElement → Except Failure SourceSequence)
    (input : MergeSink.Input Failure Element SourceElement) :
    (flattened.perform kind performMap input).Grammatical := by
  unfold Flattened.perform
  split
  · exact grammatical
  · rename_i notOver
    have running := Bool.eq_false_of_not_eq_true notOver
    cases input with
    | source event =>
        cases event with
        | next element =>
            exact grammatical.openNext running kind performMap element
        | error failure =>
            exact grammatical.finish running rfl fun impossible => by
              cases impossible
        | completed => exact grammatical.complete running rfl rfl
    | inner index event =>
        cases event with
        | next element => exact grammatical.next running element
        | error failure =>
            exact grammatical.finish running rfl fun impossible => by
              cases impossible
        | completed => exact grammatical.complete running rfl rfl
    | disposeSink =>
        exact
          { grammar := grammatical.grammar.silence
            completed := grammatical.completed
            incomplete := fun impossible => by cases impossible }
    | subscribeInner index => exact grammatical
    | setIterDisposable index => exact grammatical
    | setSourceDisposable => exact grammatical
    | setSinkAndSubscription => exact grammatical
    | dispose => exact grammatical
    | disposeGroup => exact grammatical
    | disposeNext position => exact grammatical

theorem after
    (kind : MergeKind)
    (performMap : SourceElement → Except Failure SourceSequence)
    (inputs : List (MergeSink.Input Failure Element SourceElement)) :
    (Flattened.after kind performMap inputs).Grammatical := by
  induction inputs using List.reverseRecOn with
  | nil =>
      exact
        { grammar := .nil false
          completed := by simp [Flattened.after]
          incomplete := by simp [Flattened.after] }
  | append_singleton inputs input inductionHypothesis =>
      rw [after_snoc]
      exact inductionHypothesis.perform kind performMap input

end Grammatical
end Flattened

namespace MergeSink

variable {Failure Element SourceElement SourceSequence : Type*}

/-! ## The observer sees the merged sequence -/

/-- Which inner sequences have sent a stop event. -/
def endings (sink : MergeSink Failure Element SourceSequence) : List Bool :=
  sink.iters.map MergeSinkIter.ended

/-- The sink counts the inner sequences that have not completed. -/
structure Counts
    (sink : MergeSink Failure Element SourceSequence)
    (flattened : Flattened Failure Element) : Prop where
  stopped : sink.stopped = flattened.sourceCompleted
  opened : sink.endings.length = flattened.opened
  active : ∀ index,
    index ∈ flattened.active ↔ sink.endings[index]? = some false
  activeCount : sink.activeCount = flattened.active.card

/-- The sink has forwarded the events of the merged sequence, and counts its
inner sequences until it is over. -/
structure Follows
    (sink : MergeSink Failure Element SourceSequence)
    (flattened : Flattened Failure Element) : Prop where
  disposed : sink.disposed = flattened.isOver
  emitted : sink.emitted = flattened.output
  counts : flattened.isOver = false → sink.Counts flattened

namespace Follows

variable
    {sink after : MergeSink Failure Element SourceSequence}
    {flattened : Flattened Failure Element}
    {kind : MergeKind}
    {performMap : SourceElement → Except Failure SourceSequence}

/-- What the observer and the counter do not depend on. -/
theorem of_same
    (follows : sink.Follows flattened)
    (disposed : after.disposed = sink.disposed)
    (emitted : after.emitted = sink.emitted)
    (stopped : after.stopped = sink.stopped)
    (activeCount : after.activeCount = sink.activeCount)
    (endings : after.endings = sink.endings) :
    after.Follows flattened where
  disposed := disposed.trans follows.disposed
  emitted := emitted.trans follows.emitted
  counts := fun running =>
    { stopped := stopped.trans (follows.counts running).stopped
      opened := by
        rw [endings]
        exact (follows.counts running).opened
      active := by
        rw [endings]
        exact (follows.counts running).active
      activeCount := activeCount.trans (follows.counts running).activeCount }

/-- The sequence ends with a stop event. -/
theorem finish
    (disposed : sink.disposed = false)
    (emitted : sink.emitted = flattened.output)
    (event : Event Failure Element) :
    (sink.forwardOn event).dispose.Follows (flattened.finish event) where
  disposed := rfl
  emitted := by
    simp only [MergeSink.dispose, forwardOn, disposed, Bool.false_eq_true,
      if_false, emitted]
    rfl
  counts := fun impossible => by cases impossible

/-- The sink completes when the sequence does. -/
theorem complete
    (follows : sink.Follows flattened)
    (running : flattened.isOver = false) :
    sink.checkCompleted.Follows flattened.complete := by
  have counts := follows.counts running
  have sameCondition : (sink.stopped ∧ sink.activeCount = 0) ↔
      (flattened.sourceCompleted ∧ flattened.active = ∅) := by
    rw [counts.stopped, counts.activeCount, ← Finset.card_eq_zero]
    exact and_congr_right fun _ => Int.natCast_eq_zero
  unfold checkCompleted Flattened.complete
  by_cases isComplete : flattened.sourceCompleted ∧ flattened.active = ∅
  · rw [if_pos isComplete, if_pos (sameCondition.mpr isComplete)]
    exact finish (follows.disposed.trans running) follows.emitted .completed
  · rw [if_neg isComplete, if_neg (mt sameCondition.mp isComplete)]
    exact follows

/-- An element is mapped when the sequence accepts it. -/
theorem openNext
    (follows : sink.Follows flattened)
    (running : flattened.isOver = false)
    (element : SourceElement) :
    (sink.nextElementArrived kind performMap element).Follows
      (flattened.openNext kind performMap element) := by
  have counts := follows.counts running
  have sameChoice : subscribeNext kind sink = flattened.accepts kind := by
    cases kind with
    | flatMap => rfl
    | flatMapFirst =>
        rw [subscribeNext, Flattened.accepts, counts.activeCount]
        apply decide_eq_decide.mpr
        rw [← Finset.card_eq_zero]
        exact Int.natCast_eq_zero
  unfold nextElementArrived Flattened.openNext
  rw [sameChoice]
  split
  · split
    · exact finish (follows.disposed.trans running) follows.emitted _
    · rename_i value isValue
      have isNew : flattened.opened ∉ flattened.active := by
        rw [counts.active, ← counts.opened, List.getElem?_length]
        simp
      have endings : MergeSink.endings
          { sink with
              activeCount := sink.activeCount + 1
              iters := sink.iters ++ [{ source := value }] } =
            sink.endings ++ [false] := by
        simp [MergeSink.endings]
      refine ⟨follows.disposed, follows.emitted, fun _ => ?_⟩
      constructor
      · exact counts.stopped
      · rw [endings, List.length_append, counts.opened]
        rfl
      · intro index
        rw [endings, Finset.mem_insert, counts.active, ← counts.opened]
        rcases Nat.lt_trichotomy index sink.endings.length with
          inside | rfl | beyond
        · rw [List.getElem?_append_left inside]
          simp [Nat.ne_of_lt inside]
        · simp
        · rw [List.getElem?_eq_none (by omega),
            List.getElem?_eq_none (by simp; omega)]
          simp [Nat.ne_of_gt beyond]
      · rw [Finset.card_insert_of_notMem isNew, Int.natCast_add,
          ← counts.activeCount]
        rfl
  · exact follows

end Follows

/-- Replacing an inner sequence may change whether it has ended. -/
theorem endings_update
    (sink : MergeSink Failure Element SourceSequence)
    (index : Nat)
    (iter : MergeSinkIter SourceSequence) :
    (sink.update index iter).endings = sink.endings.set index iter.ended := by
  rw [endings, update, List.map_set, endings]

theorem endings_update_of_same
    {sink : MergeSink Failure Element SourceSequence}
    {index : Nat}
    {iter replaced : MergeSinkIter SourceSequence}
    (found : sink.iters[index]? = some iter)
    (same : replaced.ended = iter.ended) :
    (sink.update index replaced).endings = sink.endings := by
  have isEnding : sink.endings[index]? = some iter.ended := by
    rw [endings, List.getElem?_map, found]
    rfl
  rw [endings_update, same]
  obtain ⟨inside, isEnding⟩ := List.getElem?_eq_some_iff.mp isEnding
  rw [← isEnding]
  exact List.set_getElem_self inside

namespace Follows

variable
    {sink after : MergeSink Failure Element SourceSequence}
    {flattened : Flattened Failure Element}
    {kind : MergeKind}
    {performMap : SourceElement → Except Failure SourceSequence}

/-- An inner sequence completes. -/
theorem innerCompleted
    (follows : sink.Follows flattened)
    (running : flattened.isOver = false)
    {index : Nat}
    {iter : MergeSinkIter SourceSequence}
    (found : sink.iters[index]? = some iter)
    (notEnded : iter.ended = false)
    (group : MergeGroup) :
    (checkCompleted
      { sink.update index { iter with ended := true } with
        group := group
        activeCount := sink.activeCount - 1 }).Follows
      (Flattened.complete
        { flattened with active := flattened.active.erase index }) := by
  have counts := follows.counts running
  have isEnding : sink.endings[index]? = some false := by
    rw [endings, List.getElem?_map, found, ← notEnded]
    rfl
  have isActive : index ∈ flattened.active := (counts.active index).mpr isEnding
  have inside := (List.getElem?_eq_some_iff.mp isEnding).1
  have endings : MergeSink.endings
      { sink.update index { iter with ended := true } with
        group := group
        activeCount := sink.activeCount - 1 } = sink.endings.set index true :=
    endings_update sink index { iter with ended := true }
  refine complete ⟨follows.disposed, follows.emitted, fun _ => ?_⟩ running
  constructor
  · exact counts.stopped
  · rw [endings, List.length_set]
    exact counts.opened
  · intro other
    rw [endings, Finset.mem_erase, counts.active, List.getElem?_set]
    by_cases same : index = other
    · subst same
      simp [inside]
    · simp [same, Ne.symm same]
  · have positive := Finset.card_pos.mpr ⟨index, isActive⟩
    have counted := counts.activeCount
    rw [Finset.card_erase_of_mem isActive]
    dsimp only
    omega

end Follows

section Disposed

variable {sink after : MergeSink Failure Element SourceSequence}

theorem forwardOn_of_disposed
    (disposed : sink.disposed = true)
    (event : Event Failure Element) :
    sink.forwardOn event = sink := by
  rw [forwardOn, if_pos disposed]

theorem checkCompleted_of_disposed (disposed : sink.disposed = true) :
    sink.checkCompleted.disposed = true ∧
      sink.checkCompleted.emitted = sink.emitted := by
  unfold checkCompleted
  split
  · rw [forwardOn_of_disposed disposed]
    exact ⟨rfl, rfl⟩
  · exact ⟨disposed, rfl⟩

theorem disposeNext_same (position : Nat) :
    (sink.disposeNext position).disposed = sink.disposed ∧
      (sink.disposeNext position).emitted = sink.emitted ∧
      (sink.disposeNext position).stopped = sink.stopped ∧
      (sink.disposeNext position).activeCount = sink.activeCount ∧
      (sink.disposeNext position).endings = sink.endings := by
  unfold disposeNext
  cases sink.group.disposal.doomed[position]? with
  | none => exact ⟨rfl, rfl, rfl, rfl, rfl⟩
  | some member =>
      cases member with
      | none => exact ⟨rfl, rfl, rfl, rfl, rfl⟩
      | some index =>
          simp only [disposeMember]
          cases found : sink.iters[index]? with
          | none => exact ⟨rfl, rfl, rfl, rfl, rfl⟩
          | some iter =>
              refine ⟨rfl, rfl, rfl, rfl, ?_⟩
              exact endings_update_of_same found rfl

/-- What the observer of an inner sequence does. -/
theorem onInner_of_subscribed
    {index : Nat}
    {iter : MergeSinkIter SourceSequence}
    {disposeKey : BagKey}
    (found : sink.iters[index]? = some iter)
    (subscribed : iter.stage = .subscribed disposeKey)
    (event : Event Failure Element) :
    sink.onInner index event =
      match event with
      | .next element => .ok (sink.forwardOn (.next element))
      | .error failure =>
          .ok ((sink.update index { iter with ended := true }).forwardOn
            (.error failure)).dispose
      | .completed =>
          match sink.group.remove disposeKey with
          | .error trap => .error trap
          | .ok group =>
              .ok (checkCompleted
                { sink.update index { iter with ended := true } with
                  group := group
                  activeCount := sink.activeCount - 1 }) := by
  obtain ⟨source, stage, iterDisposable, ended⟩ := iter
  obtain rfl : stage = .subscribed disposeKey := subscribed
  simp only [onInner, found]
  cases event <;> rfl

/-- A sink that has been disposed of forwards nothing. -/
theorem perform_of_disposed
    {kind : MergeKind}
    {performMap : SourceElement → Except Failure SourceSequence}
    {input : Input Failure Element SourceElement}
    (disposed : sink.disposed = true)
    (performed : sink.perform kind performMap input = .ok after) :
    after.disposed = true ∧ after.emitted = sink.emitted := by
  cases input with
  | source event =>
      cases performed
      cases event with
      | next element =>
          simp only [on, nextElementArrived]
          split
          · split
            · rw [forwardOn_of_disposed disposed]
              exact ⟨rfl, rfl⟩
            · exact ⟨disposed, rfl⟩
          · exact ⟨disposed, rfl⟩
      | error failure =>
          simp only [on, forwardOn, disposed, if_true]
          exact ⟨rfl, rfl⟩
      | completed => exact checkCompleted_of_disposed disposed
  | subscribeInner index =>
      cases performed
      unfold subscribeInner
      split <;> exact ⟨disposed, rfl⟩
  | inner index event =>
      simp only [perform, onInner] at performed
      split at performed
      · split at performed
        · cases performed
          rw [forwardOn_of_disposed disposed]
          exact ⟨disposed, rfl⟩
        · cases performed
          simp only [forwardOn, update, disposed, if_true]
          exact ⟨rfl, rfl⟩
        · split at performed
          · contradiction
          · cases performed
            exact checkCompleted_of_disposed disposed
        · cases performed
          exact ⟨disposed, rfl⟩
      · cases performed
        exact ⟨disposed, rfl⟩
  | setIterDisposable index =>
      simp only [perform, setIterDisposable] at performed
      split at performed
      · cases performed
        exact ⟨disposed, rfl⟩
      · split at performed
        · contradiction
        · cases performed
          exact ⟨disposed, rfl⟩
  | setSourceDisposable =>
      simp only [perform, setSourceDisposable] at performed
      split at performed
      · contradiction
      · cases performed
        exact ⟨disposed, rfl⟩
  | setSinkAndSubscription =>
      simp only [perform, setSinkAndSubscription] at performed
      split at performed
      · contradiction
      · cases performed
        exact ⟨disposed, rfl⟩
  | dispose =>
      cases performed
      exact ⟨disposed, rfl⟩
  | disposeSink =>
      cases performed
      exact ⟨rfl, rfl⟩
  | disposeGroup =>
      cases performed
      exact ⟨disposed, rfl⟩
  | disposeNext position =>
      cases performed
      obtain ⟨sameDisposed, sameEmitted, _⟩ := sink.disposeNext_same position
      exact ⟨sameDisposed.trans disposed, sameEmitted⟩

end Disposed

theorem exists_of_ofIter
    {sink : MergeSink Failure Element SourceSequence}
    {index : Nat}
    {condition : MergeSinkIter SourceSequence → Prop}
    (satisfied : sink.OfIter index condition) :
    ∃ iter, sink.iters[index]? = some iter ∧ condition iter := by
  unfold OfIter at satisfied
  split at satisfied
  · contradiction
  · exact ⟨_, ‹_›, satisfied⟩

namespace Follows

variable
    {sink after : MergeSink Failure Element SourceSequence}
    {flattened : Flattened Failure Element}
    {kind : MergeKind}
    {performMap : SourceElement → Except Failure SourceSequence}

/-- An event of an inner sequence. -/
theorem inner
    (follows : sink.Follows flattened)
    (running : flattened.isOver = false)
    {index : Nat}
    {iter : MergeSinkIter SourceSequence}
    {disposeKey : BagKey}
    (found : sink.iters[index]? = some iter)
    (subscribed : iter.stage = .subscribed disposeKey)
    (notEnded : iter.ended = false)
    {event : Event Failure Element}
    (performed : sink.onInner index event = .ok after) :
    after.Follows (flattened.react kind performMap (.inner index event)) := by
  have disposed := follows.disposed.trans running
  rw [onInner_of_subscribed found subscribed] at performed
  cases event with
  | next element =>
      cases performed
      have forwarded : sink.forwardOn (.next element) =
          { sink with emitted := sink.emitted ++ [.next element] } := by
        rw [forwardOn, disposed]
        rfl
      rw [forwarded]
      refine ⟨follows.disposed, ?_, fun _ => ?_⟩
      · exact congrArg (· ++ [Event.next element]) follows.emitted
      · have counts := follows.counts running
        exact ⟨counts.stopped, counts.opened, counts.active,
          counts.activeCount⟩
  | error failure =>
      cases performed
      have stillRunning :
          (sink.update index { iter with ended := true }).disposed = false :=
        disposed
      exact finish stillRunning follows.emitted (.error failure)
  | completed =>
      dsimp only at performed
      split at performed
      · contradiction
      · cases performed
        exact follows.innerCompleted running found notEnded _

/-- The step lemma: every input keeps the sink at the merged sequence. -/
theorem step
    (follows : sink.Follows flattened)
    {input : Input Failure Element SourceElement}
    (enabled : sink.CanPerform input)
    (performed : sink.perform kind performMap input = .ok after) :
    after.Follows (flattened.perform kind performMap input) := by
  cases finished : flattened.isOver with
  | true =>
      rw [Flattened.perform, if_pos finished]
      obtain ⟨stillDisposed, sameEmitted⟩ :=
        perform_of_disposed (follows.disposed.trans finished) performed
      refine ⟨stillDisposed.trans finished.symm,
        sameEmitted.trans follows.emitted, fun running => ?_⟩
      rw [finished] at running
      contradiction
  | false =>
      rw [Flattened.perform, if_neg (by simp [finished])]
      have disposed := follows.disposed.trans finished
      cases input with
      | source event =>
          cases performed
          cases event with
          | next element => exact follows.openNext finished element
          | error failure =>
              have stillRunning :
                  MergeSink.disposed { sink with sourceEnded := true } =
                    false :=
                disposed
              exact finish stillRunning follows.emitted (.error failure)
          | completed =>
              have counts := follows.counts finished
              refine complete ⟨follows.disposed, follows.emitted, fun _ => ?_⟩
                finished
              exact ⟨rfl, counts.opened, counts.active, counts.activeCount⟩
      | inner index event =>
          obtain ⟨iter, found, isSubscribed, notEnded⟩ :=
            exists_of_ofIter enabled
          cases stage : iter.stage with
          | arrived => rw [stage] at isSubscribed; contradiction
          | refused => rw [stage] at isSubscribed; contradiction
          | subscribed disposeKey =>
              exact follows.inner finished found stage notEnded performed
      | disposeSink =>
          cases performed
          exact ⟨rfl, follows.emitted, fun impossible => by cases impossible⟩
      | subscribeInner index =>
          cases performed
          obtain ⟨iter, found, _⟩ := exists_of_ofIter enabled
          simp only [subscribeInner, found]
          exact follows.of_same rfl rfl rfl rfl
            (endings_update_of_same found rfl)
      | setIterDisposable index =>
          obtain ⟨iter, found, _⟩ := exists_of_ofIter enabled
          simp only [MergeSink.perform, setIterDisposable, found] at performed
          split at performed
          · contradiction
          · cases performed
            exact follows.of_same rfl rfl rfl rfl
              (endings_update_of_same found rfl)
      | setSourceDisposable =>
          simp only [MergeSink.perform, setSourceDisposable] at performed
          split at performed
          · contradiction
          · cases performed
            exact follows.of_same rfl rfl rfl rfl rfl
      | setSinkAndSubscription =>
          simp only [MergeSink.perform, setSinkAndSubscription] at performed
          split at performed
          · contradiction
          · cases performed
            exact follows.of_same rfl rfl rfl rfl rfl
      | dispose =>
          cases performed
          exact follows.of_same rfl rfl rfl rfl rfl
      | disposeGroup =>
          cases performed
          exact follows.of_same rfl rfl rfl rfl rfl
      | disposeNext position =>
          cases performed
          obtain ⟨disposed, emitted, stopped, activeCount, endings⟩ :=
            sink.disposeNext_same position
          exact follows.of_same disposed emitted stopped activeCount endings

/-- The run lemma. -/
theorem of_run
    {inputs : List (Input Failure Element SourceElement)}
    (run : (system kind performMap).Run {} inputs sink) :
    sink.Follows (.after kind performMap inputs) := by
  have initially : Follows ({} : MergeSink Failure Element SourceSequence)
      (.after kind performMap []) := by
    refine ⟨rfl, rfl, fun _ => ⟨rfl, rfl, ?_, rfl⟩⟩
    intro index
    simp [Flattened.after, endings]
  refine System.Run.invariant
    (fun inputs sink => sink.Follows (.after kind performMap inputs))
    initially ?_ run
  intro inputs input before after follows enabled performed
  rw [Flattened.after_snoc]
  exact follows.step enabled performed

end Follows

end MergeSink

end RxSwift
end MVVMExample
