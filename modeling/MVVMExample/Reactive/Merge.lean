import MVVMExample.Reactive.Operator

/-!
# Subjects, inner sequences and merging

A publish subject broadcasts an event to all current observers. An inner
sequence is described by what subscribing to it does: it may act on the world
(for instance by registering an observer with a subject) and it may emit events
before the subscription returns.

A merging sink maps each source element to an inner sequence and subscribes to
it. It counts the inner sequences that have not completed. The two mapping
operators differ only in the test whether a new element is accepted:
`flatMap` accepts every element, `flatMapFirst` only when no inner sequence is
active.
-/

namespace Reactive

/-- A subject without stored elements. Observers are identified by the keys of
their subscriptions. -/
structure PublishSubject (Failure Element : Type*) where
  observers : List Nat := []
  nextKey : Nat := 0
  stoppedEvent : Option (Event Failure Element) := none
  deriving DecidableEq

namespace PublishSubject

variable {Failure Element : Type*}

/-- Register an observer. A stopped subject only repeats its last event. -/
def subscribe (subject : PublishSubject Failure Element) :
    PublishSubject Failure Element × List (Event Failure Element) :=
  match subject.stoppedEvent with
  | some event => (subject, [event])
  | none =>
      ({ subject with
          observers := subject.observers ++ [subject.nextKey]
          nextKey := subject.nextKey + 1 }, [])

/-- The subject after an event, and the observers the event is sent to. -/
def on (subject : PublishSubject Failure Element) :
    Event Failure Element → PublishSubject Failure Element × List Nat
  | .next _ =>
      match subject.stoppedEvent with
      | some _ => (subject, [])
      | none => (subject, subject.observers)
  | stop =>
      match subject.stoppedEvent with
      | some _ => (subject, [])
      | none =>
          ({ subject with observers := [], stoppedEvent := some stop },
            subject.observers)

theorem subscribe_of_running
    {subject : PublishSubject Failure Element}
    (running : subject.stoppedEvent = none) :
    subject.subscribe =
      ({ subject with
          observers := subject.observers ++ [subject.nextKey]
          nextKey := subject.nextKey + 1 }, []) := by
  simp [subscribe, running]

theorem on_next_of_running
    {subject : PublishSubject Failure Element}
    (running : subject.stoppedEvent = none)
    (element : Element) :
    subject.on (.next element) = (subject, subject.observers) := by
  simp [on, running]

end PublishSubject

/-- An inner sequence: the effect of a subscription on the world and the
events emitted before it returns. -/
structure Observable (World Failure Element : Type*) where
  subscribe : World → World × List (Event Failure Element)

namespace Observable

variable {World Failure Element : Type*}

/-- A sequence that emits a fixed list of events during subscription. -/
def cold (events : List (Event Failure Element)) :
    Observable World Failure Element where
  subscribe := fun world => (world, events)

/-- One element, then completion. -/
def just (element : Element) : Observable World Failure Element :=
  cold [.next element, .completed]

/-- Immediate completion. -/
def empty : Observable World Failure Element :=
  cold [.completed]

/-- The first subscription to a shared replaying sequence connects to the
source. -/
def share (source : Observable World Failure Element) :
    Observable World Failure Element where
  subscribe := fun world =>
    let connected := source.subscribe world
    (connected.1, (Operator.shareReplay.feed {} connected.2).2)

/-- Sharing a single element still emits it and completes during
subscription. -/
@[simp] theorem subscribe_share_just
    (element : Element)
    (world : World) :
    (just element : Observable World Failure Element).share.subscribe world =
      (world, [.next element, .completed]) := rfl

end Observable

/-- State of a sink that merges inner sequences. -/
structure MergeSink where
  activeCount : Int := 0
  stopped : Bool := false
  disposed : Bool := false
  deriving DecidableEq

namespace MergeSink

variable {World Failure Element : Type*}

/-- A disposed sink forwards nothing. -/
def forwardOn (sink : MergeSink) (event : Event Failure Element) :
    List (Event Failure Element) :=
  if sink.disposed then [] else [event]

/-- Complete once the source has completed and no inner sequence is active. -/
def checkCompleted (sink : MergeSink) :
    MergeSink × List (Event Failure Element) :=
  if sink.stopped ∧ sink.activeCount = 0 then
    ({ sink with disposed := true }, sink.forwardOn .completed)
  else (sink, [])

/-- React to an event of one inner sequence. -/
def onInner : Operator MergeSink Failure Element Element
  | sink, .next element => (sink, sink.forwardOn (.next element))
  | sink, .error failure =>
      ({ sink with disposed := true }, sink.forwardOn (.error failure))
  | sink, .completed =>
      checkCompleted { sink with activeCount := sink.activeCount - 1 }

/-- `flatMap` accepts every element. -/
def always (_ : MergeSink) : Bool := true

/-- `flatMapFirst` accepts an element when no inner sequence is active. -/
def idle (sink : MergeSink) : Bool := sink.activeCount = 0

/-- React to an element of the source: map it, then subscribe to the inner
sequence and merge what it emits during the subscription. -/
def onNext
    (subscribeNext : MergeSink → Bool)
    (performMap : World → World × Except Failure (Observable World Failure Element))
    (sink : MergeSink)
    (world : World) :
    MergeSink × World × List (Event Failure Element) :=
  if sink.disposed ∨ subscribeNext sink = false then (sink, world, [])
  else
    match performMap world with
    | (world, .error failure) =>
        ({ sink with disposed := true }, world, sink.forwardOn (.error failure))
    | (world, .ok inner) =>
        let subscribed := inner.subscribe world
        let merged := onInner.feed
          { sink with activeCount := sink.activeCount + 1 } subscribed.2
        (merged.1, subscribed.1, merged.2)

/-- A sink whose source may still emit. -/
def Open (sink : MergeSink) : Prop :=
  sink.stopped = false ∧ sink.disposed = false

theorem onInner_relays :
    (onInner : Operator MergeSink Failure Element Element).Relays
      (fun sink => sink.disposed = false) id := by
  intro sink element ready
  exact ⟨ready, by simp [onInner, forwardOn, ready]⟩

/-- Elements of inner sequences do not change the sink. -/
theorem onInner_feed_next_sink
    (sink : MergeSink)
    (elements : List Element) :
    (onInner.feed sink
      (elements.map (Event.next : Element → Event Failure Element))).1 =
        sink := by
  induction elements with
  | nil => rfl
  | cons element elements inductionHypothesis => exact inductionHypothesis

/-- An element broadcast to several inner sequences of one sink is forwarded
once for each of them. -/
theorem onInner_feed_broadcast
    {sink : MergeSink}
    (live : sink.disposed = false)
    (observers : List Nat)
    (element : Element) :
    onInner.feed sink
        (observers.map fun _ => (.next element : Event Failure Element)) =
      (sink, List.replicate observers.length (.next element)) := by
  have asElements :
      (observers.map fun _ => (.next element : Event Failure Element)) =
        (List.replicate observers.length element).map .next := by
    rw [List.map_replicate, List.map_const']
  rw [asElements]
  refine Prod.ext (onInner_feed_next_sink sink _) ?_
  rw [(onInner_relays.feed live _).2, List.map_replicate]
  rfl

/-- An inner sequence that emits one element and completes during its
subscription is forwarded, and leaves the sink as it was. -/
theorem onNext_just
    {subscribeNext : MergeSink → Bool}
    {performMap :
      World → World × Except Failure (Observable World Failure Element)}
    {sink : MergeSink}
    {world mapped subscribed : World}
    {inner : Observable World Failure Element}
    {element : Element}
    (isOpen : sink.Open)
    (accepted : subscribeNext sink = true)
    (performed : performMap world = (mapped, .ok inner))
    (emitted : inner.subscribe mapped =
      (subscribed, [.next element, .completed])) :
    onNext subscribeNext performMap sink world =
      (sink, subscribed, [.next element]) := by
  rcases sink with ⟨activeCount, stopped, disposed⟩
  obtain ⟨rfl, rfl⟩ : stopped = false ∧ disposed = false := isOpen
  simp [onNext, accepted, performed, emitted, onInner, checkCompleted,
    forwardOn]

/-- An inner sequence that completes during its subscription without an element
leaves the sink as it was. -/
theorem onNext_empty
    {subscribeNext : MergeSink → Bool}
    {performMap :
      World → World × Except Failure (Observable World Failure Element)}
    {sink : MergeSink}
    {world mapped subscribed : World}
    {inner : Observable World Failure Element}
    (isOpen : sink.Open)
    (accepted : subscribeNext sink = true)
    (performed : performMap world = (mapped, .ok inner))
    (emitted : inner.subscribe mapped = (subscribed, [.completed])) :
    onNext subscribeNext performMap sink world = (sink, subscribed, []) := by
  rcases sink with ⟨activeCount, stopped, disposed⟩
  obtain ⟨rfl, rfl⟩ : stopped = false ∧ disposed = false := isOpen
  simp [onNext, accepted, performed, emitted, onInner, checkCompleted]

/-- An inner sequence that emits nothing during its subscription only becomes
active. -/
theorem onNext_silent
    {subscribeNext : MergeSink → Bool}
    {performMap :
      World → World × Except Failure (Observable World Failure Element)}
    {sink : MergeSink}
    {world mapped subscribed : World}
    {inner : Observable World Failure Element}
    (isOpen : sink.Open)
    (accepted : subscribeNext sink = true)
    (performed : performMap world = (mapped, .ok inner))
    (emitted : inner.subscribe mapped = (subscribed, [])) :
    onNext subscribeNext performMap sink world =
      ({ sink with activeCount := sink.activeCount + 1 }, subscribed, []) := by
  simp [onNext, accepted, performed, emitted, isOpen.2]

end MergeSink
end Reactive
