import Mathlib.Data.List.Basic

/-!
# Push operators as state machines

An observable sequence pushes events to its observer. An operator between a
source and an observer is a machine that reacts to one event of its source with
the events it forwards. All events are handled to the end, one after another,
as on a single thread without reentrancy.

An operator relays a function when it answers every element at once with the
image of that element and stays ready for the next one. Relaying is what a
chain of operators inherits from its members, and what a whole run inherits
from its steps.
-/

namespace Reactive

/-- An event of an observable sequence. -/
inductive Event (Failure Element : Type*)
  | next (element : Element)
  | error (failure : Failure)
  | completed
  deriving DecidableEq

/-- An event that ends its sequence. -/
def Event.isStopEvent {Failure Element : Type*} :
    Event Failure Element → Bool
  | .next _ => false
  | .error _ => true
  | .completed => true

/-- The element that is current after a list of events. -/
def Event.latest {Failure Element : Type*}
    (current : Element)
    (events : List (Event Failure Element)) : Element :=
  events.foldl
    (fun latest event =>
      match event with
      | .next element => element
      | _ => latest)
    current

/-- A variable: the current element of a sequence that never fails. -/
structure Variable (Element : Type*) where
  value : Element
  deriving DecidableEq

/-- A machine that forwards events while it consumes one event of its
source. -/
abbrev Operator (State Failure Source Target : Type*) :=
  State → Event Failure Source → State × List (Event Failure Target)

namespace Operator

variable {State Failure Source Target : Type*}

/-- Consume a list of events in order. -/
def feed
    (operator : Operator State Failure Source Target) :
    State → List (Event Failure Source) → State × List (Event Failure Target)
  | state, [] => (state, [])
  | state, event :: events =>
      let reaction := operator state event
      let rest := operator.feed reaction.1 events
      (rest.1, reaction.2 ++ rest.2)

@[simp] theorem feed_nil
    (operator : Operator State Failure Source Target)
    (state : State) :
    operator.feed state [] = (state, []) := rfl

@[simp] theorem feed_cons
    (operator : Operator State Failure Source Target)
    (state : State)
    (event : Event Failure Source)
    (events : List (Event Failure Source)) :
    operator.feed state (event :: events) =
      ((operator.feed (operator state event).1 events).1,
        (operator state event).2 ++
          (operator.feed (operator state event).1 events).2) := rfl

/-- Feed the events that one operator forwards to the next operator. -/
def comp
    {Downstream Final : Type*}
    (upstream : Operator State Failure Source Target)
    (downstream : Operator Downstream Failure Target Final) :
    Operator (State × Downstream) Failure Source Final :=
  fun state event =>
    let reaction := upstream state.1 event
    let rest := downstream.feed state.2 reaction.2
    ((reaction.1, rest.1), rest.2)

/-- In ready states the operator forwards the image of each element at once
and stays ready. -/
def Relays
    (operator : Operator State Failure Source Target)
    (Ready : State → Prop)
    (transform : Source → Target) : Prop :=
  ∀ state element, Ready state →
    Ready (operator state (.next element)).1 ∧
      (operator state (.next element)).2 = [.next (transform element)]

namespace Relays

variable
    {operator : Operator State Failure Source Target}
    {Ready : State → Prop}
    {transform : Source → Target}

/-- A relaying operator maps a whole list of elements, in order and without
loss. -/
theorem feed
    (relays : operator.Relays Ready transform)
    {state : State}
    (ready : Ready state)
    (elements : List Source) :
    Ready (operator.feed state (elements.map .next)).1 ∧
      (operator.feed state (elements.map .next)).2 =
        elements.map fun element => .next (transform element) := by
  induction elements generalizing state with
  | nil => exact ⟨ready, rfl⟩
  | cons element elements inductionHypothesis =>
      obtain ⟨nextReady, forwarded⟩ := relays state element ready
      obtain ⟨lastReady, rest⟩ := inductionHypothesis nextReady
      refine ⟨lastReady, ?_⟩
      rw [List.map_cons, feed_cons, forwarded, rest]
      rfl

/-- Relaying operators compose. -/
theorem comp
    {Downstream Final : Type*}
    {downstream : Operator Downstream Failure Target Final}
    {DownstreamReady : Downstream → Prop}
    {continuation : Target → Final}
    (relays : operator.Relays Ready transform)
    (downstreamRelays : downstream.Relays DownstreamReady continuation) :
    (operator.comp downstream).Relays
      (fun state => Ready state.1 ∧ DownstreamReady state.2)
      (fun element => continuation (transform element)) := by
  intro state element ready
  obtain ⟨upstreamReady, forwarded⟩ := relays state.1 element ready.1
  obtain ⟨downstreamReady, final⟩ :=
    downstreamRelays state.2 (transform element) ready.2
  simp only [Operator.comp, forwarded, feed_cons, feed_nil, List.append_nil]
  exact ⟨⟨upstreamReady, downstreamReady⟩, final⟩

end Relays

/-! ## Operators on one source -/

/-- The state every sink has: whether it has been disposed of. -/
structure Sink where
  disposed : Bool := false
  deriving DecidableEq

/-- A disposed sink forwards nothing. -/
def Sink.forwardOn (sink : Sink) (event : Event Failure Target) :
    List (Event Failure Target) :=
  if sink.disposed then [] else [event]

/-- Apply a function to every element. -/
def map (transform : Source → Target) : Operator Sink Failure Source Target
  | sink, .next element => (sink, sink.forwardOn (.next (transform element)))
  | sink, .error failure => ({ disposed := true }, sink.forwardOn (.error failure))
  | sink, .completed => ({ disposed := true }, sink.forwardOn .completed)

theorem map_relays (transform : Source → Target) :
    (map transform : Operator Sink Failure Source Target).Relays
      (fun sink => sink.disposed = false) transform := by
  intro sink element ready
  exact ⟨ready, by simp [map, Sink.forwardOn, ready]⟩

/-- Deliver events on the main queue while already running on it: the
scheduler runs the action at once. -/
def observeOnMain : Operator Sink Failure Source Source :=
  map id

theorem observeOnMain_relays :
    (observeOnMain : Operator Sink Failure Source Source).Relays
      (fun sink => sink.disposed = false) id :=
  map_relays id

/-- Connection state of a shared sequence that replays its last element. -/
structure ShareReplay (Element : Type*) where
  element : Option Element := none
  disposed : Bool := false
  deriving DecidableEq

/-- Share one subscription and remember the last element, with one observer
connected. -/
def shareReplay : Operator (ShareReplay Source) Failure Source Source
  | connection, .next element =>
      if connection.disposed then (connection, [])
      else ({ connection with element := some element }, [.next element])
  | connection, stop =>
      if connection.disposed then (connection, [])
      else ({ connection with disposed := true }, [stop])

theorem shareReplay_relays :
    (shareReplay : Operator (ShareReplay Source) Failure Source Source).Relays
      (fun connection => connection.disposed = false) id := by
  intro connection element ready
  simp [shareReplay, ready]

/-- State of a sink that replaces an error by a fallback sequence. -/
structure Catch where
  caught : Bool := false
  disposed : Bool := false
  deriving DecidableEq

/-- Replace an error by one last element. -/
def catchErrorJustReturn (fallback : Source) :
    Operator Catch Failure Source Source
  | sink, .next element => (sink, if sink.disposed then [] else [.next element])
  | sink, .completed =>
      ({ sink with disposed := true },
        if sink.disposed then [] else [.completed])
  | sink, .error _ =>
      ({ caught := true, disposed := true },
        if sink.disposed then [] else [.next fallback, .completed])

theorem catchErrorJustReturn_relays (fallback : Source) :
    (catchErrorJustReturn fallback :
      Operator Catch Failure Source Source).Relays
      (fun sink => sink = {}) id := by
  rintro sink element rfl
  exact ⟨rfl, rfl⟩

/-- State of a driver. -/
abbrev Driver (Element : Type*) :=
  (Sink × Catch) × ShareReplay Element

/-- A driver: main queue delivery, no errors, shared with replay. -/
def asDriver (fallback : Source) :
    Operator (Driver Source) Failure Source Source :=
  (observeOnMain.comp (catchErrorJustReturn fallback)).comp shareReplay

/-- A driver whose source has not terminated. -/
def DriverReady (state : Driver Source) : Prop :=
  (state.1.1.disposed = false ∧ state.1.2 = {}) ∧ state.2.disposed = false

theorem asDriver_relays (fallback : Source) :
    (asDriver fallback : Operator _ Failure Source Source).Relays
      DriverReady id :=
  (observeOnMain_relays.comp (catchErrorJustReturn_relays fallback)).comp
    shareReplay_relays

/-- Replace an error by completion. -/
def catchErrorEmpty : Operator Catch Failure Source Source
  | sink, .next element => (sink, if sink.disposed then [] else [.next element])
  | sink, .completed =>
      ({ sink with disposed := true },
        if sink.disposed then [] else [.completed])
  | sink, .error _ =>
      ({ caught := true, disposed := true },
        if sink.disposed then [] else [.completed])

theorem catchErrorEmpty_relays :
    (catchErrorEmpty : Operator Catch Failure Source Source).Relays
      (fun sink => sink = {}) id := by
  rintro sink element rfl
  exact ⟨rfl, rfl⟩

/-- A driver that ends when its source fails. -/
def asDriverOrEmpty :
    Operator (Driver Source) Failure Source Source :=
  (observeOnMain.comp catchErrorEmpty).comp shareReplay

theorem asDriverOrEmpty_relays :
    (asDriverOrEmpty : Operator _ Failure Source Source).Relays
      DriverReady id :=
  (observeOnMain_relays.comp catchErrorEmpty_relays).comp shareReplay_relays

/-! ## Combining the latest elements of two sources -/

/-- State of a sink that combines the latest elements of two sources. -/
structure CombineLatest (First Second : Type*) where
  first : Option First := none
  second : Option Second := none
  firstDone : Bool := false
  secondDone : Bool := false
  disposed : Bool := false
  deriving DecidableEq

namespace CombineLatest

variable {First Second Combined : Type*}

/-- Exchange the two sources. -/
def swap (sink : CombineLatest First Second) : CombineLatest Second First where
  first := sink.second
  second := sink.first
  firstDone := sink.secondDone
  secondDone := sink.firstDone
  disposed := sink.disposed

/-- React to an event of the first source. -/
def onFirst (combine : First → Second → Combined) :
    Operator (CombineLatest First Second) Failure First Combined :=
  fun sink event =>
    if sink.disposed then (sink, [])
    else
      match event with
      | .next element =>
          match sink.second with
          | some other =>
              ({ sink with first := some element },
                [.next (combine element other)])
          | none =>
              if sink.secondDone then
                ({ sink with first := some element, disposed := true },
                  [.completed])
              else ({ sink with first := some element }, [])
      | .error failure => ({ sink with disposed := true }, [.error failure])
      | .completed =>
          if sink.firstDone then (sink, [])
          else if sink.secondDone then
            ({ sink with firstDone := true, disposed := true }, [.completed])
          else ({ sink with firstDone := true }, [])

/-- React to an event of the second source. -/
def onSecond (combine : First → Second → Combined) :
    Operator (CombineLatest First Second) Failure Second Combined :=
  fun sink event =>
    let reaction := onFirst (fun second first => combine first second)
      sink.swap event
    (reaction.1.swap, reaction.2)

/-- Once both sources have an element, a new element of the first source is
combined with the latest element of the second. -/
theorem onFirst_next
    (combine : First → Second → Combined)
    {sink : CombineLatest First Second}
    {other : Second}
    (live : sink.disposed = false)
    (latest : sink.second = some other)
    (element : First) :
    onFirst combine sink (.next element : Event Failure First) =
      ({ sink with first := some element },
        [.next (combine element other)]) := by
  simp [onFirst, live, latest]

theorem onSecond_next
    (combine : First → Second → Combined)
    {sink : CombineLatest First Second}
    {other : First}
    (live : sink.disposed = false)
    (latest : sink.first = some other)
    (element : Second) :
    onSecond combine sink (.next element : Event Failure Second) =
      ({ sink with second := some element },
        [.next (combine other element)]) := by
  have swappedLive : sink.swap.disposed = false := live
  have swappedLatest : sink.swap.second = some other := latest
  unfold onSecond
  rw [onFirst_next _ swappedLive swappedLatest]
  rfl

end CombineLatest
end Operator
end Reactive
