import MVVMExample.Reactive.Mailing
import MVVMExample.Reactive.Operator
import MVVMExample.RxSwift.Bag

/-!
# Publish subjects and their observers

`PublishSubject` copies its bag of observers under a lock and sends the event to
the copied observers after releasing it. Subscriptions, their disposal and
further events can therefore happen in the middle of a dispatch, on other
threads or from an observer.

Whatever the interleaving, an observer receives an event once for each of its
subscriptions that were alive when the event was emitted. When no emission and
no subscription starts in the middle of a dispatch, it receives them in the order
of their emission.
-/

namespace MVVMExample
namespace RxSwift

open Reactive Transition

/-- A publish subject. -/
structure PublishSubject (Failure Element Observer : Type*) where
  isDisposed : Bool := false
  observers : Bag Observer := {}
  stopped : Bool := false
  stoppedEvent : Option (Event Failure Element) := none
  deriving DecidableEq

namespace PublishSubject

variable {Failure Element Observer : Type*}

/-- The effect of an event, and the observers it is dispatched to. -/
def synchronizedOn (subject : PublishSubject Failure Element Observer) :
    Event Failure Element →
      PublishSubject Failure Element Observer × Bag Observer
  | .next _ =>
      if subject.isDisposed || subject.stopped then (subject, {})
      else (subject, subject.observers)
  | event =>
      if subject.stoppedEvent.isNone then
        ({ subject with
            stoppedEvent := some event
            stopped := true
            observers := subject.observers.removeAll }, subject.observers)
      else (subject, {})

/-- Register an observer, or tell it at once how the subject ended. -/
def synchronizedSubscribe
    (disposedError : Failure)
    (subject : PublishSubject Failure Element Observer)
    (observer : Observer) :
    PublishSubject Failure Element Observer × Option (Event Failure Element) :=
  match subject.stoppedEvent with
  | some stoppedEvent => (subject, some stoppedEvent)
  | none =>
      if subject.isDisposed then (subject, some (.error disposedError))
      else
        ({ subject with observers := (subject.observers.insert observer).1 },
          none)

/-- Remove the observer with a key. -/
def synchronizedUnsubscribe
    (subject : PublishSubject Failure Element Observer)
    (disposeKey : BagKey) :
    Except Trap (PublishSubject Failure Element Observer) :=
  match subject.observers.removeKey disposeKey with
  | .error trap => .error trap
  | .ok (observers, _) => .ok { subject with observers := observers }

/-- Remove all observers and forget how the subject ended. -/
def synchronizedDispose (subject : PublishSubject Failure Element Observer) :
    PublishSubject Failure Element Observer :=
  { subject with
      isDisposed := true
      observers := subject.observers.removeAll
      stoppedEvent := none }

/-- Uses of a subject, and the progress of its dispatches. -/
inductive Input (Failure Element Observer : Type*)
  | on (event : Event Failure Element)
  | subscribe (observer : Observer)
  | unsubscribe (disposeKey : BagKey)
  | dispose
  | deliver (dispatch : Nat)
  deriving DecidableEq

/-- A subject and the events on their way from it. -/
structure InUse (Failure Element Observer : Type*) where
  subject : PublishSubject Failure Element Observer := {}
  mailing : Mailing Observer (Event Failure Element) := {}
  deriving DecidableEq

namespace InUse

/-- Perform one input. -/
def perform
    (disposedError : Failure)
    (inUse : InUse Failure Element Observer) :
    Input Failure Element Observer →
      Except Trap (InUse Failure Element Observer)
  | .on event =>
      let synchronized := inUse.subject.synchronizedOn event
      .ok {
        subject := synchronized.1
        mailing := inUse.mailing.send event synchronized.2.dispatch }
  | .subscribe observer =>
      let synchronized :=
        inUse.subject.synchronizedSubscribe disposedError observer
      .ok {
        subject := synchronized.1
        mailing :=
          match synchronized.2 with
          | none => inUse.mailing
          | some event => inUse.mailing.hand observer event }
  | .unsubscribe disposeKey =>
      match inUse.subject.synchronizedUnsubscribe disposeKey with
      | .error trap => .error trap
      | .ok subject => .ok { inUse with subject := subject }
  | .dispose =>
      .ok { inUse with subject := inUse.subject.synchronizedDispose }
  | .deliver dispatch =>
      .ok { inUse with mailing := inUse.mailing.deliver dispatch }

/-- A dispatch makes progress while it has observers left. -/
def CanPerform (inUse : InUse Failure Element Observer) :
    Input Failure Element Observer → Prop
  | .deliver dispatch => inUse.mailing.CanDeliver dispatch
  | _ => True

instance
    (inUse : InUse Failure Element Observer)
    (input : Input Failure Element Observer) :
    Decidable (inUse.CanPerform input) :=
  match input with
  | .on _ => inferInstanceAs (Decidable True)
  | .subscribe _ => inferInstanceAs (Decidable True)
  | .unsubscribe _ => inferInstanceAs (Decidable True)
  | .dispose => inferInstanceAs (Decidable True)
  | .deliver dispatch =>
      inferInstanceAs (Decidable (inUse.mailing.CanDeliver dispatch))

/-- A subject in any interleaving of uses and dispatches. -/
def system (disposedError : Failure) :
    System (InUse Failure Element Observer) (Input Failure Element Observer)
      Trap where
  Enabled := CanPerform
  step := perform disposedError

instance
    (disposedError : Failure)
    (inUse : InUse Failure Element Observer)
    (input : Input Failure Element Observer) :
    Decidable ((system disposedError).Enabled inUse input) :=
  inferInstanceAs (Decidable (inUse.CanPerform input))

/-- The input may send an event. -/
def sends : Input Failure Element Observer → Bool
  | .on _ => true
  | .subscribe _ => true
  | _ => false

/-- An input that sends events needs the dispatches before it to have ended. -/
def InTurn
    (inUse : InUse Failure Element Observer)
    (input : Input Failure Element Observer) : Prop :=
  sends input = true → inUse.mailing.Quiet

instance
    (inUse : InUse Failure Element Observer)
    (input : Input Failure Element Observer) :
    Decidable (inUse.InTurn input) :=
  inferInstanceAs (Decidable (_ → _))

/-- A subject that sends events only after its dispatches have ended. -/
def inTurn (disposedError : Failure) :
    System (InUse Failure Element Observer) (Input Failure Element Observer)
      Trap :=
  (system disposedError).restrict InTurn

instance
    (disposedError : Failure)
    (inUse : InUse Failure Element Observer)
    (input : Input Failure Element Observer) :
    Decidable ((inTurn disposedError).Enabled inUse input) :=
  inferInstanceAs (Decidable (_ ∧ _))

end InUse

/-! ## What a subject is for -/

/-- How a subject ended. -/
inductive Ending (Failure Element : Type*)
  | running
  | stopped (event : Event Failure Element)
  | disposed
  deriving DecidableEq

/-- A subject as its users see it: how it ended, its observers, and the events
it sent with the observers it sent them to. -/
structure Channel (Failure Element Observer : Type*) where
  ending : Ending Failure Element := .running
  registry : Bag.Registry Observer := {}
  sent : List (Event Failure Element × Multiset Observer) := []

namespace Channel

/-- An event is sent to all present observers of a running subject, and an
observer that comes too late is told how the subject ended. -/
def perform
    (disposedError : Failure)
    (channel : Channel Failure Element Observer) :
    Input Failure Element Observer → Channel Failure Element Observer
  | .on (.next element) =>
      match channel.ending with
      | .running =>
          { channel with
              sent :=
                channel.sent ++ [(.next element, channel.registry.values)] }
      | _ => channel
  | .on stop =>
      match channel.ending with
      | .stopped _ => channel
      | _ =>
          { ending := .stopped stop
            registry := channel.registry.perform .removeAll
            sent := channel.sent ++ [(stop, channel.registry.values)] }
  | .subscribe observer =>
      match channel.ending with
      | .running =>
          { channel with
              registry := channel.registry.perform (.insert observer) }
      | .stopped event =>
          { channel with sent := channel.sent ++ [(event, {observer})] }
      | .disposed =>
          { channel with
              sent := channel.sent ++ [(.error disposedError, {observer})] }
  | .unsubscribe disposeKey =>
      { channel with
          registry := channel.registry.perform (.removeKey disposeKey) }
  | .dispose =>
      { channel with
          ending := .disposed
          registry := channel.registry.perform .removeAll }
  | .deliver _ => channel

/-- The channel after a number of inputs. -/
def after
    (disposedError : Failure)
    (inputs : List (Input Failure Element Observer)) :
    Channel Failure Element Observer :=
  inputs.foldl (perform disposedError) {}

theorem after_snoc
    (disposedError : Failure)
    (inputs : List (Input Failure Element Observer))
    (input : Input Failure Element Observer) :
    after disposedError (inputs ++ [input]) =
      (after disposedError inputs).perform disposedError input := by
  rw [after, List.foldl_append]
  rfl

/-- The events sent to an observer, in order. -/
def sentTo
    [DecidableEq Observer]
    (channel : Channel Failure Element Observer)
    (observer : Observer) : List (Event Failure Element) :=
  Mailing.sentTo channel.sent observer

end Channel

/-! ## The subject serves its channel -/

/-- The flags of a subject that ended in a way. -/
def EndsAs (subject : PublishSubject Failure Element Observer) :
    Ending Failure Element → Prop
  | .running =>
      subject.isDisposed = false ∧ subject.stopped = false ∧
        subject.stoppedEvent = none
  | .stopped event =>
      subject.stopped = true ∧ subject.stoppedEvent = some event
  | .disposed => subject.isDisposed = true ∧ subject.stoppedEvent = none

/-- The subject ended like the channel and has its observers. -/
structure Serves
    (subject : PublishSubject Failure Element Observer)
    (channel : Channel Failure Element Observer) : Prop where
  ending : subject.EndsAs channel.ending
  observers : subject.observers.Represents channel.registry

namespace Serves

variable
    {inUse : InUse Failure Element Observer}
    {channel : Channel Failure Element Observer}

/-- What an element does to a subject and its channel. -/
theorem next
    (serves : inUse.subject.Serves channel)
    (disposedError : Failure)
    (element : Element) :
    ∃ after, inUse.perform disposedError (.on (.next element)) = .ok after ∧
      after.subject.Serves
          (channel.perform disposedError (.on (.next element))) ∧
        inUse.mailing.Posts channel.sent true after.mailing
          (channel.perform disposedError (.on (.next element))).sent := by
  have visited := serves.observers.forEach
  have ending := serves.ending
  refine ⟨_, rfl, ?_⟩
  cases isEnding : channel.ending with
  | running =>
      rw [isEnding] at ending
      obtain ⟨notDisposed, notStopped, noEvent⟩ := ending
      simp only [synchronizedOn, notDisposed, notStopped, Bool.or_self,
        Channel.perform, isEnding]
      refine ⟨⟨?_, serves.observers⟩, .send_to visited _⟩
      exact ⟨notDisposed, notStopped, noEvent⟩
  | stopped first =>
      rw [isEnding] at ending
      simp only [synchronizedOn, ending.1, Bool.or_true, if_true,
        Channel.perform, isEnding]
      exact ⟨serves, .sendNobody _⟩
  | disposed =>
      rw [isEnding] at ending
      simp only [synchronizedOn, ending.1, Bool.true_or, if_true,
        Channel.perform, isEnding]
      exact ⟨serves, .sendNobody _⟩

/-- What a stop event does to a subject and its channel. -/
theorem stop
    (serves : inUse.subject.Serves channel)
    (disposedError : Failure)
    {event : Event Failure Element}
    (stops : ∀ element, event ≠ .next element) :
    ∃ after, inUse.perform disposedError (.on event) = .ok after ∧
      after.subject.Serves (channel.perform disposedError (.on event)) ∧
        inUse.mailing.Posts channel.sent true after.mailing
          (channel.perform disposedError (.on event)).sent := by
  have visited := serves.observers.forEach
  have ending := serves.ending
  have stopped : inUse.subject.synchronizedOn event =
      if inUse.subject.stoppedEvent.isNone then
        ({ inUse.subject with
            stoppedEvent := some event
            stopped := true
            observers := inUse.subject.observers.removeAll },
          inUse.subject.observers)
      else (inUse.subject, {}) := by
    cases event with
    | next element => exact absurd rfl (stops element)
    | error failure => rfl
    | completed => rfl
  have channelStopped : channel.perform disposedError (.on event) =
      match channel.ending with
      | .stopped _ => channel
      | _ =>
          { ending := .stopped event
            registry := channel.registry.perform .removeAll
            sent := channel.sent ++ [(event, channel.registry.values)] } := by
    cases event with
    | next element => exact absurd rfl (stops element)
    | error failure => rfl
    | completed => rfl
  refine ⟨_, rfl, ?_⟩
  rw [channelStopped, stopped]
  cases isEnding : channel.ending with
  | running =>
      rw [isEnding] at ending
      rw [ending.2.2, Option.isNone_none, if_pos rfl]
      exact ⟨⟨⟨rfl, rfl⟩, serves.observers.removeAll⟩, .send_to visited _⟩
  | stopped first =>
      rw [isEnding] at ending
      rw [ending.2, Option.isNone_some, if_neg Bool.false_ne_true]
      exact ⟨serves, .sendNobody _⟩
  | disposed =>
      rw [isEnding] at ending
      rw [ending.2, Option.isNone_none, if_pos rfl]
      exact ⟨⟨⟨rfl, rfl⟩, serves.observers.removeAll⟩, .send_to visited _⟩

/-- What a subscription does to a subject and its channel. -/
theorem subscribe
    (serves : inUse.subject.Serves channel)
    (disposedError : Failure)
    (keysLeft : channel.registry.issued < 2 ^ 64)
    (observer : Observer) :
    ∃ after, inUse.perform disposedError (.subscribe observer) = .ok after ∧
      after.subject.Serves
          (channel.perform disposedError (.subscribe observer)) ∧
        inUse.mailing.Posts channel.sent true after.mailing
          (channel.perform disposedError (.subscribe observer)).sent := by
  have ending := serves.ending
  refine ⟨_, rfl, ?_⟩
  cases isEnding : channel.ending with
  | running =>
      rw [isEnding] at ending
      simp only [synchronizedSubscribe, ending.1, ending.2.2, Channel.perform,
        isEnding, Bool.false_eq_true, if_false]
      refine ⟨⟨?_, (serves.observers.insert keysLeft observer).2⟩, .keep _⟩
      exact ⟨rfl, ending.2.1, rfl⟩
  | stopped event =>
      rw [isEnding] at ending
      simp only [synchronizedSubscribe, ending.2, Channel.perform, isEnding]
      refine ⟨⟨?_, serves.observers⟩, .hand _ _⟩
      exact ending
  | disposed =>
      rw [isEnding] at ending
      simp only [synchronizedSubscribe, ending.1, ending.2, Channel.perform,
        isEnding, if_true]
      refine ⟨⟨?_, serves.observers⟩, .hand _ _⟩
      exact ending

/-- The step lemma: while keys are left, every input is served. -/
theorem perform
    (serves : inUse.subject.Serves channel)
    (disposedError : Failure)
    (keysLeft : channel.registry.issued < 2 ^ 64)
    {input : Input Failure Element Observer}
    (enabled : inUse.CanPerform input) :
    ∃ after, inUse.perform disposedError input = .ok after ∧
      after.subject.Serves (channel.perform disposedError input) ∧
        inUse.mailing.Posts channel.sent (InUse.sends input)
          after.mailing (channel.perform disposedError input).sent := by
  cases input with
  | on event =>
      cases event with
      | next element => exact serves.next disposedError element
      | error failure => exact serves.stop disposedError (by simp)
      | completed => exact serves.stop disposedError (by simp)
  | subscribe observer => exact serves.subscribe disposedError keysLeft observer
  | unsubscribe disposeKey =>
      obtain ⟨observers, removed, represents⟩ :=
        serves.observers.removeKey disposeKey
      have unsubscribed :
          inUse.subject.synchronizedUnsubscribe disposeKey =
            .ok { inUse.subject with observers := observers } := by
        simp only [synchronizedUnsubscribe, removed]
      simp only [InUse.perform, unsubscribed]
      refine ⟨_, rfl, ⟨?_, represents⟩, .keep _⟩
      have ending := serves.ending
      simp only [Channel.perform]
      cases isEnding : channel.ending <;> rw [isEnding] at ending <;>
        exact ending
  | dispose =>
      exact ⟨_, rfl, ⟨⟨rfl, rfl⟩, serves.observers.removeAll⟩, .keep _⟩
  | deliver dispatch => exact ⟨_, rfl, serves, .deliver enabled⟩

end Serves

/-- An input uses at most one key. -/
theorem Channel.issued_perform_le
    (disposedError : Failure)
    (channel : Channel Failure Element Observer)
    (input : Input Failure Element Observer) :
    (channel.perform disposedError input).registry.issued ≤
      channel.registry.issued + 1 := by
  have atMostOne := channel.registry.issued_perform_le
  cases input with
  | on event =>
      cases event <;> simp only [perform] <;> split <;> exact Nat.le_succ _
  | subscribe observer =>
      simp only [perform]
      split
      · exact atMostOne _
      · exact Nat.le_succ _
      · exact Nat.le_succ _
  | unsubscribe disposeKey => exact atMostOne _
  | dispose => exact atMostOne _
  | deliver dispatch => exact Nat.le_succ _

namespace InUse

variable
    {inUse : InUse Failure Element Observer}
    {inputs : List (Input Failure Element Observer)}
    {disposedError : Failure}

/-- The subject serves its channel after every run that leaves keys. -/
structure Keeps
    (disposedError : Failure)
    (inputs : List (Input Failure Element Observer))
    (inUse : InUse Failure Element Observer) : Prop where
  serves : inUse.subject.Serves (.after disposedError inputs)
  issued : (Channel.after disposedError inputs).registry.issued ≤ inputs.length

theorem keeps_new :
    Keeps disposedError [] ({} : InUse Failure Element Observer) where
  serves := ⟨⟨rfl, rfl, rfl⟩, Bag.empty_represents⟩
  issued := Nat.le_refl 0

theorem Keeps.step
    {input : Input Failure Element Observer}
    {after : InUse Failure Element Observer}
    (keeps : Keeps disposedError inputs inUse)
    (few : inputs.length < 2 ^ 64)
    (enabled : inUse.CanPerform input)
    (performed : inUse.perform disposedError input = .ok after) :
    Keeps disposedError (inputs ++ [input]) after ∧
      inUse.mailing.Posts (Channel.after disposedError inputs).sent
        (sends input) after.mailing
        (Channel.after disposedError (inputs ++ [input])).sent := by
  have issued := keeps.issued
  have oneMore :=
    (Channel.after disposedError inputs).issued_perform_le disposedError input
  obtain ⟨next, nextPerformed, serves, posts⟩ :=
    keeps.serves.perform disposedError (by omega) enabled
  obtain rfl : next = after :=
    Except.ok.inj (nextPerformed.symm.trans performed)
  rw [← Channel.after_snoc] at oneMore serves posts
  refine ⟨⟨serves, ?_⟩, posts⟩
  rw [List.length_append, List.length_singleton]
  omega

variable [DecidableEq Observer]

omit [DecidableEq Observer] in
/-- The step lemma: a subject sends the events of its channel. -/
theorem mails :
    Mailing.Mails (system disposedError)
      ({} : InUse Failure Element Observer) InUse.mailing
      (fun inputs => (Channel.after disposedError inputs).sent) sends (2 ^ 64)
      (Keeps disposedError) where
  initially := keeps_new
  empty := rfl
  nothingSent := rfl
  step := fun _ _ _ _ keeps few enabled performed =>
    keeps.step few enabled performed

/-- In every interleaving of emissions, subscriptions, disposals and dispatches,
the events that an observer has received and that are on their way to it are the
events that were sent while it was subscribed, each once for each subscription;
and no input traps. -/
theorem no_event_lost_or_duplicated
    (run : (system disposedError).Run {} inputs inUse)
    (few : inputs.length < 2 ^ 64) :
    (∀ observer, (inUse.mailing.account observer).Perm
      ((Channel.after disposedError inputs).sentTo observer)) ∧
      ∀ input, (system disposedError).Enabled inUse input →
        ∃ after, (system disposedError).step inUse input = .ok after := by
  obtain ⟨keeps, accounted⟩ := mails.accounted_of_run run (Nat.le_of_lt few)
  refine ⟨accounted, fun input enabled => ?_⟩
  have issued := keeps.issued
  obtain ⟨after, performed, _⟩ :=
    keeps.serves.perform disposedError (by omega) enabled
  exact ⟨after, performed⟩

/-- An event is sent in the middle of the dispatch of another one, and reaches
the second observer first. -/
theorem no_event_lost_or_duplicated_overlapping :
    ∃ inUse : InUse Unit Nat Nat,
      (system ()).Run {}
          [.subscribe 1, .subscribe 2, .on (.next 10), .deliver 0,
            .unsubscribe (.ofNat 0), .on (.next 20), .deliver 1, .deliver 0]
          inUse ∧
        inUse.mailing.arrivals 2 = [.next 20, .next 10] ∧
        (inUse.mailing.account 2).Perm
          ((Channel.after ()
            [.subscribe 1, .subscribe 2, .on (.next 10), .deliver 0,
              .unsubscribe (.ofNat 0), .on (.next 20), .deliver 1,
              .deliver 0]).sentTo 2) := by
  have run : (system ()).Run {}
      [.subscribe 1, .subscribe 2, .on (.next 10), .deliver 0,
        .unsubscribe (.ofNat 0), .on (.next 20), .deliver 1, .deliver 0]
      (_ : InUse Unit Nat Nat) :=
    System.run_of_replay rfl
  obtain ⟨accounted, _⟩ := no_event_lost_or_duplicated run (by decide)
  exact ⟨_, run, rfl, accounted 2⟩

/-- When no emission and no subscription starts in the middle of a dispatch, an
observer receives the events in the order in which they were sent. -/
theorem events_received_in_order
    (run : (inTurn disposedError).Run {} inputs inUse)
    (few : inputs.length ≤ 2 ^ 64)
    (quiet : inUse.mailing.Quiet)
    (observer : Observer) :
    inUse.mailing.arrivals observer =
      (Channel.after disposedError inputs).sentTo observer := by
  obtain ⟨_, accounted⟩ := mails.ordered_of_run run few
  rw [← quiet.account_eq]
  exact accounted observer

/-- The second event is sent after the dispatch of the first one has ended. -/
theorem events_received_in_order_two :
    ∃ inUse : InUse Unit Nat Nat,
      (inTurn ()).Run {}
          [.subscribe 1, .subscribe 2, .on (.next 10), .deliver 0,
            .unsubscribe (.ofNat 0), .deliver 0, .on (.next 20), .deliver 1]
          inUse ∧
        inUse.mailing.arrivals 2 = [.next 10, .next 20] ∧
        inUse.mailing.arrivals 2 =
          (Channel.after ()
            [.subscribe 1, .subscribe 2, .on (.next 10), .deliver 0,
              .unsubscribe (.ofNat 0), .deliver 0, .on (.next 20),
              .deliver 1]).sentTo 2 := by
  have run : (inTurn ()).Run {}
      [.subscribe 1, .subscribe 2, .on (.next 10), .deliver 0,
        .unsubscribe (.ofNat 0), .deliver 0, .on (.next 20), .deliver 1]
      (_ : InUse Unit Nat Nat) :=
    System.run_of_replay rfl
  exact ⟨_, run, rfl, events_received_in_order run (by decide) (by decide) 2⟩

end InUse
end PublishSubject
end RxSwift
end MVVMExample
