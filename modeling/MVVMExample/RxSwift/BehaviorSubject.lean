import MVVMExample.RxSwift.PublishSubject

/-!
# Behavior subjects and their observers

`BehaviorSubject` keeps its latest element and hands it to an observer that
subscribes, while it holds the lock under which it registers the observer. Events
are dispatched to a copy of the bag after the lock has been released, as for
publish subjects.

Whatever the interleaving, an observer receives the element that is the latest
when it subscribes and every later event once, and never the same event both from
its subscription and from a dispatch.
-/

namespace MVVMExample
namespace RxSwift

open Reactive Transition
open PublishSubject (Ending Input)
open PublishSubject.InUse (sends)

/-- A behavior subject. -/
structure BehaviorSubject (Failure Element Observer : Type*) where
  isDisposed : Bool := false
  element : Element
  observers : Bag Observer := {}
  stoppedEvent : Option (Event Failure Element) := none
  deriving DecidableEq

namespace BehaviorSubject

variable {Failure Element Observer : Type*}

/-- The latest element, unless the subject was disposed of or has failed. -/
def value
    (disposedError : Failure)
    (subject : BehaviorSubject Failure Element Observer) :
    Except Failure Element :=
  if subject.isDisposed then .error disposedError
  else
    match subject.stoppedEvent with
    | some (.error failure) => .error failure
    | _ => .ok subject.element

/-- The effect of an event, and the observers it is dispatched to. -/
def synchronizedOn
    (subject : BehaviorSubject Failure Element Observer)
    (event : Event Failure Element) :
    BehaviorSubject Failure Element Observer × Bag Observer :=
  if subject.stoppedEvent.isSome || subject.isDisposed then (subject, {})
  else
    match event with
    | .next element => ({ subject with element := element }, subject.observers)
    | event =>
        ({ subject with stoppedEvent := some event }, subject.observers)

/-- Register an observer of a running subject, and the event it is handed. -/
def synchronizedSubscribe
    (disposedError : Failure)
    (subject : BehaviorSubject Failure Element Observer)
    (observer : Observer) :
    BehaviorSubject Failure Element Observer × Event Failure Element :=
  if subject.isDisposed then (subject, .error disposedError)
  else
    match subject.stoppedEvent with
    | some stoppedEvent => (subject, stoppedEvent)
    | none =>
        ({ subject with observers := (subject.observers.insert observer).1 },
          .next subject.element)

/-- Remove the observer with a key. -/
def synchronizedUnsubscribe
    (subject : BehaviorSubject Failure Element Observer)
    (disposeKey : BagKey) :
    Except Trap (BehaviorSubject Failure Element Observer) :=
  if subject.isDisposed then .ok subject
  else
    match subject.observers.removeKey disposeKey with
    | .error trap => .error trap
    | .ok (observers, _) => .ok { subject with observers := observers }

/-- Remove all observers and forget how the subject ended. -/
def dispose (subject : BehaviorSubject Failure Element Observer) :
    BehaviorSubject Failure Element Observer :=
  { subject with
      isDisposed := true
      observers := subject.observers.removeAll
      stoppedEvent := none }

/-- A subject and the events on their way from it. -/
structure InUse (Failure Element Observer : Type*) where
  subject : BehaviorSubject Failure Element Observer
  mailing : Mailing Observer (Event Failure Element) := {}
  deriving DecidableEq

namespace InUse

/-- A subject with an initial element. -/
def init (value : Element) : InUse Failure Element Observer where
  subject.element := value

/-- Perform one input. -/
def perform
    (disposedError : Failure)
    (inUse : InUse Failure Element Observer) :
    Input Failure Element Observer →
      Except Trap (InUse Failure Element Observer)
  | .on event =>
      let synchronized := inUse.subject.synchronizedOn event
      .ok {
        subject := synchronized.1
        mailing := inUse.mailing.send event synchronized.2.dispatch }
  | .subscribe observer =>
      let synchronized :=
        inUse.subject.synchronizedSubscribe disposedError observer
      .ok {
        subject := synchronized.1
        mailing := inUse.mailing.hand observer synchronized.2 }
  | .unsubscribe disposeKey =>
      match inUse.subject.synchronizedUnsubscribe disposeKey with
      | .error trap => .error trap
      | .ok subject => .ok { inUse with subject := subject }
  | .dispose => .ok { inUse with subject := inUse.subject.dispose }
  | .deliver dispatch =>
      .ok { inUse with mailing := inUse.mailing.deliver dispatch }

/-- A dispatch makes progress while it has observers left. -/
def CanPerform (inUse : InUse Failure Element Observer) :
    Input Failure Element Observer → Prop
  | .deliver dispatch => inUse.mailing.CanDeliver dispatch
  | _ => True

instance
    (inUse : InUse Failure Element Observer)
    (input : Input Failure Element Observer) :
    Decidable (inUse.CanPerform input) :=
  match input with
  | .on _ => inferInstanceAs (Decidable True)
  | .subscribe _ => inferInstanceAs (Decidable True)
  | .unsubscribe _ => inferInstanceAs (Decidable True)
  | .dispose => inferInstanceAs (Decidable True)
  | .deliver dispatch =>
      inferInstanceAs (Decidable (inUse.mailing.CanDeliver dispatch))

/-- A subject in any interleaving of uses and dispatches. -/
def system (disposedError : Failure) :
    System (InUse Failure Element Observer) (Input Failure Element Observer)
      Trap where
  Enabled := CanPerform
  step := perform disposedError

instance
    (disposedError : Failure)
    (inUse : InUse Failure Element Observer)
    (input : Input Failure Element Observer) :
    Decidable ((system disposedError).Enabled inUse input) :=
  inferInstanceAs (Decidable (inUse.CanPerform input))

/-- A subject that sends events only after its dispatches have ended. -/
def inTurn (disposedError : Failure) :
    System (InUse Failure Element Observer) (Input Failure Element Observer)
      Trap :=
  (system disposedError).restrict fun inUse input =>
    sends input = true → inUse.mailing.Quiet

instance
    (disposedError : Failure)
    (inUse : InUse Failure Element Observer)
    (input : Input Failure Element Observer) :
    Decidable ((inTurn disposedError).Enabled inUse input) :=
  inferInstanceAs (Decidable (_ ∧ (_ → _)))

end InUse

/-! ## What a subject is for -/

/-- A subject as its users see it: how it ended, its latest element, its
observers, and the events it sent with the observers it sent them to. -/
structure Channel (Failure Element Observer : Type*) where
  ending : Ending Failure Element := .running
  latest : Element
  registry : Bag.Registry Observer := {}
  sent : List (Event Failure Element × Multiset Observer) := []

namespace Channel

/-- What an observer that subscribes is told. -/
def greeting
    (disposedError : Failure)
    (channel : Channel Failure Element Observer) : Event Failure Element :=
  match channel.ending with
  | .running => .next channel.latest
  | .stopped event => event
  | .disposed => .error disposedError

/-- The value of the subject, or the failure it ended with. -/
def value
    (disposedError : Failure)
    (channel : Channel Failure Element Observer) : Except Failure Element :=
  match channel.greeting disposedError with
  | .error failure => .error failure
  | _ => .ok channel.latest

/-- A running subject sends an event to all present observers. -/
def send
    (channel : Channel Failure Element Observer)
    (event : Event Failure Element) : Channel Failure Element Observer :=
  { channel with
      ending := if event.isStopEvent then .stopped event else .running
      latest := Event.latest channel.latest [event]
      sent := channel.sent ++ [(event, channel.registry.values)] }

/-- A running subject sends events and takes observers; every observer is told
how things are when it subscribes. -/
def perform
    (disposedError : Failure)
    (channel : Channel Failure Element Observer) :
    Input Failure Element Observer → Channel Failure Element Observer
  | .on event =>
      match channel.ending with
      | .running => channel.send event
      | _ => channel
  | .subscribe observer =>
      { channel with
          registry :=
            match channel.ending with
            | .running => channel.registry.perform (.insert observer)
            | _ => channel.registry
          sent :=
            channel.sent ++ [(channel.greeting disposedError, {observer})] }
  | .unsubscribe disposeKey =>
      match channel.ending with
      | .disposed => channel
      | _ =>
          { channel with
              registry := channel.registry.perform (.removeKey disposeKey) }
  | .dispose =>
      { channel with
          ending := .disposed
          registry := channel.registry.perform .removeAll }
  | .deliver _ => channel

/-- The channel after a number of inputs. -/
def after
    (disposedError : Failure)
    (initial : Element)
    (inputs : List (Input Failure Element Observer)) :
    Channel Failure Element Observer :=
  inputs.foldl (perform disposedError) { latest := initial }

theorem after_snoc
    (disposedError : Failure)
    (initial : Element)
    (inputs : List (Input Failure Element Observer))
    (input : Input Failure Element Observer) :
    after disposedError initial (inputs ++ [input]) =
      (after disposedError initial inputs).perform disposedError input := by
  rw [after, List.foldl_append]
  rfl

/-- The events sent to an observer, in order. -/
def sentTo
    [DecidableEq Observer]
    (channel : Channel Failure Element Observer)
    (observer : Observer) : List (Event Failure Element) :=
  Mailing.sentTo channel.sent observer

/-- An input uses at most one key. -/
theorem issued_perform_le
    (disposedError : Failure)
    (channel : Channel Failure Element Observer)
    (input : Input Failure Element Observer) :
    (channel.perform disposedError input).registry.issued ≤
      channel.registry.issued + 1 := by
  have atMostOne := channel.registry.issued_perform_le
  cases input with
  | on event => simp only [perform]; split <;> exact Nat.le_succ _
  | subscribe observer =>
      simp only [perform]
      split
      · exact atMostOne _
      · exact Nat.le_succ _
  | unsubscribe disposeKey =>
      simp only [perform]
      split
      · exact Nat.le_succ _
      · exact atMostOne _
  | dispose => exact atMostOne _
  | deliver dispatch => exact Nat.le_succ _

/-- What each present observer was told last is what an observer that subscribes
is told. -/
def UpToDate
    [DecidableEq Observer]
    (disposedError : Failure)
    (channel : Channel Failure Element Observer) : Prop :=
  ∀ observer ∈ channel.registry.values,
    (channel.sentTo observer).getLast? = some (channel.greeting disposedError)

namespace UpToDate

variable
    [DecidableEq Observer]
    {disposedError : Failure}
    {channel : Channel Failure Element Observer}

theorem on
    (upToDate : channel.UpToDate disposedError)
    (event : Event Failure Element) :
    (channel.perform disposedError (.on event)).UpToDate disposedError := by
  intro observer present
  cases isEnding : channel.ending with
  | running =>
      simp only [Channel.perform, isEnding, send] at present ⊢
      rw [sentTo, Mailing.getLast?_sentTo_snoc, if_pos present]
      cases event <;> rfl
  | stopped first =>
      simp only [Channel.perform, isEnding] at present ⊢
      exact upToDate observer present
  | disposed =>
      simp only [Channel.perform, isEnding] at present ⊢
      exact upToDate observer present

theorem subscribe
    (upToDate : channel.UpToDate disposedError)
    (subscriber : Observer) :
    (channel.perform disposedError (.subscribe subscriber)).UpToDate
      disposedError := by
  intro observer present
  rw [sentTo, Channel.perform, Mailing.getLast?_sentTo_snoc]
  simp only [Multiset.mem_singleton]
  split
  · rfl
  · rename_i other
    apply upToDate observer
    cases isEnding : channel.ending with
    | running =>
        simp only [Channel.perform, isEnding] at present
        exact (Bag.Registry.eq_or_mem_of_mem_values_insert
          present).resolve_left other
    | stopped first => simpa only [Channel.perform, isEnding] using present
    | disposed => simpa only [Channel.perform, isEnding] using present

theorem unsubscribe
    (upToDate : channel.UpToDate disposedError)
    (disposeKey : BagKey) :
    (channel.perform disposedError (.unsubscribe disposeKey)).UpToDate
      disposedError := by
  intro observer present
  cases isEnding : channel.ending with
  | running =>
      simp only [Channel.perform, isEnding] at present ⊢
      have unchanged := upToDate observer
        (Bag.Registry.mem_of_mem_values_removeKey present)
      rw [greeting, isEnding] at unchanged
      exact unchanged
  | stopped first =>
      simp only [Channel.perform, isEnding] at present ⊢
      have unchanged := upToDate observer
        (Bag.Registry.mem_of_mem_values_removeKey present)
      rw [greeting, isEnding] at unchanged
      exact unchanged
  | disposed =>
      simp only [Channel.perform, isEnding] at present ⊢
      exact upToDate observer present

/-- The step lemma. -/
theorem perform
    (upToDate : channel.UpToDate disposedError)
    (input : Input Failure Element Observer) :
    (channel.perform disposedError input).UpToDate disposedError := by
  cases input with
  | on event => exact upToDate.on event
  | subscribe subscriber => exact upToDate.subscribe subscriber
  | unsubscribe disposeKey => exact upToDate.unsubscribe disposeKey
  | dispose =>
      exact fun _ impossible => absurd impossible (Multiset.notMem_zero _)
  | deliver dispatch => exact upToDate

/-- The run lemma. -/
theorem after
    (disposedError : Failure)
    (initial : Element)
    (inputs : List (Input Failure Element Observer)) :
    (Channel.after disposedError initial inputs).UpToDate disposedError := by
  induction inputs using List.reverseRecOn with
  | nil => exact fun _ impossible => absurd impossible (Multiset.notMem_zero _)
  | append_singleton inputs input inductionHypothesis =>
      rw [after_snoc]
      exact inductionHypothesis.perform input

end UpToDate
end Channel

/-! ## The subject serves its channel -/

/-- The flags of a subject that ended in a way. -/
def EndsAs (subject : BehaviorSubject Failure Element Observer) :
    Ending Failure Element → Prop
  | .running => subject.isDisposed = false ∧ subject.stoppedEvent = none
  | .stopped event =>
      subject.isDisposed = false ∧ subject.stoppedEvent = some event
  | .disposed => subject.isDisposed = true ∧ subject.stoppedEvent = none

/-- The subject ended like the channel, with its latest element and its
observers. -/
structure Serves
    (subject : BehaviorSubject Failure Element Observer)
    (channel : Channel Failure Element Observer) : Prop where
  ending : subject.EndsAs channel.ending
  element : subject.element = channel.latest
  observers : subject.observers.Represents channel.registry

namespace Serves

variable
    {inUse : InUse Failure Element Observer}
    {channel : Channel Failure Element Observer}

/-- The subject gives the value of its channel. -/
theorem value
    {subject : BehaviorSubject Failure Element Observer}
    (serves : subject.Serves channel)
    (disposedError : Failure) :
    subject.value disposedError = channel.value disposedError := by
  have ending := serves.ending
  unfold BehaviorSubject.value Channel.value Channel.greeting
  cases isEnding : channel.ending with
  | running =>
      rw [isEnding] at ending
      simp [ending.1, ending.2, serves.element]
  | stopped event =>
      rw [isEnding] at ending
      cases event <;> simp [ending.1, ending.2, serves.element]
  | disposed =>
      rw [isEnding] at ending
      simp [ending.1]

/-- An observer that subscribes is told what the channel tells it. -/
theorem greeting
    {subject : BehaviorSubject Failure Element Observer}
    (serves : subject.Serves channel)
    (disposedError : Failure)
    (observer : Observer) :
    (subject.synchronizedSubscribe disposedError observer).2 =
      channel.greeting disposedError := by
  have ending := serves.ending
  unfold synchronizedSubscribe Channel.greeting
  cases isEnding : channel.ending with
  | running =>
      rw [isEnding] at ending
      simp [ending.1, ending.2, serves.element]
  | stopped event =>
      rw [isEnding] at ending
      simp [ending.1, ending.2]
  | disposed =>
      rw [isEnding] at ending
      simp [ending.1]

/-- What an event does to a subject and its channel. -/
theorem on
    (serves : inUse.subject.Serves channel)
    (disposedError : Failure)
    (event : Event Failure Element) :
    ∃ after, inUse.perform disposedError (.on event) = .ok after ∧
      after.subject.Serves (channel.perform disposedError (.on event)) ∧
        inUse.mailing.Posts channel.sent true after.mailing
          (channel.perform disposedError (.on event)).sent := by
  have visited := serves.observers.forEach
  have ending := serves.ending
  refine ⟨_, rfl, ?_⟩
  cases isEnding : channel.ending with
  | running =>
      rw [isEnding] at ending
      simp only [synchronizedOn, ending.1, ending.2, Option.isSome_none,
        Bool.or_self, Bool.false_eq_true, if_false, Channel.perform, isEnding]
      cases event with
      | next element =>
          exact ⟨⟨⟨rfl, rfl⟩, rfl, serves.observers⟩, .send_to visited _⟩
      | error failure =>
          exact ⟨⟨⟨rfl, rfl⟩, serves.element, serves.observers⟩,
            .send_to visited _⟩
      | completed =>
          exact ⟨⟨⟨rfl, rfl⟩, serves.element, serves.observers⟩,
            .send_to visited _⟩
  | stopped first =>
      rw [isEnding] at ending
      simp only [synchronizedOn, ending.2, Option.isSome_some, Bool.true_or,
        if_true, Channel.perform, isEnding]
      exact ⟨serves, .sendNobody _⟩
  | disposed =>
      rw [isEnding] at ending
      simp only [synchronizedOn, ending.1, Bool.or_true, if_true,
        Channel.perform, isEnding]
      exact ⟨serves, .sendNobody _⟩

/-- What a subscription does to a subject and its channel. -/
theorem subscribe
    (serves : inUse.subject.Serves channel)
    (disposedError : Failure)
    (keysLeft : channel.registry.issued < 2 ^ 64)
    (observer : Observer) :
    ∃ after, inUse.perform disposedError (.subscribe observer) = .ok after ∧
      after.subject.Serves
          (channel.perform disposedError (.subscribe observer)) ∧
        inUse.mailing.Posts channel.sent true after.mailing
          (channel.perform disposedError (.subscribe observer)).sent := by
  have ending := serves.ending
  refine ⟨_, rfl, ?_⟩
  cases isEnding : channel.ending with
  | running =>
      rw [isEnding] at ending
      simp only [synchronizedSubscribe, ending.1, ending.2, Channel.perform,
        Channel.greeting, isEnding, Bool.false_eq_true, if_false,
        serves.element]
      refine ⟨⟨?_, rfl, (serves.observers.insert keysLeft observer).2⟩,
        .hand _ _⟩
      exact ⟨rfl, rfl⟩
  | stopped event =>
      rw [isEnding] at ending
      simp only [synchronizedSubscribe, ending.1, ending.2, Channel.perform,
        Channel.greeting, isEnding, Bool.false_eq_true, if_false]
      exact ⟨⟨ending, serves.element, serves.observers⟩, .hand _ _⟩
  | disposed =>
      rw [isEnding] at ending
      simp only [synchronizedSubscribe, ending.1, Channel.perform,
        Channel.greeting, isEnding, if_true]
      exact ⟨⟨ending, serves.element, serves.observers⟩, .hand _ _⟩

/-- What the disposal of a subscription does to a subject and its channel. -/
theorem unsubscribe
    (serves : inUse.subject.Serves channel)
    (disposedError : Failure)
    (disposeKey : BagKey) :
    ∃ after, inUse.perform disposedError (.unsubscribe disposeKey) = .ok after ∧
      after.subject.Serves
          (channel.perform disposedError (.unsubscribe disposeKey)) ∧
        inUse.mailing.Posts channel.sent false after.mailing
          (channel.perform disposedError (.unsubscribe disposeKey)).sent := by
  obtain ⟨observers, removed, represents⟩ :=
    serves.observers.removeKey disposeKey
  have ending := serves.ending
  cases isEnding : channel.ending with
  | running =>
      rw [isEnding] at ending
      simp only [InUse.perform, synchronizedUnsubscribe, ending.1, removed,
        Bool.false_eq_true, if_false, Channel.perform, isEnding]
      exact ⟨_, rfl, ⟨⟨rfl, ending.2⟩, serves.element, represents⟩, .keep _⟩
  | stopped event =>
      rw [isEnding] at ending
      simp only [InUse.perform, synchronizedUnsubscribe, ending.1, removed,
        Bool.false_eq_true, if_false, Channel.perform, isEnding]
      exact ⟨_, rfl, ⟨⟨rfl, ending.2⟩, serves.element, represents⟩, .keep _⟩
  | disposed =>
      rw [isEnding] at ending
      simp only [InUse.perform, synchronizedUnsubscribe, ending.1, if_true,
        Channel.perform, isEnding]
      exact ⟨_, rfl, serves, .keep _⟩

/-- The step lemma: while keys are left, every input is served. -/
theorem perform
    (serves : inUse.subject.Serves channel)
    (disposedError : Failure)
    (keysLeft : channel.registry.issued < 2 ^ 64)
    {input : Input Failure Element Observer}
    (enabled : inUse.CanPerform input) :
    ∃ after, inUse.perform disposedError input = .ok after ∧
      after.subject.Serves (channel.perform disposedError input) ∧
        inUse.mailing.Posts channel.sent (sends input)
          after.mailing (channel.perform disposedError input).sent := by
  cases input with
  | on event => exact serves.on disposedError event
  | subscribe observer => exact serves.subscribe disposedError keysLeft observer
  | unsubscribe disposeKey => exact serves.unsubscribe disposedError disposeKey
  | dispose =>
      exact ⟨_, rfl, ⟨⟨rfl, rfl⟩, serves.element, serves.observers.removeAll⟩,
        .keep _⟩
  | deliver dispatch => exact ⟨_, rfl, serves, .deliver enabled⟩

end Serves

namespace InUse

variable
    {inUse : InUse Failure Element Observer}
    {inputs : List (Input Failure Element Observer)}
    {disposedError : Failure}
    {initial : Element}

/-- The subject serves its channel after every run that leaves keys. -/
structure Keeps
    (disposedError : Failure)
    (initial : Element)
    (inputs : List (Input Failure Element Observer))
    (inUse : InUse Failure Element Observer) : Prop where
  serves : inUse.subject.Serves (.after disposedError initial inputs)
  issued :
    (Channel.after disposedError initial inputs).registry.issued ≤ inputs.length

theorem Keeps.step
    {input : Input Failure Element Observer}
    {after : InUse Failure Element Observer}
    (keeps : Keeps disposedError initial inputs inUse)
    (few : inputs.length < 2 ^ 64)
    (enabled : inUse.CanPerform input)
    (performed : inUse.perform disposedError input = .ok after) :
    Keeps disposedError initial (inputs ++ [input]) after ∧
      inUse.mailing.Posts (Channel.after disposedError initial inputs).sent
        (sends input) after.mailing
        (Channel.after disposedError initial (inputs ++ [input])).sent := by
  have issued := keeps.issued
  have oneMore :=
    (Channel.after disposedError initial inputs).issued_perform_le
      disposedError input
  obtain ⟨next, nextPerformed, serves, posts⟩ :=
    keeps.serves.perform disposedError (by omega) enabled
  obtain rfl : next = after :=
    Except.ok.inj (nextPerformed.symm.trans performed)
  rw [← Channel.after_snoc] at oneMore serves posts
  refine ⟨⟨serves, ?_⟩, posts⟩
  rw [List.length_append, List.length_singleton]
  omega

/-- The step lemma: a subject sends the events of its channel. -/
theorem mails :
    Mailing.Mails (system disposedError)
      (init initial : InUse Failure Element Observer) InUse.mailing
      (fun inputs => (Channel.after disposedError initial inputs).sent) sends
      (2 ^ 64) (Keeps disposedError initial) where
  initially :=
    { serves := ⟨⟨rfl, rfl⟩, rfl, Bag.empty_represents⟩
      issued := Nat.le_refl 0 }
  empty := rfl
  nothingSent := rfl
  step := fun _ _ _ _ keeps few enabled performed =>
    keeps.step few enabled performed

variable [DecidableEq Observer]

/-- In every interleaving of emissions, subscriptions, disposals and dispatches,
the events that an observer has received and that are on their way to it are what
it was told at its subscriptions and the events sent while it was subscribed, each
once for each subscription; the subject has the value of its channel; and no input
traps. -/
theorem no_value_lost_or_duplicated
    (run : (system disposedError).Run (init initial) inputs inUse)
    (few : inputs.length < 2 ^ 64) :
    (∀ observer, (inUse.mailing.account observer).Perm
      ((Channel.after disposedError initial inputs).sentTo observer)) ∧
      inUse.subject.value disposedError =
        (Channel.after disposedError initial inputs).value disposedError ∧
      ∀ input, (system disposedError).Enabled inUse input →
        ∃ after, (system disposedError).step inUse input = .ok after := by
  obtain ⟨keeps, accounted⟩ := mails.accounted_of_run run (Nat.le_of_lt few)
  refine ⟨accounted, keeps.serves.value disposedError, fun input enabled => ?_⟩
  have issued := keeps.issued
  obtain ⟨after, performed, _⟩ :=
    keeps.serves.perform disposedError (by omega) enabled
  exact ⟨after, performed⟩

/-- The second observer subscribes in the middle of a dispatch, is handed the
element that is dispatched, and does not receive it again. -/
theorem no_value_lost_or_duplicated_joining :
    ∃ inUse : InUse Unit Nat Nat,
      (system ()).Run (init 0)
          [.subscribe 1, .on (.next 10), .subscribe 2, .deliver 0,
            .on (.next 20), .on .completed, .subscribe 3, .deliver 1, .deliver 2,
            .deliver 1, .deliver 2]
          inUse ∧
        inUse.mailing.arrivals 2 = [.next 10, .next 20, .completed] ∧
        inUse.mailing.arrivals 3 = [.completed] ∧
        inUse.subject.value () =
          (Channel.after () 0
            [.subscribe 1, .on (.next 10), .subscribe 2, .deliver 0,
              .on (.next 20), .on .completed, .subscribe 3, .deliver 1,
              .deliver 2, .deliver 1, .deliver 2]).value () := by
  have run : (system ()).Run (init 0)
      [.subscribe 1, .on (.next 10), .subscribe 2, .deliver 0, .on (.next 20),
        .on .completed, .subscribe 3, .deliver 1, .deliver 2, .deliver 1,
        .deliver 2]
      (_ : InUse Unit Nat Nat) :=
    System.run_of_replay rfl
  obtain ⟨_, value, _⟩ := no_value_lost_or_duplicated run (by decide)
  exact ⟨_, run, rfl, rfl, value⟩

/-- When no emission and no subscription starts in the middle of a dispatch, an
observer receives the events in the order in which they were sent, and the last
event that a present observer has received is what an observer that subscribes is
told. -/
theorem present_observers_up_to_date
    (run : (inTurn disposedError).Run (init initial) inputs inUse)
    (few : inputs.length ≤ 2 ^ 64)
    (quiet : inUse.mailing.Quiet) :
    (∀ observer, inUse.mailing.arrivals observer =
      (Channel.after disposedError initial inputs).sentTo observer) ∧
      ∀ observer ∈ inUse.subject.observers.forEach,
        (inUse.mailing.arrivals observer).getLast? =
          some (inUse.subject.synchronizedSubscribe disposedError observer).2 := by
  obtain ⟨_, accounted⟩ := mails.ordered_of_run run few
  have serves := (mails.keeps_of_run run.of_restrict few).serves
  have received (observer : Observer) : inUse.mailing.arrivals observer =
      (Channel.after disposedError initial inputs).sentTo observer := by
    rw [← quiet.account_eq]
    exact accounted observer
  refine ⟨received, fun observer present => ?_⟩
  rw [received, serves.greeting disposedError observer]
  apply Channel.UpToDate.after disposedError initial inputs
  rw [← serves.observers.forEach]
  exact present

/-- The first observer was present all the time, and the second one came late. -/
theorem present_observers_up_to_date_two :
    ∃ inUse : InUse Unit Nat Nat,
      (inTurn ()).Run (init 0)
          [.subscribe 1, .on (.next 10), .deliver 0, .subscribe 2,
            .on (.next 20), .deliver 1, .deliver 1]
          inUse ∧
        inUse.mailing.arrivals 1 = [.next 0, .next 10, .next 20] ∧
        (inUse.mailing.arrivals 2).getLast? =
          some (inUse.subject.synchronizedSubscribe () 2).2 := by
  have run : (inTurn ()).Run (init 0)
      [.subscribe 1, .on (.next 10), .deliver 0, .subscribe 2, .on (.next 20),
        .deliver 1, .deliver 1]
      (_ : InUse Unit Nat Nat) :=
    System.run_of_replay rfl
  exact ⟨_, run, rfl,
    (present_observers_up_to_date run (by decide) (by decide)).2 2 (by decide)⟩

end InUse
end BehaviorSubject
end RxSwift
end MVVMExample
