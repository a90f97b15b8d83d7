import MVVMExample.Reactive.Operator
import MVVMExample.RxSwift.MainScheduler

/-!
# Observing on the main thread

The sequence behind a driver is observed through `observeOn`. The sink of a
subscription drops what its source emits after a stop event or after the
disposal of the sink, and delivers every other event by an action of the main
scheduler.

Sources may emit on any threads and at the same time as one another. As long as
each one emits its own events one after another, every observer receives the
events of its source in their order, each of them once, one delivery at a time.
-/

namespace MVVMExample
namespace RxSwift

open Reactive Transition

/-- The sinks that deliver through one scheduler, with those that have
stopped. -/
structure ObserveOn (Failure Element : Type*) where
  scheduler : MainScheduler (Nat × Event Failure Element) := {}
  isStopped : List Nat := []
  deriving DecidableEq

namespace ObserveOn

variable {Failure Element : Type*}

/-- Schedule the delivery of an event. -/
def onCore
    (observeOn : ObserveOn Failure Element)
    (sink thread : Nat)
    (event : Event Failure Element) : ObserveOn Failure Element :=
  { observeOn with
      scheduler := observeOn.scheduler.scheduleInternal thread (sink, event) }

/-- A sink receives an event of its source. -/
def on
    (observeOn : ObserveOn Failure Element)
    (sink thread : Nat)
    (event : Event Failure Element) : ObserveOn Failure Element :=
  match event with
  | .next _ =>
      if sink ∈ observeOn.isStopped then observeOn
      else observeOn.onCore sink thread event
  | _ =>
      if sink ∈ observeOn.isStopped then observeOn
      else
        { observeOn with
            isStopped := sink :: observeOn.isStopped }.onCore sink thread event

/-- Dispose of a sink. -/
def dispose
    (observeOn : ObserveOn Failure Element)
    (sink : Nat) : ObserveOn Failure Element :=
  { observeOn with
      isStopped :=
        if sink ∈ observeOn.isStopped then observeOn.isStopped
        else sink :: observeOn.isStopped }

/-- The innermost delivery ends. A sink that has delivered a stop event is
disposed of. -/
def finish (observeOn : ObserveOn Failure Element) :
    ObserveOn Failure Element :=
  let finished := { observeOn with scheduler := observeOn.scheduler.finish }
  match observeOn.scheduler.running with
  | [] => finished
  | work :: _ =>
      if work.item.2.isStopEvent then finished.dispose work.item.1 else finished

/-- What happens: a source emits an event on a thread, the steps of the
scheduler, and the disposal of a sink. -/
inductive Input (Failure Element : Type*)
  | on (sink thread : Nat) (event : Event Failure Element)
  | async (thread : Nat)
  | runBlock
  | finish
  | dispose (sink : Nat)
  deriving DecidableEq

/-- Perform one input. -/
def perform (observeOn : ObserveOn Failure Element) :
    Input Failure Element → ObserveOn Failure Element
  | .on sink thread event => observeOn.on sink thread event
  | .async thread =>
      { observeOn with scheduler := observeOn.scheduler.async thread }
  | .runBlock => { observeOn with scheduler := observeOn.scheduler.runBlock }
  | .finish => observeOn.finish
  | .dispose sink => observeOn.dispose sink

/-- The sink that an action delivers through. -/
def bySink (work : ScheduledWork (Nat × Event Failure Element)) : Nat :=
  work.item.1

/-- The source of a sink emits an event when it is not in the middle of emitting
another one. -/
def CanPerform (observeOn : ObserveOn Failure Element) :
    Input Failure Element → Prop
  | .on sink thread event =>
      observeOn.scheduler.CanPerform (.schedule thread (sink, event)) ∧
        ∀ other ∈ observeOn.scheduler.entering, bySink other ≠ sink
  | .async thread => observeOn.scheduler.CanPerform (.async thread)
  | .runBlock => observeOn.scheduler.CanPerform .runBlock
  | .finish => observeOn.scheduler.CanPerform .finish
  | .dispose _ => True

instance [DecidableEq Failure] [DecidableEq Element]
    (observeOn : ObserveOn Failure Element)
    (input : Input Failure Element) :
    Decidable (observeOn.CanPerform input) :=
  match input with
  | .on _ _ _ => inferInstanceAs (Decidable (_ ∧ _))
  | .async thread =>
      inferInstanceAs
        (Decidable (observeOn.scheduler.CanPerform (.async thread)))
  | .runBlock =>
      inferInstanceAs (Decidable (observeOn.scheduler.CanPerform .runBlock))
  | .finish =>
      inferInstanceAs (Decidable (observeOn.scheduler.CanPerform .finish))
  | .dispose _ => inferInstanceAs (Decidable True)

/-- Sources observed on the main thread. -/
def system : System (ObserveOn Failure Element) (Input Failure Element) Empty where
  Enabled := CanPerform
  step := fun observeOn input => .ok (observeOn.perform input)

instance [DecidableEq Failure] [DecidableEq Element]
    (observeOn : ObserveOn Failure Element)
    (input : Input Failure Element) :
    Decidable (system.Enabled observeOn input) :=
  inferInstanceAs (Decidable (observeOn.CanPerform input))

/-! ## What a sink passes on -/

/-- The event that the source of a sink emits. -/
def Input.emitted (sink : Nat) :
    Input Failure Element → List (Event Failure Element)
  | .on other _ event => if other = sink then [event] else []
  | _ => []

/-- The input stops a sink. -/
def Input.stops (sink : Nat) : Input Failure Element → Bool
  | .on other _ event => other = sink && event.isStopEvent
  | .dispose other => other = sink
  | _ => false

/-- The events of the source up to the first one that stops the sink, or up to
the disposal of the sink. -/
def forwarded (sink : Nat) :
    List (Input Failure Element) → List (Event Failure Element)
  | [] => []
  | input :: inputs =>
      input.emitted sink ++
        if input.stops sink then [] else forwarded sink inputs

theorem forwarded_append
    (sink : Nat)
    (before after : List (Input Failure Element)) :
    forwarded sink (before ++ after) =
      forwarded sink before ++
        if before.any (Input.stops sink) then [] else forwarded sink after := by
  induction before with
  | nil => rfl
  | cons input before inductionHypothesis =>
      rw [List.cons_append, forwarded, forwarded, inductionHypothesis]
      cases stops : input.stops sink <;> simp [stops]

/-- The events that actions deliver through a sink. -/
def eventsOf
    (sink : Nat)
    (works : List (ScheduledWork (Nat × Event Failure Element))) :
    List (Event Failure Element) :=
  (MainScheduler.ofKey bySink sink works).map fun work => work.item.2

/-- The events that the observer of a sink has received. -/
def received (observeOn : ObserveOn Failure Element) (sink : Nat) :
    List (Event Failure Element) :=
  eventsOf sink observeOn.scheduler.run

/-- The events of each sink are in order, a sink has stopped when an input has
stopped it, and a stop event is on its way only from a sink that has stopped. -/
structure Faithful
    (inputs : List (Input Failure Element))
    (observeOn : ObserveOn Failure Element) : Prop where
  consistent : observeOn.scheduler.Consistent
  inOrder : observeOn.scheduler.InOrder bySink
  none_disposed : observeOn.scheduler.disposed = []
  stopped : ∀ sink,
    sink ∈ observeOn.isStopped ↔ inputs.any (Input.stops sink)
  accepted : ∀ sink,
    eventsOf sink observeOn.scheduler.accepted = forwarded sink inputs
  pending_stop : ∀ work ∈ observeOn.scheduler.pendingWorks,
    work.item.2.isStopEvent → work.item.1 ∈ observeOn.isStopped

theorem eventsOf_append
    (sink : Nat)
    (left right : List (ScheduledWork (Nat × Event Failure Element))) :
    eventsOf sink (left ++ right) = eventsOf sink left ++ eventsOf sink right := by
  rw [eventsOf, MainScheduler.ofKey_append, List.map_append]
  rfl

/-- A sink that has not stopped schedules the event, and stops if the event is a
stop event. -/
theorem on_of_not_stopped
    {observeOn : ObserveOn Failure Element}
    {sink : Nat}
    (notStopped : sink ∉ observeOn.isStopped)
    (thread : Nat)
    (event : Event Failure Element) :
    observeOn.on sink thread event =
      { scheduler :=
          observeOn.scheduler.perform (.schedule thread (sink, event))
        isStopped :=
          if event.isStopEvent then sink :: observeOn.isStopped
          else observeOn.isStopped } := by
  cases event <;> simp [on, onCore, notStopped, Event.isStopEvent,
    MainScheduler.perform]

theorem on_of_stopped
    {observeOn : ObserveOn Failure Element}
    {sink : Nat}
    (stopped : sink ∈ observeOn.isStopped)
    (thread : Nat)
    (event : Event Failure Element) :
    observeOn.on sink thread event = observeOn := by
  cases event <;> simp [on, stopped]

theorem mem_dispose
    (observeOn : ObserveOn Failure Element)
    (disposed sink : Nat) :
    sink ∈ (observeOn.dispose disposed).isStopped ↔
      sink ∈ observeOn.isStopped ∨ disposed = sink := by
  simp only [dispose]
  split <;> grind

namespace Faithful

variable
  {inputs : List (Input Failure Element)}
  {observeOn : ObserveOn Failure Element}

theorem stopped_snoc
    (faithful : Faithful inputs observeOn)
    (input : Input Failure Element)
    (sink : Nat) :
    (inputs ++ [input]).any (Input.stops sink) ↔
      sink ∈ observeOn.isStopped ∨ input.stops sink := by
  rw [List.any_append, Bool.or_eq_true, ← faithful.stopped]
  simp

/-- Nothing is passed on for a sink that has stopped. -/
theorem forwarded_snoc
    (faithful : Faithful inputs observeOn)
    (input : Input Failure Element)
    (sink : Nat) :
    forwarded sink (inputs ++ [input]) =
      forwarded sink inputs ++
        if sink ∈ observeOn.isStopped then [] else input.emitted sink := by
  rw [forwarded_append]
  simp only [← faithful.stopped, forwarded, ite_self, List.append_nil]

/-- A source emits an event. -/
theorem on
    (faithful : Faithful inputs observeOn)
    {sink thread : Nat}
    {event : Event Failure Element}
    (enabled : observeOn.CanPerform (.on sink thread event)) :
    Faithful (inputs ++ [.on sink thread event])
      (observeOn.on sink thread event) := by
  by_cases stopped : sink ∈ observeOn.isStopped
  · rw [on_of_stopped stopped]
    refine ⟨faithful.consistent, faithful.inOrder, faithful.none_disposed, ?_,
      ?_, faithful.pending_stop⟩
    · intro other
      rw [faithful.stopped_snoc]
      grind [Input.stops]
    · intro other
      rw [faithful.forwarded_snoc, faithful.accepted]
      grind [Input.emitted]
  · rw [on_of_not_stopped stopped]
    have next := MainScheduler.accepted_perform observeOn.scheduler
      (.schedule thread (sink, event))
    constructor
    · exact faithful.consistent.perform enabled.1
    · exact faithful.inOrder.perform faithful.consistent enabled.1 enabled.2
    · rw [MainScheduler.disposed_perform _ (by simp), faithful.none_disposed]
    · intro other
      rw [faithful.stopped_snoc]
      cases isStop : event.isStopEvent
      · simp [Input.stops, isStop]
      · simp only [if_true, List.mem_cons, Input.stops, isStop, Bool.and_true]
        grind
    · intro other
      rw [faithful.forwarded_snoc, next, eventsOf_append, faithful.accepted]
      congr 1
      by_cases same : sink = other
      · subst same
        simp [stopped, Input.emitted, eventsOf, MainScheduler.ofKey, bySink,
          MainScheduler.Input.counted, MainScheduler.nextWork]
      · simp [same, Input.emitted, eventsOf, MainScheduler.ofKey, bySink,
          MainScheduler.Input.counted, MainScheduler.nextWork]
    · intro work isPending isStop
      rcases MainScheduler.mem_pendingWorks_perform enabled.1 isPending with
        before | ⟨_, _, isCall, isNew⟩
      · have already := faithful.pending_stop work before isStop
        grind
      · cases isCall
        subst isNew
        simp only [MainScheduler.nextWork] at isStop ⊢
        simp [isStop]

/-- The scheduler makes a step by itself. -/
theorem proceed
    (faithful : Faithful inputs observeOn)
    {step : MainScheduler.Input (Nat × Event Failure Element)}
    (enabled : observeOn.scheduler.CanPerform step)
    (isStep : step = .runBlock ∨ step = .finish ∨
      ∃ thread, step = .async thread)
    (input : Input Failure Element)
    (nothing : ∀ sink, input.emitted sink = [] ∧ input.stops sink = false) :
    Faithful (inputs ++ [input])
      { observeOn with scheduler := observeOn.scheduler.perform step } := by
  have notCounted : step.counted observeOn.scheduler = [] := by
    rcases isStep with rfl | rfl | ⟨thread, rfl⟩ <;> rfl
  have notDispose : ∀ ticket, step ≠ .dispose ticket := by
    rcases isStep with rfl | rfl | ⟨thread, rfl⟩ <;> simp
  constructor
  · exact faithful.consistent.perform enabled
  · apply faithful.inOrder.perform faithful.consistent enabled
    rcases isStep with rfl | rfl | ⟨thread, rfl⟩ <;> trivial
  · rw [MainScheduler.disposed_perform _ notDispose, faithful.none_disposed]
  · intro sink
    rw [faithful.stopped_snoc, (nothing sink).2]
    simp
  · intro sink
    rw [faithful.forwarded_snoc, (nothing sink).1, ite_self, List.append_nil,
      MainScheduler.accepted_perform, notCounted, List.append_nil,
      faithful.accepted]
  · intro work isPending isStop
    rcases MainScheduler.mem_pendingWorks_perform enabled isPending with
      before | ⟨_, _, isCall, -⟩
    · exact faithful.pending_stop work before isStop
    · rcases isStep with rfl | rfl | ⟨thread, rfl⟩ <;> simp at isCall

/-- A delivery ends. A stop event comes from a sink that has stopped. -/
theorem finish
    (faithful : Faithful inputs observeOn)
    (enabled : observeOn.scheduler.CanPerform .finish) :
    Faithful (inputs ++ [.finish]) observeOn.finish := by
  have proceeded := faithful.proceed enabled (.inr (.inl rfl)) .finish
    fun _ => ⟨rfl, rfl⟩
  have unchanged : observeOn.finish =
      { observeOn with
          scheduler := observeOn.scheduler.perform .finish } := by
    unfold ObserveOn.finish
    split
    · rfl
    · rename_i work outer isRunning
      split
      · rename_i isStop
        have stopped := faithful.pending_stop work
          (by simp [MainScheduler.pendingWorks, isRunning]) isStop
        simp only [dispose, stopped, if_true]
        rfl
      · rfl
  rw [unchanged]
  exact proceeded

/-- A sink is disposed of. -/
theorem dispose
    (faithful : Faithful inputs observeOn)
    (sink : Nat) :
    Faithful (inputs ++ [.dispose sink]) (observeOn.dispose sink) where
  consistent := faithful.consistent
  inOrder := faithful.inOrder
  none_disposed := faithful.none_disposed
  stopped := by
    intro other
    rw [mem_dispose, faithful.stopped_snoc]
    simp [Input.stops]
  accepted := by
    intro other
    simp only [faithful.forwarded_snoc, Input.emitted, ite_self,
      List.append_nil]
    exact faithful.accepted other
  pending_stop := by
    intro work isPending isStop
    rw [mem_dispose]
    exact .inl (faithful.pending_stop work isPending isStop)

/-- The step lemma. -/
theorem perform
    (faithful : Faithful inputs observeOn)
    {input : Input Failure Element}
    (enabled : observeOn.CanPerform input) :
    Faithful (inputs ++ [input]) (observeOn.perform input) := by
  cases input with
  | on sink thread event => exact faithful.on enabled
  | async thread =>
      have isStep : MainScheduler.CanPerform _ (.async thread) := enabled
      exact faithful.proceed isStep (.inr (.inr ⟨thread, rfl⟩)) _
        fun _ => ⟨rfl, rfl⟩
  | runBlock =>
      have isStep : MainScheduler.CanPerform _ .runBlock := enabled
      exact faithful.proceed isStep (.inl rfl) _ fun _ => ⟨rfl, rfl⟩
  | finish => exact faithful.finish enabled
  | dispose sink => exact faithful.dispose sink

end Faithful

end ObserveOn
end RxSwift
end MVVMExample
