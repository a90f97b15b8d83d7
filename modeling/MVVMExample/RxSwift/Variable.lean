import MVVMExample.RxSwift.BehaviorSubject
import MVVMExample.Transition.Translation

/-!
# Variables and their observers

Setting a `Variable` writes its value under a lock, and sends the value to a
behavior subject after the lock has been released. A variable that is deallocated
completes its subject, which outlives it.

As long as setters do not overlap and nothing is sent in the middle of a dispatch,
every present observer has been told the value of the variable last. Setters that
overlap may write and send in different orders, and leave the observers with a
value that the variable does not have.
-/

namespace MVVMExample
namespace RxSwift

open Reactive Transition

/-- A variable, with the values that setters have written and not yet sent. -/
structure Variable (Failure Element Observer : Type*) where
  value : Element
  subject : BehaviorSubject.InUse Failure Element Observer
  setting : List Element := []
  released : Bool := false
  deriving DecidableEq

namespace Variable

variable {Failure Element Observer : Type*}

/-- A variable and its subject start with the same value. -/
def init (value : Element) : Variable Failure Element Observer where
  value := value
  subject := .init value

/-- Uses of a variable and its observable, the second half of a setter, and the
progress of dispatches. -/
inductive Input (Element Observer : Type*)
  | set (newValue : Element)
  | send (setter : Nat)
  | subscribe (observer : Observer)
  | unsubscribe (disposeKey : BagKey)
  | deinit
  | deliver (dispatch : Nat)
  deriving DecidableEq

/-- What a variable does to its subject. -/
def translate
    (cell : Variable Failure Element Observer) :
    Input Element Observer →
      List (PublishSubject.Input Failure Element Observer)
  | .set _ => []
  | .send setter =>
      (cell.setting[setter]?.map fun newValue => .on (.next newValue)).toList
  | .subscribe observer => [.subscribe observer]
  | .unsubscribe disposeKey => [.unsubscribe disposeKey]
  | .deinit => [.on .completed]
  | .deliver dispatch => [.deliver dispatch]

/-- Use the subject of a variable. -/
def use
    (disposedError : Failure)
    (cell : Variable Failure Element Observer)
    (input : PublishSubject.Input Failure Element Observer) :
    Except Trap (Variable Failure Element Observer) :=
  match cell.subject.perform disposedError input with
  | .error trap => .error trap
  | .ok subject => .ok { cell with subject := subject }

/-- Perform one input. -/
def perform
    (disposedError : Failure)
    (cell : Variable Failure Element Observer) :
    Input Element Observer → Except Trap (Variable Failure Element Observer)
  | .set newValue =>
      .ok { cell with
        value := newValue
        setting := cell.setting ++ [newValue] }
  | .send setter =>
      match cell.setting[setter]? with
      | none => .ok cell
      | some newValue =>
          ({ cell with setting := cell.setting.eraseIdx setter }).use
            disposedError (.on (.next newValue))
  | .subscribe observer => cell.use disposedError (.subscribe observer)
  | .unsubscribe disposeKey =>
      cell.use disposedError (.unsubscribe disposeKey)
  | .deinit =>
      ({ cell with released := true }).use disposedError (.on .completed)
  | .deliver dispatch => cell.use disposedError (.deliver dispatch)

/-- A variable is set while somebody holds it, and is deallocated when nobody
does, not even a setter. -/
def CanPerform (cell : Variable Failure Element Observer) :
    Input Element Observer → Prop
  | .set _ => cell.released = false
  | .send setter => setter < cell.setting.length
  | .deinit => cell.released = false ∧ cell.setting = []
  | .deliver dispatch => cell.subject.mailing.CanDeliver dispatch
  | _ => True

/-- Setters do not overlap, and nothing is sent in the middle of a dispatch. -/
def InTurn (cell : Variable Failure Element Observer) :
    Input Element Observer → Prop
  | .set _ => cell.setting = []
  | .send _ => cell.subject.mailing.Quiet
  | .subscribe _ => cell.subject.mailing.Quiet
  | .deinit => cell.subject.mailing.Quiet
  | _ => True

section Decisions

variable [DecidableEq Element]

instance
    (cell : Variable Failure Element Observer)
    (input : Input Element Observer) :
    Decidable (cell.CanPerform input) :=
  match input with
  | .set _ => inferInstanceAs (Decidable (_ = _))
  | .send _ => inferInstanceAs (Decidable (_ < _))
  | .subscribe _ => inferInstanceAs (Decidable True)
  | .unsubscribe _ => inferInstanceAs (Decidable True)
  | .deinit => inferInstanceAs (Decidable (_ ∧ _))
  | .deliver dispatch =>
      inferInstanceAs (Decidable (cell.subject.mailing.CanDeliver dispatch))

instance
    (cell : Variable Failure Element Observer)
    (input : Input Element Observer) :
    Decidable (cell.InTurn input) :=
  match input with
  | .set _ => inferInstanceAs (Decidable (_ = _))
  | .send _ => inferInstanceAs (Decidable cell.subject.mailing.Quiet)
  | .subscribe _ => inferInstanceAs (Decidable cell.subject.mailing.Quiet)
  | .unsubscribe _ => inferInstanceAs (Decidable True)
  | .deinit => inferInstanceAs (Decidable cell.subject.mailing.Quiet)
  | .deliver _ => inferInstanceAs (Decidable True)

end Decisions

/-- A variable in any interleaving of setters, uses and dispatches. -/
def system (disposedError : Failure) :
    System (Variable Failure Element Observer) (Input Element Observer) Trap where
  Enabled := CanPerform
  step := perform disposedError

/-- A variable whose setters and dispatches do not overlap. -/
def inTurn (disposedError : Failure) :
    System (Variable Failure Element Observer) (Input Element Observer) Trap :=
  (system disposedError).restrict InTurn

instance
    [DecidableEq Element]
    (disposedError : Failure)
    (cell : Variable Failure Element Observer)
    (input : Input Element Observer) :
    Decidable ((system disposedError).Enabled cell input) :=
  inferInstanceAs (Decidable (cell.CanPerform input))

instance
    [DecidableEq Element]
    (disposedError : Failure)
    (cell : Variable Failure Element Observer)
    (input : Input Element Observer) :
    Decidable ((inTurn disposedError).Enabled cell input) :=
  inferInstanceAs (Decidable (_ ∧ _))

section Uses

variable
    {disposedError : Failure}
    {cell after : Variable Failure Element Observer}

/-- A use changes the subject only. -/
theorem of_use
    {input : PublishSubject.Input Failure Element Observer}
    (used : cell.use disposedError input = .ok after) :
    cell.subject.perform disposedError input = .ok after.subject ∧
      after = { cell with subject := after.subject } := by
  unfold use at used
  split at used
  · contradiction
  · rename_i subject performed
    cases used
    exact ⟨performed, rfl⟩

/-- A use of the subject is a run of the subject. -/
theorem run_of_use
    {subject : BehaviorSubject.InUse Failure Element Observer}
    {input : PublishSubject.Input Failure Element Observer}
    (enabled :
      (BehaviorSubject.InUse.inTurn disposedError).Enabled subject input)
    (used : cell.use disposedError input = .ok after)
    (isSubject : cell.subject = subject) :
    (BehaviorSubject.InUse.inTurn disposedError).Run subject [input]
      after.subject := by
  subst isSubject
  exact .single enabled (of_use used).1

end Uses

section Observers

variable
    {disposedError : Failure}
    {initial : Element}
    {inputs : List (Input Element Observer)}
    {cell : Variable Failure Element Observer}

/-- A variable uses its subject as the translation says. -/
theorem translation :
    System.Translation (inTurn disposedError)
      (BehaviorSubject.InUse.inTurn disposedError) translate
      (fun (cell : Variable Failure Element Observer) subject =>
        cell.subject = subject) where
  step := by
    rintro before _ input after rfl ⟨can, allowed⟩ performed
    refine ⟨after.subject, ?_, rfl⟩
    cases input with
    | set newValue =>
        cases performed
        exact .nil
    | send setter =>
        have isValue := List.getElem?_eq_getElem can
        simp only [inTurn, System.restrict, system, perform, isValue] at performed
        simp only [translate, isValue, Option.map_some, Option.toList_some]
        exact run_of_use ⟨trivial, fun _ => allowed⟩ performed rfl
    | subscribe observer => exact run_of_use ⟨trivial, fun _ => allowed⟩ performed rfl
    | unsubscribe disposeKey =>
        exact run_of_use ⟨trivial, fun impossible => by contradiction⟩ performed rfl
    | deinit =>
        have used : ({ before with released := true }).use disposedError
            (.on .completed) = .ok after := performed
        exact run_of_use ⟨trivial, fun _ => allowed⟩ used rfl
    | deliver dispatch =>
        exact run_of_use ⟨can, fun impossible => by contradiction⟩ performed rfl

/-- The step is translated to one use of the subject at most. -/
theorem length_translate_le
    (cell : Variable Failure Element Observer)
    (input : Input Element Observer) :
    (cell.translate input).length ≤ 1 := by
  cases input with
  | send setter =>
      rw [translate]
      cases cell.setting[setter]? <;> simp
  | _ => simp [translate]

/-- The value is the latest element of the subject, or is what the only setter
will send; the subject completes with the variable and is not disposed of. -/
structure Settled (cell : Variable Failure Element Observer) : Prop where
  sent : cell.setting = [] → cell.subject.subject.element = cell.value
  setter : cell.setting = [] ∨ cell.setting = [cell.value]
  held : cell.setting ≠ [] → cell.released = false
  notDisposed : cell.subject.subject.isDisposed = false
  ended : cell.subject.subject.stoppedEvent =
    if cell.released then some .completed else none

theorem settled_init :
    (init initial : Variable Failure Element Observer).Settled where
  sent := fun _ => rfl
  setter := .inl rfl
  held := fun impossible => absurd rfl impossible
  notDisposed := rfl
  ended := rfl

namespace Settled

variable {after : Variable Failure Element Observer}

/-- A use that leaves the element and the end of the subject as they are. -/
theorem of_same
    (settled : cell.Settled)
    {input : PublishSubject.Input Failure Element Observer}
    (used : cell.use disposedError input = .ok after)
    (same : after.subject.subject.element = cell.subject.subject.element ∧
      after.subject.subject.isDisposed = cell.subject.subject.isDisposed ∧
        after.subject.subject.stoppedEvent =
          cell.subject.subject.stoppedEvent) :
    after.Settled := by
  obtain ⟨sameElement, sameDisposed, sameEvent⟩ := same
  obtain ⟨_, isAfter⟩ := of_use used
  rw [isAfter]
  exact
    { sent := fun none => sameElement.trans (settled.sent none)
      setter := settled.setter
      held := settled.held
      notDisposed := sameDisposed.trans settled.notDisposed
      ended := sameEvent.trans settled.ended }

/-- The subject of a variable that is held takes events. -/
theorem synchronizedOn
    (settled : cell.Settled)
    (held : cell.released = false)
    (event : Event Failure Element) :
    cell.subject.subject.synchronizedOn event =
      match event with
      | .next element =>
          ({ cell.subject.subject with element := element },
            cell.subject.subject.observers)
      | event =>
          ({ cell.subject.subject with stoppedEvent := some event },
            cell.subject.subject.observers) := by
  have noEvent := settled.ended
  rw [held, if_neg Bool.false_ne_true] at noEvent
  have running : ¬((cell.subject.subject.stoppedEvent.isSome ||
      cell.subject.subject.isDisposed) = true) := by
    simp [noEvent, settled.notDisposed]
  cases event <;> exact if_neg running

theorem send
    (settled : cell.Settled)
    {setter : Nat}
    (can : setter < cell.setting.length)
    (performed : cell.perform disposedError (.send setter) = .ok after) :
    after.Settled := by
  have some : cell.setting ≠ [] := List.ne_nil_of_length_pos (by omega)
  have onlyOne := settled.setter.resolve_left some
  have held := settled.held some
  rw [onlyOne, List.length_singleton] at can
  obtain rfl : setter = 0 := by omega
  simp only [perform, onlyOne, List.getElem?_cons_zero, use,
    BehaviorSubject.InUse.perform, settled.synchronizedOn held,
    List.eraseIdx_cons_zero] at performed
  cases performed
  exact
    { sent := fun _ => rfl
      setter := .inl rfl
      held := fun impossible => absurd rfl impossible
      notDisposed := settled.notDisposed
      ended := settled.ended }

theorem deinit
    (settled : cell.Settled)
    (can : cell.released = false ∧ cell.setting = [])
    (performed : cell.perform disposedError .deinit = .ok after) :
    after.Settled := by
  obtain ⟨held, none⟩ := can
  simp only [perform, use, BehaviorSubject.InUse.perform,
    settled.synchronizedOn held] at performed
  cases performed
  exact
    { sent := settled.sent
      setter := settled.setter
      held := fun impossible => absurd none impossible
      notDisposed := settled.notDisposed
      ended := rfl }

/-- The step lemma. -/
theorem step
    (settled : cell.Settled)
    {input : Input Element Observer}
    (enabled : (inTurn disposedError).Enabled cell input)
    (performed : cell.perform disposedError input = .ok after) :
    after.Settled := by
  obtain ⟨can, allowed⟩ := enabled
  cases input with
  | set newValue =>
      cases performed
      have none : cell.setting = [] := allowed
      exact
        { sent := fun impossible => by simp at impossible
          setter := .inr (by rw [none]; rfl)
          held := fun _ => can
          notDisposed := settled.notDisposed
          ended := settled.ended }
  | send setter => exact settled.send can performed
  | subscribe observer =>
      have used : cell.use disposedError (.subscribe observer) = .ok after :=
        performed
      apply settled.of_same used
      rw [← Except.ok.inj (of_use used).1]
      dsimp only [BehaviorSubject.synchronizedSubscribe]
      split
      · exact ⟨rfl, rfl, rfl⟩
      · split <;> exact ⟨rfl, rfl, rfl⟩
  | unsubscribe disposeKey =>
      have used : cell.use disposedError (.unsubscribe disposeKey) = .ok after :=
        performed
      apply settled.of_same used
      have unsubscribed := (of_use used).1
      simp only [BehaviorSubject.InUse.perform,
        BehaviorSubject.synchronizedUnsubscribe, settled.notDisposed,
        Bool.false_eq_true, if_false] at unsubscribed
      split at unsubscribed
      · contradiction
      · rename_i subject removed
        rw [← Except.ok.inj unsubscribed]
        split at removed
        · contradiction
        · cases removed
          exact ⟨rfl, settled.notDisposed.symm, rfl⟩
  | deinit => exact settled.deinit can performed
  | deliver dispatch =>
      have used : cell.use disposedError (.deliver dispatch) = .ok after :=
        performed
      apply settled.of_same used
      rw [← Except.ok.inj (of_use used).1]
      exact ⟨rfl, rfl, rfl⟩

/-- The run lemma. -/
theorem of_run
    (run : (inTurn disposedError).Run (init initial) inputs cell) :
    cell.Settled :=
  System.Run.invariant (fun _ cell => cell.Settled) settled_init
    (fun _ _ _ _ settled enabled performed => settled.step enabled performed) run

/-- An observer that subscribes is told the value, or that the variable is no
more. -/
theorem greeting
    (settled : cell.Settled)
    (noSetter : cell.setting = [])
    (disposedError : Failure)
    (observer : Observer) :
    (cell.subject.subject.synchronizedSubscribe disposedError observer).2 =
      if cell.released then .completed else .next cell.value := by
  have ended := settled.ended
  unfold BehaviorSubject.synchronizedSubscribe
  cases isReleased : cell.released with
  | true => simp [settled.notDisposed, ended, isReleased]
  | false =>
      simp [settled.notDisposed, ended, isReleased, settled.sent noSetter]

end Settled

variable [DecidableEq Observer]

/-- When setters do not overlap and nothing is sent in the middle of a dispatch,
all setters and dispatches having ended, what each present observer has been told
last, and what an observer that subscribes is told, is the value of the variable,
or the completion if the variable has been deallocated. -/
theorem observers_told_value
    (run : (inTurn disposedError).Run (init initial) inputs cell)
    (few : inputs.length ≤ 2 ^ 64)
    (quiet : cell.subject.mailing.Quiet)
    (noSetter : cell.setting = []) :
    (∀ observer ∈ cell.subject.subject.observers.forEach,
      (cell.subject.mailing.arrivals observer).getLast? =
        some (if cell.released then .completed else .next cell.value)) ∧
      ∀ observer,
        (cell.subject.subject.synchronizedSubscribe disposedError observer).2 =
          if cell.released then .completed else .next cell.value := by
  have greeting := (Settled.of_run run).greeting noSetter disposedError
  obtain ⟨_, subjectRun, rfl⟩ := translation.run rfl run
  have fewUses := (inTurn disposedError).length_translated_le
    length_translate_le (init initial) inputs
  have upToDate := (BehaviorSubject.InUse.present_observers_up_to_date
    subjectRun (by omega) quiet).2
  refine ⟨fun observer present => ?_, greeting⟩
  rw [← greeting observer]
  exact upToDate observer present

/-- The second observer subscribes between the two halves of a setter. -/
theorem observers_told_value_between :
    ∃ cell : Variable Unit Nat Nat,
      (inTurn ()).Run (init 0)
          [.subscribe 1, .set 10, .subscribe 2, .send 0, .deliver 0, .deliver 0]
          cell ∧
        cell.subject.mailing.arrivals 2 = [.next 0, .next 10] ∧
        (cell.subject.mailing.arrivals 1).getLast? =
          some (if cell.released then .completed else .next cell.value) := by
  have run : (inTurn ()).Run (init 0)
      [.subscribe 1, .set 10, .subscribe 2, .send 0, .deliver 0, .deliver 0]
      (_ : Variable Unit Nat Nat) :=
    System.run_of_replay rfl
  exact ⟨_, run, rfl,
    (observers_told_value run (by decide) (by decide) rfl).1 1 (by decide)⟩

/-- Two setters overlap: the variable has the value of the second one, and its
observer was told that of the first one last. -/
example :
    ((system ()).replay (init 0)
        [.subscribe 1, .set 10, .set 20, .send 1, .deliver 0, .send 0,
          .deliver 1] :
      Option (Variable Unit Nat Nat)).map
        (fun cell => (cell.value, cell.subject.mailing.arrivals 1)) =
      some (20, [.next 0, .next 20, .next 10]) := by
  rfl

end Observers
end Variable
end RxSwift
end MVVMExample
