import MVVMExample.RxSwift.Queue
import Mathlib.Data.List.Nodup

/-!
# The trampoline of the current thread

Every subscription to a producer goes through `CurrentThreadScheduler`. The
first action scheduled on a thread runs at once; actions scheduled while it runs
are queued, and the call that ran the first action runs them afterwards.

So no action runs inside another one, actions run in the order in which they
were scheduled, and the outermost call returns only when every action has been
run, except those whose disposables were disposed of before their turn.
-/

namespace MVVMExample
namespace RxSwift

open Transition

/-- A call of `schedule` that runs actions: its own one, the next one of the
queue, or a queued one. Actions are numbered as they are scheduled. -/
inductive ScheduleCall
  | first (action : Nat)
  | loop
  | invoke (action : Nat)
  deriving DecidableEq

/-- The scheduler of a thread: the flag and the queue in the storage of the
thread and the calls that run actions, innermost first. The history has the
number of actions scheduled, those that were disposed of, and those that were
taken, passed over and run. -/
structure CurrentThreadScheduler where
  isScheduleRequired : Bool := true
  queue : Option (Queue Nat) := none
  calls : List ScheduleCall := []
  scheduled : Nat := 0
  disposed : List Nat := []
  taken : List Nat := []
  passedOver : List Nat := []
  run : List Nat := []
  deriving DecidableEq

namespace CurrentThreadScheduler

/-- Run the next action at once. -/
def scheduleFirst (scheduler : CurrentThreadScheduler) :
    CurrentThreadScheduler :=
  { scheduler with
      isScheduleRequired := false
      calls := .first scheduler.scheduled :: scheduler.calls
      scheduled := scheduler.scheduled + 1
      taken := scheduler.taken ++ [scheduler.scheduled]
      run := scheduler.run ++ [scheduler.scheduled] }

/-- Queue the next action, installing a queue if there is none. -/
def scheduleLater (scheduler : CurrentThreadScheduler) :
    Except Trap CurrentThreadScheduler := do
  let queue ← (scheduler.queue.getD (.init 1)).enqueue scheduler.scheduled
  return { scheduler with
      queue := some queue
      scheduled := scheduler.scheduled + 1 }

/-- Schedule the next action. -/
def schedule (scheduler : CurrentThreadScheduler) :
    Except Trap CurrentThreadScheduler :=
  if scheduler.isScheduleRequired then .ok scheduler.scheduleFirst
  else scheduler.scheduleLater

/-- The innermost call that runs actions returns. -/
def uninstall
    (scheduler : CurrentThreadScheduler)
    (outer : List ScheduleCall) : CurrentThreadScheduler :=
  { scheduler with isScheduleRequired := true, queue := none, calls := outer }

/-- The loop takes the next action of the queue and runs it, unless it was
disposed of. -/
def dequeue
    (scheduler : CurrentThreadScheduler)
    (outer : List ScheduleCall)
    (queue : Queue Nat) : Except Trap CurrentThreadScheduler := do
  match ← queue.dequeue with
  | (_, none) => return scheduler.uninstall outer
  | (queue, some latest) =>
      let scheduler := { scheduler with
        queue := some queue
        taken := scheduler.taken ++ [latest] }
      if latest ∈ scheduler.disposed then
        return { scheduler with
            passedOver := scheduler.passedOver ++ [latest] }
      else
        return { scheduler with
            calls := .invoke latest :: outer
            run := scheduler.run ++ [latest] }

/-- The innermost call goes on: its action returns, or its loop takes the next
action. -/
def proceed (scheduler : CurrentThreadScheduler) :
    Except Trap CurrentThreadScheduler :=
  match scheduler.calls with
  | [] => .ok scheduler
  | .first _ :: outer =>
      match scheduler.queue with
      | none => .ok (scheduler.uninstall outer)
      | some _ => .ok { scheduler with calls := .loop :: outer }
  | .invoke _ :: outer => .ok { scheduler with calls := .loop :: outer }
  | .loop :: outer =>
      match scheduler.queue with
      | none => .ok (scheduler.uninstall outer)
      | some queue => scheduler.dequeue outer queue

/-- What happens on the thread: the running code schedules an action, disposes
of one, or the innermost call goes on. -/
inductive Input
  | schedule
  | dispose (action : Nat)
  | proceed
  deriving DecidableEq

/-- Perform one input. -/
def perform (scheduler : CurrentThreadScheduler) :
    Input → Except Trap CurrentThreadScheduler
  | .schedule => scheduler.schedule
  | .dispose action =>
      .ok { scheduler with disposed := scheduler.disposed ++ [action] }
  | .proceed => scheduler.proceed

/-- Code of the thread runs while no loop takes an action, and disposes of
actions it has scheduled. -/
def CanPerform (scheduler : CurrentThreadScheduler) : Input → Prop
  | .schedule => scheduler.calls.head? ≠ some .loop
  | .dispose action =>
      scheduler.calls.head? ≠ some .loop ∧ action < scheduler.scheduled
  | .proceed => scheduler.calls ≠ []

instance (scheduler : CurrentThreadScheduler) (input : Input) :
    Decidable (scheduler.CanPerform input) :=
  match input with
  | .schedule => inferInstanceAs (Decidable (_ ≠ _))
  | .dispose _ => inferInstanceAs (Decidable (_ ∧ _))
  | .proceed => inferInstanceAs (Decidable (_ ≠ _))

/-- A thread that schedules actions. -/
def system : System CurrentThreadScheduler Input Trap where
  Enabled := CanPerform
  step := perform

instance (scheduler : CurrentThreadScheduler) (input : Input) :
    Decidable (system.Enabled scheduler input) :=
  inferInstanceAs (Decidable (scheduler.CanPerform input))

/-! ## The invariant -/

/-- The installed queue holds the waiting actions. -/
def Holds (queue : Option (Queue Nat)) (waiting : List Nat) : Prop :=
  match queue with
  | none => waiting = []
  | some queue => queue.Represents waiting

/-- The flag, the queue and the calls: nothing is installed on an idle thread,
and a single call runs actions on a busy one. -/
inductive Installed :
    Bool → Option (Queue Nat) → List ScheduleCall → List Nat → Prop
  | idle : Installed true none [] []
  | first
      {queue : Option (Queue Nat)}
      {waiting : List Nat}
      (action : Nat)
      (holds : Holds queue waiting) :
      Installed false queue [.first action] waiting
  | loop
      {queue : Queue Nat}
      {waiting : List Nat}
      (represents : queue.Represents waiting) :
      Installed false (some queue) [.loop] waiting
  | invoke
      {queue : Queue Nat}
      {waiting : List Nat}
      (action : Nat)
      (represents : queue.Represents waiting) :
      Installed false (some queue) [.invoke action] waiting

/-- At most one call runs actions. -/
theorem Installed.length_le
    {isScheduleRequired : Bool}
    {queue : Option (Queue Nat)}
    {calls : List ScheduleCall}
    {waiting : List Nat}
    (installed : Installed isScheduleRequired queue calls waiting) :
    calls.length ≤ 1 := by
  cases installed <;> simp

/-- On an idle thread nothing is installed. -/
theorem Installed.of_idle
    {isScheduleRequired : Bool}
    {queue : Option (Queue Nat)}
    {waiting : List Nat}
    (installed : Installed isScheduleRequired queue [] waiting) :
    isScheduleRequired = true ∧ queue = none ∧ waiting = [] := by
  cases installed with
  | idle => exact ⟨rfl, rfl, rfl⟩

/-- The actions were taken in the order in which they were scheduled, the others
are waiting, and those that were taken were run unless they were disposed of. -/
structure Ordered (scheduler : CurrentThreadScheduler) : Prop where
  installed : ∃ waiting,
    Installed scheduler.isScheduleRequired scheduler.queue scheduler.calls
        waiting ∧
      scheduler.taken ++ waiting = List.range scheduler.scheduled
  run_eq : scheduler.run =
    scheduler.taken.filter (fun action => action ∉ scheduler.passedOver)
  passedOver_disposed : ∀ action ∈ scheduler.passedOver,
    action ∈ scheduler.disposed
  passedOver_taken : ∀ action ∈ scheduler.passedOver,
    action ∈ scheduler.taken

theorem ordered_new : Ordered {} where
  installed := ⟨[], .idle, rfl⟩
  run_eq := rfl
  passedOver_disposed := fun _ present => absurd present List.not_mem_nil
  passedOver_taken := fun _ present => absurd present List.not_mem_nil

namespace Ordered

variable {scheduler : CurrentThreadScheduler}

/-- An action that waits has not been passed over. -/
theorem not_passedOver
    (ordered : scheduler.Ordered)
    {waiting : List Nat}
    (isRange : scheduler.taken ++ waiting = List.range scheduler.scheduled)
    {action : Nat}
    (waits : action ∈ waiting) :
    action ∉ scheduler.passedOver := by
  intro passed
  have nodup : (scheduler.taken ++ waiting).Nodup :=
    isRange ▸ List.nodup_range
  exact List.disjoint_of_nodup_append nodup
    (ordered.passedOver_taken action passed) waits

/-- An action that has not been scheduled has not been passed over. -/
theorem scheduled_not_passedOver (ordered : scheduler.Ordered) :
    scheduler.scheduled ∉ scheduler.passedOver := by
  intro passed
  obtain ⟨waiting, _, isRange⟩ := ordered.installed
  have inRange : scheduler.scheduled ∈ scheduler.taken ++ waiting :=
    List.mem_append_left _ (ordered.passedOver_taken _ passed)
  rw [isRange, List.mem_range] at inRange
  omega

/-- The actions run when one more is taken and not passed over. -/
theorem run_snoc
    (ordered : scheduler.Ordered)
    {action : Nat}
    (notPassed : action ∉ scheduler.passedOver) :
    scheduler.run ++ [action] =
      (scheduler.taken ++ [action]).filter
        (fun action => action ∉ scheduler.passedOver) := by
  rw [List.filter_append, ← ordered.run_eq]
  simp [notPassed]

/-- Nothing but the waiting actions and the calls changed. -/
theorem of_installed
    (ordered : scheduler.Ordered)
    {isScheduleRequired : Bool}
    {queue : Option (Queue Nat)}
    {calls : List ScheduleCall}
    {scheduled : Nat}
    {waiting : List Nat}
    (installed : Installed isScheduleRequired queue calls waiting)
    (isRange : scheduler.taken ++ waiting = List.range scheduled) :
    Ordered
      { scheduler with
          isScheduleRequired := isScheduleRequired
          queue := queue
          calls := calls
          scheduled := scheduled } where
  installed := ⟨waiting, installed, isRange⟩
  run_eq := ordered.run_eq
  passedOver_disposed := ordered.passedOver_disposed
  passedOver_taken := ordered.passedOver_taken

/-- An action that was not passed over was taken and is run. -/
theorem of_run
    (ordered : scheduler.Ordered)
    {isScheduleRequired : Bool}
    {queue : Option (Queue Nat)}
    {calls : List ScheduleCall}
    {scheduled action : Nat}
    {waiting : List Nat}
    (notPassed : action ∉ scheduler.passedOver)
    (installed : Installed isScheduleRequired queue calls waiting)
    (isRange :
      (scheduler.taken ++ [action]) ++ waiting = List.range scheduled) :
    Ordered
      { scheduler with
          isScheduleRequired := isScheduleRequired
          queue := queue
          calls := calls
          scheduled := scheduled
          taken := scheduler.taken ++ [action]
          run := scheduler.run ++ [action] } where
  installed := ⟨waiting, installed, isRange⟩
  run_eq := ordered.run_snoc notPassed
  passedOver_disposed := ordered.passedOver_disposed
  passedOver_taken := fun passed present =>
    List.mem_append_left _ (ordered.passedOver_taken passed present)

/-- An action that was disposed of was taken and is passed over. -/
theorem of_passedOver
    (ordered : scheduler.Ordered)
    {queue : Option (Queue Nat)}
    {action : Nat}
    {waiting : List Nat}
    (notTaken : action ∉ scheduler.taken)
    (disposed : action ∈ scheduler.disposed)
    (installed :
      Installed scheduler.isScheduleRequired queue scheduler.calls waiting)
    (isRange :
      (scheduler.taken ++ [action]) ++ waiting =
        List.range scheduler.scheduled) :
    Ordered
      { scheduler with
          queue := queue
          taken := scheduler.taken ++ [action]
          passedOver := scheduler.passedOver ++ [action] } where
  installed := ⟨waiting, installed, isRange⟩
  run_eq := by
    rw [ordered.run_eq, List.filter_append]
    simp only [List.mem_append, List.mem_singleton, not_or]
    have notLast : [action].filter
        (fun other => decide (other ∉ scheduler.passedOver ∧ other ≠ action)) =
          [] := by
      simp
    rw [notLast, List.append_nil]
    apply List.filter_congr
    intro other isTaken
    have different : other ≠ action := by
      rintro rfl
      exact notTaken isTaken
    simp [different]
  passedOver_disposed := by
    intro other present
    rcases List.mem_append.mp present with before | now
    · exact ordered.passedOver_disposed other before
    · rwa [List.mem_singleton.mp now]
  passedOver_taken := by
    intro other present
    rcases List.mem_append.mp present with before | now
    · exact List.mem_append_left _ (ordered.passedOver_taken other before)
    · exact List.mem_append_right _ now

end Ordered

/-- A queue is installed when the first action is queued. -/
theorem Holds.enqueue
    {queue : Option (Queue Nat)}
    {waiting : List Nat}
    (holds : Holds queue waiting)
    (action : Nat) :
    ∃ after, (queue.getD (.init 1)).enqueue action = .ok after ∧
      after.Represents (waiting ++ [action]) := by
  cases queue with
  | none =>
      obtain rfl : waiting = [] := holds
      obtain ⟨after, enqueued, represents, _⟩ :=
        (Queue.init_represents 1).enqueue action
      exact ⟨after, enqueued, represents⟩
  | some queue =>
      obtain ⟨after, enqueued, represents, _⟩ :=
        Queue.Represents.enqueue holds action
      exact ⟨after, enqueued, represents⟩

namespace Ordered

variable {scheduler : CurrentThreadScheduler}

/-- Queueing an action keeps the order. -/
theorem scheduleLater
    (ordered : scheduler.Ordered)
    {waiting : List Nat}
    (holds : Holds scheduler.queue waiting)
    (isRange : scheduler.taken ++ waiting = List.range scheduler.scheduled)
    (stillInstalled : ∀ queue : Queue Nat,
      queue.Represents (waiting ++ [scheduler.scheduled]) →
        Installed scheduler.isScheduleRequired (some queue) scheduler.calls
          (waiting ++ [scheduler.scheduled])) :
    ∃ after, scheduler.scheduleLater = .ok after ∧ after.Ordered := by
  obtain ⟨queue, enqueued, represents⟩ := holds.enqueue scheduler.scheduled
  have oneMore : scheduler.taken ++ (waiting ++ [scheduler.scheduled]) =
      List.range (scheduler.scheduled + 1) := by
    rw [← List.append_assoc, isRange, List.range_succ]
  simp only [CurrentThreadScheduler.scheduleLater, enqueued, bind, Except.bind]
  exact ⟨_, rfl, ordered.of_installed (stillInstalled queue represents) oneMore⟩

theorem schedule
    (ordered : scheduler.Ordered)
    (enabled : scheduler.CanPerform .schedule) :
    ∃ after, scheduler.schedule = .ok after ∧ after.Ordered := by
  obtain ⟨waiting, installed, isRange⟩ := ordered.installed
  have laterIfNotRequired : scheduler.isScheduleRequired = false →
      scheduler.schedule = scheduler.scheduleLater := by
    intro notRequired
    rw [CurrentThreadScheduler.schedule, notRequired,
      if_neg Bool.false_ne_true]
  generalize required : scheduler.isScheduleRequired = isRequired at installed
  generalize installedQueue : scheduler.queue = queue at installed
  generalize running : scheduler.calls = calls at installed
  cases installed with
  | idle =>
      rw [CurrentThreadScheduler.schedule, required, if_pos rfl]
      have oneMore : (scheduler.taken ++ [scheduler.scheduled]) ++ [] =
          List.range (scheduler.scheduled + 1) := by
        rw [List.append_nil] at isRange ⊢
        rw [isRange, List.range_succ]
      refine ⟨_, rfl, ordered.of_run ordered.scheduled_not_passedOver ?_ oneMore⟩
      rw [installedQueue, running]
      exact .first scheduler.scheduled rfl
  | first action holds =>
      rw [laterIfNotRequired required]
      apply ordered.scheduleLater (installedQueue ▸ holds) isRange
      intro queue represents
      rw [required, running]
      exact .first action represents
  | loop represents => simp [CanPerform, running] at enabled
  | @invoke queue _ action represents =>
      rw [laterIfNotRequired required]
      have holds : Holds scheduler.queue waiting := by
        rw [installedQueue]
        exact represents
      apply ordered.scheduleLater holds isRange
      intro queue represents
      rw [required, running]
      exact .invoke action represents

theorem proceed
    (ordered : scheduler.Ordered)
    (enabled : scheduler.CanPerform .proceed) :
    ∃ after, scheduler.proceed = .ok after ∧ after.Ordered := by
  obtain ⟨waiting, installed, isRange⟩ := ordered.installed
  generalize required : scheduler.isScheduleRequired = isRequired at installed
  generalize installedQueue : scheduler.queue = queue at installed
  generalize running : scheduler.calls = calls at installed
  cases installed with
  | idle => exact absurd running enabled
  | first action holds =>
      cases queue with
      | none =>
          obtain rfl : waiting = [] := holds
          refine ⟨scheduler.uninstall [], ?_, ordered.of_installed .idle isRange⟩
          simp only [CurrentThreadScheduler.proceed, running, installedQueue]
      | some queue =>
          refine ⟨{ scheduler with calls := [.loop] }, ?_,
            ordered.of_installed ?_ isRange⟩
          · simp only [CurrentThreadScheduler.proceed, running, installedQueue]
          · rw [required, installedQueue]
            exact .loop holds
  | @invoke queue _ action represents =>
      refine ⟨{ scheduler with calls := [.loop] }, ?_,
        ordered.of_installed ?_ isRange⟩
      · simp only [CurrentThreadScheduler.proceed, running]
      · rw [required, installedQueue]
        exact .loop represents
  | @loop queue _ represents =>
      have isDequeue : scheduler.proceed = scheduler.dequeue [] queue := by
        simp only [CurrentThreadScheduler.proceed, running, installedQueue]
      rw [isDequeue]
      cases waiting with
      | nil =>
          refine ⟨scheduler.uninstall [], ?_, ordered.of_installed .idle isRange⟩
          simp only [CurrentThreadScheduler.dequeue, represents.dequeue_nil,
            bind, Except.bind]
          rfl
      | cons latest waiting =>
          obtain ⟨after, dequeued, stillRepresents, _⟩ := represents.dequeue
          have moved : (scheduler.taken ++ [latest]) ++ waiting =
              List.range scheduler.scheduled := by
            rw [← isRange]
            simp
          have waits : latest ∈ latest :: waiting := List.mem_cons_self
          simp only [CurrentThreadScheduler.dequeue, dequeued, bind,
            Except.bind]
          by_cases isDisposed : latest ∈ scheduler.disposed
          · rw [if_pos isDisposed]
            have notTaken : latest ∉ scheduler.taken := by
              intro isTaken
              have nodup : (scheduler.taken ++ latest :: waiting).Nodup :=
                isRange ▸ List.nodup_range
              exact List.disjoint_of_nodup_append nodup isTaken waits
            refine ⟨_, rfl, ordered.of_passedOver notTaken isDisposed ?_ moved⟩
            rw [required, running]
            exact .loop stillRepresents
          · rw [if_neg isDisposed]
            refine ⟨_, rfl, ordered.of_run
              (ordered.not_passedOver isRange waits) ?_ moved⟩
            rw [required]
            exact .invoke latest stillRepresents

/-- The step lemma: no input traps, and every input keeps the order. -/
theorem perform
    (ordered : scheduler.Ordered)
    {input : Input}
    (enabled : scheduler.CanPerform input) :
    ∃ after, scheduler.perform input = .ok after ∧ after.Ordered := by
  cases input with
  | schedule => exact ordered.schedule enabled
  | proceed => exact ordered.proceed enabled
  | dispose action =>
      refine ⟨_, rfl, ordered.installed, ordered.run_eq, ?_,
        ordered.passedOver_taken⟩
      intro other present
      exact List.mem_append_left _ (ordered.passedOver_disposed other present)

/-- The run lemma. -/
theorem of_system_run
    {inputs : List Input}
    (run : system.Run {} inputs scheduler) :
    scheduler.Ordered := by
  refine System.Run.invariant (fun _ scheduler => scheduler.Ordered)
    ordered_new ?_ run
  intro _ input before after ordered enabled performed
  obtain ⟨next, nextPerformed, stillOrdered⟩ := ordered.perform enabled
  obtain rfl : next = after :=
    Except.ok.inj (nextPerformed.symm.trans performed)
  exact stillOrdered

end Ordered

/-- After every run of a thread, actions have been run in the order in which they
were scheduled, none of them twice, and never inside one another; nothing traps;
and when the outermost call has returned, every action has been run that was not
disposed of, and nothing is installed on the thread any more. -/
theorem actions_run_in_order
    {inputs : List Input}
    {scheduler : CurrentThreadScheduler}
    (run : system.Run {} inputs scheduler) :
    scheduler.run.Pairwise (· < ·) ∧
      scheduler.calls.length ≤ 1 ∧
      (∀ input, system.Enabled scheduler input →
        ∃ after, system.step scheduler input = .ok after) ∧
      (scheduler.calls = [] →
        scheduler.isScheduleRequired = true ∧ scheduler.queue = none ∧
          ∀ action < scheduler.scheduled,
            action ∈ scheduler.run ∨ action ∈ scheduler.disposed) := by
  have ordered := Ordered.of_system_run run
  obtain ⟨waiting, installed, isRange⟩ := ordered.installed
  refine ⟨?_, installed.length_le, ?_, ?_⟩
  · rw [ordered.run_eq]
    have takenIncreasing : scheduler.taken.Pairwise (· < ·) := by
      have increasing : (scheduler.taken ++ waiting).Pairwise (· < ·) :=
        isRange ▸ List.pairwise_lt_range
      exact (List.pairwise_append.mp increasing).1
    exact takenIncreasing.filter _
  · intro input enabled
    obtain ⟨after, performed, _⟩ := ordered.perform enabled
    exact ⟨after, performed⟩
  · intro idle
    rw [idle] at installed
    obtain ⟨required, noQueue, rfl⟩ := installed.of_idle
    refine ⟨required, noQueue, fun action inRange => ?_⟩
    rw [List.append_nil] at isRange
    have isTaken : action ∈ scheduler.taken := by
      rwa [isRange, List.mem_range]
    by_cases passed : action ∈ scheduler.passedOver
    · exact .inr (ordered.passedOver_disposed action passed)
    · left
      rw [ordered.run_eq, List.mem_filter]
      exact ⟨isTaken, by simpa using passed⟩

/-- The first action schedules two others and disposes of the second one. -/
theorem actions_run_in_order_disposed :
    ∃ scheduler,
      system.Run {}
          [.schedule, .schedule, .schedule, .schedule, .dispose 2, .proceed,
            .proceed, .proceed, .proceed, .proceed, .proceed, .proceed]
          scheduler ∧
        scheduler.calls = [] ∧ scheduler.run = [0, 1, 3] ∧
        scheduler.run.Pairwise (· < ·) ∧
        ∀ action < scheduler.scheduled,
          action ∈ scheduler.run ∨ action ∈ scheduler.disposed := by
  have run : system.Run {}
      [.schedule, .schedule, .schedule, .schedule, .dispose 2, .proceed,
        .proceed, .proceed, .proceed, .proceed, .proceed, .proceed] _ :=
    System.run_of_replay rfl
  obtain ⟨increasing, _, _, returned⟩ := actions_run_in_order run
  exact ⟨_, run, rfl, rfl, increasing, (returned rfl).2.2⟩

end CurrentThreadScheduler
end RxSwift
end MVVMExample
