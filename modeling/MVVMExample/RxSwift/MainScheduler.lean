import MVVMExample.Transition.System
import Mathlib.Data.List.Nodup
import Mathlib.Data.List.Perm.Subperm

/-!
# Scheduling on the main thread

`MainScheduler` counts the actions that have been scheduled and have not ended.
A call on the main thread runs its action at once when that action is the only
one; every other call appends a block to the main queue. Counting and appending
are two steps, so that calls on other threads can come between them.

In every interleaving, no action runs inside another one, the actions of each
thread run in the order in which the thread scheduled them, and each action runs
once, unless its disposable was disposed of before its turn. Calls that do not
overlap, as those of a source that emits one event after another, have their
actions run in the order of the calls whatever threads they are made on.
-/

namespace MVVMExample
namespace RxSwift

open Transition

/-- An action with its number and the thread that scheduled it. -/
structure ScheduledWork (Item : Type*) where
  ticket : Nat
  thread : Nat
  item : Item
  deriving DecidableEq

/-- The main thread. -/
def mainThread : Nat := 0

/-- The scheduler: the count, the blocks of the main queue, the calls that have
counted their action and not yet appended their block, and the actions running on
the main thread, innermost first. The history has the actions in the order in
which they were counted, the disposed ones by number, those taken from the queue
or run at once, and those run. -/
structure MainScheduler (Item : Type*) where
  numberEnqueued : BitVec 32 := 0
  mainQueue : List (ScheduledWork Item) := []
  entering : List (ScheduledWork Item) := []
  running : List (ScheduledWork Item) := []
  accepted : List (ScheduledWork Item) := []
  disposed : List Nat := []
  taken : List (ScheduledWork Item) := []
  run : List (ScheduledWork Item) := []
  deriving DecidableEq

namespace MainScheduler

variable {Item : Type*}

/-- The action that is counted next. -/
def nextWork
    (scheduler : MainScheduler Item)
    (thread : Nat)
    (item : Item) : ScheduledWork Item :=
  ⟨scheduler.accepted.length, thread, item⟩

/-- Count an action; run it at once on the main thread when it is the only
one. -/
def scheduleInternal
    (scheduler : MainScheduler Item)
    (thread : Nat)
    (item : Item) : MainScheduler Item :=
  let work := scheduler.nextWork thread item
  let currentNumberEnqueued := scheduler.numberEnqueued + 1
  let scheduler := { scheduler with
    numberEnqueued := currentNumberEnqueued
    accepted := scheduler.accepted ++ [work] }
  if thread = mainThread ∧ currentNumberEnqueued = 1 then
    { scheduler with
        running := work :: scheduler.running
        taken := scheduler.taken ++ [work]
        run := scheduler.run ++ [work] }
  else { scheduler with entering := scheduler.entering ++ [work] }

/-- The call of a thread appends its block to the main queue. -/
def async (scheduler : MainScheduler Item) (thread : Nat) :
    MainScheduler Item :=
  match scheduler.entering.find? fun work => work.thread = thread with
  | none => scheduler
  | some work =>
      { scheduler with
          entering := scheduler.entering.eraseP fun work => work.thread = thread
          mainQueue := scheduler.mainQueue ++ [work] }

/-- The main queue takes its first block, which runs its action unless that was
disposed of. -/
def runBlock (scheduler : MainScheduler Item) : MainScheduler Item :=
  match scheduler.mainQueue with
  | [] => scheduler
  | work :: mainQueue =>
      let scheduler := { scheduler with
        mainQueue := mainQueue
        taken := scheduler.taken ++ [work] }
      if work.ticket ∈ scheduler.disposed then
        { scheduler with numberEnqueued := scheduler.numberEnqueued - 1 }
      else
        { scheduler with
            running := work :: scheduler.running
            run := scheduler.run ++ [work] }

/-- The innermost action ends. -/
def finish (scheduler : MainScheduler Item) : MainScheduler Item :=
  { scheduler with
      running := scheduler.running.tail
      numberEnqueued := scheduler.numberEnqueued - 1 }

/-- What happens: a thread schedules an action, its call appends the block, the
main queue runs a block, an action ends, or an action is disposed of. -/
inductive Input (Item : Type*)
  | schedule (thread : Nat) (item : Item)
  | async (thread : Nat)
  | runBlock
  | finish
  | dispose (ticket : Nat)
  deriving DecidableEq

/-- Perform one input. -/
def perform (scheduler : MainScheduler Item) : Input Item → MainScheduler Item
  | .schedule thread item => scheduler.scheduleInternal thread item
  | .async thread => scheduler.async thread
  | .runBlock => scheduler.runBlock
  | .finish => scheduler.finish
  | .dispose ticket =>
      { scheduler with disposed := scheduler.disposed ++ [ticket] }

/-- The thread is inside a call that has not appended its block. -/
def Entering (scheduler : MainScheduler Item) (thread : Nat) : Prop :=
  ∃ work ∈ scheduler.entering, work.thread = thread

instance (scheduler : MainScheduler Item) (thread : Nat) :
    Decidable (scheduler.Entering thread) :=
  inferInstanceAs (Decidable (∃ work ∈ scheduler.entering, _))

/-- The most actions that the count can tell apart from none. -/
def maxPending : Nat := 4294967295

/-- The number of actions that have not ended. -/
def pending (scheduler : MainScheduler Item) : Nat :=
  scheduler.mainQueue.length + scheduler.entering.length +
    scheduler.running.length

/-- A thread makes one call at a time, there are never so many actions that the
count overflows, and the main thread takes a block when it runs no action. -/
def CanPerform (scheduler : MainScheduler Item) : Input Item → Prop
  | .schedule thread _ =>
      ¬scheduler.Entering thread ∧ scheduler.pending < maxPending
  | .async thread => scheduler.Entering thread
  | .runBlock =>
      scheduler.mainQueue ≠ [] ∧ scheduler.running = [] ∧
        ¬scheduler.Entering mainThread
  | .finish => scheduler.running ≠ [] ∧ ¬scheduler.Entering mainThread
  | .dispose ticket => ticket < scheduler.accepted.length

instance [DecidableEq Item]
    (scheduler : MainScheduler Item)
    (input : Input Item) :
    Decidable (scheduler.CanPerform input) :=
  match input with
  | .schedule _ _ => inferInstanceAs (Decidable (_ ∧ _))
  | .async thread => inferInstanceAs (Decidable (scheduler.Entering thread))
  | .runBlock => inferInstanceAs (Decidable (_ ∧ _ ∧ _))
  | .finish => inferInstanceAs (Decidable (_ ∧ _))
  | .dispose _ => inferInstanceAs (Decidable (_ < _))

/-- Threads that schedule actions on the main thread. -/
def system : System (MainScheduler Item) (Input Item) Empty where
  Enabled := CanPerform
  step := fun scheduler input => .ok (scheduler.perform input)

instance [DecidableEq Item]
    (scheduler : MainScheduler Item)
    (input : Input Item) :
    Decidable (system.Enabled scheduler input) :=
  inferInstanceAs (Decidable (scheduler.CanPerform input))

/-! ## Actions run one at a time -/

/-- The count is right, at most one action runs, and the actions that were taken
were run unless they were disposed of. -/
structure Consistent (scheduler : MainScheduler Item) : Prop where
  counted : scheduler.numberEnqueued = BitVec.ofNat 32 scheduler.pending
  single : scheduler.running.length ≤ 1
  run_sublist : scheduler.run.Sublist scheduler.taken
  run_or_disposed : ∀ work ∈ scheduler.taken,
    work ∈ scheduler.run ∨ work.ticket ∈ scheduler.disposed
  tickets : scheduler.accepted.map ScheduledWork.ticket =
    List.range scheduler.accepted.length

theorem consistent_new : Consistent ({} : MainScheduler Item) where
  counted := rfl
  single := Nat.zero_le _
  run_sublist := .slnil
  run_or_disposed := fun _ present => absurd present List.not_mem_nil
  tickets := rfl

/-- The call in progress of a thread, and the others. -/
theorem exists_around
    {scheduler : MainScheduler Item}
    {thread : Nat}
    (isEntering : scheduler.Entering thread) :
    ∃ before work after,
      scheduler.entering = before ++ work :: after ∧
        scheduler.async thread =
          { scheduler with
              entering := before ++ after
              mainQueue := scheduler.mainQueue ++ [work] } := by
  obtain ⟨entering, present, isThread⟩ := isEntering
  let isMine : ScheduledWork Item → Bool := fun work => work.thread = thread
  have isMineEntering : isMine entering = true := by
    simpa [isMine] using isThread
  obtain ⟨work, before, after, noneBefore, isWork, around, erased⟩ :=
    List.exists_of_eraseP present isMineEntering
  have found : (scheduler.entering.find? fun work => work.thread = thread) =
      some work := by
    rw [List.find?_eq_some_iff_append]
    refine ⟨isWork, before, after, around, ?_⟩
    intro other isBefore
    simpa [isMine] using noneBefore other isBefore
  refine ⟨before, work, after, around, ?_⟩
  simp only [async, found, ← erased]
  rfl

namespace Consistent

variable {scheduler : MainScheduler Item}

/-- Only an action with nothing else pending is run at once. -/
theorem nothing_pending
    (consistent : scheduler.Consistent)
    (few : scheduler.pending < maxPending)
    (isFirst : scheduler.numberEnqueued + 1 = 1) :
    scheduler.mainQueue = [] ∧ scheduler.entering = [] ∧
      scheduler.running = [] := by
  rw [consistent.counted] at isFirst
  have sameNat := congrArg BitVec.toNat isFirst
  simp only [BitVec.toNat_add, BitVec.toNat_ofNat] at sameNat
  unfold maxPending at few
  have nothing : scheduler.pending = 0 := by omega
  unfold pending at nothing
  refine ⟨List.length_eq_zero_iff.mp ?_, List.length_eq_zero_iff.mp ?_,
    List.length_eq_zero_iff.mp ?_⟩ <;> omega

/-- A pending action that ends is not counted any more. -/
theorem counted_pred
    (consistent : scheduler.Consistent)
    {fewer : Nat}
    (onePending : scheduler.pending = fewer + 1) :
    scheduler.numberEnqueued - 1 = BitVec.ofNat 32 fewer := by
  rw [consistent.counted, onePending, BitVec.ofNat_add]
  exact BitVec.add_sub_cancel _ _

theorem scheduleInternal
    (consistent : scheduler.Consistent)
    (few : scheduler.pending < maxPending)
    (thread : Nat)
    (item : Item) :
    (scheduler.scheduleInternal thread item).Consistent := by
  have oneMore :
      (scheduler.accepted ++ [scheduler.nextWork thread item]).map
          ScheduledWork.ticket =
        List.range
          (scheduler.accepted ++ [scheduler.nextWork thread item]).length := by
    rw [List.map_append, consistent.tickets, List.length_append,
      List.length_singleton, List.range_succ]
    rfl
  unfold MainScheduler.scheduleInternal
  dsimp only
  split
  · rename_i immediate
    obtain ⟨noBlocks, noCalls, noActions⟩ :=
      consistent.nothing_pending few immediate.2
    constructor
    · simp only [pending, noBlocks, noCalls, noActions, immediate.2]
      rfl
    · simp [noActions]
    · exact consistent.run_sublist.append (.refl _)
    · intro work isTaken
      rcases List.mem_append.mp isTaken with before | now
      · exact (consistent.run_or_disposed work before).imp_left
          (List.mem_append_left _)
      · exact .inl (List.mem_append_right _ now)
    · exact oneMore
  · constructor
    · have onePending :
          scheduler.mainQueue.length + (scheduler.entering.length + 1) +
              scheduler.running.length =
            scheduler.pending + 1 := by
        unfold pending
        omega
      simp only [pending, List.length_append, List.length_singleton]
      rw [onePending, consistent.counted, BitVec.ofNat_add]
      rfl
    · exact consistent.single
    · exact consistent.run_sublist
    · exact consistent.run_or_disposed
    · exact oneMore

theorem async
    (consistent : scheduler.Consistent)
    {thread : Nat}
    (isEntering : scheduler.Entering thread) :
    (scheduler.async thread).Consistent := by
  obtain ⟨before, work, after, around, performed⟩ := exists_around isEntering
  rw [performed]
  refine ⟨?_, consistent.single, consistent.run_sublist,
    consistent.run_or_disposed, consistent.tickets⟩
  have samePending :
      (scheduler.mainQueue ++ [work]).length + (before ++ after).length +
          scheduler.running.length =
        scheduler.pending := by
    simp only [pending, around, List.length_append, List.length_cons,
      List.length_nil]
    omega
  simp only [pending]
  rw [samePending, consistent.counted]

theorem runBlock
    (consistent : scheduler.Consistent)
    (idle : scheduler.running = []) :
    scheduler.runBlock.Consistent := by
  unfold MainScheduler.runBlock
  split
  · exact consistent
  · rename_i work mainQueue isQueue
    have onePending : scheduler.pending =
        (mainQueue.length + scheduler.entering.length +
          scheduler.running.length) + 1 := by
      simp only [pending, isQueue, List.length_cons]
      omega
    dsimp only
    split
    · rename_i isDisposed
      constructor
      · exact consistent.counted_pred onePending
      · exact consistent.single
      · exact consistent.run_sublist.trans (List.sublist_append_left _ _)
      · intro other isTaken
        rcases List.mem_append.mp isTaken with before | now
        · exact consistent.run_or_disposed other before
        · rw [List.mem_singleton.mp now]
          exact .inr isDisposed
      · exact consistent.tickets
    · constructor
      · rw [consistent.counted, onePending]
        rfl
      · simp [idle]
      · exact consistent.run_sublist.append (.refl _)
      · intro other isTaken
        rcases List.mem_append.mp isTaken with before | now
        · exact (consistent.run_or_disposed other before).imp_left
            (List.mem_append_left _)
        · exact .inl (List.mem_append_right _ now)
      · exact consistent.tickets

theorem finish
    (consistent : scheduler.Consistent)
    (busy : scheduler.running ≠ []) :
    scheduler.finish.Consistent where
  counted := by
    obtain ⟨work, outer, isRunning⟩ := List.exists_cons_of_ne_nil busy
    apply consistent.counted_pred
    simp only [pending, MainScheduler.finish, isRunning, List.tail_cons,
      List.length_cons]
    omega
  single := Nat.le_trans (List.tail_sublist _).length_le consistent.single
  run_sublist := consistent.run_sublist
  run_or_disposed := consistent.run_or_disposed
  tickets := consistent.tickets

/-- The step lemma. -/
theorem perform
    (consistent : scheduler.Consistent)
    {input : Input Item}
    (enabled : scheduler.CanPerform input) :
    (scheduler.perform input).Consistent := by
  cases input with
  | schedule thread item =>
      exact consistent.scheduleInternal enabled.2 thread item
  | async thread => exact consistent.async enabled
  | runBlock => exact consistent.runBlock enabled.2.1
  | finish => exact consistent.finish enabled.1
  | dispose ticket =>
      refine ⟨consistent.counted, consistent.single, consistent.run_sublist,
        ?_, consistent.tickets⟩
      intro work isTaken
      exact (consistent.run_or_disposed work isTaken).imp_right
        (List.mem_append_left _)

/-- The numbers of the actions counted are different. -/
theorem nodup_accepted (consistent : scheduler.Consistent) :
    scheduler.accepted.Nodup := by
  apply List.Nodup.of_map ScheduledWork.ticket
  rw [consistent.tickets]
  exact List.nodup_range

end Consistent

/-- The actions that have not ended. -/
def pendingWorks (scheduler : MainScheduler Item) :
    List (ScheduledWork Item) :=
  scheduler.mainQueue ++ scheduler.entering ++ scheduler.running

/-- An action that has not ended was pending before or is counted now. -/
theorem mem_pendingWorks_perform
    {scheduler : MainScheduler Item}
    {input : Input Item}
    {work : ScheduledWork Item}
    (enabled : scheduler.CanPerform input)
    (isPending : work ∈ (scheduler.perform input).pendingWorks) :
    work ∈ scheduler.pendingWorks ∨
      ∃ thread item,
        input = .schedule thread item ∧
          work = scheduler.nextWork thread item := by
  cases input with
  | schedule thread item =>
      by_cases isNew : work = scheduler.nextWork thread item
      · exact .inr ⟨thread, item, rfl, isNew⟩
      · left
        revert isPending
        simp only [perform, scheduleInternal]
        split <;> simp [pendingWorks, isNew]
  | async thread =>
      left
      obtain ⟨before, other, after, around, performed⟩ := exists_around enabled
      revert isPending
      simp only [perform, performed, pendingWorks, around, List.mem_append,
        List.mem_cons, List.not_mem_nil]
      grind
  | runBlock =>
      left
      revert isPending
      simp only [perform, runBlock]
      split
      · exact id
      · rename_i other mainQueue isQueue
        split <;> simp only [pendingWorks, isQueue, List.mem_append,
          List.mem_cons] <;> grind
  | finish =>
      left
      simp only [perform, finish, pendingWorks, List.mem_append] at isPending ⊢
      exact isPending.imp_right List.mem_of_mem_tail
  | dispose ticket => exact .inl isPending

/-! ## The order of actions

Calls with the same key do not overlap. The key may be the thread of a call, as
a thread makes one call at a time, or the object it is made for.
-/

section Order

variable {Key : Type*} [DecidableEq Key]

/-- The actions with a key. -/
def ofKey
    (key : ScheduledWork Item → Key)
    (value : Key)
    (works : List (ScheduledWork Item)) : List (ScheduledWork Item) :=
  works.filter fun work => key work = value

theorem ofKey_append
    (key : ScheduledWork Item → Key)
    (value : Key)
    (left right : List (ScheduledWork Item)) :
    ofKey key value (left ++ right) =
      ofKey key value left ++ ofKey key value right :=
  List.filter_append left right

/-- Actions with other keys may be overtaken. -/
theorem ofKey_overtake
    {key : ScheduledWork Item → Key}
    {work : ScheduledWork Item}
    {before : List (ScheduledWork Item)}
    (others : ∀ other ∈ before, key other ≠ key work)
    (value : Key) :
    ofKey key value [work] ++ ofKey key value before =
      ofKey key value before ++ ofKey key value [work] := by
  by_cases isWork : key work = value
  · have noneBefore : ofKey key value before = [] := by
      rw [ofKey, List.filter_eq_nil_iff]
      intro other isBefore
      simpa [← isWork] using others other isBefore
    rw [noneBefore, List.append_nil, List.nil_append]
  · have notWork : ofKey key value [work] = [] := by
      simp [ofKey, isWork]
    rw [notWork, List.append_nil, List.nil_append]

/-- The actions counted so far, as far as they have got. -/
def progress (scheduler : MainScheduler Item) : List (ScheduledWork Item) :=
  scheduler.taken ++ (scheduler.mainQueue ++ scheduler.entering)

/-- The calls in progress have different keys, and the actions with a key are in
the order in which they were counted. -/
structure InOrder
    (key : ScheduledWork Item → Key)
    (scheduler : MainScheduler Item) : Prop where
  different : scheduler.entering.Pairwise fun left right =>
    key left ≠ key right
  order : ∀ value,
    ofKey key value scheduler.progress = ofKey key value scheduler.accepted

theorem inOrder_new (key : ScheduledWork Item → Key) :
    InOrder key ({} : MainScheduler Item) where
  different := .nil
  order := fun _ => rfl

/-- A call starts when no call with its key is in progress. -/
def InTurn
    (key : ScheduledWork Item → Key)
    (scheduler : MainScheduler Item) : Input Item → Prop
  | .schedule thread item =>
      ∀ other ∈ scheduler.entering,
        key other ≠ key (scheduler.nextWork thread item)
  | _ => True

namespace InOrder

variable {key : ScheduledWork Item → Key} {scheduler : MainScheduler Item}

theorem scheduleInternal
    (inOrder : scheduler.InOrder key)
    (consistent : scheduler.Consistent)
    (few : scheduler.pending < maxPending)
    {thread : Nat}
    {item : Item}
    (others : ∀ other ∈ scheduler.entering,
      key other ≠ key (scheduler.nextWork thread item)) :
    (scheduler.scheduleInternal thread item).InOrder key := by
  have order := inOrder.order
  unfold MainScheduler.scheduleInternal
  dsimp only
  split
  · rename_i immediate
    obtain ⟨noBlocks, noCalls, -⟩ := consistent.nothing_pending few immediate.2
    refine ⟨inOrder.different, ?_⟩
    intro value
    have same := order value
    simp only [progress, noBlocks, noCalls, List.append_nil] at same ⊢
    rw [ofKey_append, ofKey_append, same]
  · constructor
    · rw [List.pairwise_append]
      refine ⟨inOrder.different, List.pairwise_singleton _ _, ?_⟩
      intro left present right isNew
      rw [List.mem_singleton.mp isNew]
      exact others left present
    · intro value
      have same := order value
      simp only [progress] at same ⊢
      rw [← List.append_assoc, ← List.append_assoc, ofKey_append,
        ofKey_append key value scheduler.accepted, ← same, List.append_assoc]

theorem async
    (inOrder : scheduler.InOrder key)
    {thread : Nat}
    (isEntering : scheduler.Entering thread) :
    (scheduler.async thread).InOrder key := by
  obtain ⟨before, work, after, around, performed⟩ := exists_around isEntering
  have different := inOrder.different
  rw [around] at different
  rw [performed]
  refine ⟨different.sublist ((List.sublist_cons_self _ _).append_left _), ?_⟩
  intro value
  have others : ∀ other ∈ before, key other ≠ key work := by
    intro other isBefore
    exact (List.pairwise_append.mp different).2.2 other isBefore work
      List.mem_cons_self
  have overtake := ofKey_overtake others value
  have around' : scheduler.entering = before ++ ([work] ++ after) := around
  rw [← inOrder.order value]
  simp only [progress, around', ofKey_append, List.append_assoc]
  rw [← List.append_assoc (ofKey key value [work]), overtake,
    List.append_assoc]

theorem runBlock (inOrder : scheduler.InOrder key) :
    scheduler.runBlock.InOrder key := by
  unfold MainScheduler.runBlock
  split
  · exact inOrder
  · rename_i work mainQueue isQueue
    have sameProgress : (scheduler.taken ++ [work]) ++
        (mainQueue ++ scheduler.entering) = scheduler.progress := by
      simp [progress, isQueue]
    dsimp only
    split <;> refine ⟨inOrder.different, ?_⟩ <;> intro value <;>
      rw [← inOrder.order value, ← sameProgress] <;> rfl

/-- The step lemma. -/
theorem perform
    (inOrder : scheduler.InOrder key)
    (consistent : scheduler.Consistent)
    {input : Input Item}
    (enabled : scheduler.CanPerform input)
    (inTurn : scheduler.InTurn key input) :
    (scheduler.perform input).InOrder key := by
  cases input with
  | schedule thread item =>
      exact inOrder.scheduleInternal consistent enabled.2 inTurn
  | async thread => exact inOrder.async enabled
  | runBlock => exact inOrder.runBlock
  | finish => exact ⟨inOrder.different, inOrder.order⟩
  | dispose ticket => exact ⟨inOrder.different, inOrder.order⟩

end InOrder

/-- The run lemma. -/
theorem ordered_of_run
    {key : ScheduledWork Item → Key}
    {inputs : List (Input Item)}
    {scheduler : MainScheduler Item}
    (run : (system.restrict (InTurn key)).Run {} inputs scheduler) :
    scheduler.Consistent ∧ scheduler.InOrder key := by
  apply System.Run.invariant
    (fun _ scheduler => scheduler.Consistent ∧ scheduler.InOrder key)
    ⟨consistent_new, inOrder_new key⟩ _ run
  rintro inputs input before after ⟨consistent, inOrder⟩ enabled performed
  cases performed
  exact ⟨consistent.perform enabled.1,
    inOrder.perform consistent enabled.1 enabled.2⟩

end Order

/-! ## Every interleaving -/

/-- The call of an input. -/
def Input.scheduled : Input Item → List (Nat × Item)
  | .schedule thread item => [(thread, item)]
  | _ => []

/-- The call that an action was counted for. -/
def ScheduledWork.call (work : ScheduledWork Item) : Nat × Item :=
  (work.thread, work.item)

/-- The action that an input counts. -/
def Input.counted (scheduler : MainScheduler Item) :
    Input Item → List (ScheduledWork Item)
  | .schedule thread item => [scheduler.nextWork thread item]
  | _ => []

theorem accepted_perform
    (scheduler : MainScheduler Item)
    (input : Input Item) :
    (scheduler.perform input).accepted =
      scheduler.accepted ++ input.counted scheduler := by
  have nothing : scheduler.accepted = scheduler.accepted ++ [] :=
    (List.append_nil _).symm
  cases input with
  | schedule thread item =>
      simp only [perform, scheduleInternal, Input.counted]
      split <;> rfl
  | async thread =>
      simp only [perform, async]
      split <;> exact nothing
  | runBlock =>
      simp only [perform, runBlock]
      split
      · exact nothing
      · split <;> exact nothing
  | finish => exact nothing
  | dispose ticket => exact nothing

theorem map_call_counted
    (scheduler : MainScheduler Item)
    (input : Input Item) :
    (input.counted scheduler).map ScheduledWork.call = input.scheduled := by
  cases input <;> rfl

/-- Only the disposal of an action disposes of it. -/
theorem disposed_perform
    (scheduler : MainScheduler Item)
    {input : Input Item}
    (notDispose : ∀ ticket, input ≠ .dispose ticket) :
    (scheduler.perform input).disposed = scheduler.disposed := by
  cases input with
  | schedule thread item =>
      simp only [perform, scheduleInternal]
      split <;> rfl
  | async thread =>
      simp only [perform, async]
      split <;> rfl
  | runBlock =>
      simp only [perform, runBlock]
      split
      · rfl
      · split <;> rfl
  | finish => rfl
  | dispose ticket => exact absurd rfl (notDispose ticket)

/-- The actions counted are those of the calls, in their order. -/
theorem accepted_of_run
    {inputs : List (Input Item)}
    {scheduler : MainScheduler Item}
    (run : system.Run {} inputs scheduler) :
    scheduler.accepted.map ScheduledWork.call =
      inputs.flatMap Input.scheduled := by
  apply System.Run.invariant
    (fun inputs scheduler => scheduler.accepted.map ScheduledWork.call =
      inputs.flatMap Input.scheduled) rfl _ run
  intro inputs input before after inductionHypothesis enabled performed
  cases performed
  rw [accepted_perform, List.map_append, inductionHypothesis,
    map_call_counted, List.flatMap_append, List.flatMap_singleton]

/-- The calls of a thread do not overlap. -/
theorem run_inTurn_thread
    {inputs : List (Input Item)}
    {scheduler : MainScheduler Item}
    (run : system.Run {} inputs scheduler) :
    (system.restrict (InTurn ScheduledWork.thread)).Run {} inputs scheduler := by
  induction run with
  | nil => exact .nil
  | @snoc inputs middle finish input run enabled performed inductionHypothesis =>
      refine .snoc inductionHypothesis ⟨enabled, ?_⟩ performed
      cases input with
      | schedule thread item =>
          intro other isEntering same
          exact enabled.1 ⟨other, isEntering, same⟩
      | async thread => trivial
      | runBlock => trivial
      | finish => trivial
      | dispose ticket => trivial

/-- Lists with the same actions of each key have the same actions. -/
theorem perm_of_ofKey_eq
    {Key : Type*}
    [DecidableEq Key]
    {key : ScheduledWork Item → Key}
    {left right : List (ScheduledWork Item)}
    (same : ∀ value, ofKey key value left = ofKey key value right) :
    left.Perm right := by
  classical
  rw [List.perm_iff_count]
  intro work
  have ofItsKey : ∀ works : List (ScheduledWork Item),
      (ofKey key (key work) works).count work = works.count work := by
    intro works
    exact List.count_filter (by simp)
  rw [← ofItsKey left, ← ofItsKey right, same]

section Results

variable
  {Key : Type*}
  [DecidableEq Key]
  {key : ScheduledWork Item → Key}
  {scheduler : MainScheduler Item}

/-- The actions with a key that were run are in order. -/
theorem InOrder.run_sublist
    (inOrder : scheduler.InOrder key)
    (consistent : scheduler.Consistent)
    (value : Key) :
    (ofKey key value scheduler.run).Sublist
      (ofKey key value scheduler.accepted) := by
  rw [← inOrder.order value, progress, ofKey_append]
  exact (consistent.run_sublist.filter _).trans (List.sublist_append_left _ _)

/-- The actions on their way and those taken are those counted. -/
theorem InOrder.perm_accepted (inOrder : scheduler.InOrder key) :
    scheduler.progress.Perm scheduler.accepted :=
  perm_of_ofKey_eq inOrder.order

end Results

/-- In every interleaving of calls on any threads, the actions counted are those
of the calls, at most one of them is running, none was run twice, those of each
thread were run in the order of its calls, and one that was not run was disposed
of or is still on its way. -/
theorem actions_run_in_turn
    {inputs : List (Input Item)}
    {scheduler : MainScheduler Item}
    (run : system.Run {} inputs scheduler) :
    scheduler.accepted.map ScheduledWork.call =
        inputs.flatMap Input.scheduled ∧
      scheduler.running.length ≤ 1 ∧
      scheduler.run.Nodup ∧
      (∀ thread,
        (ofKey ScheduledWork.thread thread scheduler.run).Sublist
          (ofKey ScheduledWork.thread thread scheduler.accepted)) ∧
      ∀ work ∈ scheduler.accepted,
        work ∈ scheduler.run ∨ work.ticket ∈ scheduler.disposed ∨
          work ∈ scheduler.mainQueue ++ scheduler.entering := by
  obtain ⟨consistent, inOrder⟩ := ordered_of_run (run_inTurn_thread run)
  have sameActions := inOrder.perm_accepted
  refine ⟨accepted_of_run run, consistent.single, ?_,
    inOrder.run_sublist consistent, ?_⟩
  · have progressNodup : scheduler.progress.Nodup :=
      sameActions.nodup_iff.mpr consistent.nodup_accepted
    exact (List.Nodup.of_append_left progressNodup).sublist
      consistent.run_sublist
  · intro work isAccepted
    rcases List.mem_append.mp (sameActions.mem_iff.mpr isAccepted) with
      isTaken | onItsWay
    · exact (consistent.run_or_disposed work isTaken).imp_right .inl
    · exact .inr (.inr onItsWay)

/-- Two background threads overlap while the main thread runs an action; the
second call is overtaken and its action disposed of. -/
theorem actions_run_in_turn_overlapping :
    ∃ scheduler : MainScheduler Char,
      system.Run {}
          [.schedule mainThread 'a', .schedule 1 'b', .schedule 2 'c',
            .async 2, .finish, .async 1, .dispose 1, .runBlock, .finish,
            .runBlock] scheduler ∧
        scheduler.run.map ScheduledWork.item = ['a', 'c'] ∧
        scheduler.running.length ≤ 1 := by
  have run : system.Run ({} : MainScheduler Char)
      [.schedule mainThread 'a', .schedule 1 'b', .schedule 2 'c',
        .async 2, .finish, .async 1, .dispose 1, .runBlock, .finish,
        .runBlock] _ :=
    System.run_of_replay rfl
  exact ⟨_, run, rfl, (actions_run_in_turn run).2.1⟩

end MainScheduler
end RxSwift
end MVVMExample
