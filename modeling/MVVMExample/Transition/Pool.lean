import MVVMExample.Transition.System
import Mathlib.Data.Multiset.AddSub

/-!
# Concurrent calls on a shared state

A call is a program counter with its local data. Its atomic actions interleave
freely with those of the other calls: a step starts a call, or runs the next
action of one. What a pool of calls keeps does not depend on the order in which
they were started, so invariants speak about the multiset of calls.
-/

namespace Transition

/-- What holds of the other parts of a list, and of the replacement of one, holds
of all parts after the replacement. -/
theorem forall_getElem?_set
    {Part : Type*}
    {parts : List Part}
    {index : Nat}
    {replaced : Part}
    {Holds : Nat → Part → Prop}
    (others : ∀ (other : Nat) (part : Part), other ≠ index →
      parts[other]? = some part → Holds other part)
    (holds : Holds index replaced)
    (other : Nat)
    (part : Part)
    (found : (parts.set index replaced)[other]? = some part) :
    Holds other part := by
  rw [List.getElem?_set] at found
  split at found
  · rename_i same
    subst same
    split at found
    · cases found
      exact holds
    · contradiction
  · rename_i different
    exact others other part (Ne.symm different) found

/-- Calls on a shared state. -/
structure Pool (Shared Call : Type*) where
  shared : Shared
  calls : List Call := []
  deriving DecidableEq

/-- The steps of a pool. -/
inductive PoolInput (Call : Type*)
  | start (call : Call)
  | run (index : Nat)
  deriving DecidableEq

/-- Which calls may start, and the next action of a call, if it has not
returned. -/
structure Program (Shared Call Fault : Type*) where
  CanStart : Shared → Call → Prop
  next : Shared → Call → Option (Except Fault (Shared × Call))

namespace Program

variable {Shared Call Fault : Type*}

/-- A call may be started, and a call that has not returned may go on. -/
def CanPerform
    (program : Program Shared Call Fault)
    (pool : Pool Shared Call) : PoolInput Call → Prop
  | .start call => program.CanStart pool.shared call
  | .run index =>
      match pool.calls[index]? with
      | none => False
      | some call => (program.next pool.shared call).isSome

instance
    (program : Program Shared Call Fault)
    [∀ shared call, Decidable (program.CanStart shared call)]
    (pool : Pool Shared Call)
    (input : PoolInput Call) :
    Decidable (program.CanPerform pool input) :=
  match input with
  | .start call => inferInstanceAs (Decidable (program.CanStart _ call))
  | .run index => by
      unfold CanPerform
      dsimp only
      split <;> infer_instance

/-- Perform one step. -/
def perform
    (program : Program Shared Call Fault)
    (pool : Pool Shared Call) :
    PoolInput Call → Except Fault (Pool Shared Call)
  | .start call => .ok { pool with calls := pool.calls ++ [call] }
  | .run index =>
      match pool.calls[index]? with
      | none => .ok pool
      | some call =>
          match program.next pool.shared call with
          | none => .ok pool
          | some (.error fault) => .error fault
          | some (.ok (shared, later)) =>
              .ok { shared := shared, calls := pool.calls.set index later }

/-- All interleavings of calls. -/
def system (program : Program Shared Call Fault) :
    System (Pool Shared Call) (PoolInput Call) Fault where
  Enabled := program.CanPerform
  step := program.perform

instance
    (program : Program Shared Call Fault)
    [∀ shared call, Decidable (program.CanStart shared call)]
    (pool : Pool Shared Call)
    (input : PoolInput Call) :
    Decidable (program.system.Enabled pool input) :=
  inferInstanceAs (Decidable (program.CanPerform pool input))

variable {program : Program Shared Call Fault}

/-- A call goes on while the others stay where they are. -/
theorem exists_others
    {calls : List Call}
    {index : Nat}
    {call : Call}
    (found : calls[index]? = some call) :
    ∃ others : Multiset Call,
      (calls : Multiset Call) = call ::ₘ others ∧
        ∀ later, (calls.set index later : Multiset Call) =
          later ::ₘ others := by
  obtain ⟨inside, isCall⟩ := List.getElem?_eq_some_iff.mp found
  refine ⟨(calls.take index ++ calls.drop (index + 1) : List Call), ?_, ?_⟩
  · have around :
        calls = calls.take index ++ call :: calls.drop (index + 1) := by
      rw [← isCall, List.getElem_cons_drop, List.take_append_drop]
    rw [Multiset.cons_coe, Multiset.coe_eq_coe]
    exact (List.Perm.of_eq around).trans List.perm_middle
  · intro later
    rw [Multiset.cons_coe, Multiset.coe_eq_coe,
      List.set_eq_take_append_cons_drop, if_pos inside]
    exact List.perm_middle

/-- What a step of a pool can do. -/
theorem perform_cases
    {pool after : Pool Shared Call}
    {input : PoolInput Call}
    (enabled : program.CanPerform pool input)
    (performed : program.perform pool input = .ok after) :
    (∃ call, input = .start call ∧ program.CanStart pool.shared call ∧
        after.shared = pool.shared ∧
        (after.calls : Multiset Call) = call ::ₘ (pool.calls : Multiset Call)) ∨
      ∃ index call later others,
        input = .run index ∧ (pool.calls : Multiset Call) = call ::ₘ others ∧
          program.next pool.shared call = some (.ok (after.shared, later)) ∧
          (after.calls : Multiset Call) = later ::ₘ others := by
  cases input with
  | start call =>
      cases performed
      refine .inl ⟨call, rfl, enabled, rfl, ?_⟩
      rw [Multiset.cons_coe, Multiset.coe_eq_coe]
      exact List.perm_append_singleton _ _
  | run index =>
      cases found : pool.calls[index]? with
      | none => simp [CanPerform, found] at enabled
      | some call =>
          simp only [perform, found] at performed
          split at performed
          · rename_i returned
            simp [CanPerform, found, returned] at enabled
          · contradiction
          · rename_i shared later ran
            cases performed
            obtain ⟨others, before, afterwards⟩ := exists_others found
            exact .inr
              ⟨index, call, later, others, rfl, before, ran, afterwards later⟩

/-- The induction rule of pools: an invariant of the inputs, the shared state
and the calls holds after every run when it holds initially, when starting a
call keeps it, and when every action of a call keeps it. -/
theorem invariant
    (Invariant : List (PoolInput Call) → Shared → Multiset Call → Prop)
    {shared : Shared}
    {inputs : List (PoolInput Call)}
    {pool : Pool Shared Call}
    (initially : Invariant [] shared 0)
    (started : ∀ inputs shared calls call,
      Invariant inputs shared calls → program.CanStart shared call →
        Invariant (inputs ++ [.start call]) shared (call ::ₘ calls))
    (ran : ∀ inputs index shared after call later others,
      Invariant inputs shared (call ::ₘ others) →
        program.next shared call = some (.ok (after, later)) →
          Invariant (inputs ++ [.run index]) after (later ::ₘ others))
    (run : program.system.Run ⟨shared, []⟩ inputs pool) :
    Invariant inputs pool.shared pool.calls := by
  refine System.Run.invariant
    (fun inputs pool => Invariant inputs pool.shared pool.calls)
    initially ?_ run
  intro inputs input before after kept enabled performed
  rcases perform_cases enabled performed with
    ⟨call, rfl, canStart, sameShared, oneMore⟩ |
      ⟨index, call, later, others, rfl, beforeCalls, next, afterCalls⟩
  · rw [sameShared, oneMore]
    exact started inputs _ _ call kept canStart
  · rw [beforeCalls] at kept
    rw [afterCalls]
    exact ran inputs index _ _ call later others kept next

/-- A pool in which no action faults never gets stuck. -/
theorem exists_perform
    {pool : Pool Shared Call}
    {input : PoolInput Call}
    (safe : ∀ call others, (pool.calls : Multiset Call) = call ::ₘ others →
      ∀ fault, program.next pool.shared call ≠ some (.error fault))
    (enabled : program.CanPerform pool input) :
    ∃ after, program.perform pool input = .ok after := by
  cases input with
  | start call => exact ⟨_, rfl⟩
  | run index =>
      cases found : pool.calls[index]? with
      | none => simp [CanPerform, found] at enabled
      | some call =>
          obtain ⟨others, before, _⟩ := exists_others found
          simp only [perform, found]
          split
          · exact ⟨_, rfl⟩
          · rename_i fault faulted
            exact absurd faulted (safe call others before fault)
          · exact ⟨_, rfl⟩

end Program
end Transition
