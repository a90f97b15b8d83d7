import MVVMExample.RxSwift.Bag

/-!
# Groups of disposables

A group takes disposables in and hands each of them to the one call that has to
dispose of it: the call that removes it by its key, the call that disposes of the
group, or the call that would have inserted it into a group that has been
disposed of before. The calls dispose of what they were handed after the lock has
been given back, so that other calls come in between. In every interleaving each
disposable is disposed of once, and none is forgotten.
-/

namespace MVVMExample
namespace RxSwift

open Transition

/-- Disposables that calls are going to dispose of, and those that have been
disposed of. -/
structure Disposal (Member : Type*) where
  doomed : List Member := []
  disposed : List Member := []
  deriving DecidableEq

namespace Disposal

variable {Member : Type*}

/-- A call is going to dispose of some disposables. -/
def doom
    (disposal : Disposal Member)
    (members : List Member) : Disposal Member :=
  { disposal with doomed := disposal.doomed ++ members }

/-- A call disposes of a disposable. -/
def next (disposal : Disposal Member) (position : Nat) : Disposal Member :=
  match disposal.doomed[position]? with
  | none => disposal
  | some member =>
      { doomed := disposal.doomed.eraseIdx position
        disposed := disposal.disposed ++ [member] }

/-- Everything that calls have disposed of or are going to dispose of. -/
def all (disposal : Disposal Member) : Multiset Member :=
  (disposal.doomed : Multiset Member) + disposal.disposed

@[simp] theorem all_new : ({} : Disposal Member).all = 0 := rfl

@[simp] theorem all_doom
    (disposal : Disposal Member)
    (members : List Member) :
    (disposal.doom members).all = disposal.all + members := by
  rw [all, all, doom, ← Multiset.coe_add, add_right_comm]

@[simp] theorem all_next
    (disposal : Disposal Member)
    (position : Nat) :
    (disposal.next position).all = disposal.all := by
  cases found : disposal.doomed[position]? with
  | none => simp only [next, found]
  | some member =>
      obtain ⟨inside, isMember⟩ := List.getElem?_eq_some_iff.mp found
      have moved := Multiset.coe_eq_coe.mpr
        (List.getElem_cons_eraseIdx_perm inside)
      rw [isMember, ← Multiset.cons_coe] at moved
      simp only [next, found, all]
      rw [← moved, ← Multiset.coe_add, Multiset.coe_singleton,
        Multiset.cons_add, ← Multiset.add_cons, ← Multiset.singleton_add,
        add_comm (disposal.disposed : Multiset Member)]

theorem mem_disposed_next
    {disposal : Disposal Member}
    {position : Nat}
    {member other : Member}
    (found : disposal.doomed[position]? = some member) :
    other ∈ (disposal.next position).disposed ↔
      other ∈ disposal.disposed ∨ other = member := by
  simp only [next, found, List.mem_append, List.mem_singleton]

end Disposal

/-- A group of disposables, which is gone once it has been disposed of. -/
structure CompositeDisposable (Member : Type*) where
  disposables : Option (Bag Member) := some {}
  deriving DecidableEq

namespace CompositeDisposable

variable {Member : Type*}

/-- The group has been disposed of. -/
def isDisposed (group : CompositeDisposable Member) : Bool :=
  group.disposables.isNone

/-- The number of disposables. -/
def count (group : CompositeDisposable Member) : Nat :=
  match group.disposables with
  | none => 0
  | some disposables => disposables.count

/-- Take in a disposable and return its key. The call disposes of it when the
group has been disposed of. -/
def insert
    (group : CompositeDisposable Member)
    (disposable : Member) :
    CompositeDisposable Member × Option BagKey × List Member :=
  match group.disposables with
  | none => (group, none, [disposable])
  | some disposables =>
      let inserted := disposables.insert disposable
      ({ disposables := some inserted.1 }, some inserted.2, [])

/-- Remove the disposable with a key, which the call then disposes of. -/
def remove
    (group : CompositeDisposable Member)
    (disposeKey : BagKey) :
    Except Trap (CompositeDisposable Member × List Member) :=
  match group.disposables with
  | none => .ok (group, [])
  | some disposables =>
      match disposables.removeKey disposeKey with
      | .error trap => .error trap
      | .ok (disposables, removed) =>
          .ok ({ disposables := some disposables }, removed.toList)

/-- Dispose of the group: the call then disposes of its disposables. -/
def dispose (group : CompositeDisposable Member) :
    CompositeDisposable Member × List Member :=
  match group.disposables with
  | none => (group, [])
  | some disposables => ({ disposables := none }, disposables.disposeAll)

/-- Calls on a group, and their progress: a call disposes of the disposable at a
position among those that calls are going to dispose of. -/
inductive Input (Member : Type*)
  | insert (disposable : Member)
  | remove (disposeKey : BagKey)
  | dispose
  | next (position : Nat)
  deriving DecidableEq

/-- A group and the disposables it has handed out. -/
structure InUse (Member : Type*) where
  group : CompositeDisposable Member := {}
  disposal : Disposal Member := {}
  deriving DecidableEq

namespace InUse

/-- A call inserts a disposable and is given its key. -/
def insert (inUse : InUse Member) (disposable : Member) :
    InUse Member × Option BagKey :=
  let inserted := inUse.group.insert disposable
  ({ group := inserted.1, disposal := inUse.disposal.doom inserted.2.2 },
    inserted.2.1)

/-- A call removes the disposable with a key. -/
def remove (inUse : InUse Member) (disposeKey : BagKey) :
    Except Trap (InUse Member) :=
  match inUse.group.remove disposeKey with
  | .error trap => .error trap
  | .ok (group, removed) =>
      .ok { group := group, disposal := inUse.disposal.doom removed }

/-- A call disposes of the group. -/
def dispose (inUse : InUse Member) : InUse Member :=
  let disposed := inUse.group.dispose
  { group := disposed.1, disposal := inUse.disposal.doom disposed.2 }

/-- A call disposes of the disposable at a position. -/
def next (inUse : InUse Member) (position : Nat) : InUse Member :=
  { inUse with disposal := inUse.disposal.next position }

/-- Perform one input. -/
def perform (inUse : InUse Member) : Input Member → Except Trap (InUse Member)
  | .insert disposable => .ok (inUse.insert disposable).1
  | .remove disposeKey => inUse.remove disposeKey
  | .dispose => .ok inUse.dispose
  | .next position => .ok (inUse.next position)

/-- A disposable is disposed of only by a call that is going to. -/
def CanPerform (inUse : InUse Member) : Input Member → Prop
  | .next position => position < inUse.disposal.doomed.length
  | _ => True

instance (inUse : InUse Member) (input : Input Member) :
    Decidable (inUse.CanPerform input) :=
  match input with
  | .insert _ => inferInstanceAs (Decidable True)
  | .remove _ => inferInstanceAs (Decidable True)
  | .dispose => inferInstanceAs (Decidable True)
  | .next _ => inferInstanceAs (Decidable (_ < _))

/-- A group in any interleaving of its calls. -/
def system : System (InUse Member) (Input Member) Trap where
  Enabled := CanPerform
  step := perform

instance (inUse : InUse Member) (input : Input Member) :
    Decidable (system.Enabled inUse input) :=
  inferInstanceAs (Decidable (inUse.CanPerform input))

end InUse

/-! ## What a group is for -/

/-- What a group holds: its members with their keys, until it is disposed of. -/
abbrev Holding (Member : Type*) := Option (Bag.Registry Member)

namespace Holding

/-- Members are held until they are removed or the group is disposed of. -/
def perform (holding : Holding Member) : Input Member → Holding Member
  | .insert disposable =>
      holding.map fun registry => registry.perform (.insert disposable)
  | .remove disposeKey =>
      holding.map fun registry => registry.perform (.removeKey disposeKey)
  | .dispose => none
  | .next _ => holding

/-- What is held after a number of inputs. -/
def after (inputs : List (Input Member)) : Holding Member :=
  inputs.foldl perform (some {})

theorem after_snoc
    (inputs : List (Input Member))
    (input : Input Member) :
    after (inputs ++ [input]) = (after inputs).perform input := by
  rw [after, List.foldl_append]
  rfl

/-- The members held. -/
def members (holding : Holding Member) : Multiset Member :=
  match holding with
  | none => 0
  | some registry => registry.values

/-- The member with a key, if it is held. -/
def lookup (holding : Holding Member) (disposeKey : BagKey) : Option Member :=
  holding.bind fun registry => registry.members.lookup disposeKey

/-- The number of keys issued. -/
def issued (holding : Holding Member) : Nat :=
  match holding with
  | none => 0
  | some registry => registry.issued

theorem issued_perform_le
    (holding : Holding Member)
    (input : Input Member) :
    (holding.perform input).issued ≤ holding.issued + 1 := by
  cases holding with
  | none => cases input <;> exact Nat.zero_le _
  | some registry =>
      cases input with
      | insert disposable => exact registry.issued_perform_le _
      | remove disposeKey => exact registry.issued_perform_le _
      | dispose => exact Nat.zero_le _
      | next position => exact Nat.le_succ _

end Holding

/-- The group holds what it should hold. -/
def Represents
    (group : CompositeDisposable Member) :
    Holding Member → Prop
  | none => group.disposables = none
  | some registry =>
      ∃ disposables, group.disposables = some disposables ∧
        disposables.Represents registry

namespace Holding

variable {holding : Holding Member} {member : Member} {key : BagKey}

/-- The members are those that are looked up. -/
theorem mem_members :
    member ∈ holding.members ↔ ∃ key, holding.lookup key = some member := by
  cases holding with
  | none => simp [members, lookup]
  | some registry => exact Bag.Registry.mem_values

/-- An insertion adds a member under the next key. -/
theorem lookup_insert
    {registry : Bag.Registry Member}
    (isHolding : holding = some registry)
    (disposable : Member) :
    (holding.perform (.insert disposable)).lookup key =
      if key = .ofNat registry.issued then some disposable
      else holding.lookup key := by
  subst isHolding
  by_cases same : key = .ofNat registry.issued
  · rw [if_pos same, same]
    exact Finmap.lookup_insert _
  · rw [if_neg same]
    exact Finmap.lookup_insert_of_ne _ same

/-- A removal takes out the member with the key. -/
theorem lookup_remove (disposeKey : BagKey) :
    (holding.perform (.remove disposeKey)).lookup key =
      if key = disposeKey then none else holding.lookup key := by
  cases holding with
  | none => simp [perform, lookup]
  | some registry =>
      by_cases same : key = disposeKey
      · rw [if_pos same, same]
        exact Finmap.lookup_erase _ _
      · rw [if_neg same]
        exact Finmap.lookup_erase_ne same

/-- What is left after a removal was there before. -/
theorem lookup_of_remove
    {disposeKey : BagKey}
    (isMember : (holding.perform (.remove disposeKey)).lookup key =
      some member) :
    holding.lookup key = some member := by
  rw [lookup_remove] at isMember
  split at isMember
  · contradiction
  · exact isMember

end Holding

namespace Represents

variable
    {group : CompositeDisposable Member}
    {holding : Holding Member}

theorem isDisposed_eq (represents : group.Represents holding) :
    group.isDisposed = holding.isNone := by
  cases holding with
  | none =>
      rw [isDisposed, show group.disposables = none from represents]
      rfl
  | some registry =>
      obtain ⟨disposables, isSome, _⟩ := represents
      rw [isDisposed, isSome]
      rfl

/-- A disposable is taken in under a new key, or left to the call. -/
theorem insert
    (represents : group.Represents holding)
    (keysLeft : holding.issued < 2 ^ 64)
    (disposable : Member) :
    (group.insert disposable).1.Represents
        (holding.perform (.insert disposable)) ∧
      (group.insert disposable).2.1 =
        holding.map (fun registry => BagKey.ofNat registry.issued) ∧
      (holding.perform (.insert disposable)).members +
          ((group.insert disposable).2.2 : Multiset Member) =
        disposable ::ₘ holding.members := by
  cases holding with
  | none =>
      have isNone : group.disposables = none := represents
      simp only [CompositeDisposable.insert, isNone]
      exact ⟨isNone, rfl, rfl⟩
  | some registry =>
      obtain ⟨disposables, isSome, sameMembers⟩ := represents
      obtain ⟨sameKey, stillSame⟩ := sameMembers.insert keysLeft disposable
      simp only [CompositeDisposable.insert, isSome, sameKey]
      refine ⟨⟨_, rfl, stillSame⟩, rfl, ?_⟩
      rw [Multiset.coe_nil, add_zero]
      exact Bag.Registry.values_insert
        (sameMembers.issued.next_unused keysLeft) disposable

/-- The member with a key is left to the call that removes it. -/
theorem remove
    (represents : group.Represents holding)
    (disposeKey : BagKey) :
    ∃ after,
      group.remove disposeKey =
          .ok (after, (holding.lookup disposeKey).toList) ∧
        after.Represents (holding.perform (.remove disposeKey)) ∧
        (holding.perform (.remove disposeKey)).members +
            ((holding.lookup disposeKey).toList : Multiset Member) =
          holding.members := by
  cases holding with
  | none =>
      have isNone : group.disposables = none := represents
      simp only [CompositeDisposable.remove, isNone]
      exact ⟨group, rfl, isNone, rfl⟩
  | some registry =>
      obtain ⟨disposables, isSome, sameMembers⟩ := represents
      obtain ⟨after, removed, stillSame⟩ := sameMembers.removeKey disposeKey
      simp only [CompositeDisposable.remove, isSome, removed]
      exact ⟨_, rfl, ⟨after, rfl, stillSame⟩,
        registry.values_removeKey disposeKey⟩

/-- All members are left to the call that disposes of the group. -/
theorem dispose (represents : group.Represents holding) :
    group.dispose.1.Represents none ∧
      (group.dispose.2 : Multiset Member) = holding.members := by
  cases holding with
  | none =>
      have isNone : group.disposables = none := represents
      simp only [CompositeDisposable.dispose, isNone]
      exact ⟨isNone, rfl⟩
  | some registry =>
      obtain ⟨disposables, isSome, sameMembers⟩ := represents
      simp only [CompositeDisposable.dispose, isSome]
      exact ⟨rfl, sameMembers.forEach⟩

end Represents

/-- The disposables that were inserted. -/
def inserted (inputs : List (Input Member)) : List Member :=
  inputs.filterMap fun input =>
    match input with
    | .insert disposable => some disposable
    | _ => none

namespace InUse

variable
    {inUse : InUse Member}
    {inputs : List (Input Member)}

/-- Each disposable that was inserted is held, or is left to a call, or has been
disposed of. -/
structure Accounts
    (inUse : InUse Member)
    (holding : Holding Member)
    (given : Multiset Member) : Prop where
  represents : inUse.group.Represents holding
  accounted : holding.members + inUse.disposal.all = given

namespace Accounts

variable
    {holding : Holding Member}
    {given : Multiset Member}

/-- An insertion accounts for one more disposable. -/
theorem insert
    (accounts : inUse.Accounts holding given)
    (keysLeft : holding.issued < 2 ^ 64)
    (disposable : Member) :
    (inUse.insert disposable).2 =
        holding.map (fun registry => BagKey.ofNat registry.issued) ∧
      (inUse.insert disposable).1.Accounts
        (holding.perform (.insert disposable)) (disposable ::ₘ given) := by
  obtain ⟨represents, sameKey, members⟩ :=
    accounts.represents.insert keysLeft disposable
  refine ⟨sameKey, represents, ?_⟩
  rw [InUse.insert, Disposal.all_doom, ← add_assoc, add_right_comm, members,
    Multiset.cons_add, accounts.accounted]

/-- A group that has not been disposed of holds what is inserted. -/
theorem members_insert
    (accounts : inUse.Accounts holding given)
    (keysLeft : holding.issued < 2 ^ 64)
    {registry : Bag.Registry Member}
    (isHolding : holding = some registry)
    (disposable : Member) :
    (holding.perform (.insert disposable)).members =
      disposable ::ₘ holding.members := by
  subst isHolding
  obtain ⟨disposables, isSome, sameMembers⟩ := accounts.represents
  exact Bag.Registry.values_insert
    (sameMembers.issued.next_unused keysLeft) disposable

/-- What was inserted is held, or is left to a call, or has been disposed
of. -/
theorem mem_given
    (accounts : inUse.Accounts holding given)
    {member : Member} :
    member ∈ given ↔ member ∈ holding.members ∨
      member ∈ inUse.disposal.doomed ∨ member ∈ inUse.disposal.disposed := by
  rw [← accounts.accounted, Disposal.all, Multiset.mem_add, Multiset.mem_add,
    Multiset.mem_coe, Multiset.mem_coe]

/-- What was inserted once and is held is not left to a call. -/
theorem notMem_disposed
    (accounts : inUse.Accounts holding given)
    (nodup : given.Nodup)
    {member : Member}
    (held : member ∈ holding.members) :
    member ∉ inUse.disposal.disposed := by
  intro disposed
  rw [← accounts.accounted, Multiset.nodup_add] at nodup
  have inAll : member ∈ inUse.disposal.all :=
    Multiset.mem_add.mpr (.inr disposed)
  exact Multiset.disjoint_left.mp nodup.2.2 held inAll

/-- A removal leaves the member with the key to its call. -/
theorem remove
    (accounts : inUse.Accounts holding given)
    (disposeKey : BagKey) :
    ∃ after, inUse.remove disposeKey = .ok after ∧
      after.disposal =
          inUse.disposal.doom (holding.lookup disposeKey).toList ∧
        after.Accounts (holding.perform (.remove disposeKey)) given := by
  obtain ⟨group, removed, represents, members⟩ :=
    accounts.represents.remove disposeKey
  simp only [InUse.remove, removed]
  refine ⟨_, rfl, rfl, represents, ?_⟩
  rw [Disposal.all_doom, ← add_assoc, add_right_comm, members,
    accounts.accounted]

/-- A disposal leaves all members to its call. -/
theorem dispose (accounts : inUse.Accounts holding given) :
    inUse.dispose.Accounts none given := by
  obtain ⟨represents, members⟩ := accounts.represents.dispose
  refine ⟨represents, ?_⟩
  rw [InUse.dispose, Disposal.all_doom, members,
    add_comm inUse.disposal.all, accounts.accounted]
  exact zero_add given

theorem next
    (accounts : inUse.Accounts holding given)
    (position : Nat) :
    (inUse.next position).Accounts holding given := by
  refine ⟨accounts.represents, ?_⟩
  rw [InUse.next, Disposal.all_next, accounts.accounted]

/-- The step lemma: no call forgets a disposable or disposes of it twice. -/
theorem perform
    (accounts : inUse.Accounts holding given)
    (keysLeft : holding.issued < 2 ^ 64)
    (input : Input Member) :
    ∃ after, inUse.perform input = .ok after ∧
      after.Accounts (holding.perform input) (given + inserted [input]) := by
  cases input with
  | insert disposable =>
      obtain ⟨_, stillAccounts⟩ := accounts.insert keysLeft disposable
      refine ⟨_, rfl, ?_⟩
      rw [← Multiset.singleton_add, add_comm] at stillAccounts
      exact stillAccounts
  | remove disposeKey =>
      obtain ⟨after, removed, _, stillAccounts⟩ := accounts.remove disposeKey
      refine ⟨after, removed, ?_⟩
      rw [← add_zero given] at stillAccounts
      exact stillAccounts
  | dispose =>
      have stillAccounts := accounts.dispose
      rw [← add_zero given] at stillAccounts
      exact ⟨_, rfl, stillAccounts⟩
  | next position =>
      have stillAccounts := accounts.next position
      rw [← add_zero given] at stillAccounts
      exact ⟨_, rfl, stillAccounts⟩

end Accounts

theorem inserted_snoc
    (inputs : List (Input Member))
    (input : Input Member) :
    (inserted (inputs ++ [input]) : Multiset Member) =
      inserted inputs + inserted [input] := by
  rw [inserted, List.filterMap_append, ← Multiset.coe_add]
  rfl

/-- The run lemma. -/
theorem accounts_of_run
    (run : system.Run {} inputs inUse)
    (few : inputs.length ≤ 2 ^ 64) :
    inUse.Accounts (Holding.after inputs) (inserted inputs) ∧
      (Holding.after inputs).issued ≤ inputs.length := by
  have invariant : inputs.length ≤ 2 ^ 64 →
      inUse.Accounts (Holding.after inputs) (inserted inputs) ∧
        (Holding.after inputs).issued ≤ inputs.length := by
    refine System.Run.invariant
      (fun inputs inUse => inputs.length ≤ 2 ^ 64 →
        inUse.Accounts (Holding.after inputs) (inserted inputs) ∧
          (Holding.after inputs).issued ≤ inputs.length)
      (fun _ => ⟨⟨⟨_, rfl, Bag.empty_represents⟩, rfl⟩, Nat.le_refl 0⟩) ?_ run
    intro inputs input before after inductionHypothesis _ performed few
    rw [List.length_append, List.length_singleton] at few
    obtain ⟨accounts, issued⟩ := inductionHypothesis (by omega)
    have oneMore := (Holding.after inputs).issued_perform_le input
    obtain ⟨next, nextPerformed, stillAccounts⟩ :=
      accounts.perform (by omega) input
    obtain rfl : next = after :=
      Except.ok.inj (nextPerformed.symm.trans performed)
    rw [Holding.after_snoc, inserted_snoc]
    refine ⟨stillAccounts, ?_⟩
    rw [List.length_append, List.length_singleton]
    omega
  exact invariant few

/-- A group that has been disposed of stays so. -/
theorem after_eq_none_iff
    (inputs : List (Input Member)) :
    Holding.after inputs = none ↔ .dispose ∈ inputs := by
  induction inputs using List.reverseRecOn with
  | nil => simp [Holding.after]
  | append_singleton inputs input inductionHypothesis =>
      rw [Holding.after_snoc, List.mem_append, ← inductionHypothesis]
      cases input <;> simp [Holding.perform]

/-- In every interleaving of insertions, removals and disposals of a group, each
disposable that was inserted is held, or is left to exactly one call, or has been
disposed of once; a removal is left the disposable with its key; nothing traps;
and when the group has been disposed of and the calls have ended, all disposables
have been disposed of once. -/
theorem members_disposed_once
    (run : system.Run {} inputs inUse)
    (few : inputs.length < 2 ^ 64) :
    (Holding.after inputs).members + inUse.disposal.doomed +
          inUse.disposal.disposed =
        (inserted inputs : Multiset Member) ∧
      (∀ input, ∃ after, system.step inUse input = .ok after) ∧
      (∀ disposeKey, ∃ after,
        system.step inUse (.remove disposeKey) = .ok after ∧
          after.disposal.doomed = inUse.disposal.doomed ++
            ((Holding.after inputs).lookup disposeKey).toList) ∧
      (.dispose ∈ inputs → inUse.group.isDisposed = true ∧
        (inUse.disposal.doomed = [] →
          inUse.disposal.disposed.Perm (inserted inputs))) := by
  obtain ⟨accounts, issued⟩ := accounts_of_run run (Nat.le_of_lt few)
  have accounted := accounts.accounted
  rw [Disposal.all, ← add_assoc] at accounted
  refine ⟨accounted, ?_, ?_, ?_⟩
  · intro input
    obtain ⟨after, performed, _⟩ := accounts.perform (by omega) input
    exact ⟨after, performed⟩
  · intro disposeKey
    obtain ⟨after, removed, doomed, _⟩ := accounts.remove disposeKey
    exact ⟨after, removed, congrArg Disposal.doomed doomed⟩
  · intro disposed
    have isNone := (after_eq_none_iff inputs).mpr disposed
    rw [isNone] at accounted
    constructor
    · rw [accounts.represents.isDisposed_eq, isNone]
      rfl
    · intro ended
      rw [ended] at accounted
      apply Multiset.coe_eq_coe.mp
      rw [← accounted]
      exact (zero_add _).symm

/-- A disposable is removed while the group is disposed of, and another one comes
too late. -/
theorem members_disposed_once_late :
    ∃ inUse : InUse Nat,
      system.Run {}
          [.insert 1, .insert 2, .insert 3, .remove (.ofNat 1), .dispose,
            .next 1, .insert 4, .next 2, .next 0, .next 0]
          inUse ∧
        inUse.disposal.disposed = [1, 4, 2, 3] ∧
        inUse.disposal.disposed.Perm [1, 2, 3, 4] := by
  have run : system.Run {}
      [.insert 1, .insert 2, .insert 3, .remove (.ofNat 1), .dispose,
        .next 1, .insert 4, .next 2, .next 0, .next 0]
      (_ : InUse Nat) :=
    System.run_of_replay rfl
  obtain ⟨_, _, _, ending⟩ := members_disposed_once run (by decide)
  exact ⟨_, run, rfl, (ending (by decide)).2 rfl⟩

end InUse
end CompositeDisposable
end RxSwift
end MVVMExample
