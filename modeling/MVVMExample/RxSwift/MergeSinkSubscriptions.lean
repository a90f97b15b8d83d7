import MVVMExample.RxSwift.MergeSink

/-!
# The subscriptions of a merging sink

The subscriptions to the source and to the inner sequences are in a group until
the sequence they belong to has ended or the merged sequence is disposed of. A
subscription may still be in the making then: it is refused by the group, or
released as soon as it has been made. In every interleaving each of them is
released once.
-/

namespace MVVMExample
namespace RxSwift

open Reactive Transition

open CompositeDisposable (Holding)

/-- The subscription to an inner sequence is in the group under its key until it
is disposed of. -/
structure MergeSinkIter.Filed
    {SourceSequence : Type*}
    (iter : MergeSinkIter SourceSequence)
    (index : Nat)
    (holding : Holding (Option Nat))
    (disposed : List (Option Nat)) : Prop where
  issued : ∀ registry disposeKey, holding = some registry →
    iter.stage = .subscribed disposeKey →
      ∃ number < registry.issued, disposeKey = .ofNat number
  own : ∀ disposeKey member, iter.stage = .subscribed disposeKey →
    holding.lookup disposeKey = some member → member = some index
  filed : ∀ disposeKey, holding.lookup disposeKey = some (some index) →
    iter.stage = .subscribed disposeKey
  isDisposed : iter.iterDisposable.isDisposed = true ↔ some index ∈ disposed
  isSet : iter.iterDisposable.disposableSet = true →
    iter.stage.isSubscribed = true
  ended : iter.ended = true → iter.stage.isSubscribed = true
  once : iter.iterDisposable.Once

/-- The subscriptions to other inner sequences stay where they are. -/
theorem MergeSinkIter.Filed.insert
    {SourceSequence : Type*}
    {iter : MergeSinkIter SourceSequence}
    {index other : Nat}
    {registry : Bag.Registry (Option Nat)}
    {disposed : List (Option Nat)}
    (filed : iter.Filed index (some registry) disposed)
    (keysLeft : registry.issued < 2 ^ 64)
    (different : other ≠ index) :
    iter.Filed index (Holding.perform (some registry) (.insert (some other)))
      disposed where
  issued := by
    intro later disposeKey isLater isSubscribed
    obtain rfl := Option.some.inj isLater
    obtain ⟨number, earlier, isKey⟩ :=
      filed.issued registry disposeKey rfl isSubscribed
    exact ⟨number, Nat.lt_succ_of_lt earlier, isKey⟩
  own := by
    intro disposeKey member isSubscribed isMember
    obtain ⟨number, earlier, rfl⟩ :=
      filed.issued registry disposeKey rfl isSubscribed
    rw [Holding.lookup_insert rfl,
      if_neg (BagKey.ofNat_ne_of_lt earlier keysLeft)] at isMember
    exact filed.own _ member isSubscribed isMember
  filed := by
    intro disposeKey isMember
    rw [Holding.lookup_insert rfl] at isMember
    split at isMember
    · exact absurd (Option.some.inj (Option.some.inj isMember)) different
    · exact filed.filed disposeKey isMember
  isDisposed := filed.isDisposed
  isSet := filed.isSet
  ended := filed.ended
  once := filed.once

/-- A removal from the group moves no other subscription. -/
theorem MergeSinkIter.Filed.remove
    {SourceSequence : Type*}
    {iter : MergeSinkIter SourceSequence}
    {index : Nat}
    {holding : Holding (Option Nat)}
    {disposed : List (Option Nat)}
    (filed : iter.Filed index holding disposed)
    (disposeKey : BagKey) :
    iter.Filed index (holding.perform (.remove disposeKey)) disposed where
  issued := by
    intro registry key isLater isSubscribed
    obtain ⟨before, isBefore, rfl⟩ := Option.map_eq_some_iff.mp isLater
    exact filed.issued before key isBefore isSubscribed
  own := fun key member isSubscribed isMember =>
    filed.own key member isSubscribed (Holding.lookup_of_remove isMember)
  filed := fun key isMember =>
    filed.filed key (Holding.lookup_of_remove isMember)
  isDisposed := filed.isDisposed
  isSet := filed.isSet
  ended := filed.ended
  once := filed.once

namespace MergeSink

variable {Failure Element SourceElement SourceSequence : Type*}

/-- While the sink has not been disposed of, the group has the subscriptions to
the inner sequences that have not ended. -/
def Current
    (sink : MergeSink Failure Element SourceSequence)
    (holding : Holding (Option Nat))
    (index : Nat)
    (iter : MergeSinkIter SourceSequence) : Prop :=
  sink.disposed = false → iter.stage.isSubscribed = true →
    (some index ∈ holding.members ↔ iter.ended = false)

/-- Where the subscriptions of a sink are. -/
structure Custody
    (sink : MergeSink Failure Element SourceSequence)
    (holding : Holding (Option Nat))
    (given : Multiset (Option Nat)) : Prop where
  accounts : sink.group.Accounts holding given
  nodup : given.Nodup
  source : none ∈ given
  inners : ∀ index, some index ∈ given ↔
    ∃ iter, sink.iters[index]? = some iter ∧ iter.stage ≠ .arrived
  filed : ∀ (index : Nat) (iter : MergeSinkIter SourceSequence),
    sink.iters[index]? = some iter →
      iter.Filed index holding sink.group.disposal.disposed ∧
        sink.Current holding index iter
  sourceHeld : sink.disposed = false → none ∈ holding.members
  sourceDisposed : sink.sourceSubscription.isDisposed = true ↔
    sink.stopped = true ∨ none ∈ sink.group.disposal.disposed
  sourceOnce : sink.sourceSubscription.Once
  canceled : sink.disposed = true → sink.cancel.isDisposed = true
  cancelOnce : sink.cancel.Once
  sinkDisposed : 0 < sink.sinkDisposals → sink.disposed = true
  sinkDisposals : sink.sinkDisposals ≤ sink.cancel.disposals
  groupDisposals : sink.groupDisposals ≤ sink.sinkDisposals
  released : holding = none ↔ 0 < sink.groupDisposals

namespace Custody

variable
    {sink after : MergeSink Failure Element SourceSequence}
    {holding : Holding (Option Nat)}
    {given : Multiset (Option Nat)}
    {kind : MergeKind}
    {performMap : SourceElement → Except Failure SourceSequence}

/-- A sink that has just been created has the subscription to its source in its
group. -/
theorem new :
    Custody ({} : MergeSink Failure Element SourceSequence)
      (Holding.perform (some {}) (.insert none)) {none} := by
  have empty : CompositeDisposable.InUse.Accounts
      ({} : CompositeDisposable.InUse (Option Nat)) (some {}) 0 :=
    ⟨⟨_, rfl, Bag.empty_represents⟩, rfl⟩
  have keysLeft : Holding.issued (some {} : Holding (Option Nat)) < 2 ^ 64 :=
    Nat.two_pow_pos 64
  exact
    { accounts := (empty.insert keysLeft none).2
      nodup := Multiset.nodup_singleton _
      source := Multiset.mem_singleton_self _
      inners := by simp
      filed := by simp
      sourceHeld := fun _ => by
        rw [empty.members_insert keysLeft rfl]
        exact Multiset.mem_cons_self _ _
      sourceDisposed := by
        simp only [Bool.false_eq_true, false_or, false_iff]
        exact List.not_mem_nil
      sourceOnce := SingleAssignmentDisposable.once_new
      canceled := fun impossible => by cases impossible
      cancelOnce := SingleAssignmentDisposable.once_new
      sinkDisposed := fun impossible => absurd impossible (Nat.lt_irrefl 0)
      sinkDisposals := Nat.le_refl 0
      groupDisposals := Nat.le_refl 0
      released := by simp [Holding.perform] }

/-- Forwarding an event moves no subscription. -/
theorem forwardOn
    (custody : sink.Custody holding given)
    (event : Event Failure Element) :
    (sink.forwardOn event).Custody holding given := by
  unfold MergeSink.forwardOn
  split
  · exact custody
  · exact { custody with filed := custody.filed }

/-- Canceling makes the disposer dispose of the sink, now or later. -/
theorem cancel (custody : sink.Custody holding given) :
    Custody { sink with cancel := sink.cancel.dispose } holding given := by
  exact
    { custody with
      filed := custody.filed
      canceled := fun _ => sink.cancel.dispose_isDisposed
      cancelOnce := custody.cancelOnce.dispose
      sinkDisposals :=
        custody.sinkDisposals.trans sink.cancel.disposals_le_dispose }

/-- The sink is disposed of. -/
theorem dispose (custody : sink.Custody holding given) :
    sink.dispose.Custody holding given := by
  have canceled := custody.cancel
  exact
    { canceled with
      filed := fun index iter found =>
        ⟨(custody.filed index iter found).1, fun impossible => by
          cases impossible⟩
      sourceHeld := fun impossible => by cases impossible
      canceled := fun _ => sink.cancel.dispose_isDisposed
      sinkDisposed := fun _ => rfl }

theorem checkCompleted (custody : sink.Custody holding given) :
    sink.checkCompleted.Custody holding given := by
  unfold MergeSink.checkCompleted
  split
  · exact (custody.forwardOn _).dispose
  · exact custody

/-- A new inner sequence is not in the group yet. -/
theorem nextElementArrived
    (custody : sink.Custody holding given)
    (element : SourceElement) :
    (sink.nextElementArrived kind performMap element).Custody holding given := by
  unfold MergeSink.nextElementArrived
  split
  · split
    · exact (custody.forwardOn _).dispose
    · rename_i value _
      have notGiven : some sink.iters.length ∉ given := by
        rw [custody.inners]
        rintro ⟨iter, found, _⟩
        simp at found
      have notHeld := mt (fun held => custody.accounts.mem_given.mpr
        (Or.inl held)) notGiven
      have notDisposed := mt (fun disposed => custody.accounts.mem_given.mpr
        (Or.inr (Or.inr disposed))) notGiven
      exact
        { custody with
          inners := fun index => by
            rw [custody.inners]
            constructor
            · rintro ⟨iter, found, arrived⟩
              have inside := (List.getElem?_eq_some_iff.mp found).1
              exact ⟨iter, by rw [List.getElem?_append_left inside]; exact found,
                arrived⟩
            · rintro ⟨iter, found, arrived⟩
              rw [List.getElem?_append] at found
              split at found
              · exact ⟨iter, found, arrived⟩
              · rw [List.getElem?_singleton] at found
                split at found
                · cases found
                  exact absurd rfl arrived
                · contradiction
          filed := fun index iter found => by
            rw [List.getElem?_append] at found
            split at found
            · exact custody.filed index iter found
            · rename_i notInside
              rw [List.getElem?_singleton] at found
              split at found
              · obtain rfl : index = sink.iters.length := by omega
                cases found
                exact
                  ⟨{ issued := fun _ _ _ impossible => by cases impossible
                     own := fun _ _ impossible => by cases impossible
                     filed := fun disposeKey isMember =>
                       absurd (Holding.mem_members.mpr ⟨_, isMember⟩) notHeld
                     isDisposed :=
                       ⟨fun impossible => absurd impossible Bool.false_ne_true,
                         fun disposed => absurd disposed notDisposed⟩
                     isSet := fun impossible => by cases impossible
                     ended := fun impossible => by cases impossible
                     once := SingleAssignmentDisposable.once_new },
                    fun _ impossible => by cases impossible⟩
              · contradiction }
  · exact custody

/-- An event of the source. -/
theorem on
    (custody : sink.Custody holding given)
    (event : Event Failure SourceElement) :
    (sink.on kind performMap event).Custody holding given := by
  cases event with
  | next element => exact custody.nextElementArrived element
  | error failure =>
      have ended : Custody { sink with sourceEnded := true } holding given :=
        { custody with filed := custody.filed }
      exact (ended.forwardOn _).dispose
  | completed =>
      have stopped : Custody
          { sink with
              sourceEnded := true
              stopped := true
              sourceSubscription := sink.sourceSubscription.dispose }
          holding given :=
        { custody with
          filed := custody.filed
          sourceDisposed := by simp
          sourceOnce := custody.sourceOnce.dispose }
      exact stopped.checkCompleted

/-- An inner sequence is replaced that stays where it is. -/
theorem replace
    (custody : sink.Custody holding given)
    {index : Nat}
    {iter replaced : MergeSinkIter SourceSequence}
    (found : sink.iters[index]? = some iter)
    (sameStage : replaced.stage = iter.stage)
    (filed : replaced.Filed index holding sink.group.disposal.disposed)
    (current : sink.Current holding index replaced) :
    (sink.update index replaced).Custody holding given :=
  { custody with
    inners := fun other => by
      rw [custody.inners, update, List.getElem?_set]
      by_cases same : index = other
      · subst same
        obtain ⟨inside, isIter⟩ := List.getElem?_eq_some_iff.mp found
        simp [inside, isIter, sameStage]
      · simp [same]
    filed := forall_getElem?_set
      (fun other iter _ isIter => custody.filed other iter isIter)
      ⟨filed, current⟩ }

/-- The subscription to an inner sequence is set once. -/
theorem setIterDisposable
    (custody : sink.Custody holding given)
    {index : Nat}
    (enabled : sink.OfIter index fun iter =>
      iter.stage.isSubscribed = true ∧
        iter.iterDisposable.disposableSet = false) :
    ∃ after, sink.setIterDisposable index = .ok after ∧
      after.Custody holding given := by
  obtain ⟨iter, found, isSubscribed, notSet⟩ := exists_of_ofIter enabled
  obtain ⟨filed, current⟩ := custody.filed index iter found
  obtain ⟨assigned, isAssigned, once, sameDisposed, _⟩ :=
    filed.once.setDisposable notSet
  simp only [MergeSink.setIterDisposable, found, isAssigned]
  refine ⟨_, rfl, custody.replace found rfl ?_ current⟩
  exact
    { issued := filed.issued
      own := filed.own
      filed := filed.filed
      isDisposed := by
        rw [sameDisposed]
        exact filed.isDisposed
      isSet := fun _ => isSubscribed
      ended := filed.ended
      once := once }

theorem setSourceDisposable
    (custody : sink.Custody holding given)
    (notSet : sink.sourceSubscription.disposableSet = false) :
    ∃ after, sink.setSourceDisposable = .ok after ∧
      after.Custody holding given := by
  obtain ⟨assigned, isAssigned, once, sameDisposed, _⟩ :=
    custody.sourceOnce.setDisposable notSet
  simp only [MergeSink.setSourceDisposable, isAssigned]
  exact ⟨_, rfl,
    { custody with
      filed := custody.filed
      sourceDisposed := by
        rw [sameDisposed]
        exact custody.sourceDisposed
      sourceOnce := once }⟩

theorem setSinkAndSubscription
    (custody : sink.Custody holding given)
    (notSet : sink.cancel.disposableSet = false) :
    ∃ after, sink.setSinkAndSubscription = .ok after ∧
      after.Custody holding given := by
  obtain ⟨assigned, isAssigned, once, sameDisposed, _⟩ :=
    custody.cancelOnce.setDisposable notSet
  have grows : sink.cancel.disposals ≤ assigned.disposals := by
    have before := custody.cancelOnce
    unfold SingleAssignmentDisposable.Once at before
    rw [notSet, Bool.false_and] at before
    rw [before]
    exact Nat.zero_le _
  simp only [MergeSink.setSinkAndSubscription, isAssigned]
  exact ⟨_, rfl,
    { custody with
      filed := custody.filed
      canceled := fun disposed => by
        rw [sameDisposed]
        exact custody.canceled disposed
      cancelOnce := once
      sinkDisposals := custody.sinkDisposals.trans grows }⟩

theorem disposeSink
    (custody : sink.Custody holding given)
    (due : sink.sinkDisposals < sink.cancel.disposals) :
    sink.disposeSink.Custody holding given := by
  have disposed := custody.dispose
  exact
    { disposed with
      filed := disposed.filed
      sinkDisposed := fun _ => rfl
      sinkDisposals := Nat.le_trans due sink.cancel.disposals_le_dispose
      groupDisposals := Nat.le_succ_of_le custody.groupDisposals }

/-- All members of the group are left to the call that disposes of it. -/
theorem disposeGroup
    (custody : sink.Custody holding given)
    (due : sink.groupDisposals < sink.sinkDisposals) :
    sink.disposeGroup.Custody none given := by
  have disposed := custody.sinkDisposed (Nat.zero_lt_of_lt due)
  have running : sink.disposed ≠ false := by simp [disposed]
  exact
    { custody with
      accounts := custody.accounts.dispose
      filed := fun index iter found =>
        have filed := (custody.filed index iter found).1
        ⟨{ issued := fun _ _ impossible => by cases impossible
           own := fun _ _ _ impossible => by cases impossible
           filed := fun _ impossible => by cases impossible
           isDisposed := filed.isDisposed
           isSet := filed.isSet
           ended := filed.ended
           once := filed.once },
          fun notDisposed => absurd notDisposed running⟩
      sourceHeld := fun notDisposed => absurd notDisposed running
      groupDisposals := due
      released := by simp [MergeSink.disposeGroup] }

/-- The subscription to an inner sequence is inserted into the group, or left to
the call. -/
theorem subscribeInner
    (custody : sink.Custody holding given)
    (keysLeft : holding.issued < 2 ^ 64)
    {index : Nat}
    (enabled : sink.OfIter index fun iter => iter.stage = .arrived) :
    (sink.subscribeInner index).Custody
      (holding.perform (.insert (some index))) (some index ::ₘ given) := by
  obtain ⟨iter, found, arrived⟩ := exists_of_ofIter enabled
  obtain ⟨inside, isIter⟩ := List.getElem?_eq_some_iff.mp found
  obtain ⟨filed, _⟩ := custody.filed index iter found
  obtain ⟨sameKey, accounts⟩ := custody.accounts.insert keysLeft (some index)
  have notGiven : some index ∉ given := by
    rw [custody.inners]
    rintro ⟨other, isOther, notArrived⟩
    obtain rfl : iter = other := Option.some.inj (found.symm.trans isOther)
    exact notArrived arrived
  have notEnded : iter.ended = false := by
    cases isEnded : iter.ended with
    | false => rfl
    | true =>
        have isSubscribed := filed.ended isEnded
        rw [arrived] at isSubscribed
        contradiction
  have inners (stage : InnerStage) (notArrived : stage ≠ .arrived)
      (other : Nat) :
      some other ∈ some index ::ₘ given ↔
        ∃ later, (sink.iters.set index { iter with stage := stage })[other]? =
          some later ∧ later.stage ≠ .arrived := by
    rw [Multiset.mem_cons, custody.inners, List.getElem?_set]
    by_cases same : index = other
    · subst same
      simp [inside, notArrived]
    · simp [same, Ne.symm same]
  simp only [MergeSink.subscribeInner, found, sameKey]
  cases isHolding : holding with
  | none =>
      rw [isHolding] at accounts
      have isReleased := custody.released.mp isHolding
      have sinkDisposed := custody.sinkDisposed
        (Nat.lt_of_lt_of_le isReleased custody.groupDisposals)
      have running : sink.disposed ≠ false := by simp [sinkDisposed]
      exact
        { custody with
          accounts := accounts
          nodup := Multiset.nodup_cons.mpr ⟨notGiven, custody.nodup⟩
          source := Multiset.mem_cons_of_mem custody.source
          inners := inners .refused (by simp)
          filed := forall_getElem?_set
            (fun other iter _ isOther =>
              have others := (custody.filed other iter isOther).1
              ⟨{ others with
                  issued := fun _ _ impossible => by cases impossible
                  own := fun _ _ _ impossible => by cases impossible
                  filed := fun _ impossible => by cases impossible },
                fun notDisposed => absurd notDisposed running⟩)
            ⟨{ issued := fun _ _ impossible => by cases impossible
               own := fun _ _ impossible => by cases impossible
               filed := fun _ impossible => by cases impossible
               isDisposed := filed.isDisposed
               isSet := fun isSet => by
                 have isSubscribed := filed.isSet isSet
                 rw [arrived] at isSubscribed
                 contradiction
               ended := fun isEnded => by
                 rw [notEnded] at isEnded
                 contradiction
               once := filed.once },
              fun notDisposed => absurd notDisposed running⟩
          sourceHeld := fun notDisposed => absurd notDisposed running
          released := ⟨fun _ => isReleased, fun _ => rfl⟩ }
  | some registry =>
      have members := custody.accounts.members_insert keysLeft isHolding
        (some index)
      subst isHolding
      have notHeld : some index ∉ Holding.members (some registry) := fun held =>
        notGiven (custody.accounts.mem_given.mpr (.inl held))
      exact
        { custody with
          accounts := accounts
          nodup := Multiset.nodup_cons.mpr ⟨notGiven, custody.nodup⟩
          source := Multiset.mem_cons_of_mem custody.source
          inners := inners (.subscribed (.ofNat registry.issued)) (by simp)
          filed := forall_getElem?_set
            (fun other iter different isOther => by
              obtain ⟨others, current⟩ := custody.filed other iter isOther
              refine ⟨others.insert keysLeft (Ne.symm different), ?_⟩
              intro running isSubscribed
              rw [members, Multiset.mem_cons, ← current running isSubscribed]
              simp [different])
            ⟨{ issued := by
                 intro later disposeKey isLater isSubscribed
                 obtain rfl := Option.some.inj isLater
                 cases isSubscribed
                 exact ⟨registry.issued, Nat.lt_succ_self _, rfl⟩
               own := by
                 intro disposeKey member isSubscribed isMember
                 cases isSubscribed
                 rw [Holding.lookup_insert rfl, if_pos rfl] at isMember
                 exact (Option.some.inj isMember).symm
               filed := by
                 intro disposeKey isMember
                 rw [Holding.lookup_insert rfl] at isMember
                 split at isMember
                 · rename_i isKey
                   rw [isKey]
                   rfl
                 · exact absurd (Holding.mem_members.mpr ⟨_, isMember⟩) notHeld
               isDisposed := filed.isDisposed
               isSet := fun _ => rfl
               ended := fun _ => rfl
               once := filed.once },
              fun _ _ => by
                rw [members]
                simp [notEnded]⟩
          sourceHeld := fun running => by
            rw [members]
            exact Multiset.mem_cons_of_mem (custody.sourceHeld running)
          released := by
            constructor
            · intro impossible
              cases impossible
            · intro isReleased
              exact absurd (custody.released.mpr isReleased) (by simp) }

/-- An inner sequence completes, and its subscription is taken out of the
group. -/
theorem innerCompleted
    (custody : sink.Custody holding given)
    {index : Nat}
    {iter : MergeSinkIter SourceSequence}
    {disposeKey : BagKey}
    (found : sink.iters[index]? = some iter)
    (subscribed : iter.stage = .subscribed disposeKey) :
    ∃ group, sink.group.remove disposeKey = .ok group ∧
      (MergeSink.checkCompleted
        { sink.update index { iter with ended := true } with
          group := group
          activeCount := sink.activeCount - 1 }).Custody
        (holding.perform (.remove disposeKey)) given := by
  obtain ⟨inside, isIter⟩ := List.getElem?_eq_some_iff.mp found
  obtain ⟨filed, _⟩ := custody.filed index iter found
  obtain ⟨group, removed, sameDisposal, accounts⟩ :=
    custody.accounts.remove disposeKey
  have sameDisposed :
      group.disposal.disposed = sink.group.disposal.disposed := by
    rw [sameDisposal]
    rfl
  have heldLater (member : Option Nat) (different : member ≠ some index) :
      member ∈ (holding.perform (.remove disposeKey)).members ↔
        member ∈ holding.members := by
    rw [Holding.mem_members, Holding.mem_members]
    apply exists_congr
    intro key
    rw [Holding.lookup_remove]
    split
    · rename_i same
      constructor
      · intro impossible
        contradiction
      · intro isMember
        rw [same] at isMember
        exact absurd (filed.own disposeKey member subscribed isMember) different
    · exact Iff.rfl
  refine ⟨group, removed, Custody.checkCompleted ?_⟩
  exact
    { custody with
      accounts := accounts
      inners := fun other => by
        rw [custody.inners]
        simp only [update, List.getElem?_set]
        by_cases same : index = other
        · subst same
          simp [inside, isIter]
        · simp [same]
      filed := forall_getElem?_set
        (fun other iter different isOther => by
          obtain ⟨filed, current⟩ := custody.filed other iter isOther
          rw [sameDisposed]
          refine ⟨filed.remove disposeKey, fun running isSubscribed => ?_⟩
          rw [heldLater _ (by simpa using different)]
          exact current running isSubscribed)
        ⟨by
            rw [sameDisposed]
            exact
              { filed.remove disposeKey with
                ended := fun _ => by
                  rw [subscribed]
                  rfl },
          fun _ _ => by
            simp only [Bool.true_eq_false, iff_false, Holding.mem_members]
            rintro ⟨key, isMember⟩
            have isKey := filed.filed key (Holding.lookup_of_remove isMember)
            rw [subscribed] at isKey
            cases isKey
            rw [Holding.lookup_remove, if_pos rfl] at isMember
            contradiction⟩
      sourceHeld := fun running =>
        (heldLater none (by simp)).mpr (custody.sourceHeld running)
      sourceDisposed := by
        rw [sameDisposed]
        exact custody.sourceDisposed
      released := Option.map_eq_none_iff.trans custody.released }

/-- An event of an inner sequence. -/
theorem onInner
    (custody : sink.Custody holding given)
    {index : Nat}
    (enabled : sink.OfIter index fun iter =>
      iter.stage.isSubscribed = true ∧ iter.ended = false)
    (event : Event Failure Element) :
    ∃ after later, sink.onInner index event = .ok after ∧
      after.Custody later given ∧ later.issued ≤ holding.issued := by
  obtain ⟨iter, found, isSubscribed, _⟩ := exists_of_ofIter enabled
  cases stage : iter.stage with
  | arrived => rw [stage] at isSubscribed; contradiction
  | refused => rw [stage] at isSubscribed; contradiction
  | subscribed disposeKey =>
      rw [onInner_of_subscribed found stage]
      cases event with
      | next element =>
          exact ⟨_, holding, rfl, custody.forwardOn _, Nat.le_refl _⟩
      | error failure =>
          have disposed := (custody.forwardOn (.error failure)).dispose
          have sameIters :
              (sink.forwardOn (.error failure)).iters = sink.iters := by
            unfold MergeSink.forwardOn
            split <;> rfl
          have sameSink :
              ((sink.update index { iter with ended := true }).forwardOn
                  (.error failure)).dispose =
                (sink.forwardOn (.error failure)).dispose.update index
                  { iter with ended := true } := by
            unfold MergeSink.forwardOn
            by_cases isDisposed : sink.disposed = true
            · simp [update, isDisposed, MergeSink.dispose]
            · simp [update, isDisposed, MergeSink.dispose]
          have stillFound :
              (sink.forwardOn (.error failure)).dispose.iters[index]? =
                some iter := by
            rw [MergeSink.dispose, sameIters]
            exact found
          obtain ⟨filed, _⟩ := disposed.filed index iter stillFound
          dsimp only
          rw [sameSink]
          refine ⟨_, holding, rfl, disposed.replace stillFound rfl ?_
            (fun impossible => by cases impossible), Nat.le_refl _⟩
          exact { filed with ended := fun _ => isSubscribed }
      | completed =>
          obtain ⟨group, removed, stillCustody⟩ :=
            custody.innerCompleted found stage
          simp only [removed]
          refine ⟨_, _, rfl, stillCustody, ?_⟩
          cases holding with
          | none => exact Nat.le_refl _
          | some registry => exact Nat.le_refl _

/-- A member that was taken out of the group is disposed of. -/
theorem disposeNext
    (custody : sink.Custody holding given)
    (position : Nat) :
    (sink.disposeNext position).Custody holding given := by
  unfold MergeSink.disposeNext
  cases isDoomed : sink.group.disposal.doomed[position]? with
  | none => exact custody
  | some member =>
      have disposed (other : Option Nat) :
          other ∈ (sink.group.next position).disposal.disposed ↔
            other ∈ sink.group.disposal.disposed ∨ other = member :=
        Disposal.mem_disposed_next isDoomed
      have stays (index : Nat) (iter : MergeSinkIter SourceSequence)
          (filed : iter.Filed index holding sink.group.disposal.disposed)
          (different : some index ≠ member) :
          iter.Filed index holding
            (sink.group.next position).disposal.disposed :=
        { filed with
          isDisposed := by
            rw [disposed, filed.isDisposed]
            simp [different] }
      have accounts := custody.accounts.next position
      cases member with
      | none =>
          exact
            { custody with
              accounts := accounts
              filed := fun index iter found =>
                have both := custody.filed index iter found
                ⟨stays index iter both.1 (by simp), both.2⟩
              sourceDisposed := by
                simp only [disposeMember, disposed,
                  SingleAssignmentDisposable.dispose_isDisposed, or_true]
              sourceOnce := custody.sourceOnce.dispose }
      | some index =>
          have isGiven : some index ∈ given :=
            custody.accounts.mem_given.mpr
              (.inr (.inl (List.mem_of_getElem? isDoomed)))
          obtain ⟨iter, found, _⟩ := (custody.inners index).mp isGiven
          obtain ⟨filed, current⟩ := custody.filed index iter found
          obtain ⟨inside, isIter⟩ := List.getElem?_eq_some_iff.mp found
          simp only [disposeMember, found]
          exact
            { custody with
              accounts := accounts
              inners := fun other => by
                rw [custody.inners]
                simp only [update, List.getElem?_set]
                by_cases same : index = other
                · subst same
                  simp [inside, isIter]
                · simp [same]
              filed := forall_getElem?_set
                (fun other iter different isOther => by
                  obtain ⟨filed, current⟩ := custody.filed other iter isOther
                  exact ⟨stays other iter filed (by simpa using different),
                    current⟩)
                ⟨{ filed with
                   isDisposed := by simp [disposed]
                   isSet := fun isSet => filed.isSet (by simpa using isSet)
                   once := filed.once.dispose },
                  current⟩
              sourceDisposed := by
                have same := disposed none
                simp only [reduceCtorEq, or_false] at same
                exact custody.sourceDisposed.trans (or_congr_right same.symm) }

/-- The step lemma: no input traps or loses a subscription. -/
theorem perform
    (custody : sink.Custody holding given)
    (keysLeft : holding.issued < 2 ^ 64)
    {input : Input Failure Element SourceElement}
    (enabled : sink.CanPerform input) :
    ∃ after later more, sink.perform kind performMap input = .ok after ∧
      after.Custody later more ∧ later.issued ≤ holding.issued + 1 := by
  cases input with
  | source event =>
      exact ⟨_, holding, given, rfl, custody.on event, Nat.le_succ _⟩
  | subscribeInner index =>
      exact ⟨_, _, _, rfl, custody.subscribeInner keysLeft enabled,
        holding.issued_perform_le _⟩
  | inner index event =>
      obtain ⟨after, later, performed, stillCustody, issued⟩ :=
        custody.onInner enabled event
      exact ⟨after, later, given, performed, stillCustody,
        Nat.le_succ_of_le issued⟩
  | setIterDisposable index =>
      obtain ⟨after, performed, stillCustody⟩ :=
        custody.setIterDisposable enabled
      exact ⟨after, holding, given, performed, stillCustody, Nat.le_succ _⟩
  | setSourceDisposable =>
      obtain ⟨after, performed, stillCustody⟩ :=
        custody.setSourceDisposable enabled
      exact ⟨after, holding, given, performed, stillCustody, Nat.le_succ _⟩
  | setSinkAndSubscription =>
      obtain ⟨after, performed, stillCustody⟩ :=
        custody.setSinkAndSubscription enabled.2
      exact ⟨after, holding, given, performed, stillCustody, Nat.le_succ _⟩
  | dispose => exact ⟨_, holding, given, rfl, custody.cancel, Nat.le_succ _⟩
  | disposeSink =>
      exact ⟨_, holding, given, rfl, custody.disposeSink enabled,
        Nat.le_succ _⟩
  | disposeGroup =>
      exact ⟨_, none, given, rfl, custody.disposeGroup enabled,
        Nat.zero_le _⟩
  | disposeNext position =>
      exact ⟨_, holding, given, rfl, custody.disposeNext position,
        Nat.le_succ _⟩

/-- The run lemma. -/
theorem of_run
    {inputs : List (Input Failure Element SourceElement)}
    (run : (system kind performMap).Run {} inputs sink)
    (few : inputs.length < 2 ^ 64) :
    ∃ holding given, sink.Custody holding given ∧
      holding.issued ≤ inputs.length + 1 := by
  have invariant : inputs.length < 2 ^ 64 →
      ∃ holding given, sink.Custody holding given ∧
        holding.issued ≤ inputs.length + 1 := by
    refine System.Run.invariant
      (fun inputs sink => inputs.length < 2 ^ 64 →
        ∃ holding given, sink.Custody holding given ∧
          holding.issued ≤ inputs.length + 1)
      (fun _ => ⟨_, _, new, Nat.le_refl 1⟩) ?_ run
    intro inputs input before after inductionHypothesis enabled performed few
    rw [List.length_append, List.length_singleton] at few
    obtain ⟨holding, given, custody, issued⟩ := inductionHypothesis (by omega)
    obtain ⟨next, later, more, nextPerformed, stillCustody, oneMore⟩ :=
      custody.perform (by omega) enabled
    obtain rfl : next = after :=
      Except.ok.inj (nextPerformed.symm.trans performed)
    refine ⟨later, more, stillCustody, ?_⟩
    rw [List.length_append, List.length_singleton]
    omega
  exact invariant few

end Custody

/-- No call is in the middle of a subscription or of a disposal. -/
structure AtRest (sink : MergeSink Failure Element SourceSequence) : Prop where
  iters : ∀ iter ∈ sink.iters, iter.stage ≠ .arrived ∧
    (iter.stage.isSubscribed = true → iter.iterDisposable.disposableSet = true)
  source : sink.sourceSubscription.disposableSet = true
  assigned : sink.cancel.disposableSet = true
  sinkDisposals : sink.cancel.disposals ≤ sink.sinkDisposals
  groupDisposals : sink.sinkDisposals ≤ sink.groupDisposals
  doomed : sink.group.disposal.doomed = []

namespace Custody

variable
    {sink : MergeSink Failure Element SourceSequence}
    {holding : Holding (Option Nat)}
    {given : Multiset (Option Nat)}

/-- When nothing is left to a call, what is not held has been disposed of. -/
theorem mem_disposed_of_notMem
    (custody : sink.Custody holding given)
    (atRest : sink.AtRest)
    {member : Option Nat}
    (isGiven : member ∈ given)
    (notHeld : member ∉ holding.members) :
    member ∈ sink.group.disposal.disposed := by
  rcases custody.accounts.mem_given.mp isGiven with held | doomed | disposed
  · exact absurd held notHeld
  · rw [atRest.doomed] at doomed
    contradiction
  · exact disposed

/-- The group of a sink that has been disposed of holds nothing. -/
theorem holding_eq_none
    (custody : sink.Custody holding given)
    (atRest : sink.AtRest)
    (disposed : sink.disposed = true) :
    holding = none := by
  have cancelOnce := custody.cancelOnce
  unfold SingleAssignmentDisposable.Once at cancelOnce
  rw [atRest.assigned, custody.canceled disposed, Bool.and_true,
    Bool.toNat_true] at cancelOnce
  have sinkDisposals := atRest.sinkDisposals
  have groupDisposals := atRest.groupDisposals
  exact custody.released.mpr (by omega)

theorem source_at_rest
    (custody : sink.Custody holding given)
    (atRest : sink.AtRest) :
    sink.sourceSubscription.disposals =
      if sink.disposed ∨ sink.stopped then 1 else 0 := by
  have sourceDisposed := custody.sourceDisposed
  rw [show sink.sourceSubscription.disposals = _ from custody.sourceOnce,
    atRest.source, Bool.true_and]
  cases disposed : sink.disposed with
  | true =>
      have isNone := custody.holding_eq_none atRest disposed
      have isDisposed := custody.mem_disposed_of_notMem atRest custody.source
        (by simp [isNone, Holding.members])
      rw [sourceDisposed.mpr (.inr isDisposed)]
      simp
  | false =>
      have notDisposed := custody.accounts.notMem_disposed custody.nodup
        (custody.sourceHeld disposed)
      cases stopped : sink.stopped with
      | true =>
          rw [sourceDisposed.mpr (.inl stopped)]
          simp
      | false =>
          have notYet : sink.sourceSubscription.isDisposed = false := by
            rw [← Bool.not_eq_true, sourceDisposed, stopped]
            simp [notDisposed]
          rw [notYet]
          simp

theorem iter_at_rest
    (custody : sink.Custody holding given)
    (atRest : sink.AtRest)
    {index : Nat}
    {iter : MergeSinkIter SourceSequence}
    (found : sink.iters[index]? = some iter) :
    iter.iterDisposable.disposals =
      if iter.stage.isSubscribed ∧ (sink.disposed ∨ iter.ended) then 1
      else 0 := by
  obtain ⟨filed, current⟩ := custody.filed index iter found
  obtain ⟨notArrived, isSet⟩ := atRest.iters iter (List.mem_of_getElem? found)
  have isGiven := (custody.inners index).mpr ⟨iter, found, notArrived⟩
  rw [show iter.iterDisposable.disposals = _ from filed.once]
  cases isSubscribed : iter.stage.isSubscribed with
  | false =>
      have notSet : iter.iterDisposable.disposableSet = false := by
        rw [← Bool.not_eq_true]
        intro isSet
        rw [filed.isSet isSet] at isSubscribed
        contradiction
      rw [notSet]
      simp
  | true =>
      rw [isSet isSubscribed, Bool.true_and]
      cases disposed : sink.disposed with
      | true =>
          have isNone := custody.holding_eq_none atRest disposed
          have isDisposed := custody.mem_disposed_of_notMem atRest isGiven
            (by simp [isNone, Holding.members])
          rw [filed.isDisposed.mpr isDisposed]
          simp
      | false =>
          have isHeld := current disposed isSubscribed
          cases ended : iter.ended with
          | true =>
              rw [ended] at isHeld
              have isDisposed := custody.mem_disposed_of_notMem atRest isGiven
                (fun held => absurd (isHeld.mp held) (by simp))
              rw [filed.isDisposed.mpr isDisposed]
              simp
          | false =>
              have notDisposed := custody.accounts.notMem_disposed
                custody.nodup (isHeld.mpr ended)
              have notYet : iter.iterDisposable.isDisposed = false := by
                rw [← Bool.not_eq_true, filed.isDisposed]
                exact notDisposed
              rw [notYet]
              simp

end Custody

/-- In every interleaving the subscriptions to the source and to the inner
sequences are released at most once. When no call is in the middle of something,
they have been released if the merged sequence has ended or has been disposed of;
otherwise, just those of the sequences that have ended. No input traps. -/
theorem subscriptions_released_once
    {kind : MergeKind}
    {performMap : SourceElement → Except Failure SourceSequence}
    {inputs : List (Input Failure Element SourceElement)}
    {sink : MergeSink Failure Element SourceSequence}
    (run : (system kind performMap).Run {} inputs sink)
    (few : inputs.length + 1 < 2 ^ 64) :
    sink.sourceSubscription.disposals ≤ 1 ∧
      (∀ iter ∈ sink.iters, iter.iterDisposable.disposals ≤ 1) ∧
      (sink.AtRest →
        sink.sourceSubscription.disposals =
            (if sink.disposed ∨ sink.stopped then 1 else 0) ∧
          ∀ iter ∈ sink.iters, iter.iterDisposable.disposals =
            if iter.stage.isSubscribed ∧ (sink.disposed ∨ iter.ended) then 1
            else 0) ∧
      ∀ input, (system kind performMap).Enabled sink input →
        ∃ after, (system kind performMap).step sink input = .ok after := by
  obtain ⟨holding, given, custody, issued⟩ := Custody.of_run run (by omega)
  refine ⟨custody.sourceOnce.le_one, ?_, ?_, ?_⟩
  · intro iter present
    obtain ⟨index, found⟩ := List.mem_iff_getElem?.mp present
    exact (custody.filed index iter found).1.once.le_one
  · intro atRest
    refine ⟨custody.source_at_rest atRest, fun iter present => ?_⟩
    obtain ⟨index, found⟩ := List.mem_iff_getElem?.mp present
    exact custody.iter_at_rest atRest found
  · intro input enabled
    obtain ⟨after, _, _, performed, _⟩ := custody.perform (by omega) enabled
    exact ⟨after, performed⟩

/-- The merged sequence is disposed of while an inner sequence is still being
subscribed to. -/
theorem subscriptions_released_once_early :
    ∃ sink : MergeSink Nat Nat Nat,
      (system .flatMap (fun number : Nat => .ok number)).Run {}
          [.setSourceDisposable, .setSinkAndSubscription, .source (.next 1),
            .subscribeInner 0, .dispose, .disposeSink, .disposeGroup,
            .disposeNext 1, .disposeNext 0, .setIterDisposable 0]
          sink ∧
        sink.sourceSubscription.disposals = 1 ∧
        ∀ iter ∈ sink.iters, iter.iterDisposable.disposals = 1 := by
  have run : (system .flatMap (fun number : Nat => .ok number)).Run {}
      [.setSourceDisposable, .setSinkAndSubscription, .source (.next 1),
        .subscribeInner 0, .dispose, .disposeSink, .disposeGroup,
        .disposeNext 1, .disposeNext 0, .setIterDisposable 0]
      (_ : MergeSink Nat Nat Nat) :=
    System.run_of_replay rfl
  obtain ⟨_, _, released, _⟩ := subscriptions_released_once run (by decide)
  obtain ⟨source, iters⟩ := released
    { iters := by decide
      source := rfl
      assigned := rfl
      sinkDisposals := by decide
      groupDisposals := by decide
      doomed := rfl }
  refine ⟨_, run, source, fun iter present => ?_⟩
  rw [iters iter present]
  obtain rfl := List.mem_singleton.mp present
  rfl

end MergeSink
end RxSwift
end MVVMExample
