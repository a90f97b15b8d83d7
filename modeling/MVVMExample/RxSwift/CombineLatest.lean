import Mathlib.Data.Finset.Card
import Mathlib.Data.Fintype.Card
import MVVMExample.Reactive.Grammar
import MVVMExample.RxSwift.SingleAssignmentDisposable

/-!
# Combining the latest elements of several sources

The sink of `combineLatest` counts the sources that have sent an element and those
that have completed, and combines the latest elements of all sources once there
are as many as sources. The sources are subscribed to one after another, and may
send events before all subscriptions have returned, on any thread, and after the
sink has been disposed of.

In every interleaving the counters agree with the flags and elements they stand
for, so no element is missing when the elements are combined. The subscription to
each source is released once, when the source or the combined sequence has ended
or has been disposed of.
-/

namespace MVVMExample
namespace RxSwift

open Reactive Transition

/-- The elements of all sources, if all of them have one. -/
def collect
    {arity : Nat}
    {Element : Fin arity → Type*}
    (latest : (index : Fin arity) → Option (Element index)) :
    Option ((index : Fin arity) → Element index) :=
  if present : ∀ index, (latest index).isSome then
    some fun index => (latest index).get (present index)
  else none

/-- The sink of sources with elements of given types, with its canceling disposer
and the subscriptions to the sources. The history has the events forwarded to the
observer, the sources that have sent a stop event, how often the disposer has
disposed of the sink and of the group of subscriptions, and how many subscriptions
of the group have been disposed of. -/
structure CombineLatestSink
    (Failure Result : Type*)
    {arity : Nat}
    (Element : Fin arity → Type*) where
  numberOfValues : Nat := 0
  numberOfDone : Nat := 0
  hasValue : Fin arity → Bool := fun _ => false
  isDone : Fin arity → Bool := fun _ => false
  latestElement : (index : Fin arity) → Option (Element index) := fun _ => none
  disposed : Bool := false
  cancel : SingleAssignmentDisposable := {}
  subscribed : Nat := 0
  subscriptions : Fin arity → SingleAssignmentDisposable := fun _ => {}
  emitted : List (Event Failure Result) := []
  ended : Fin arity → Bool := fun _ => false
  sinkDisposals : Nat := 0
  groupDisposals : Nat := 0
  released : Nat := 0

namespace CombineLatestSink

variable
    {Failure Result : Type*}
    {arity : Nat}
    {Element : Fin arity → Type*}

/-- Forward an event, unless the sink has been disposed of. -/
def forwardOn
    (sink : CombineLatestSink Failure Result Element)
    (event : Event Failure Result) : CombineLatestSink Failure Result Element :=
  if sink.disposed then sink
  else { sink with emitted := sink.emitted ++ [event] }

/-- Dispose of the sink. -/
def dispose (sink : CombineLatestSink Failure Result Element) :
    CombineLatestSink Failure Result Element :=
  { sink with disposed := true, cancel := sink.cancel.dispose }

/-- Combine the latest elements; a missing one is unwrapped and traps. -/
def getResult
    (resultSelector : ((index : Fin arity) → Element index) →
      Except Failure Result)
    (sink : CombineLatestSink Failure Result Element) :
    Except Trap (Except Failure Result) :=
  match collect sink.latestElement with
  | none => .error .unexpectedlyNil
  | some elements => .ok (resultSelector elements)

/-- Count a source that sends its first element. -/
def countValue
    (sink : CombineLatestSink Failure Result Element)
    (index : Fin arity) : CombineLatestSink Failure Result Element :=
  if sink.hasValue index then sink
  else
    { sink with
        hasValue := Function.update sink.hasValue index true
        numberOfValues := sink.numberOfValues + 1 }

/-- A source has sent an element. -/
def next
    (resultSelector : ((index : Fin arity) → Element index) →
      Except Failure Result)
    (sink : CombineLatestSink Failure Result Element)
    (index : Fin arity) :
    Except Trap (CombineLatestSink Failure Result Element) :=
  let counted := sink.countValue index
  if counted.numberOfValues = arity then
    match counted.getResult resultSelector with
    | .error trap => .error trap
    | .ok (.ok result) => .ok (counted.forwardOn (.next result))
    | .ok (.error failure) => .ok (counted.forwardOn (.error failure)).dispose
  else if ∀ other, other ≠ index → counted.isDone other = true then
    .ok (counted.forwardOn .completed).dispose
  else .ok counted

/-- A source has failed. -/
def fail
    (sink : CombineLatestSink Failure Result Element)
    (failure : Failure) : CombineLatestSink Failure Result Element :=
  (sink.forwardOn (.error failure)).dispose

/-- A source has completed. -/
def done
    (sink : CombineLatestSink Failure Result Element)
    (index : Fin arity) : CombineLatestSink Failure Result Element :=
  if sink.isDone index then sink
  else
    let counted : CombineLatestSink Failure Result Element :=
      { sink with
          isDone := Function.update sink.isDone index true
          numberOfDone := sink.numberOfDone + 1 }
    if counted.numberOfDone = arity then (counted.forwardOn .completed).dispose
    else counted

/-- Store the latest element of a source. -/
def setLatestValue
    (sink : CombineLatestSink Failure Result Element)
    (index : Fin arity)
    (value : Element index) : CombineLatestSink Failure Result Element :=
  { sink with
      latestElement := Function.update sink.latestElement index (some value) }

/-- The subscription to a source is disposed of when it ends. -/
def disposeThis
    (sink : CombineLatestSink Failure Result Element)
    (index : Fin arity) : CombineLatestSink Failure Result Element :=
  { sink with
      subscriptions :=
        Function.update sink.subscriptions index
          (sink.subscriptions index).dispose
      ended := Function.update sink.ended index true }

/-- React to an event of a source. -/
def on
    (resultSelector : ((index : Fin arity) → Element index) →
      Except Failure Result)
    (sink : CombineLatestSink Failure Result Element)
    (index : Fin arity) :
    Event Failure (Element index) →
      Except Trap (CombineLatestSink Failure Result Element)
  | .next value => (sink.setLatestValue index value).next resultSelector index
  | .error failure => .ok ((sink.disposeThis index).fail failure)
  | .completed => .ok ((sink.disposeThis index).done index)

/-- A subscription to a source has returned. -/
def setDisposable
    (sink : CombineLatestSink Failure Result Element)
    (index : Fin arity) :
    Except Trap (CombineLatestSink Failure Result Element) :=
  match (sink.subscriptions index).setDisposable with
  | .error trap => .error trap
  | .ok subscription =>
      .ok { sink with
        subscriptions := Function.update sink.subscriptions index subscription }

/-- `run` has returned, and the disposer is assigned the sink and the group. -/
def setSinkAndSubscription (sink : CombineLatestSink Failure Result Element) :
    Except Trap (CombineLatestSink Failure Result Element) :=
  match sink.cancel.setDisposable with
  | .error trap => .error trap
  | .ok cancel => .ok { sink with cancel := cancel }

/-- The disposer disposes of the sink. -/
def disposeSink (sink : CombineLatestSink Failure Result Element) :
    CombineLatestSink Failure Result Element :=
  { sink.dispose with sinkDisposals := sink.sinkDisposals + 1 }

/-- The group disposes of its next subscription. -/
def disposeNext (sink : CombineLatestSink Failure Result Element) :
    CombineLatestSink Failure Result Element :=
  if inside : sink.released < arity then
    { sink with
        subscriptions :=
          Function.update sink.subscriptions ⟨sink.released, inside⟩
            (sink.subscriptions ⟨sink.released, inside⟩).dispose
        released := sink.released + 1 }
  else sink

/-- Events of the sources, and the progress of subscriptions and disposals. -/
inductive Input (Failure : Type*) {arity : Nat} (Element : Fin arity → Type*)
  | subscribe
  | source (index : Fin arity) (event : Event Failure (Element index))
  | setDisposable (index : Fin arity)
  | setSinkAndSubscription
  | dispose
  | disposeSink
  | disposeGroup
  | disposeNext

/-- Perform one input. -/
def perform
    (resultSelector : ((index : Fin arity) → Element index) →
      Except Failure Result)
    (sink : CombineLatestSink Failure Result Element) :
    Input Failure Element →
      Except Trap (CombineLatestSink Failure Result Element)
  | .subscribe => .ok { sink with subscribed := sink.subscribed + 1 }
  | .source index event => sink.on resultSelector index event
  | .setDisposable index => sink.setDisposable index
  | .setSinkAndSubscription => sink.setSinkAndSubscription
  | .dispose => .ok { sink with cancel := sink.cancel.dispose }
  | .disposeSink => .ok sink.disposeSink
  | .disposeGroup => .ok { sink with groupDisposals := sink.groupDisposals + 1 }
  | .disposeNext => .ok sink.disposeNext

/-- The subscriptions to all sources so far have returned. -/
def AllSet (sink : CombineLatestSink Failure Result Element) : Prop :=
  ∀ index : Fin arity, index < sink.subscribed →
    (sink.subscriptions index).disposableSet = true

/-- The sources are subscribed to one after another, and send nothing after a stop
event; calls go on where they are. -/
def CanPerform (sink : CombineLatestSink Failure Result Element) :
    Input Failure Element → Prop
  | .subscribe => sink.subscribed < arity ∧ sink.AllSet
  | .source index _ => index < sink.subscribed ∧ sink.ended index = false
  | .setDisposable index =>
      index < sink.subscribed ∧
        (sink.subscriptions index).disposableSet = false
  | .setSinkAndSubscription =>
      sink.subscribed = arity ∧ sink.AllSet ∧ sink.cancel.disposableSet = false
  | .dispose => True
  | .disposeSink => sink.sinkDisposals < sink.cancel.disposals
  | .disposeGroup => sink.groupDisposals < sink.sinkDisposals
  | .disposeNext => 0 < sink.groupDisposals ∧ sink.released < arity

instance (sink : CombineLatestSink Failure Result Element) :
    Decidable sink.AllSet :=
  inferInstanceAs (Decidable (∀ _, _ → _))

instance
    (sink : CombineLatestSink Failure Result Element)
    (input : Input Failure Element) :
    Decidable (sink.CanPerform input) :=
  match input with
  | .subscribe => inferInstanceAs (Decidable (_ ∧ _))
  | .source _ _ => inferInstanceAs (Decidable (_ ∧ _))
  | .setDisposable _ => inferInstanceAs (Decidable (_ ∧ _))
  | .setSinkAndSubscription => inferInstanceAs (Decidable (_ ∧ _ ∧ _))
  | .dispose => inferInstanceAs (Decidable True)
  | .disposeSink => inferInstanceAs (Decidable (_ < _))
  | .disposeGroup => inferInstanceAs (Decidable (_ < _))
  | .disposeNext => inferInstanceAs (Decidable (_ ∧ _))

/-- A combining sink in any interleaving. -/
def system
    (resultSelector : ((index : Fin arity) → Element index) →
      Except Failure Result) :
    System (CombineLatestSink Failure Result Element) (Input Failure Element)
      Trap where
  Enabled := CanPerform
  step := perform resultSelector

instance
    (resultSelector : ((index : Fin arity) → Element index) →
      Except Failure Result)
    (sink : CombineLatestSink Failure Result Element)
    (input : Input Failure Element) :
    Decidable ((system resultSelector).Enabled sink input) :=
  inferInstanceAs (Decidable (sink.CanPerform input))

end CombineLatestSink

/-! ## What combining is for -/

/-- A combined sequence: the latest elements of the sources, the sources that have
completed, whether the sequence is over, and its events. -/
structure Combined
    (Failure Result : Type*)
    {arity : Nat}
    (Element : Fin arity → Type*) where
  latest : (index : Fin arity) → Option (Element index) := fun _ => none
  completed : Finset (Fin arity) := ∅
  isOver : Bool := false
  output : List (Event Failure Result) := []

namespace Combined

variable
    {Failure Result : Type*}
    {arity : Nat}
    {Element : Fin arity → Type*}

/-- The sequence ends with an event. -/
def finish
    (combined : Combined Failure Result Element)
    (event : Event Failure Result) : Combined Failure Result Element :=
  { combined with isOver := true, output := combined.output ++ [event] }

/-- A source has sent an element: combine the latest elements, or complete if
elements are missing and no other source can send one. -/
def next
    (resultSelector : ((index : Fin arity) → Element index) →
      Except Failure Result)
    (combined : Combined Failure Result Element)
    (index : Fin arity) : Combined Failure Result Element :=
  match collect combined.latest with
  | none =>
      if ∀ other, other ≠ index → other ∈ combined.completed then
        combined.finish .completed
      else combined
  | some elements =>
      match resultSelector elements with
      | .error failure => combined.finish (.error failure)
      | .ok result =>
          { combined with output := combined.output ++ [.next result] }

/-- A source has completed; the sequence completes with the last one. -/
def done
    (combined : Combined Failure Result Element)
    (index : Fin arity) : Combined Failure Result Element :=
  let later : Combined Failure Result Element :=
    { combined with completed := insert index combined.completed }
  if later.completed = Finset.univ then later.finish .completed else later

/-- The effect of an input on a sequence that is not over. -/
def react
    (resultSelector : ((index : Fin arity) → Element index) →
      Except Failure Result)
    (combined : Combined Failure Result Element) :
    CombineLatestSink.Input Failure Element → Combined Failure Result Element
  | .source index (.next value) =>
      { combined with
          latest := Function.update combined.latest index (some value) }.next
        resultSelector index
  | .source _ (.error failure) => combined.finish (.error failure)
  | .source index .completed => combined.done index
  | .disposeSink => { combined with isOver := true }
  | _ => combined

/-- The effect of an input. -/
def perform
    (resultSelector : ((index : Fin arity) → Element index) →
      Except Failure Result)
    (combined : Combined Failure Result Element)
    (input : CombineLatestSink.Input Failure Element) :
    Combined Failure Result Element :=
  if combined.isOver then combined else combined.react resultSelector input

/-- The combined sequence after a number of inputs. -/
def after
    (resultSelector : ((index : Fin arity) → Element index) →
      Except Failure Result)
    (inputs : List (CombineLatestSink.Input Failure Element)) :
    Combined Failure Result Element :=
  inputs.foldl (perform resultSelector) {}

theorem after_snoc
    (resultSelector : ((index : Fin arity) → Element index) →
      Except Failure Result)
    (inputs : List (CombineLatestSink.Input Failure Element))
    (input : CombineLatestSink.Input Failure Element) :
    after resultSelector (inputs ++ [input]) =
      (after resultSelector inputs).perform resultSelector input := by
  rw [after, List.foldl_append]
  rfl

/-- All sources have completed but one, which has completed too unless elements are
missing. -/
def Exhausted (combined : Combined Failure Result Element) : Prop :=
  ∃ index, (∀ other, other ≠ index → other ∈ combined.completed) ∧
    (index ∈ combined.completed ∨ collect combined.latest = none)

/-- The sequence keeps to the grammar; it completes when the sources are
exhausted, and it does not stay open when all sources have completed. -/
structure Grammatical (combined : Combined Failure Result Element) : Prop where
  grammar : Grammar combined.isOver combined.output
  completed : .completed ∈ combined.output → combined.Exhausted
  incomplete : combined.isOver = false →
    ∀ index ∈ combined.completed, ∃ other, other ∉ combined.completed

namespace Grammatical

variable {combined before : Combined Failure Result Element}

/-- The events of a running sequence. -/
theorem running
    (grammatical : combined.Grammatical)
    (running : combined.isOver = false) :
    Grammar false combined.output :=
  running ▸ grammatical.grammar

/-- A running sequence ends. -/
theorem finish
    (grammatical : before.Grammatical)
    (running : before.isOver = false)
    (sameOutput : combined.output = before.output)
    {event : Event Failure Result}
    (completes : event = .completed → combined.Exhausted) :
    (combined.finish event).Grammatical where
  grammar := by
    rw [Combined.finish, sameOutput]
    exact (grammatical.running running).finish event
  completed := fun present => by
    rcases List.mem_append.mp present with old | new
    · rw [sameOutput] at old
      exact absurd old (grammatical.running running).notMem_completed
    · exact completes (List.mem_singleton.mp new).symm
  incomplete := fun impossible => by cases impossible

/-- A source has sent an element. -/
theorem next
    (grammatical : combined.Grammatical)
    (running : combined.isOver = false)
    (resultSelector : ((index : Fin arity) → Element index) →
      Except Failure Result)
    (index : Fin arity)
    (latest : (index : Fin arity) → Option (Element index)) :
    ({ combined with latest := latest }.next resultSelector index).Grammatical := by
  have grammar := grammatical.running running
  unfold Combined.next
  split
  · rename_i missing
    split
    · rename_i othersCompleted
      exact grammatical.finish running (by rfl) fun _ =>
        ⟨index, othersCompleted, .inr missing⟩
    · exact
        { grammar := grammatical.grammar
          completed := fun present => absurd present grammar.notMem_completed
          incomplete := grammatical.incomplete }
  · split
    · exact grammatical.finish running (by rfl) fun impossible => by cases impossible
    · rename_i result _
      have grammarNext := grammar.next result
      exact
        { grammar := running.symm ▸ grammarNext
          completed := fun present =>
            absurd present grammarNext.notMem_completed
          incomplete := grammatical.incomplete }

/-- A source has completed. -/
theorem done
    (grammatical : combined.Grammatical)
    (running : combined.isOver = false)
    (index : Fin arity) :
    (combined.done index).Grammatical := by
  unfold Combined.done
  dsimp only
  split
  · rename_i allCompleted
    refine grammatical.finish running (by rfl) fun _ => ⟨index, ?_, .inl ?_⟩
    · intro other _
      rw [allCompleted]
      exact Finset.mem_univ other
    · exact Finset.mem_insert_self index _
  · rename_i notAll
    exact
      { grammar := grammatical.grammar
        completed := fun present =>
          absurd present (grammatical.running running).notMem_completed
        incomplete := fun _ _ _ => by
          by_contra everyCompleted
          push Not at everyCompleted
          exact notAll (Finset.eq_univ_of_forall everyCompleted) }

/-- Every input keeps to the grammar. -/
theorem perform
    (grammatical : combined.Grammatical)
    (resultSelector : ((index : Fin arity) → Element index) →
      Except Failure Result)
    (input : CombineLatestSink.Input Failure Element) :
    (combined.perform resultSelector input).Grammatical := by
  unfold Combined.perform
  split
  · exact grammatical
  · rename_i notOver
    have running := Bool.eq_false_of_not_eq_true notOver
    cases input with
    | source index event =>
        cases event with
        | next value => exact grammatical.next running resultSelector index _
        | error failure =>
            exact grammatical.finish running (by rfl) fun impossible => by
              cases impossible
        | completed => exact grammatical.done running index
    | disposeSink =>
        exact
          { grammar := grammatical.grammar.silence
            completed := grammatical.completed
            incomplete := fun impossible => by cases impossible }
    | subscribe => exact grammatical
    | setDisposable index => exact grammatical
    | setSinkAndSubscription => exact grammatical
    | dispose => exact grammatical
    | disposeGroup => exact grammatical
    | disposeNext => exact grammatical

theorem after
    (resultSelector : ((index : Fin arity) → Element index) →
      Except Failure Result)
    (inputs : List (CombineLatestSink.Input Failure Element)) :
    (Combined.after resultSelector inputs).Grammatical := by
  induction inputs using List.reverseRecOn with
  | nil =>
      exact
        { grammar := .nil false
          completed := by simp [Combined.after]
          incomplete := by simp [Combined.after] }
  | append_singleton inputs input inductionHypothesis =>
      rw [after_snoc]
      exact inductionHypothesis.perform resultSelector input

/-- What the completion of a source does. -/
theorem done_eq
    (grammatical : combined.Grammatical)
    (running : combined.isOver = false)
    (index : Fin arity) :
    combined.done index =
      if index ∈ combined.completed then combined
      else if ∀ other, other ≠ index → other ∈ combined.completed then
        ({ combined with completed := insert index combined.completed }).finish
          .completed
      else { combined with completed := insert index combined.completed } := by
  have all : insert index combined.completed = Finset.univ ↔
      ∀ other, other ≠ index → other ∈ combined.completed := by
    rw [Finset.eq_univ_iff_forall]
    simp only [Finset.mem_insert, or_iff_not_imp_left]
  unfold Combined.done
  dsimp only
  simp only [all]
  by_cases already : index ∈ combined.completed
  · obtain ⟨other, notCompleted⟩ :=
      grammatical.incomplete running index already
    rw [if_pos already, if_neg, Finset.insert_eq_of_mem already]
    intro othersCompleted
    by_cases same : other = index
    · exact notCompleted (same ▸ already)
    · exact notCompleted (othersCompleted other same)
  · rw [if_neg already]

end Grammatical
end Combined

/-! ## The sink combines -/

/-- All sources have an element just when their elements can be collected. -/
theorem collect_eq_none_iff
    {arity : Nat}
    {Element : Fin arity → Type*}
    (latest : (index : Fin arity) → Option (Element index)) :
    collect latest = none ↔ ¬∀ index, (latest index).isSome := by
  unfold collect
  split
  · rename_i present
    exact iff_of_false (Option.some_ne_none _) (not_not_intro present)
  · rename_i missing
    exact iff_of_true rfl missing

namespace CombineLatestSink

variable
    {Failure Result : Type*}
    {arity : Nat}
    {Element : Fin arity → Type*}
    {resultSelector : ((index : Fin arity) → Element index) →
      Except Failure Result}
    {sink after : CombineLatestSink Failure Result Element}

/-- The number of sources with a flag. -/
def count (flags : Fin arity → Bool) : Nat :=
  (Finset.univ.filter fun index => flags index = true).card

/-- One more source gets the flag. -/
theorem count_update
    {flags : Fin arity → Bool}
    {index : Fin arity}
    (unset : flags index = false) :
    count (Function.update flags index true) = count flags + 1 := by
  have isInsert :
      (Finset.univ.filter fun other =>
        Function.update flags index true other = true) =
      insert index (Finset.univ.filter fun other => flags other = true) := by
    ext other
    by_cases same : other = index
    · simp [same]
    · simp [same]
  rw [count, isInsert, Finset.card_insert_of_notMem (by simp [unset]), count]

/-- All sources have the flag when there are as many as sources. -/
theorem count_eq_arity_iff (flags : Fin arity → Bool) :
    count flags = arity ↔ ∀ index, flags index = true := by
  have size : (Finset.univ : Finset (Fin arity)).card = arity :=
    Finset.card_fin arity
  constructor
  · intro full index
    have everything := Finset.eq_univ_of_card
      (Finset.univ.filter fun index => flags index = true)
      (full.trans (Fintype.card_fin arity).symm)
    have present := everything.symm ▸ Finset.mem_univ index
    exact (Finset.mem_filter.mp present).2
  · intro set
    rw [count, Finset.filter_true_of_mem fun index _ => set index, size]

/-- The flags and counters stand for the elements that have come and the sources
that have completed. -/
structure Counts (sink : CombineLatestSink Failure Result Element) : Prop where
  hasValue : ∀ index,
    sink.hasValue index = (sink.latestElement index).isSome
  numberOfValues : sink.numberOfValues = count sink.hasValue
  numberOfDone : sink.numberOfDone = count sink.isDone

namespace Counts

theorem new : ({} : CombineLatestSink Failure Result Element).Counts where
  hasValue := fun _ => rfl
  numberOfValues := by simp [count]
  numberOfDone := by simp [count]

theorem forwardOn
    (counts : sink.Counts)
    (event : Event Failure Result) :
    (sink.forwardOn event).Counts := by
  unfold CombineLatestSink.forwardOn
  split
  · exact counts
  · exact ⟨counts.hasValue, counts.numberOfValues, counts.numberOfDone⟩

theorem dispose (counts : sink.Counts) : sink.dispose.Counts :=
  ⟨counts.hasValue, counts.numberOfValues, counts.numberOfDone⟩

theorem disposeSink (counts : sink.Counts) : sink.disposeSink.Counts :=
  ⟨counts.hasValue, counts.numberOfValues, counts.numberOfDone⟩

theorem disposeThis (counts : sink.Counts) (index : Fin arity) :
    (sink.disposeThis index).Counts :=
  ⟨counts.hasValue, counts.numberOfValues, counts.numberOfDone⟩

/-- As many sources as there are have sent an element just when the elements can
be collected. -/
theorem full_iff (counts : sink.Counts) :
    sink.numberOfValues = arity ↔ collect sink.latestElement ≠ none := by
  rw [counts.numberOfValues, count_eq_arity_iff, Ne, collect_eq_none_iff,
    not_not]
  simp only [counts.hasValue]

/-- The element of a source is stored and counted. -/
theorem store
    (counts : sink.Counts)
    (index : Fin arity)
    (value : Element index) :
    ((sink.setLatestValue index value).countValue index).Counts := by
  have others : ∀ other, other ≠ index → sink.hasValue other =
      (Function.update sink.latestElement index (some value) other).isSome := by
    intro other different
    rw [Function.update_of_ne different]
    exact counts.hasValue other
  have own : (Function.update sink.latestElement index (some value)
      index).isSome = true := by
    rw [Function.update_self]
    rfl
  unfold countValue
  split
  · rename_i already
    refine ⟨fun other => ?_, counts.numberOfValues, counts.numberOfDone⟩
    by_cases same : other = index
    · subst same
      exact Eq.trans already own.symm
    · exact others other same
  · rename_i notYet
    have unset : sink.hasValue index = false :=
      Bool.eq_false_of_not_eq_true notYet
    refine ⟨fun other => ?_, ?_, counts.numberOfDone⟩
    · by_cases same : other = index
      · subst same
        exact (Function.update_self other true sink.hasValue).trans own.symm
      · exact (Function.update_of_ne same true sink.hasValue).trans
          (others other same)
    · exact (congrArg (· + 1) counts.numberOfValues).trans
        (count_update unset).symm

/-- The completion of a source is counted. -/
theorem complete
    (counts : sink.Counts)
    {index : Fin arity}
    (notYet : sink.isDone index = false) :
    Counts
      { sink with
          isDone := Function.update sink.isDone index true
          numberOfDone := sink.numberOfDone + 1 } where
  hasValue := counts.hasValue
  numberOfValues := counts.numberOfValues
  numberOfDone :=
    (congrArg (· + 1) counts.numberOfDone).trans (count_update notYet).symm

end Counts

@[simp] theorem countValue_latestElement
    (sink : CombineLatestSink Failure Result Element)
    (index : Fin arity) :
    (sink.countValue index).latestElement = sink.latestElement := by
  unfold countValue
  split <;> rfl

@[simp] theorem countValue_isDone
    (sink : CombineLatestSink Failure Result Element)
    (index : Fin arity) :
    (sink.countValue index).isDone = sink.isDone := by
  unfold countValue
  split <;> rfl

@[simp] theorem countValue_disposed
    (sink : CombineLatestSink Failure Result Element)
    (index : Fin arity) :
    (sink.countValue index).disposed = sink.disposed := by
  unfold countValue
  split <;> rfl

@[simp] theorem countValue_emitted
    (sink : CombineLatestSink Failure Result Element)
    (index : Fin arity) :
    (sink.countValue index).emitted = sink.emitted := by
  unfold countValue
  split <;> rfl

@[simp] theorem countValue_ended
    (sink : CombineLatestSink Failure Result Element)
    (index : Fin arity) :
    (sink.countValue index).ended = sink.ended := by
  unfold countValue
  split <;> rfl

theorem forwardOn_of_disposed
    (disposed : sink.disposed = true)
    (event : Event Failure Result) :
    sink.forwardOn event = sink :=
  if_pos disposed

theorem forwardOn_of_running
    (running : sink.disposed = false)
    (event : Event Failure Result) :
    sink.forwardOn event = { sink with emitted := sink.emitted ++ [event] } :=
  if_neg (by simp [running])

/-- What a sink does when it has counted an element of a source. -/
def settle
    (resultSelector : ((index : Fin arity) → Element index) →
      Except Failure Result)
    (sink : CombineLatestSink Failure Result Element)
    (index : Fin arity) : CombineLatestSink Failure Result Element :=
  match collect sink.latestElement with
  | none =>
      if ∀ other, other ≠ index → sink.isDone other = true then
        (sink.forwardOn .completed).dispose
      else sink
  | some elements =>
      match resultSelector elements with
      | .error failure => (sink.forwardOn (.error failure)).dispose
      | .ok result => sink.forwardOn (.next result)

/-- When the elements are counted, none is missing when they are combined. -/
theorem next_eq
    {index : Fin arity}
    (counts : (sink.countValue index).Counts) :
    sink.next resultSelector index =
      .ok ((sink.countValue index).settle resultSelector index) := by
  have full := counts.full_iff
  unfold next settle
  dsimp only
  cases collected : collect (sink.countValue index).latestElement with
  | none =>
      rw [if_neg fun isFull => full.mp isFull collected]
      dsimp only
      split <;> rfl
  | some elements =>
      have present : collect (sink.countValue index).latestElement ≠ none := by
        rw [collected]
        exact Option.some_ne_none elements
      rw [if_pos (full.mpr present), getResult, collected]
      dsimp only
      cases resultSelector elements <;> rfl

/-- The sink has forwarded the events of the combined sequence, and knows the
latest elements and which sources have completed until it is over. -/
structure Follows
    (sink : CombineLatestSink Failure Result Element)
    (combined : Combined Failure Result Element) : Prop where
  counts : sink.Counts
  emitted : sink.emitted = combined.output
  disposed : sink.disposed = combined.isOver
  latest : combined.isOver = false → sink.latestElement = combined.latest
  completed : combined.isOver = false →
    ∀ index, sink.isDone index = true ↔ index ∈ combined.completed
  ended : combined.isOver = false → sink.isDone = sink.ended

namespace Follows

variable {combined : Combined Failure Result Element}

/-- A running sequence ends. -/
theorem finish
    (counts : sink.Counts)
    (emitted : sink.emitted = combined.output)
    (running : sink.disposed = false)
    (event : Event Failure Result) :
    ((sink.forwardOn event).dispose).Follows (combined.finish event) where
  counts := (counts.forwardOn event).dispose
  emitted := by
    rw [forwardOn_of_running running]
    exact congrArg (· ++ [event]) emitted
  disposed := rfl
  latest := fun impossible => by cases impossible
  completed := fun impossible => by cases impossible
  ended := fun impossible => by cases impossible

/-- A sequence that is over stays as it is. -/
theorem ignore
    (follows : sink.Follows combined)
    (finished : combined.isOver = true)
    (counts : after.Counts)
    (sameEmitted : after.emitted = sink.emitted)
    (disposed : after.disposed = true) :
    after.Follows combined where
  counts := counts
  emitted := sameEmitted.trans follows.emitted
  disposed := disposed.trans finished.symm
  latest := fun running => by simp [finished] at running
  completed := fun running => by simp [finished] at running
  ended := fun running => by simp [finished] at running

/-- A sequence that is over does not end again. -/
theorem ignoreFinish
    (follows : sink.Follows combined)
    (finished : combined.isOver = true)
    (counts : after.Counts)
    (sameEmitted : after.emitted = sink.emitted)
    (disposed : after.disposed = true)
    (event : Event Failure Result) :
    ((after.forwardOn event).dispose).Follows combined := by
  rw [forwardOn_of_disposed disposed]
  exact follows.ignore finished counts.dispose sameEmitted rfl

/-- The element of a source is stored and counted. -/
theorem store
    (follows : sink.Follows combined)
    (index : Fin arity)
    (value : Element index) :
    ((sink.setLatestValue index value).countValue index).Follows
      (if combined.isOver then combined
      else
        { combined with
            latest := Function.update combined.latest index (some value) }) := by
  have counts := follows.counts.store index value
  split
  · rename_i finished
    apply follows.ignore finished counts
    · rw [countValue_emitted]
      rfl
    · rw [countValue_disposed]
      exact follows.disposed.trans finished
  · exact
      { counts := counts
        emitted := by
          rw [countValue_emitted]
          exact follows.emitted
        disposed := by
          rw [countValue_disposed]
          exact follows.disposed
        latest := fun running => by
          rw [countValue_latestElement, ← follows.latest running]
          rfl
        completed := fun running => by
          rw [countValue_isDone]
          exact follows.completed running
        ended := fun running => by
          rw [countValue_isDone, countValue_ended]
          exact follows.ended running }

/-- A running sequence combines its latest elements, or completes. -/
theorem settle
    (follows : sink.Follows combined)
    (running : combined.isOver = false)
    (index : Fin arity) :
    (sink.settle resultSelector index).Follows
      (combined.next resultSelector index) := by
  have notDisposed := follows.disposed.trans running
  unfold CombineLatestSink.settle Combined.next
  rw [follows.latest running]
  cases collect combined.latest with
  | none =>
      simp only [follows.completed running]
      split
      · exact finish follows.counts follows.emitted notDisposed _
      · exact follows
  | some elements =>
      dsimp only
      cases resultSelector elements with
      | error failure =>
          exact finish follows.counts follows.emitted notDisposed _
      | ok result =>
          dsimp only
          rw [forwardOn_of_running notDisposed]
          exact
            { counts :=
                ⟨follows.counts.hasValue, follows.counts.numberOfValues,
                  follows.counts.numberOfDone⟩
              emitted := congrArg (· ++ [.next result]) follows.emitted
              disposed := follows.disposed
              latest := follows.latest
              completed := follows.completed
              ended := follows.ended }

/-- A sequence that is over ignores the elements that are stored. -/
theorem settle_of_over
    (follows : sink.Follows combined)
    (finished : combined.isOver = true)
    (index : Fin arity) :
    (sink.settle resultSelector index).Follows combined := by
  have disposed := follows.disposed.trans finished
  have ended : sink.dispose.Follows combined :=
    follows.ignore finished follows.counts.dispose rfl rfl
  unfold CombineLatestSink.settle
  simp only [forwardOn_of_disposed disposed]
  split
  · split
    · exact ended
    · exact follows
  · split
    · exact ended
    · exact follows

/-- A source has sent an element. -/
theorem next
    (follows : sink.Follows combined)
    (resultSelector : ((index : Fin arity) → Element index) →
      Except Failure Result)
    (index : Fin arity)
    (value : Element index) :
    ∃ after, sink.on resultSelector index (.next value) = .ok after ∧
      after.Follows
        (combined.perform resultSelector (.source index (.next value))) := by
  have stored := follows.store index value
  refine ⟨_, next_eq stored.counts, ?_⟩
  unfold Combined.perform
  split
  · rename_i finished
    rw [if_pos finished] at stored
    exact stored.settle_of_over finished index
  · rename_i notOver
    rw [if_neg notOver] at stored
    exact stored.settle (Bool.eq_false_of_not_eq_true notOver) index

/-- A source has failed. -/
theorem error
    (follows : sink.Follows combined)
    (resultSelector : ((index : Fin arity) → Element index) →
      Except Failure Result)
    (index : Fin arity)
    (failure : Failure) :
    ((sink.disposeThis index).fail failure).Follows
      (combined.perform resultSelector (.source index (.error failure))) := by
  have counts := follows.counts.disposeThis index
  unfold Combined.perform fail
  split
  · rename_i finished
    exact follows.ignoreFinish finished counts rfl
      (follows.disposed.trans finished) _
  · rename_i notOver
    have running := Bool.eq_false_of_not_eq_true notOver
    exact finish counts follows.emitted (follows.disposed.trans running) _

/-- A source that has completed is counted, unless the sequence is over. -/
theorem completed_of_running
    (follows : sink.Follows combined)
    (running : combined.isOver = false)
    {index : Fin arity}
    (notEnded : sink.ended index = false) :
    ((sink.disposeThis index).done index).Follows (combined.done index) := by
  have notDone : sink.isDone index = false := by
    rw [follows.ended running, notEnded]
  have counts := (follows.counts.disposeThis index).complete notDone
  have done (other : Fin arity) :
      Function.update sink.isDone index true other = true ↔
        other ∈ insert index combined.completed := by
    rw [Finset.mem_insert, ← follows.completed running]
    by_cases same : other = index
    · simp [same]
    · simp [same]
  have all : sink.numberOfDone + 1 = arity ↔
      insert index combined.completed = Finset.univ := by
    rw [follows.counts.numberOfDone, ← count_update notDone,
      count_eq_arity_iff, Finset.eq_univ_iff_forall]
    exact forall_congr' done
  unfold CombineLatestSink.done Combined.done
  rw [if_neg (by simpa [disposeThis] using notDone)]
  dsimp only
  split
  · rename_i isFull
    rw [if_pos (all.mp isFull)]
    exact finish counts (by exact follows.emitted)
      (follows.disposed.trans running) _
  · rename_i notFull
    rw [if_neg fun isFull => notFull (all.mpr isFull)]
    exact
      { counts := counts
        emitted := follows.emitted
        disposed := follows.disposed
        latest := follows.latest
        completed := fun _ => done
        ended := fun _ => by
          dsimp only [disposeThis]
          rw [follows.ended running] }

/-- A source has completed. -/
theorem complete
    (follows : sink.Follows combined)
    (resultSelector : ((index : Fin arity) → Element index) →
      Except Failure Result)
    {index : Fin arity}
    (notEnded : sink.ended index = false) :
    ((sink.disposeThis index).done index).Follows
      (combined.perform resultSelector (.source index .completed)) := by
  unfold Combined.perform
  split
  · rename_i finished
    have disposed := follows.disposed.trans finished
    have counts := follows.counts.disposeThis index
    unfold CombineLatestSink.done
    split
    · exact follows.ignore finished counts rfl disposed
    · rename_i notDone
      have more := counts.complete (Bool.eq_false_of_not_eq_true notDone)
      dsimp only
      split
      · exact follows.ignoreFinish finished more rfl disposed _
      · exact follows.ignore finished more rfl disposed
  · rename_i notOver
    exact follows.completed_of_running
      (Bool.eq_false_of_not_eq_true notOver) notEnded

/-- A step that is not about events and elements changes nothing of them. -/
theorem of_same
    (follows : sink.Follows combined)
    (same : after.hasValue = sink.hasValue ∧
      after.numberOfValues = sink.numberOfValues ∧
        after.isDone = sink.isDone ∧
          after.numberOfDone = sink.numberOfDone ∧
            after.latestElement = sink.latestElement ∧
              after.emitted = sink.emitted ∧
                after.disposed = sink.disposed ∧ after.ended = sink.ended) :
    after.Follows combined := by
  obtain ⟨hasValue, numberOfValues, isDone, numberOfDone, latest, emitted,
    disposed, ended⟩ := same
  exact
    { counts :=
        { hasValue := by rw [hasValue, latest]; exact follows.counts.hasValue
          numberOfValues := by
            rw [numberOfValues, hasValue]
            exact follows.counts.numberOfValues
          numberOfDone := by
            rw [numberOfDone, isDone]
            exact follows.counts.numberOfDone }
      emitted := emitted.trans follows.emitted
      disposed := disposed.trans follows.disposed
      latest := fun running => latest.trans (follows.latest running)
      completed := by rw [isDone]; exact follows.completed
      ended := by rw [isDone, ended]; exact follows.ended }

/-- The step lemma. -/
theorem perform
    (follows : sink.Follows combined)
    (resultSelector : ((index : Fin arity) → Element index) →
      Except Failure Result)
    {input : Input Failure Element}
    (enabled : sink.CanPerform input) :
    ∃ after, sink.perform resultSelector input = .ok after ∧
      after.Follows (combined.perform resultSelector input) := by
  have unchanged (harmless : ∀ running : Combined Failure Result Element,
      running.react resultSelector input = running) :
      combined.perform resultSelector input = combined := by
    rw [Combined.perform, harmless, ite_self]
  cases input with
  | source index event =>
      cases event with
      | next value => exact follows.next resultSelector index value
      | error failure =>
          exact ⟨_, rfl, follows.error resultSelector index failure⟩
      | completed =>
          exact ⟨_, rfl, follows.complete resultSelector enabled.2⟩
  | setDisposable index =>
      rw [unchanged fun _ => rfl]
      simp only [CombineLatestSink.perform, setDisposable,
        SingleAssignmentDisposable.setDisposable, enabled.2]
      exact ⟨_, rfl, follows.of_same ⟨rfl, rfl, rfl, rfl, rfl, rfl, rfl, rfl⟩⟩
  | setSinkAndSubscription =>
      rw [unchanged fun _ => rfl]
      simp only [CombineLatestSink.perform, setSinkAndSubscription,
        SingleAssignmentDisposable.setDisposable, enabled.2.2]
      exact ⟨_, rfl, follows.of_same ⟨rfl, rfl, rfl, rfl, rfl, rfl, rfl, rfl⟩⟩
  | subscribe =>
      rw [unchanged fun _ => rfl]
      exact ⟨_, rfl, follows.of_same ⟨rfl, rfl, rfl, rfl, rfl, rfl, rfl, rfl⟩⟩
  | dispose =>
      rw [unchanged fun _ => rfl]
      exact ⟨_, rfl, follows.of_same ⟨rfl, rfl, rfl, rfl, rfl, rfl, rfl, rfl⟩⟩
  | disposeGroup =>
      rw [unchanged fun _ => rfl]
      exact ⟨_, rfl, follows.of_same ⟨rfl, rfl, rfl, rfl, rfl, rfl, rfl, rfl⟩⟩
  | disposeNext =>
      rw [unchanged fun _ => rfl]
      refine ⟨_, rfl, follows.of_same ?_⟩
      unfold disposeNext
      split <;> exact ⟨rfl, rfl, rfl, rfl, rfl, rfl, rfl, rfl⟩
  | disposeSink =>
      refine ⟨_, rfl, ?_⟩
      unfold Combined.perform
      split
      · rename_i finished
        exact follows.ignore finished follows.counts.disposeSink rfl rfl
      · exact
          { counts := follows.counts.disposeSink
            emitted := follows.emitted
            disposed := rfl
            latest := fun impossible => by cases impossible
            completed := fun impossible => by cases impossible
            ended := fun impossible => by cases impossible }

theorem step
    {inputs : List (Input Failure Element)}
    {input : Input Failure Element}
    (follows : sink.Follows (.after resultSelector inputs))
    (enabled : sink.CanPerform input)
    (performed : sink.perform resultSelector input = .ok after) :
    after.Follows (.after resultSelector (inputs ++ [input])) := by
  obtain ⟨next, nextPerformed, nextFollows⟩ :=
    follows.perform resultSelector enabled
  obtain rfl : next = after :=
    Except.ok.inj (nextPerformed.symm.trans performed)
  rw [Combined.after_snoc]
  exact nextFollows

/-- The run lemma. -/
theorem of_run
    {inputs : List (Input Failure Element)}
    (run : (system resultSelector).Run {} inputs sink) :
    sink.Follows (.after resultSelector inputs) := by
  refine System.Run.invariant
    (fun inputs sink => sink.Follows (.after resultSelector inputs)) ?_ ?_ run
  · exact
      { counts := .new
        emitted := rfl
        disposed := rfl
        latest := fun _ => rfl
        completed := fun _ index => by simp [Combined.after]
        ended := fun _ => rfl }
  · intro inputs input before after follows enabled performed
    exact follows.step enabled performed

end Follows

end CombineLatestSink

end RxSwift
end MVVMExample
