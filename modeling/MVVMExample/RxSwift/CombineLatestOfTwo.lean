import MVVMExample.RxSwift.CombineLatest

/-!
# Combining two sources

The screens combine two sources whose selector does not fail, on a single thread.
The operator that models this in a chain of operators is the sink of two sources:
fed with events of its sources in turn, it forwards the events of the combined
sequence.
-/

namespace MVVMExample
namespace RxSwift

open Reactive

namespace Combined

open Operator (CombineLatest)

universe u

variable
    {Failure Result : Type*}
    {First Second : Type u}

/-- The element types of two sources. -/
abbrev Pair (First Second : Type u) : Fin 2 → Type u
  | 0 => First
  | 1 => Second

/-- Combine the elements of two sources with a function that does not fail. -/
def pairSelector
    (combine : First → Second → Result)
    (elements : (index : Fin 2) → Pair First Second index) :
    Except Failure Result :=
  .ok (combine (elements 0) (elements 1))

/-- A combined sequence of two sources is in the state of the operator that
combines them. -/
structure OfTwo
    (combined : Combined Failure Result (Pair First Second))
    (operator : CombineLatest First Second) : Prop where
  first : combined.latest 0 = operator.first
  second : combined.latest 1 = operator.second
  firstDone : 0 ∈ combined.completed ↔ operator.firstDone = true
  secondDone : 1 ∈ combined.completed ↔ operator.secondDone = true
  isOver : combined.isOver = operator.disposed

/-- Two sources have elements. -/
theorem collect_pair
    {latest : (index : Fin 2) → Option (Pair First Second index)}
    {first : First}
    {second : Second}
    (hasFirst : latest 0 = some first)
    (hasSecond : latest 1 = some second) :
    ∃ elements, collect latest = some elements ∧
      elements 0 = first ∧ elements 1 = second := by
  have present : ∀ index, (latest index).isSome := by
    intro index
    match index with
    | 0 => rw [hasFirst]; rfl
    | 1 => rw [hasSecond]; rfl
  refine ⟨_, dif_pos present, ?_, ?_⟩
  · exact Option.get_of_eq_some _ hasFirst
  · exact Option.get_of_eq_some _ hasSecond

/-- An element is missing. -/
theorem collect_pair_of_missing
    {latest : (index : Fin 2) → Option (Pair First Second index)}
    {index : Fin 2}
    (missing : latest index = none) :
    collect latest = none := by
  rw [collect_eq_none_iff]
  intro present
  have absurdly := present index
  rw [missing] at absurdly
  contradiction

/-- What an element of one of two sources does. -/
theorem next_pair
    (combine : First → Second → Result)
    (combined : Combined Failure Result (Pair First Second))
    (index : Fin 2) :
    combined.next (pairSelector combine) index =
      match combined.latest 0, combined.latest 1 with
      | some first, some second =>
          { combined with
              output := combined.output ++ [.next (combine first second)] }
      | _, _ =>
          if ∀ other, other ≠ index → other ∈ combined.completed then
            combined.finish .completed
          else combined := by
  unfold Combined.next
  cases hasFirst : combined.latest 0 with
  | none => rw [collect_pair_of_missing hasFirst]
  | some first =>
      cases hasSecond : combined.latest 1 with
      | none => rw [collect_pair_of_missing hasSecond]
      | some second =>
          obtain ⟨elements, collected, rfl, rfl⟩ :=
            collect_pair hasFirst hasSecond
          rw [collected]
          rfl

namespace OfTwo

variable
    {combine : First → Second → Result}
    {combined : Combined Failure Result (Pair First Second)}
    {operator : CombineLatest First Second}

/-- The operator reacts to the first source as the sequence does. -/
theorem onFirst
    (ofTwo : combined.OfTwo operator)
    (grammatical : combined.Grammatical)
    (event : Event Failure First) :
    (combined.perform (pairSelector combine) (.source 0 event)).OfTwo
        (CombineLatest.onFirst combine operator event).1 ∧
      (combined.perform (pairSelector combine) (.source 0 event)).output =
        combined.output ++ (CombineLatest.onFirst combine operator event).2 := by
  have others : (∀ other : Fin 2, other ≠ 0 → other ∈ combined.completed) ↔
      operator.secondDone = true := by
    rw [← ofTwo.secondDone]
    simp [Fin.forall_fin_two]
  unfold Combined.perform CombineLatest.onFirst
  rw [ofTwo.isOver]
  split
  · exact ⟨ofTwo, (List.append_nil _).symm⟩
  · rename_i notOver
    have running := ofTwo.isOver.trans (Bool.eq_false_of_not_eq_true notOver)
    cases event with
    | next element =>
        have different : (1 : Fin 2) ≠ 0 := by decide
        have stored :
            ({ combined with
                latest :=
                  Function.update combined.latest 0 (some element) }).OfTwo
              { operator with first := some element } :=
          { ofTwo with
            first := rfl
            second := (Function.update_of_ne different (some element)
              combined.latest).trans ofTwo.second }
        dsimp only [react]
        rw [next_pair, stored.first, stored.second]
        dsimp only
        simp only [others]
        cases isOther : operator.second with
        | some other =>
            rw [isOther] at stored
            exact ⟨{ stored with }, rfl⟩
        | none =>
            rw [isOther] at stored
            dsimp only
            split
            · exact ⟨{ stored with isOver := rfl }, rfl⟩
            · exact ⟨stored, (List.append_nil _).symm⟩
    | error failure => exact ⟨{ ofTwo with isOver := rfl }, rfl⟩
    | completed =>
        dsimp only [react]
        rw [grammatical.done_eq running]
        simp only [ofTwo.firstDone, others]
        split
        · exact ⟨ofTwo, (List.append_nil _).symm⟩
        · split
          · refine ⟨{ ofTwo with firstDone := ?_, secondDone := ?_, isOver := rfl }, rfl⟩
            · simp [finish]
            · simp [finish, ofTwo.secondDone]
          · refine ⟨{ ofTwo with firstDone := ?_, secondDone := ?_ }, (List.append_nil _).symm⟩
            · simp
            · simp [ofTwo.secondDone]

/-- What the operator does with an event of its second source. -/
theorem onSecond_eq
    (combine : First → Second → Result)
    (operator : CombineLatest First Second)
    (event : Event Failure Second) :
    CombineLatest.onSecond combine operator event =
      if operator.disposed then (operator, [])
      else
        match event with
        | .next element =>
            match operator.first with
            | some other =>
                ({ operator with second := some element },
                  [.next (combine other element)])
            | none =>
                if operator.firstDone then
                  ({ operator with second := some element, disposed := true },
                    [.completed])
                else ({ operator with second := some element }, [])
        | .error failure => ({ operator with disposed := true }, [.error failure])
        | .completed =>
            if operator.secondDone then (operator, [])
            else if operator.firstDone then
              ({ operator with secondDone := true, disposed := true },
                [.completed])
            else ({ operator with secondDone := true }, []) := by
  obtain ⟨first, second, firstDone, secondDone, disposed⟩ := operator
  unfold CombineLatest.onSecond CombineLatest.onFirst
  cases disposed with
  | true => rfl
  | false =>
      cases event with
      | next element => cases first <;> cases firstDone <;> rfl
      | error failure => rfl
      | completed => cases firstDone <;> cases secondDone <;> rfl

/-- The operator reacts to the second source as the sequence does. -/
theorem onSecond
    (ofTwo : combined.OfTwo operator)
    (grammatical : combined.Grammatical)
    (event : Event Failure Second) :
    (combined.perform (pairSelector combine) (.source 1 event)).OfTwo
        (CombineLatest.onSecond combine operator event).1 ∧
      (combined.perform (pairSelector combine) (.source 1 event)).output =
        combined.output ++ (CombineLatest.onSecond combine operator event).2 := by
  have others : (∀ other : Fin 2, other ≠ 1 → other ∈ combined.completed) ↔
      operator.firstDone = true := by
    rw [← ofTwo.firstDone]
    simp [Fin.forall_fin_two]
  rw [onSecond_eq]
  unfold Combined.perform
  rw [ofTwo.isOver]
  split
  · exact ⟨ofTwo, (List.append_nil _).symm⟩
  · rename_i notOver
    have running := ofTwo.isOver.trans (Bool.eq_false_of_not_eq_true notOver)
    cases event with
    | next element =>
        have different : (0 : Fin 2) ≠ 1 := by decide
        have stored :
            ({ combined with
                latest :=
                  Function.update combined.latest 1 (some element) }).OfTwo
              { operator with second := some element } :=
          { ofTwo with
            first := (Function.update_of_ne different (some element)
              combined.latest).trans ofTwo.first
            second := rfl }
        dsimp only [react]
        rw [next_pair, stored.first, stored.second]
        dsimp only
        simp only [others]
        cases isOther : operator.first with
        | some other =>
            rw [isOther] at stored
            exact ⟨{ stored with }, rfl⟩
        | none =>
            rw [isOther] at stored
            dsimp only
            split
            · exact ⟨{ stored with isOver := rfl }, rfl⟩
            · exact ⟨stored, (List.append_nil _).symm⟩
    | error failure => exact ⟨{ ofTwo with isOver := rfl }, rfl⟩
    | completed =>
        dsimp only [react]
        rw [grammatical.done_eq running]
        simp only [ofTwo.secondDone, others]
        split
        · exact ⟨ofTwo, (List.append_nil _).symm⟩
        · split
          · refine ⟨{ ofTwo with
              firstDone := ?_, secondDone := ?_, isOver := rfl }, rfl⟩
            · simp [finish, ofTwo.firstDone]
            · simp [finish]
          · refine ⟨{ ofTwo with firstDone := ?_, secondDone := ?_ },
              (List.append_nil _).symm⟩
            · simp [ofTwo.firstDone]
            · simp

end OfTwo

/-- The input for an event of one of two sources. -/
def pairInput :
    Event Failure First ⊕ Event Failure Second →
      CombineLatestSink.Input Failure (Pair First Second)
  | .inl event => .source 0 event
  | .inr event => .source 1 event

/-- The operator reacts to an event of one of its sources. -/
def reactPair
    (combine : First → Second → Result)
    (operator : CombineLatest First Second) :
    Event Failure First ⊕ Event Failure Second →
      CombineLatest First Second × List (Event Failure Result)
  | .inl event => CombineLatest.onFirst combine operator event
  | .inr event => CombineLatest.onSecond combine operator event

/-- The operator reacts to events of its sources in turn. -/
def feedPair (combine : First → Second → Result) :
    CombineLatest First Second →
      List (Event Failure First ⊕ Event Failure Second) →
        CombineLatest First Second × List (Event Failure Result)
  | operator, [] => (operator, [])
  | operator, event :: events =>
      let reaction := reactPair combine operator event
      let rest := feedPair combine reaction.1 events
      (rest.1, reaction.2 ++ rest.2)

/-- The operator for two sources forwards the events of the combined sequence. -/
theorem output_pair
    (combine : First → Second → Result)
    (events : List (Event Failure First ⊕ Event Failure Second)) :
    (after (pairSelector combine) (events.map pairInput)).output =
      (feedPair combine {} events).2 := by
  have continued : ∀ (combined : Combined Failure Result (Pair First Second))
      (operator : CombineLatest First Second),
      combined.OfTwo operator → combined.Grammatical →
        ((events.map pairInput).foldl (perform (pairSelector combine))
          combined).output =
          combined.output ++ (feedPair combine operator events).2 := by
    induction events with
    | nil => exact fun _ _ _ _ => (List.append_nil _).symm
    | cons event events inductionHypothesis =>
        intro combined operator ofTwo grammatical
        have reacted :
            (combined.perform (pairSelector combine) (pairInput event)).OfTwo
                (reactPair combine operator event).1 ∧
              (combined.perform (pairSelector combine)
                (pairInput event)).output =
                combined.output ++ (reactPair combine operator event).2 := by
          cases event with
          | inl event => exact ofTwo.onFirst grammatical event
          | inr event => exact ofTwo.onSecond grammatical event
        rw [List.map_cons, List.foldl_cons,
          inductionHypothesis _ _ reacted.1 (grammatical.perform _ _), reacted.2,
          List.append_assoc]
        rfl
  have new : (after (pairSelector combine) [] :
      Combined Failure Result (Pair First Second)).OfTwo {} :=
    { first := rfl
      second := rfl
      firstDone := by simp [after]
      secondDone := by simp [after]
      isOver := rfl }
  exact continued _ _ new (.after (pairSelector combine) [])

end Combined
end RxSwift
end MVVMExample
