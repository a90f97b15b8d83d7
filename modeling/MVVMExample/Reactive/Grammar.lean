import MVVMExample.Reactive.Operator

/-!
# The grammar of observable sequences

A sequence sends elements and then at most one stop event, after which it is
over. A sequence that is disposed of is over without a stop event.
-/

namespace Reactive

/-- Only the last of the events of a sequence may be a stop event, and then the
sequence is over. -/
structure Grammar
    {Failure Element : Type*}
    (isOver : Bool)
    (events : List (Event Failure Element)) : Prop where
  earlier : ∀ event ∈ events.dropLast, event.isStopEvent = false
  running : isOver = false → ∀ event ∈ events, event.isStopEvent = false

namespace Grammar

variable
    {Failure Element : Type*}
    {isOver : Bool}
    {events : List (Event Failure Element)}

theorem nil (isOver : Bool) :
    Grammar isOver ([] : List (Event Failure Element)) where
  earlier := fun _ impossible => absurd impossible List.not_mem_nil
  running := fun _ _ impossible => absurd impossible List.not_mem_nil

/-- A running sequence has not completed. -/
theorem notMem_completed (grammar : Grammar false events) :
    .completed ∉ events := by
  intro present
  have notStop := grammar.running rfl .completed present
  contradiction

/-- A running sequence sends an element. -/
theorem next (grammar : Grammar false events) (element : Element) :
    Grammar false (events ++ [.next element]) := by
  have elements : ∀ event ∈ events ++ [.next element],
      event.isStopEvent = false := by
    intro event present
    rcases List.mem_append.mp present with old | new
    · exact grammar.running rfl event old
    · rw [List.mem_singleton.mp new]
      rfl
  exact
    { earlier := fun event present =>
        elements event (List.dropLast_subset _ present)
      running := fun _ => elements }

/-- A running sequence ends with an event. -/
theorem finish
    (grammar : Grammar false events)
    (event : Event Failure Element) :
    Grammar true (events ++ [event]) where
  earlier := by
    rw [List.dropLast_concat]
    exact grammar.running rfl
  running := fun impossible => by cases impossible

/-- A sequence is over without an event. -/
theorem silence (grammar : Grammar isOver events) : Grammar true events where
  earlier := grammar.earlier
  running := fun impossible => by cases impossible

end Grammar
end Reactive
