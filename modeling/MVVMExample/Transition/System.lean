import Mathlib.Data.List.Basic

/-!
# Event systems and their runs

A deterministic system is driven by inputs of its environment. An input may be
impossible in a state, and a possible input may end in a fault instead of a
next state. Runs carry the list of inputs that led to a state, so that an
invariant may speak about the history as well as about the state.
-/

namespace Transition

/-- A deterministic system. `Enabled` says which inputs the environment can
produce in a state, and `step` says what an input does there. -/
structure System (State Input Fault : Type*) where
  Enabled : State → Input → Prop
  step : State → Input → Except Fault State

namespace System

variable {State Input Fault : Type*}

/-- `Run system start inputs finish` means that the enabled inputs `inputs`
lead from `start` to `finish` without a fault. -/
inductive Run
    (system : System State Input Fault)
    (start : State) : List Input → State → Prop
  | nil : Run system start [] start
  | snoc
      {inputs : List Input}
      {middle finish : State}
      {input : Input}
      (run : Run system start inputs middle)
      (enabled : system.Enabled middle input)
      (stepped : system.step middle input = .ok finish) :
      Run system start (inputs ++ [input]) finish

namespace Run

variable {system : System State Input Fault}

/-- What holds initially and is preserved by every enabled step holds after
every run. The invariant may mention the inputs consumed so far. -/
theorem invariant
    {start finish : State}
    {inputs : List Input}
    (Invariant : List Input → State → Prop)
    (initially : Invariant [] start)
    (preserved : ∀ inputs input before after,
      Invariant inputs before → system.Enabled before input →
        system.step before input = .ok after →
          Invariant (inputs ++ [input]) after)
    (run : Run system start inputs finish) :
    Invariant inputs finish := by
  induction run with
  | nil => exact initially
  | snoc run enabled stepped inductionHypothesis =>
      exact preserved _ _ _ _ inductionHypothesis enabled stepped

/-- Consume one more input in front of a run. -/
theorem cons
    {start middle finish : State}
    {input : Input}
    {inputs : List Input}
    (enabled : system.Enabled start input)
    (stepped : system.step start input = .ok middle)
    (run : Run system middle inputs finish) :
    Run system start (input :: inputs) finish := by
  induction run with
  | nil => exact .snoc .nil enabled stepped
  | snoc run lastEnabled lastStepped inductionHypothesis =>
      exact .snoc inductionHypothesis lastEnabled lastStepped

end Run

/-- Keep only the steps that satisfy an extra condition. -/
def restrict
    (system : System State Input Fault)
    (Allowed : State → Input → Prop) : System State Input Fault where
  Enabled := fun state input =>
    system.Enabled state input ∧ Allowed state input
  step := system.step

instance
    (system : System State Input Fault)
    (Allowed : State → Input → Prop)
    [∀ state input, Decidable (system.Enabled state input)]
    [∀ state input, Decidable (Allowed state input)]
    (state : State)
    (input : Input) :
    Decidable ((system.restrict Allowed).Enabled state input) :=
  inferInstanceAs (Decidable (_ ∧ _))

/-- A run of a restricted system is a run of the system. -/
theorem Run.of_restrict
    {system : System State Input Fault}
    {Allowed : State → Input → Prop}
    {start finish : State}
    {inputs : List Input}
    (run : Run (system.restrict Allowed) start inputs finish) :
    Run system start inputs finish := by
  induction run with
  | nil => exact .nil
  | snoc run enabled stepped inductionHypothesis =>
      exact .snoc inductionHypothesis enabled.1 stepped

/-- Replay a list of inputs, giving up on the first input that is not enabled
or faults. -/
def replay
    (system : System State Input Fault)
    [∀ state input, Decidable (system.Enabled state input)] :
    State → List Input → Option State
  | state, [] => some state
  | state, input :: inputs =>
      if system.Enabled state input then
        match system.step state input with
        | .ok next => system.replay next inputs
        | .error _ => none
      else none

/-- A successful replay is a run. -/
theorem run_of_replay
    {system : System State Input Fault}
    [∀ state input, Decidable (system.Enabled state input)]
    {start finish : State}
    {inputs : List Input}
    (replayed : system.replay start inputs = some finish) :
    Run system start inputs finish := by
  induction inputs generalizing start with
  | nil =>
      obtain rfl : start = finish := by simpa [replay] using replayed
      exact .nil
  | cons input inputs inductionHypothesis =>
      simp only [replay] at replayed
      split at replayed
      · rename_i enabled
        split at replayed
        · rename_i next stepped
          exact .cons enabled stepped (inductionHypothesis replayed)
        · contradiction
      · contradiction

/-- A forward simulation: every enabled step of the concrete system from
related states is matched by an enabled step of the abstract system on the
same input. -/
structure Simulation
    {Abstract AbstractFault : Type*}
    (concrete : System State Input Fault)
    (abstract : System Abstract Input AbstractFault)
    (Related : State → Abstract → Prop) : Prop where
  step : ∀ before image input after,
    Related before image → concrete.Enabled before input →
      concrete.step before input = .ok after →
        abstract.Enabled image input ∧
          ∃ next, abstract.step image input = .ok next ∧ Related after next

/-- A simulation lifts whole runs: a concrete run from related states is
matched by an abstract run on the same inputs. -/
theorem Simulation.run
    {Abstract AbstractFault : Type*}
    {concrete : System State Input Fault}
    {abstract : System Abstract Input AbstractFault}
    {Related : State → Abstract → Prop}
    (simulation : Simulation concrete abstract Related)
    {start finish : State}
    {inputs : List Input}
    {image : Abstract}
    (related : Related start image)
    (run : Run concrete start inputs finish) :
    ∃ last, Run abstract image inputs last ∧ Related finish last := by
  induction run with
  | nil => exact ⟨image, .nil, related⟩
  | snoc run enabled stepped inductionHypothesis =>
      obtain ⟨middle, abstractRun, middleRelated⟩ := inductionHypothesis
      obtain ⟨abstractEnabled, next, abstractStepped, nextRelated⟩ :=
        simulation.step _ _ _ _ middleRelated enabled stepped
      exact ⟨next, .snoc abstractRun abstractEnabled abstractStepped,
        nextRelated⟩

end System
end Transition
