import MVVMExample.Transition.System

/-!
# Translations of systems

A fine system may take several steps where a coarse one takes a single step, and
steps that the coarse one does not notice. A translation matches every step of
the fine system by a run of the coarse one on inputs computed from the step. It
lifts to runs: a run of the fine system is matched by a run of the coarse one on
the translated inputs.
-/

namespace Transition
namespace System

variable {State Input Fault Coarse CoarseInput CoarseFault : Type*}

/-- A run can be continued by another one. -/
theorem Run.append
    {system : System State Input Fault}
    {start middle finish : State}
    {inputs later : List Input}
    (run : Run system start inputs middle)
    (rest : Run system middle later finish) :
    Run system start (inputs ++ later) finish := by
  induction rest with
  | nil =>
      rw [List.append_nil]
      exact run
  | snoc rest enabled stepped inductionHypothesis =>
      rw [← List.append_assoc]
      exact .snoc inductionHypothesis enabled stepped

/-- A run of one step. -/
theorem Run.single
    {system : System State Input Fault}
    {start finish : State}
    {input : Input}
    (enabled : system.Enabled start input)
    (stepped : system.step start input = .ok finish) :
    Run system start [input] finish :=
  .snoc .nil enabled stepped

/-- The inputs of the coarse system along a list of inputs. -/
def translated
    (system : System State Input Fault)
    (translate : State → Input → List CoarseInput) :
    State → List Input → List CoarseInput
  | _, [] => []
  | state, input :: inputs =>
      translate state input ++
        match system.step state input with
        | .ok next => system.translated translate next inputs
        | .error _ => []

/-- If every step is translated to one input at most, so is a list of inputs to no
more of them. -/
theorem length_translated_le
    (system : System State Input Fault)
    {translate : State → Input → List CoarseInput}
    (atMostOne : ∀ state input, (translate state input).length ≤ 1)
    (state : State)
    (inputs : List Input) :
    (system.translated translate state inputs).length ≤ inputs.length := by
  induction inputs generalizing state with
  | nil => exact Nat.le_refl 0
  | cons input inputs inductionHypothesis =>
      have one := atMostOne state input
      rw [translated, List.length_append, List.length_cons]
      split
      · rename_i next _
        have rest := inductionHypothesis next
        omega
      · rw [List.length_nil]
        omega

/-- The inputs after a run are translated in the state it leads to. -/
theorem Run.translated_append
    {system : System State Input Fault}
    (translate : State → Input → List CoarseInput)
    {start finish : State}
    {inputs : List Input}
    (run : Run system start inputs finish)
    (later : List Input) :
    system.translated translate start (inputs ++ later) =
      system.translated translate start inputs ++
        system.translated translate finish later := by
  induction run generalizing later with
  | nil => rfl
  | @snoc inputs middle finish input run enabled stepped inductionHypothesis =>
      have one : system.translated translate middle [input] =
          translate middle input := by
        simp only [translated, stepped, List.append_nil]
      have more : system.translated translate middle (input :: later) =
          translate middle input ++
            system.translated translate finish later := by
        simp only [translated, stepped]
      rw [List.append_assoc, List.singleton_append, inductionHypothesis,
        inductionHypothesis, one, more, List.append_assoc]

/-- The last input of a run is translated in the state before it. -/
theorem Run.translated_snoc
    {system : System State Input Fault}
    (translate : State → Input → List CoarseInput)
    {start middle : State}
    {inputs : List Input}
    (run : Run system start inputs middle)
    (input : Input) :
    system.translated translate start (inputs ++ [input]) =
      system.translated translate start inputs ++ translate middle input := by
  rw [run.translated_append translate]
  congr 1
  simp only [translated]
  split <;> exact List.append_nil _

/-- Every enabled step of the fine system is matched by a run of the coarse one
on the inputs it is translated to. -/
structure Translation
    (fine : System State Input Fault)
    (coarse : System Coarse CoarseInput CoarseFault)
    (translate : State → Input → List CoarseInput)
    (Related : State → Coarse → Prop) : Prop where
  step : ∀ before image input after,
    Related before image → fine.Enabled before input →
      fine.step before input = .ok after →
        ∃ next, Run coarse image (translate before input) next ∧
          Related after next

/-- A translation lifts whole runs. -/
theorem Translation.run
    {fine : System State Input Fault}
    {coarse : System Coarse CoarseInput CoarseFault}
    {translate : State → Input → List CoarseInput}
    {Related : State → Coarse → Prop}
    (translation : Translation fine coarse translate Related)
    {start finish : State}
    {image : Coarse}
    {inputs : List Input}
    (related : Related start image)
    (run : Run fine start inputs finish) :
    ∃ last,
      Run coarse image (fine.translated translate start inputs) last ∧
        Related finish last := by
  induction run with
  | nil => exact ⟨image, .nil, related⟩
  | snoc run enabled stepped inductionHypothesis =>
      obtain ⟨middle, coarseRun, middleRelated⟩ := inductionHypothesis
      obtain ⟨next, rest, nextRelated⟩ :=
        translation.step _ _ _ _ middleRelated enabled stepped
      refine ⟨next, ?_, nextRelated⟩
      rw [run.translated_snoc translate]
      exact coarseRun.append rest

end System
end Transition
