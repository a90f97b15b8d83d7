import MVVMExample.Authentication.Screen

/-!
# Responses and attempts

Each tap subscribes the merge once more to the one subject of its call, and no
such subscription ever ends. A completion is therefore handed to the handler
once for each tap so far: exactly once only as long as there has been one tap.
-/

namespace MVVMExample
namespace AuthenticationScreen

open Reactive Transition

variable {kind : AuthenticationKind}

/-- The screen with taps only while both fields are present. -/
def attempts (kind : AuthenticationKind) :
    System (AuthenticationScreen kind) Input Crash :=
  (system kind).restrict fun screen input =>
    input = .tap → screen.firstField ≠ none ∧ screen.secondField ≠ none

instance (screen : AuthenticationScreen kind) (input : Input) :
    Decidable ((attempts kind).Enabled screen input) :=
  inferInstanceAs (Decidable (((system kind).restrict _).Enabled screen input))

/-- The taps and the completions of a run, and its completions repeated once
for each tap before them. -/
structure Tally where
  taps : Nat := 0
  completions : List AuthenticationResult := []
  deliveries : List AuthenticationResult := []

/-- The tally after an input. -/
def Tally.after (tally : Tally) : Input → Tally
  | .editFirst _ => tally
  | .editSecond _ => tally
  | .tap => { tally with taps := tally.taps + 1 }
  | .complete _ error =>
      let outcome := AuthenticationResult.ofCompletion error
      { tally with
          completions := tally.completions ++ [outcome]
          deliveries := tally.deliveries ++ .replicate tally.taps outcome }

/-- The tally of a list of inputs. -/
def tally (inputs : List Input) : Tally :=
  inputs.foldl Tally.after {}

theorem tally_snoc (inputs : List Input) (input : Input) :
    tally (inputs ++ [input]) = (tally inputs).after input := by
  rw [tally, List.foldl_append]
  rfl

/-- No request completes after a second tap. -/
def SingleAttempt (inputs : List Input) : Prop :=
  ∀ before request error after,
    inputs = before ++ .complete request error :: after →
      before.count .tap ≤ 1

theorem singleAttempt_snoc {inputs : List Input} {input : Input} :
    SingleAttempt (inputs ++ [input]) ↔
      SingleAttempt inputs ∧
        ∀ request error, input = .complete request error →
          inputs.count .tap ≤ 1 := by
  constructor
  · intro single
    constructor
    · rintro before request error after rfl
      exact single before request error (after ++ [input]) (by simp)
    · rintro request error rfl
      exact single inputs request error [] rfl
  · rintro ⟨single, last⟩ before request error after split
    rcases List.eq_nil_or_concat after with rfl | ⟨middle, final, rfl⟩
    · obtain ⟨rfl, isLast⟩ := List.append_inj' split rfl
      exact last request error (List.singleton_inj.mp isLast)
    · have shorter : inputs ++ [input] =
          (before ++ .complete request error :: middle) ++ [final] := by
        rw [split]
        simp
      obtain ⟨rfl, _⟩ := List.append_inj' shorter rfl
      exact single before request error middle rfl

theorem singleAttempt_snoc_of_not_complete
    {inputs : List Input}
    {input : Input}
    (notComplete : ∀ request error, input ≠ .complete request error) :
    SingleAttempt (inputs ++ [input]) ↔ SingleAttempt inputs := by
  rw [singleAttempt_snoc]
  constructor
  · exact fun both => both.1
  · exact fun single => ⟨single, fun request error isComplete =>
      absurd isComplete (notComplete request error)⟩

/-- The invariant of a run: there is a request for each tap, the handler has
received the deliveries, and these are the completions exactly while no request
has completed after a second tap. -/
structure Tallied
    (inputs : List Input)
    (screen : AuthenticationScreen kind) : Prop where
  taps : (tally inputs).taps = inputs.count .tap
  requests : screen.dao.requests.length = (tally inputs).taps
  received : screen.received = (tally inputs).deliveries.map .next
  longer :
    (tally inputs).completions.length ≤ (tally inputs).deliveries.length
  matched : (tally inputs).deliveries = (tally inputs).completions ↔
    SingleAttempt inputs

/-- Repeating one more completion at least once keeps the lists equal exactly
when they were equal and it is repeated once. -/
theorem append_replicate_eq_append_singleton
    {deliveries completions : List α}
    {taps : Nat}
    {outcome : α}
    (longer : completions.length ≤ deliveries.length)
    (tapped : 1 ≤ taps) :
    deliveries ++ .replicate taps outcome = completions ++ [outcome] ↔
      deliveries = completions ∧ taps ≤ 1 := by
  constructor
  · intro same
    have lengths := congrArg List.length same
    rw [List.length_append, List.length_append, List.length_replicate,
      List.length_singleton] at lengths
    have sameLength : deliveries.length = completions.length := by omega
    exact ⟨(List.append_inj same sameLength).1, by omega⟩
  · rintro ⟨rfl, single⟩
    obtain rfl : taps = 1 := Nat.le_antisymm single tapped
    rfl

/-- An edit changes neither the requests nor what was received. -/
theorem Tallied.edit
    {inputs : List Input}
    {before after : AuthenticationScreen kind}
    {input : Input}
    (tallied : Tallied inputs before)
    (notTap : input ≠ .tap)
    (notComplete : ∀ request error, input ≠ .complete request error)
    (sameTally : (tally inputs).after input = tally inputs)
    (sameRequests : after.dao.requests = before.dao.requests)
    (sameReceived : after.received = before.received) :
    Tallied (inputs ++ [input]) after where
  taps := by
    have notCounted : [input].count .tap = 0 :=
      List.count_eq_zero.mpr (by simpa using Ne.symm notTap)
    rw [tally_snoc, sameTally, tallied.taps, List.count_append, notCounted,
      Nat.add_zero]
  requests := by
    rw [tally_snoc, sameTally, sameRequests]
    exact tallied.requests
  received := by
    rw [tally_snoc, sameTally, sameReceived]
    exact tallied.received
  longer := by
    rw [tally_snoc, sameTally]
    exact tallied.longer
  matched := by
    rw [tally_snoc, sameTally, singleAttempt_snoc_of_not_complete notComplete]
    exact tallied.matched

/-- A tap sends one more request and hands nothing to the handler. -/
theorem Tallied.tap
    {inputs : List Input}
    {screen : AuthenticationScreen kind}
    {first second : String}
    (tallied : Tallied inputs screen)
    (tapped : screen.perform .tap = screen.attempted first second) :
    Tallied (inputs ++ [.tap]) (screen.perform .tap) where
  taps := by
    rw [tally_snoc, List.count_append, List.count_singleton_self,
      ← tallied.taps]
    rfl
  requests := by
    rw [tapped, requests_attempted, List.length_append, tallied.requests,
      tally_snoc]
    rfl
  received := by
    rw [tapped, tally_snoc]
    exact tallied.received
  longer := by
    rw [tally_snoc]
    exact tallied.longer
  matched := by
    rw [tally_snoc, singleAttempt_snoc_of_not_complete (by simp)]
    exact tallied.matched

/-- A completion is handed to the handler once for each tap so far. -/
theorem Tallied.complete
    {inputs : List Input}
    {screen : AuthenticationScreen kind}
    {index : Nat}
    {request : AuthenticationRequest}
    (tallied : Tallied inputs screen)
    (running : screen.Running)
    (sent : screen.dao.requests[index]? = some request)
    (error : Option SwiftError) :
    Tallied (inputs ++ [.complete index error])
      (screen.perform (.complete index error)) := by
  obtain ⟨driving, _, completed⟩ := running.complete_of_sent sent error
  have tapped : 1 ≤ (tally inputs).taps := by
    have inRange := (List.getElem?_eq_some_iff.mp sent).1
    rw [← tallied.requests]
    omega
  rw [perform, completed]
  constructor
  · rw [tally_snoc, List.count_append]
    exact tallied.taps
  · rw [tally_snoc, List.length_set]
    exact tallied.requests
  · rw [tally_snoc, tallied.received, tallied.requests]
    simp only [Tally.after, List.map_append, List.map_replicate]
  · rw [tally_snoc]
    simp only [Tally.after, List.length_append, List.length_replicate,
      List.length_singleton]
    have longer := tallied.longer
    omega
  · rw [tally_snoc, singleAttempt_snoc, ← tallied.taps, ← tallied.matched]
    simp only [Tally.after]
    rw [append_replicate_eq_append_singleton tallied.longer tapped]
    constructor
    · exact fun both => ⟨both.1, fun _ _ _ => both.2⟩
    · exact fun both => ⟨both.1, both.2 index error rfl⟩

/-- The step lemma: every input keeps the tally. -/
theorem Tallied.step
    {inputs : List Input}
    {screen : AuthenticationScreen kind}
    {input : Input}
    (tallied : Tallied inputs screen)
    (running : screen.Running)
    (enabled : (attempts kind).Enabled screen input) :
    Tallied (inputs ++ [input]) (screen.perform input) := by
  cases input with
  | editFirst text =>
      exact tallied.edit (by simp) (by simp) rfl rfl rfl
  | editSecond text =>
      exact tallied.edit (by simp) (by simp) rfl rfl rfl
  | tap =>
      obtain ⟨firstPresent, secondPresent⟩ := enabled.2 rfl
      obtain ⟨first, firstText⟩ := Option.ne_none_iff_exists'.mp firstPresent
      obtain ⟨second, secondText⟩ := Option.ne_none_iff_exists'.mp secondPresent
      exact tallied.tap (running.tap_of_present firstText secondText)
  | complete index error =>
      obtain ⟨request, sent, _⟩ := enabled.1
      exact tallied.complete running sent error

/-- The run lemma: the tally is kept after every run. -/
theorem Tallied.of_run
    {first second : Option String}
    {inputs : List Input}
    {screen : AuthenticationScreen kind}
    (run : (attempts kind).Run (loaded kind first second).bind inputs screen) :
    Tallied inputs screen := by
  have initially : Tallied [] (loaded kind first second).bind :=
    { taps := rfl
      requests := rfl
      received := rfl
      longer := Nat.le_refl _
      matched := by
        constructor
        · intro _ before request error after impossible
          simp at impossible
        · exact fun _ => rfl }
  refine (System.Run.invariant
    (fun inputs screen => screen.Running ∧ Tallied inputs screen)
    ⟨bind_running first second, initially⟩ ?_ run).2
  rintro inputs input before after ⟨running, tallied⟩ enabled performed
  cases performed
  exact ⟨running.step enabled.1, tallied.step running enabled⟩

/-- On both screens, after every run of edits, taps with both fields present
and completions: the handler has received each completion once for each tap
before it, and so it has received exactly the completions, in their order, if
and only if no request has completed after a second tap. -/
theorem received_eq_completions_iff_single_attempt
    {first second : Option String}
    {inputs : List Input}
    {screen : AuthenticationScreen kind}
    (run : (attempts kind).Run (loaded kind first second).bind inputs screen) :
    screen.received = (tally inputs).deliveries.map .next ∧
      (screen.received = (tally inputs).completions.map .next ↔
        SingleAttempt inputs) := by
  have tallied := Tallied.of_run run
  refine ⟨tallied.received, ?_⟩
  rw [tallied.received, ← tallied.matched]
  have injective : Function.Injective
      (Event.next : AuthenticationResult → Event SwiftError _) :=
    fun _ _ same => Event.next.inj same
  exact (List.map_injective_iff.mpr injective).eq_iff

/-- A first attempt is reported once on both screens. -/
theorem single_attempt_received_once :
    ∃ screen,
      (attempts .signUp).Run (loaded .signUp (some "a") (some "b")).bind
          [.tap, .complete 0 none] screen ∧
        screen.received = [.next .success] := by
  have run : (attempts .signUp).Run
      (loaded .signUp (some "a") (some "b")).bind
      [.tap, .complete 0 none] _ :=
    System.run_of_replay rfl
  exact ⟨_, run, (received_eq_completions_iff_single_attempt run).1⟩

/-- On both screens, a success after a failed attempt is reported twice. -/
theorem second_attempt_received_twice :
    (∃ screen,
      (attempts .login).Run (loaded .login (some "a") (some "b")).bind
          [.tap, .complete 0 (some ⟨"failed"⟩), .tap, .complete 1 none]
          screen ∧
        (tally [.tap, .complete 0 (some ⟨"failed"⟩), .tap,
          .complete 1 none]).completions =
            [.failure (.unknownError "failed"), .success] ∧
        screen.received =
          [.next (.failure (.unknownError "failed")), .next .success,
            .next .success]) ∧
    ∃ screen,
      (attempts .signUp).Run (loaded .signUp (some "a") (some "b")).bind
          [.tap, .complete 0 (some ⟨"failed"⟩), .tap, .complete 1 none]
          screen ∧
        screen.received =
          [.next (.failure (.unknownError "failed")), .next .success,
            .next .success] :=
  ⟨⟨_, System.run_of_replay rfl, rfl, rfl⟩, _, System.run_of_replay rfl, rfl⟩

end AuthenticationScreen
end MVVMExample
