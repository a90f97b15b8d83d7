import MVVMExample.Authentication.Screen

/-!
# Requests carry entered credentials

The handler of a tap only checks that the fields are not missing. That they are
not empty follows from the button: it emits taps only while it is enabled, and
in every reachable state it is enabled exactly when both fields have a text.
-/

namespace MVVMExample
namespace AuthenticationScreen

open Reactive Transition

variable {kind : AuthenticationKind}

/-- A field holds a text that is not empty. -/
def HasText (field : Option String) : Prop :=
  ∃ text, field = some text ∧ text ≠ ""

/-- The screen with its button: a disabled button emits no taps. -/
def enabledTaps (kind : AuthenticationKind) :
    System (AuthenticationScreen kind) Input Crash :=
  (system kind).restrict fun screen input =>
    input = .tap → screen.isEnabled = true

instance (screen : AuthenticationScreen kind) (input : Input) :
    Decidable ((enabledTaps kind).Enabled screen input) :=
  inferInstanceAs (Decidable (((system kind).restrict _).Enabled screen input))

/-- A tap sent exactly one request, with the current texts of the fields; it
took no branch for a missing field and reported nothing by itself. -/
def SendsCurrent (before after : AuthenticationScreen kind) : Prop :=
  ∃ first second,
    before.firstField = some first ∧ first ≠ "" ∧
      before.secondField = some second ∧ second ≠ "" ∧
      kind.request before.first.value before.second.value before.dao =
        (before.dao.send kind.call first second,
          .ok (AuthenticationDao.results kind.call)) ∧
      after.dao.requests =
        before.dao.requests ++ [⟨kind.call, first, second, false⟩] ∧
      after.received = before.received

/-- The call and the credentials of every request sent so far. -/
def credentials (screen : AuthenticationScreen kind) :
    List (FirebaseCall × String × String) :=
  screen.dao.requests.map fun request =>
    (request.call, request.email, request.password)

/-- The button is enabled exactly when both fields have a text. -/
theorem Running.isEnabled_iff
    {screen : AuthenticationScreen kind}
    (running : screen.Running) :
    screen.isEnabled = true ↔
      HasText screen.firstField ∧ HasText screen.secondField := by
  rw [running.isEnabled, Bool.and_eq_true, entered_eq_true, entered_eq_true]
  rfl

/-- A tap of the enabled button sends the current texts. -/
theorem Running.sendsCurrent
    {screen : AuthenticationScreen kind}
    (running : screen.Running)
    (isEnabled : screen.isEnabled = true) :
    SendsCurrent screen (screen.perform .tap) := by
  obtain ⟨⟨first, firstText, firstNotEmpty⟩, second, secondText, secondNotEmpty⟩ :=
    running.isEnabled_iff.mp isEnabled
  refine ⟨first, second, firstText, firstNotEmpty, secondText, secondNotEmpty,
    ?_, ?_, ?_⟩
  · rw [running.first, running.second, firstText, secondText]
    exact kind.request_of_present first second screen.dao
  · rw [perform, running.tap_of_present firstText secondText,
      requests_attempted]
  · rw [perform, running.tap_of_present firstText secondText]
    rfl

/-- Edits and completions send nothing. -/
theorem Running.credentials_of_ne_tap
    {screen : AuthenticationScreen kind}
    {input : Input}
    (running : screen.Running)
    (enabled : screen.CanPerform input)
    (notTap : input ≠ .tap) :
    (screen.perform input).credentials = screen.credentials := by
  cases input with
  | tap => exact absurd rfl notTap
  | editFirst text => rfl
  | editSecond text => rfl
  | complete index error =>
      obtain ⟨request, sent, _⟩ := enabled
      obtain ⟨driving, _, completed⟩ := running.complete_of_sent sent error
      obtain ⟨inRange, isRequest⟩ := List.getElem?_eq_some_iff.mp sent
      have listed : index < screen.credentials.length := by
        rw [credentials, List.length_map]
        exact inRange
      have unchanged : (request.call, request.email, request.password) =
          screen.credentials[index] := by
        simp only [credentials, List.getElem_map, isRequest]
      rw [perform, completed, credentials, List.map_set]
      exact (congrArg _ unchanged).trans (List.set_getElem_self _)

/-- What holds of the requests of a run: one for each tap, none with a missing
or empty credential. -/
structure Sent
    (inputs : List Input)
    (screen : AuthenticationScreen kind) : Prop where
  length : screen.credentials.length = inputs.count .tap
  entered : ∀ request ∈ screen.credentials,
    request.1 = kind.call ∧ request.2.1 ≠ "" ∧ request.2.2 ≠ ""

/-- The step lemma: a tap of the enabled button sends one request with entered
credentials, and other inputs send none. -/
theorem Sent.step
    {inputs : List Input}
    {screen : AuthenticationScreen kind}
    {input : Input}
    (sent : Sent inputs screen)
    (running : screen.Running)
    (enabled : (enabledTaps kind).Enabled screen input) :
    Sent (inputs ++ [input]) (screen.perform input) := by
  by_cases isTap : input = .tap
  · subst isTap
    obtain ⟨first, second, _, firstNotEmpty, _, secondNotEmpty, _, requests, _⟩ :=
      running.sendsCurrent (enabled.2 rfl)
    have credentials : (screen.perform .tap).credentials =
        screen.credentials ++ [(kind.call, first, second)] := by
      rw [AuthenticationScreen.credentials, requests, List.map_append]
      rfl
    constructor
    · rw [credentials, List.length_append, List.length_singleton, sent.length,
        List.count_append, List.count_singleton_self]
    · intro request listed
      rw [credentials] at listed
      rcases List.mem_append.mp listed with old | new
      · exact sent.entered request old
      · rw [List.mem_singleton.mp new]
        exact ⟨rfl, firstNotEmpty, secondNotEmpty⟩
  · have credentials := running.credentials_of_ne_tap enabled.1 isTap
    have notCounted : [input].count .tap = 0 :=
      List.count_eq_zero.mpr (by simpa using Ne.symm isTap)
    constructor
    · rw [credentials, sent.length, List.count_append, notCounted, Nat.add_zero]
    · rw [credentials]
      exact sent.entered

/-- The run lemma. -/
theorem Sent.of_run
    {first second : Option String}
    {inputs : List Input}
    {screen : AuthenticationScreen kind}
    (run : (enabledTaps kind).Run (loaded kind first second).bind inputs
      screen) :
    Sent inputs screen := by
  refine (System.Run.invariant
    (fun inputs screen => screen.Running ∧ Sent inputs screen)
    ⟨bind_running first second, rfl, by simp [credentials, bind, bindFields,
      driveIsEnabled, setEnabled, loaded]⟩ ?_ run).2
  rintro inputs input before after ⟨running, sent⟩ enabled performed
  cases performed
  exact ⟨running.step enabled.1, sent.step running enabled⟩

/-- On both screens, after every run of edits, taps of the enabled button and
completions: the button is enabled exactly when both fields have a text; there
is one request for each tap, none with a missing or empty credential; a tap
sends exactly one more request, with the current texts, through no branch for a
missing field; and other inputs send none. -/
theorem taps_send_entered_credentials
    {first second : Option String}
    {inputs : List Input}
    {screen : AuthenticationScreen kind}
    (run : (enabledTaps kind).Run (loaded kind first second).bind inputs
      screen) :
    (screen.isEnabled = true ↔
        HasText screen.firstField ∧ HasText screen.secondField) ∧
      screen.credentials.length = inputs.count .tap ∧
      (∀ request ∈ screen.credentials,
        request.1 = kind.call ∧ request.2.1 ≠ "" ∧ request.2.2 ≠ "") ∧
      (∀ after, (enabledTaps kind).Enabled screen .tap →
        (enabledTaps kind).step screen .tap = .ok after →
          SendsCurrent screen after) ∧
      ∀ input after, input ≠ .tap → (enabledTaps kind).Enabled screen input →
        (enabledTaps kind).step screen input = .ok after →
          after.credentials = screen.credentials := by
  have running := Running.of_run (System.Run.of_restrict run)
  have sent := Sent.of_run run
  refine ⟨running.isEnabled_iff, sent.length, sent.entered, ?_, ?_⟩
  · intro after enabled performed
    cases performed
    exact running.sendsCurrent (enabled.2 rfl)
  · intro input after notTap enabled performed
    cases performed
    exact running.credentials_of_ne_tap enabled.1 notTap

/-- After a failed attempt and a correction of the password, the next tap sends
the corrected password. -/
theorem retry_sends_corrected_credentials :
    ∃ screen,
      (enabledTaps .login).Run (loaded .login (some "") none).bind
          [.editFirst (some "id"), .editSecond (some "old"), .tap,
            .complete 0 (some ⟨"wrong password"⟩), .editSecond (some "new")]
          screen ∧
        screen.isEnabled = true ∧
        screen.credentials = [(.signIn, "id", "old")] ∧
        SendsCurrent screen (screen.perform .tap) := by
  have run : (enabledTaps .login).Run (loaded .login (some "") none).bind
      [.editFirst (some "id"), .editSecond (some "old"), .tap,
        .complete 0 (some ⟨"wrong password"⟩), .editSecond (some "new")] _ :=
    System.run_of_replay rfl
  obtain ⟨_, _, _, sends, _⟩ := taps_send_entered_credentials run
  exact ⟨_, run, rfl, rfl, sends _ ⟨trivial, fun _ => rfl⟩ rfl⟩

end AuthenticationScreen
end MVVMExample
