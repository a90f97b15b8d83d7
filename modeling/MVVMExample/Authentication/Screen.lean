import MVVMExample.Authentication.ViewModel
import MVVMExample.Transition.System

/-!
# The login screen and the sign-up screen as event systems

Edits of the fields, taps and completions interleave freely. Every request
subscribes once more to the one subject of its call, which never terminates, so
a completion is published to as many observers as there are requests so far.
-/

namespace MVVMExample

open Reactive Transition

/-- A screen with its view model. -/
structure AuthenticationScreen (kind : AuthenticationKind) where
  firstField : Option String
  secondField : Option String
  first : Variable (Option String) := ⟨some ""⟩
  second : Variable (Option String) := ⟨some ""⟩
  isValid : IsValid kind := {}
  isEnabled : Bool := true
  flatMap : MergeSink := {}
  driving : kind.Driving := kind.driving
  dao : AuthenticationDao := {}
  received : List (Event SwiftError AuthenticationResult) := []

namespace AuthenticationScreen

variable {kind : AuthenticationKind}

/-- Apply the driven validities to the button. -/
def setEnabled
    (screen : AuthenticationScreen kind)
    (events : List (Event SwiftError Bool)) : AuthenticationScreen kind :=
  { screen with isEnabled := Event.latest screen.isEnabled events }

/-- Bind the fields to the variables, starting with their current texts. -/
def bindFields (screen : AuthenticationScreen kind) :
    AuthenticationScreen kind :=
  { screen with first := ⟨screen.firstField⟩, second := ⟨screen.secondField⟩ }

/-- Connect the validity to the button, which replays the current texts. -/
def driveIsEnabled (screen : AuthenticationScreen kind) :
    AuthenticationScreen kind :=
  let first := screen.isValid.onFirst screen.first.value
  let second := first.1.onSecond screen.second.value
  { screen with isValid := second.1 }.setEnabled (first.2 ++ second.2)

/-- The bindings of a screen. -/
def bind (screen : AuthenticationScreen kind) : AuthenticationScreen kind :=
  screen.bindFields.driveIsEnabled

/-- A loaded screen with any texts in its fields. -/
def loaded
    (kind : AuthenticationKind)
    (first second : Option String) : AuthenticationScreen kind where
  firstField := first
  secondField := second

/-- What happens to a screen. -/
inductive Input
  | editFirst (text : Option String)
  | editSecond (text : Option String)
  | tap
  | complete (request : Nat) (error : Option SwiftError)
  deriving DecidableEq

/-- The first field is edited. -/
def editFirst (screen : AuthenticationScreen kind) (text : Option String) :
    AuthenticationScreen kind :=
  let emitted := screen.isValid.onFirst text
  { screen with
      firstField := text
      first := ⟨text⟩
      isValid := emitted.1 }.setEnabled emitted.2

/-- The second field is edited. -/
def editSecond (screen : AuthenticationScreen kind) (text : Option String) :
    AuthenticationScreen kind :=
  let emitted := screen.isValid.onSecond text
  { screen with
      secondField := text
      second := ⟨text⟩
      isValid := emitted.1 }.setEnabled emitted.2

/-- Drive merged results into the handler. -/
def handle
    (screen : AuthenticationScreen kind)
    (events : List (Event SwiftError AuthenticationResult)) :
    AuthenticationScreen kind :=
  let driven := kind.drive.feed screen.driving events
  { screen with
      driving := driven.1
      received := screen.received ++ driven.2 }

/-- The button emits a tap. -/
def tap (screen : AuthenticationScreen kind) : AuthenticationScreen kind :=
  let merged := MergeSink.onNext MergeSink.always
    (kind.request screen.first.value screen.second.value)
    screen.flatMap screen.dao
  { screen with flatMap := merged.1, dao := merged.2.1 }.handle merged.2.2

/-- Firebase completes a request. -/
def complete
    (screen : AuthenticationScreen kind)
    (request : Nat)
    (error : Option SwiftError) : AuthenticationScreen kind :=
  let completed := screen.dao.complete request error
  let merged := MergeSink.onInner.feed screen.flatMap completed.2
  { screen with flatMap := merged.1, dao := completed.1 }.handle merged.2

/-- Perform one input. -/
def perform (screen : AuthenticationScreen kind) :
    Input → AuthenticationScreen kind
  | .editFirst text => screen.editFirst text
  | .editSecond text => screen.editSecond text
  | .tap => screen.tap
  | .complete request error => screen.complete request error

/-- Firebase completes only pending requests. -/
def CanPerform (screen : AuthenticationScreen kind) : Input → Prop
  | .editFirst _ => True
  | .editSecond _ => True
  | .tap => True
  | .complete request _ => screen.dao.Pending request

instance (screen : AuthenticationScreen kind) (input : Input) :
    Decidable (screen.CanPerform input) :=
  match input with
  | .editFirst _ => inferInstanceAs (Decidable True)
  | .editSecond _ => inferInstanceAs (Decidable True)
  | .tap => inferInstanceAs (Decidable True)
  | .complete request _ => inferInstanceAs (Decidable (screen.dao.Pending request))

/-- A screen on which everything interleaves. -/
def system (kind : AuthenticationKind) :
    System (AuthenticationScreen kind) Input Crash where
  Enabled := CanPerform
  step := fun screen input => .ok (screen.perform input)

instance (screen : AuthenticationScreen kind) (input : Input) :
    Decidable ((system kind).Enabled screen input) :=
  inferInstanceAs (Decidable (screen.CanPerform input))

/-! ## The invariant of a screen -/

/-- The view model has the texts of the fields, the button shows their
validity, nothing has terminated, and the subject of the call has one observer
for each request. -/
structure Running (screen : AuthenticationScreen kind) : Prop where
  first : screen.first.value = screen.firstField
  second : screen.second.value = screen.secondField
  isValid : screen.isValid.Running screen.firstField screen.secondField
  isEnabled : screen.isEnabled =
    (entered screen.firstField && entered screen.secondField)
  sourceOpen : screen.flatMap.Open
  driveReady : kind.DriveReady screen.driving
  notStopped : (screen.dao.subject kind.call).stoppedEvent = none
  calls : ∀ request ∈ screen.dao.requests, request.call = kind.call
  listeners : (screen.dao.subject kind.call).observers.length =
    screen.dao.requests.length

/-- The screen after a tap with both fields present: one more request is sent
and one more observer listens. -/
def attempted
    (screen : AuthenticationScreen kind)
    (first second : String) : AuthenticationScreen kind :=
  let subject := screen.dao.subject kind.call
  { screen with
      flatMap.activeCount := screen.flatMap.activeCount + 1
      dao := (screen.dao.send kind.call first second).setSubject kind.call
        { subject with
            observers := subject.observers ++ [subject.nextKey]
            nextKey := subject.nextKey + 1 } }

/-- After the bindings the button shows the validity of the initial texts. -/
theorem bind_running (first second : Option String) :
    (loaded kind first second).bind.Running := by
  obtain ⟨running, emitted⟩ := IsValid.running_connect kind first second
  have bound : (loaded kind first second).bind =
      { loaded kind first second with
          first := ⟨first⟩
          second := ⟨second⟩
          isValid := ((({} : IsValid kind).onFirst first).1.onSecond second).1
          isEnabled := entered first && entered second } := by
    simp only [bind, bindFields, driveIsEnabled, loaded, emitted, setEnabled]
    rfl
  rw [bound]
  exact
    { first := rfl
      second := rfl
      isValid := running
      isEnabled := rfl
      sourceOpen := ⟨rfl, rfl⟩
      driveReady := kind.driving_ready
      notStopped := by cases kind <;> rfl
      calls := by simp [loaded]
      listeners := by cases kind <;> rfl }

/-- An edit of the first field drives the validity of the new texts. -/
theorem Running.editFirst
    {screen : AuthenticationScreen kind}
    (running : screen.Running)
    (text : Option String) :
    (screen.editFirst text).Running := by
  obtain ⟨isValid, emitted⟩ := running.isValid.onFirst text
  simp only [AuthenticationScreen.editFirst, emitted, setEnabled]
  exact { running with first := rfl, isValid := isValid, isEnabled := rfl }

/-- An edit of the second field drives the validity of the new texts. -/
theorem Running.editSecond
    {screen : AuthenticationScreen kind}
    (running : screen.Running)
    (text : Option String) :
    (screen.editSecond text).Running := by
  obtain ⟨isValid, emitted⟩ := running.isValid.onSecond text
  simp only [AuthenticationScreen.editSecond, emitted, setEnabled]
  exact { running with second := rfl, isValid := isValid, isEnabled := rfl }

/-- Elements that reach the handler are received once each. -/
theorem handle_of_ready
    (screen : AuthenticationScreen kind)
    (ready : kind.DriveReady screen.driving)
    (results : List AuthenticationResult) :
    ∃ driving, kind.DriveReady driving ∧
      screen.handle (results.map .next) =
        { screen with
            driving := driving
            received := screen.received ++ results.map .next } := by
  obtain ⟨stillReady, forwarded⟩ := kind.drive_relays.feed ready results
  refine ⟨_, stillReady, ?_⟩
  simp only [handle, forwarded, id]

/-- A tap with both fields present sends exactly one request. -/
theorem Running.tap_of_present
    {screen : AuthenticationScreen kind}
    {first second : String}
    (running : screen.Running)
    (firstPresent : screen.firstField = some first)
    (secondPresent : screen.secondField = some second) :
    screen.tap = screen.attempted first second := by
  have firstValue := running.first.trans firstPresent
  have secondValue := running.second.trans secondPresent
  have notStopped :
      ((screen.dao.send kind.call first second).subject kind.call).stoppedEvent =
        none := by
    rw [AuthenticationDao.subject_send]
    exact running.notStopped
  have accepted : MergeSink.always screen.flatMap = true := rfl
  have merged := MergeSink.onNext_silent running.sourceOpen accepted
    (kind.request_of_present first second screen.dao)
    (AuthenticationDao.subscribe_results notStopped)
  rw [AuthenticationDao.subject_send] at merged
  simp only [tap, firstValue, secondValue, merged]
  simp [handle, attempted]

/-- A tap with a field missing sends nothing. -/
theorem Running.tap_of_missing
    {screen : AuthenticationScreen kind}
    (running : screen.Running)
    (missing : screen.firstField = none ∨ screen.secondField = none) :
    ∃ driving results, kind.DriveReady driving ∧
      screen.tap =
        { screen with
            driving := driving
            received := screen.received ++ results } := by
  have accepted : MergeSink.always screen.flatMap = true := rfl
  cases kind with
  | login =>
      have performed := LoginViewModel.login_of_missing missing screen.dao
      rw [← running.first, ← running.second] at performed
      have merged := MergeSink.onNext_empty running.sourceOpen accepted
        performed rfl
      refine ⟨screen.driving, [], running.driveReady, ?_⟩
      simp only [tap, AuthenticationKind.request, merged]
      simp [handle]
  | signUp =>
      obtain ⟨message, performed⟩ :=
        SignUpViewModel.signUp_of_missing missing screen.dao
      rw [← running.first, ← running.second] at performed
      have merged := MergeSink.onNext_just running.sourceOpen accepted
        performed (Observable.subscribe_share_just _ _)
      obtain ⟨driving, ready, handled⟩ := handle_of_ready screen
        running.driveReady [.failure (.unknownError message)]
      refine ⟨driving, [.next (.failure (.unknownError message))], ready, ?_⟩
      simp only [tap, AuthenticationKind.request, merged]
      exact handled

/-- A completion is handed to the handler once for each request sent so
far. -/
theorem Running.complete_of_sent
    {screen : AuthenticationScreen kind}
    {index : Nat}
    {request : AuthenticationRequest}
    (running : screen.Running)
    (sent : screen.dao.requests[index]? = some request)
    (error : Option SwiftError) :
    ∃ driving, kind.DriveReady driving ∧
      screen.complete index error =
        { screen with
            dao.requests :=
              screen.dao.requests.set index { request with completed := true }
            driving := driving
            received := screen.received ++
              .replicate screen.dao.requests.length
                (.next (AuthenticationResult.ofCompletion error)) } := by
  have sameCall := running.calls request (List.mem_of_getElem? sent)
  have notStopped : (screen.dao.subject request.call).stoppedEvent = none :=
    sameCall ▸ running.notStopped
  have completed :=
    AuthenticationDao.complete_of_running sent notStopped error
  let results := List.replicate screen.dao.requests.length
    (AuthenticationResult.ofCompletion error)
  have merged :
      MergeSink.onInner.feed screen.flatMap
          (screen.dao.complete index error).2 =
        (screen.flatMap, results.map .next) := by
    rw [completed, sameCall,
      MergeSink.onInner_feed_broadcast running.sourceOpen.2,
      running.listeners, List.map_replicate]
  obtain ⟨driving, ready, handled⟩ := handle_of_ready
    { screen with dao := (screen.dao.complete index error).1 }
    running.driveReady results
  refine ⟨driving, ready, ?_⟩
  rw [completed] at merged handled
  simp only [complete, completed, merged]
  simpa only [results, List.map_replicate] using handled

@[simp] theorem requests_attempted
    (screen : AuthenticationScreen kind)
    (first second : String) :
    (screen.attempted first second).dao.requests =
      screen.dao.requests ++ [⟨kind.call, first, second, false⟩] := by
  simp [attempted]

/-- One more request has one more listener. -/
theorem Running.attempted
    {screen : AuthenticationScreen kind}
    (running : screen.Running)
    (first second : String) :
    (screen.attempted first second).Running where
  first := running.first
  second := running.second
  isValid := running.isValid
  isEnabled := running.isEnabled
  sourceOpen := running.sourceOpen
  driveReady := running.driveReady
  notStopped := by
    simpa [AuthenticationScreen.attempted] using running.notStopped
  calls := by
    intro request sent
    rw [requests_attempted] at sent
    rcases List.mem_append.mp sent with old | new
    · exact running.calls request old
    · rw [List.mem_singleton.mp new]
  listeners := by
    rw [requests_attempted, List.length_append, ← running.listeners]
    simp [AuthenticationScreen.attempted]

/-- The step lemma: every input keeps the screen running. -/
theorem Running.step
    {screen : AuthenticationScreen kind}
    {input : Input}
    (running : screen.Running)
    (enabled : screen.CanPerform input) :
    (screen.perform input).Running := by
  cases input with
  | editFirst text => exact running.editFirst text
  | editSecond text => exact running.editSecond text
  | tap =>
      cases firstField : screen.firstField with
      | none =>
          obtain ⟨driving, results, ready, tapped⟩ :=
            running.tap_of_missing (Or.inl firstField)
          rw [perform, tapped]
          exact { running with driveReady := ready }
      | some first =>
          cases secondField : screen.secondField with
          | none =>
              obtain ⟨driving, results, ready, tapped⟩ :=
                running.tap_of_missing (Or.inr secondField)
              rw [perform, tapped]
              exact { running with driveReady := ready }
          | some second =>
              rw [perform, running.tap_of_present firstField secondField]
              exact running.attempted first second
  | complete index error =>
      obtain ⟨request, sent, _⟩ := enabled
      obtain ⟨driving, ready, completed⟩ :=
        running.complete_of_sent sent error
      rw [perform, completed]
      exact
        { running with
          driveReady := ready
          notStopped := by
            rw [AuthenticationDao.subject_of_requests]
            exact running.notStopped
          calls := by
            intro other otherSent
            rcases List.mem_or_eq_of_mem_set otherSent with old | rfl
            · exact running.calls other old
            · exact running.calls request (List.mem_of_getElem? sent)
          listeners := by
            rw [AuthenticationDao.subject_of_requests, List.length_set]
            exact running.listeners }

/-- The run lemma: a screen is running after every run. -/
theorem Running.of_run
    {first second : Option String}
    {inputs : List Input}
    {screen : AuthenticationScreen kind}
    (run : (system kind).Run (loaded kind first second).bind inputs screen) :
    screen.Running := by
  refine System.Run.invariant (fun _ screen => screen.Running)
    (bind_running first second) ?_ run
  intro _ input before after running enabled performed
  cases performed
  exact running.step enabled

end AuthenticationScreen
end MVVMExample
