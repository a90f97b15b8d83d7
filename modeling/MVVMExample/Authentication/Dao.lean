import MVVMExample.Platform
import MVVMExample.Reactive.Merge

/-!
# Authentication requests

`AuthenticationDao` sends a request to Firebase and returns the subject on which
the completions of all requests of its kind are published. Firebase completes a
request at most once, after the call has returned.
-/

namespace MVVMExample

open Reactive

/-- Why an authentication failed. -/
inductive AuthenticationError
  | unknownError (message : String)
  deriving DecidableEq

/-- Outcome of an authentication. -/
inductive AuthenticationResult
  | success
  | failure (error : AuthenticationError)
  deriving DecidableEq

/-- The outcome that a completion reports. -/
def AuthenticationResult.ofCompletion : Option SwiftError → AuthenticationResult
  | some error => .failure (.unknownError error.localizedDescription)
  | none => .success

/-- The two calls of the Firebase interface. -/
inductive FirebaseCall
  | createUser
  | signIn
  deriving DecidableEq

/-- A request that was sent. -/
structure AuthenticationRequest where
  call : FirebaseCall
  email : String
  password : String
  completed : Bool := false
  deriving DecidableEq

/-- The subjects of the two calls, and the requests sent so far. -/
structure AuthenticationDao where
  createResuletSubject : PublishSubject SwiftError AuthenticationResult := {}
  loginResuletSubject : PublishSubject SwiftError AuthenticationResult := {}
  requests : List AuthenticationRequest := []
  deriving DecidableEq

namespace AuthenticationDao

/-- The subject of a call. -/
def subject (dao : AuthenticationDao) :
    FirebaseCall → PublishSubject SwiftError AuthenticationResult
  | .createUser => dao.createResuletSubject
  | .signIn => dao.loginResuletSubject

/-- Replace the subject of a call. -/
def setSubject
    (dao : AuthenticationDao)
    (call : FirebaseCall)
    (subject : PublishSubject SwiftError AuthenticationResult) :
    AuthenticationDao :=
  match call with
  | .createUser => { dao with createResuletSubject := subject }
  | .signIn => { dao with loginResuletSubject := subject }

@[simp] theorem subject_setSubject
    (dao : AuthenticationDao)
    (call : FirebaseCall)
    (subject : PublishSubject SwiftError AuthenticationResult) :
    (dao.setSubject call subject).subject call = subject := by
  cases call <;> rfl

@[simp] theorem setSubject_subject
    (dao : AuthenticationDao)
    (call : FirebaseCall) :
    dao.setSubject call (dao.subject call) = dao := by
  cases call <;> rfl

@[simp] theorem requests_setSubject
    (dao : AuthenticationDao)
    (call : FirebaseCall)
    (subject : PublishSubject SwiftError AuthenticationResult) :
    (dao.setSubject call subject).requests = dao.requests := by
  cases call <;> rfl

/-- The subject of a call as an observable sequence. -/
def results (call : FirebaseCall) :
    Observable AuthenticationDao SwiftError AuthenticationResult where
  subscribe := fun dao =>
    let subscribed := (dao.subject call).subscribe
    (dao.setSubject call subscribed.1, subscribed.2)

/-- The results of creating users. -/
def createResult :
    Observable AuthenticationDao SwiftError AuthenticationResult :=
  results .createUser

/-- The results of logging in. -/
def loginResult :
    Observable AuthenticationDao SwiftError AuthenticationResult :=
  results .signIn

/-- Send a request. -/
def send
    (dao : AuthenticationDao)
    (call : FirebaseCall)
    (email password : String) : AuthenticationDao :=
  { dao with requests := dao.requests ++ [⟨call, email, password, false⟩] }

@[simp] theorem subject_send
    (dao : AuthenticationDao)
    (call other : FirebaseCall)
    (email password : String) :
    (dao.send call email password).subject other = dao.subject other := by
  cases other <;> rfl

@[simp] theorem requests_send
    (dao : AuthenticationDao)
    (call : FirebaseCall)
    (email password : String) :
    (dao.send call email password).requests =
      dao.requests ++ [⟨call, email, password, false⟩] := rfl

/-- The subjects do not depend on the requests. -/
theorem subject_of_requests
    (dao : AuthenticationDao)
    (requests : List AuthenticationRequest)
    (call : FirebaseCall) :
    { dao with requests := requests }.subject call = dao.subject call := by
  cases call <;> rfl

/-- Ask Firebase to create a user. -/
def createUserWithEMail (dao : AuthenticationDao) (email password : String) :
    AuthenticationDao ×
      Observable AuthenticationDao SwiftError AuthenticationResult :=
  (dao.send .createUser email password, createResult)

/-- Ask Firebase to log a user in. -/
def loginUserWithEMail (dao : AuthenticationDao) (email password : String) :
    AuthenticationDao ×
      Observable AuthenticationDao SwiftError AuthenticationResult :=
  (dao.send .signIn email password, loginResult)

/-- A request is pending when it was sent and has not been completed. -/
def Pending (dao : AuthenticationDao) (index : Nat) : Prop :=
  ∃ request, dao.requests[index]? = some request ∧ request.completed = false

instance (dao : AuthenticationDao) (index : Nat) :
    Decidable (dao.Pending index) :=
  match found : dao.requests[index]? with
  | none => .isFalse fun pending => by simp [Pending, found] at pending
  | some request =>
      decidable_of_iff (request.completed = false) (by simp [Pending, found])

/-- Firebase completes a request: its outcome is published on the subject of
its call. The second component is what the observers of the subject receive, in
the order in which they receive it. -/
def complete
    (dao : AuthenticationDao)
    (index : Nat)
    (error : Option SwiftError) :
    AuthenticationDao × List (Event SwiftError AuthenticationResult) :=
  match dao.requests[index]? with
  | none => (dao, [])
  | some request =>
      let outcome := AuthenticationResult.ofCompletion error
      let published := (dao.subject request.call).on (.next outcome)
      ({ dao.setSubject request.call published.1 with
          requests := dao.requests.set index { request with completed := true } },
        published.2.map fun _ => .next outcome)

/-- Subscribing to a running subject adds an observer and emits nothing. -/
theorem subscribe_results
    {dao : AuthenticationDao}
    {call : FirebaseCall}
    (running : (dao.subject call).stoppedEvent = none) :
    (results call).subscribe dao =
      (dao.setSubject call
        { dao.subject call with
            observers :=
              (dao.subject call).observers ++ [(dao.subject call).nextKey]
            nextKey := (dao.subject call).nextKey + 1 }, []) := by
  simp only [results, PublishSubject.subscribe_of_running running]

/-- A completion reaches every observer of the running subject once. -/
theorem complete_of_running
    {dao : AuthenticationDao}
    {index : Nat}
    {request : AuthenticationRequest}
    (sent : dao.requests[index]? = some request)
    (running : (dao.subject request.call).stoppedEvent = none)
    (error : Option SwiftError) :
    dao.complete index error =
      ({ dao with
          requests := dao.requests.set index { request with completed := true } },
        (dao.subject request.call).observers.map fun _ =>
          .next (AuthenticationResult.ofCompletion error)) := by
  simp only [complete, sent, PublishSubject.on_next_of_running running,
    setSubject_subject]

end AuthenticationDao

/-! ## Use cases -/

/-- Log in with an id and a password. -/
def LoginUseCase.invoke (dao : AuthenticationDao) (id pass : String) :
    AuthenticationDao ×
      Observable AuthenticationDao SwiftError AuthenticationResult :=
  dao.loginUserWithEMail id pass

/-- Sign up with an email address and a password. -/
def SignUpUseCase.invoke (dao : AuthenticationDao) (email password : String) :
    AuthenticationDao ×
      Observable AuthenticationDao SwiftError AuthenticationResult :=
  dao.createUserWithEMail email password

end MVVMExample
