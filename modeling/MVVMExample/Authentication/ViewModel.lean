import MVVMExample.Authentication.Dao

/-!
# View models of the login screen and the sign-up screen

Both screens have two text fields and a button. The validity of each field is
shared with replay, combined, and driven into the button; a tap is mapped to a
request whose results are merged into one sequence and driven into a handler.
The screens differ in the request, in what they do when a field is missing, and
in the operators behind the merge.
-/

namespace MVVMExample

open Reactive

/-- The two screens. -/
inductive AuthenticationKind
  | login
  | signUp
  deriving DecidableEq

/-! ## The requests of the two screens -/

/-- The mapping of a tap on the login button. -/
def LoginViewModel.login
    (id pass : Option String)
    (dao : AuthenticationDao) :
    AuthenticationDao ×
      Except SwiftError
        (Observable AuthenticationDao SwiftError AuthenticationResult) :=
  match id, pass with
  | some id, some pass =>
      let result := LoginUseCase.invoke dao id pass
      (result.1, .ok result.2)
  | _, _ => (dao, .ok .empty)

/-- The mapping of a tap on the sign-up button. -/
def SignUpViewModel.signUp
    (mailAddress password : Option String)
    (dao : AuthenticationDao) :
    AuthenticationDao ×
      Except SwiftError
        (Observable AuthenticationDao SwiftError AuthenticationResult) :=
  match mailAddress with
  | none =>
      (dao, .ok (Observable.just (.failure
        (.unknownError "An Email has not been entered."))).share)
  | some email =>
      match password with
      | none =>
          (dao, .ok (Observable.just (.failure
            (.unknownError "An Password has not been entered."))).share)
      | some password =>
          let result := SignUpUseCase.invoke dao email password
          (result.1, .ok result.2)

/-- With a field missing, a tap on the login button does nothing. -/
theorem LoginViewModel.login_of_missing
    {id pass : Option String}
    (missing : id = none ∨ pass = none)
    (dao : AuthenticationDao) :
    LoginViewModel.login id pass dao = (dao, .ok .empty) := by
  unfold LoginViewModel.login
  split
  · rcases missing with impossible | impossible <;> contradiction
  · rfl

/-- With a field missing, a tap on the sign-up button reports a failure. -/
theorem SignUpViewModel.signUp_of_missing
    {mailAddress password : Option String}
    (missing : mailAddress = none ∨ password = none)
    (dao : AuthenticationDao) :
    ∃ message, SignUpViewModel.signUp mailAddress password dao =
      (dao, .ok (Observable.just (.failure (.unknownError message))).share) := by
  cases mailAddress with
  | none => exact ⟨_, rfl⟩
  | some email =>
      cases password with
      | none => exact ⟨_, rfl⟩
      | some password =>
          rcases missing with impossible | impossible <;> contradiction

namespace AuthenticationKind

/-- The Firebase call of a screen. -/
def call : AuthenticationKind → FirebaseCall
  | .login => .signIn
  | .signUp => .createUser

/-- The mapping of a tap on the button of a screen. -/
def request : (kind : AuthenticationKind) →
    Option String → Option String → AuthenticationDao →
      AuthenticationDao ×
        Except SwiftError
          (Observable AuthenticationDao SwiftError AuthenticationResult)
  | .login => LoginViewModel.login
  | .signUp => SignUpViewModel.signUp

/-- With both fields present, a tap sends one request and listens to the
results of its call. -/
theorem request_of_present
    (kind : AuthenticationKind)
    (first second : String)
    (dao : AuthenticationDao) :
    kind.request (some first) (some second) dao =
      (dao.send kind.call first second,
        .ok (AuthenticationDao.results kind.call)) := by
  cases kind <;> rfl

/-! ## The operators of the two screens -/

/-- State of the operators between the merged results and the handler. -/
abbrev Driving : AuthenticationKind → Type
  | .login => Operator.ShareReplay AuthenticationResult ×
      Operator.Driver AuthenticationResult
  | .signUp => Operator.Driver AuthenticationResult

/-- The operators between the merged results and the handler, just
connected. -/
def driving : (kind : AuthenticationKind) → kind.Driving
  | .login => ({}, (({}, {}), {}))
  | .signUp => (({}, {}), {})

/-- The operators between the merged results and the handler. -/
def drive : (kind : AuthenticationKind) →
    Operator kind.Driving SwiftError AuthenticationResult AuthenticationResult
  | .login =>
      Operator.shareReplay.comp
        (Operator.asDriver (.failure (.unknownError "")))
  | .signUp =>
      Operator.asDriver (.failure (.unknownError "unnownError......"))

/-- Nothing between the merged results and the handler has terminated. -/
def DriveReady : (kind : AuthenticationKind) → kind.Driving → Prop
  | .login => fun state =>
      state.1.disposed = false ∧ Operator.DriverReady state.2
  | .signUp => Operator.DriverReady

theorem driving_ready (kind : AuthenticationKind) :
    kind.DriveReady kind.driving := by
  cases kind with
  | login => exact ⟨rfl, ⟨rfl, rfl⟩, rfl⟩
  | signUp => exact ⟨⟨rfl, rfl⟩, rfl⟩

/-- Every result is handed to the handler once. -/
theorem drive_relays (kind : AuthenticationKind) :
    kind.drive.Relays kind.DriveReady id := by
  cases kind with
  | login =>
      exact Operator.shareReplay_relays.comp (Operator.asDriver_relays _)
  | signUp => exact Operator.asDriver_relays _

/-- State of the operators between the combined validity and the button. -/
abbrev Enabling : AuthenticationKind → Type
  | .login => Operator.ShareReplay Bool × Operator.Driver Bool
  | .signUp => Operator.ShareReplay Bool

/-- The operators between the combined validity and the button, just
connected. -/
def enabling : (kind : AuthenticationKind) → kind.Enabling
  | .login => ({}, (({}, {}), {}))
  | .signUp => {}

/-- The operators between the combined validity and the button. -/
def enable : (kind : AuthenticationKind) →
    Operator kind.Enabling SwiftError Bool Bool
  | .login => Operator.shareReplay.comp (Operator.asDriver false)
  | .signUp => Operator.shareReplay

/-- Nothing between the combined validity and the button has terminated. -/
def EnableReady : (kind : AuthenticationKind) → kind.Enabling → Prop
  | .login => fun state =>
      state.1.disposed = false ∧ Operator.DriverReady state.2
  | .signUp => fun state => state.disposed = false

/-- Every combined validity is handed to the button once. -/
theorem enable_relays (kind : AuthenticationKind) :
    kind.enable.Relays kind.EnableReady id := by
  cases kind with
  | login =>
      exact Operator.shareReplay_relays.comp (Operator.asDriver_relays _)
  | signUp => exact Operator.shareReplay_relays

end AuthenticationKind

/-! ## The validity of the fields -/

/-- `text?.count ?? 0 > 0`. -/
def entered (text : Option String) : Bool :=
  (text.map String.length).getD 0 > 0

theorem entered_eq_true {text : Option String} :
    entered text = true ↔ ∃ value, text = some value ∧ value ≠ "" := by
  cases text with
  | none => simp [entered]
  | some value =>
      simp [entered, Nat.pos_iff_ne_zero, String.length_eq_zero_iff]

/-- The validity of one field, shared with replay. -/
def fieldValid :
    Operator (Operator.Sink × Operator.ShareReplay Bool) SwiftError
      (Option String) Bool :=
  (Operator.map entered).comp Operator.shareReplay

theorem fieldValid_relays :
    fieldValid.Relays
      (fun state => state.1.disposed = false ∧ state.2.disposed = false)
      entered :=
  (Operator.map_relays entered).comp Operator.shareReplay_relays

/-- State of the operators between the fields and the button. -/
structure IsValid (kind : AuthenticationKind) where
  first : Operator.Sink × Operator.ShareReplay Bool := ({}, {})
  second : Operator.Sink × Operator.ShareReplay Bool := ({}, {})
  combined : Operator.CombineLatest Bool Bool := {}
  enabling : kind.Enabling := kind.enabling

namespace IsValid

variable {kind : AuthenticationKind}

/-- The first field emits its text. -/
def onFirst (validity : IsValid kind) (text : Option String) :
    IsValid kind × List (Event SwiftError Bool) :=
  let valid := fieldValid validity.first (.next text)
  let combined :=
    (Operator.CombineLatest.onFirst fun first second => first && second).feed
      validity.combined valid.2
  let enabled := kind.enable.feed validity.enabling combined.2
  ({ validity with
      first := valid.1, combined := combined.1, enabling := enabled.1 },
    enabled.2)

/-- The second field emits its text. -/
def onSecond (validity : IsValid kind) (text : Option String) :
    IsValid kind × List (Event SwiftError Bool) :=
  let valid := fieldValid validity.second (.next text)
  let combined :=
    (Operator.CombineLatest.onSecond fun first second => first && second).feed
      validity.combined valid.2
  let enabled := kind.enable.feed validity.enabling combined.2
  ({ validity with
      second := valid.1, combined := combined.1, enabling := enabled.1 },
    enabled.2)

/-- Everything between the fields and the button is running, and the latest
validities are those of the given texts. -/
structure Running
    (validity : IsValid kind)
    (first second : Option String) : Prop where
  firstReady :
    validity.first.1.disposed = false ∧ validity.first.2.disposed = false
  secondReady :
    validity.second.1.disposed = false ∧ validity.second.2.disposed = false
  live : validity.combined.disposed = false
  latestFirst : validity.combined.first = some (entered first)
  latestSecond : validity.combined.second = some (entered second)
  enableReady : kind.EnableReady validity.enabling

/-- A new text of the first field drives the validity of both fields. -/
theorem Running.onFirst
    {validity : IsValid kind}
    {first second : Option String}
    (running : validity.Running first second)
    (text : Option String) :
    (validity.onFirst text).1.Running text second ∧
      (validity.onFirst text).2 = [.next (entered text && entered second)] := by
  obtain ⟨firstReady, valid⟩ :=
    fieldValid_relays validity.first text running.firstReady
  obtain ⟨enableReady, enabled⟩ := kind.enable_relays validity.enabling
    (entered text && entered second) running.enableReady
  simp only [IsValid.onFirst, valid, Operator.feed_cons, Operator.feed_nil,
    Operator.CombineLatest.onFirst_next _ running.live running.latestSecond,
    List.append_nil, enabled]
  exact
    ⟨{ firstReady := firstReady
       secondReady := running.secondReady
       live := running.live
       latestFirst := rfl
       latestSecond := running.latestSecond
       enableReady := enableReady }, rfl⟩

/-- A new text of the second field drives the validity of both fields. -/
theorem Running.onSecond
    {validity : IsValid kind}
    {first second : Option String}
    (running : validity.Running first second)
    (text : Option String) :
    (validity.onSecond text).1.Running first text ∧
      (validity.onSecond text).2 = [.next (entered first && entered text)] := by
  obtain ⟨secondReady, valid⟩ :=
    fieldValid_relays validity.second text running.secondReady
  obtain ⟨enableReady, enabled⟩ := kind.enable_relays validity.enabling
    (entered first && entered text) running.enableReady
  simp only [IsValid.onSecond, valid, Operator.feed_cons, Operator.feed_nil,
    Operator.CombineLatest.onSecond_next _ running.live running.latestFirst,
    List.append_nil, enabled]
  exact
    ⟨{ firstReady := running.firstReady
       secondReady := secondReady
       live := running.live
       latestFirst := running.latestFirst
       latestSecond := rfl
       enableReady := enableReady }, rfl⟩

/-- Connecting to both fields drives the validity of their texts once. -/
theorem running_connect
    (kind : AuthenticationKind)
    (first second : Option String) :
    (((({} : IsValid kind).onFirst first).1.onSecond second).1.Running
        first second) ∧
      (({} : IsValid kind).onFirst first).2 ++
          ((({} : IsValid kind).onFirst first).1.onSecond second).2 =
        [.next (entered first && entered second)] := by
  cases kind with
  | login =>
      exact
        ⟨{ firstReady := ⟨rfl, rfl⟩
           secondReady := ⟨rfl, rfl⟩
           live := rfl
           latestFirst := rfl
           latestSecond := rfl
           enableReady := ⟨rfl, ⟨rfl, rfl⟩, rfl⟩ }, rfl⟩
  | signUp =>
      exact
        ⟨{ firstReady := ⟨rfl, rfl⟩
           secondReady := ⟨rfl, rfl⟩
           live := rfl
           latestFirst := rfl
           latestSecond := rfl
           enableReady := rfl }, rfl⟩

end IsValid
end MVVMExample
