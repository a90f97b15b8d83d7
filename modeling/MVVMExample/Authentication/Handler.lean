import Mathlib.Data.List.Induction
import MVVMExample.Authentication.Responses

/-!
# What the user is shown

The handlers of the two screens turn a result into actions of the interface: a
message, or a change of screen. Every error message shown is the description of
an error that Firebase has reported, and a result is acted on once for each tap
before it.
-/

namespace MVVMExample

open Reactive Transition

/-- An action of the interface. -/
inductive Action
  | presentMain
  | popViewController
  | showSuccess (message : String)
  | showError (message : String)
  deriving DecidableEq

/-- The handler of the login screen: go to the main screen, or show the
error. -/
def LoginViewController.handle : AuthenticationResult → List Action
  | .success => [.presentMain]
  | .failure (.unknownError message) => [.showError message]

/-- The handler of the sign-up screen: report the registration and go back, or
show the error. -/
def SignUpViewController.handle : AuthenticationResult → List Action
  | .success => [.showSuccess "registered an E-Mail", .popViewController]
  | .failure (.unknownError message) => [.showError message]

/-- The handler of a screen. -/
def AuthenticationKind.handler :
    AuthenticationKind → AuthenticationResult → List Action
  | .login => LoginViewController.handle
  | .signUp => SignUpViewController.handle

namespace AuthenticationScreen

variable {kind : AuthenticationKind}

/-- The actions that a received event causes. -/
def react (kind : AuthenticationKind) :
    Event SwiftError AuthenticationResult → List Action
  | .next result => kind.handler result
  | _ => []

end AuthenticationScreen
end MVVMExample
