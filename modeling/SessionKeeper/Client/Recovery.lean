import SessionKeeper.Client.Delivery
import SessionKeeper.Text.Case

/-! # Password recovery

Three submissions lead from a user name to a new password: a code is asked for, the code is confirmed,
the password is set with it. Each belongs to one step and only its success leads to the next one; every
other outcome leaves the step as it is. -/

namespace SessionKeeper

/-- Why a submission failed. -/
inductive RecoveryError where
  | outOfOrder (action step : String)
  /-- The input is refused before anything is sent. -/
  | invalid (message : String)
  | rejected (message : String)
  /-- The backend was not reached. -/
  | transport (message : String)
deriving DecidableEq

namespace RecoveryError

/-- The text of a failure. -/
def message : RecoveryError → String
  | .outOfOrder action step => "cannot " ++ action ++ " while at step " ++ step
  | .invalid m => m
  | .rejected m => m
  | .transport m => m

/-- Presents the failure of a request: trouble on the way as it is, else the backend's message for the
whole request, else the fallback. -/
def ofApi (e : ApiError) (fallback : String) : RecoveryError :=
  if e.isTransport then .transport e.message else .rejected (e.backendMessage?.getD fallback)

end RecoveryError

/-- The least length of a password, in characters. -/
def minPasswordLength : Nat := 6

/-- The notice on the login page after a reset. -/
def resetNotice : String := "Password reset successfully! Please login with your new password."

namespace Recovery

/-- Opens a recovery. -/
def opened : Recovery := ⟨.request, none⟩

/-- The code as it is sent: trimmed, in capitals. -/
def normalizeCode (code : String) : String := Text.toUpper (Text.trim code)

end Recovery

namespace Client

/-- The recovery moves to a step. -/
def atStep (c : Client σ) (s : RecoveryStep) : Client σ :=
  { c with recovery := { c.recovery with step := s } }

/-- The recovery shows a message, or none. -/
def showingError (c : Client σ) (m : Option String) : Client σ :=
  { c with recovery := { c.recovery with error := m } }

/-- The recovery begins, wherever it stood. -/
def beginRecovery (c : Client σ) : Client σ := { c with recovery := .opened }

/-- The recovery is given up. -/
def leaveRecovery (c : Client σ) : Client σ := { c with recovery := .idle }

end Client

namespace Recovery

variable [Medium σ]

/-- Fails at the present step, and shows the message. -/
def failWith (e : RecoveryError) : Task σ (Except RecoveryError α) := do
  Task.modify (·.showingError (some e.message))
  return .error e

/-- Fails because the step does not allow the action; the message shown before stays. -/
def outOfOrder (action : String) (s : RecoveryStep) : Except RecoveryError α :=
  .error (.outOfOrder action s.name)

/-- Asks for a reset code by mail; the answer is the backend's notice. -/
def submitRequest (username email : String) : Task σ (Except RecoveryError String) := do
  match (← Task.read).recovery.step with
  | .request =>
    Task.modify (·.showingError none)
    let username := Text.trim username
    let payload := ForgotPasswordRequest.mk username (Text.trim email)
    match ← fetch messageDecoder ((Request.post Endpoint.forgotPassword).sending payload) with
    | .ok notice =>
      Task.modify (·.atStep (.verify username))
      return .ok notice
    | .error e => failWith (.ofApi e "Failed to send reset code")
  | step => return outOfOrder "request a code" step

/-- Has a code confirmed. -/
def submitCode (code : String) : Task σ (Except RecoveryError Unit) := do
  match (← Task.read).recovery.step with
  | .verify username =>
    let code := normalizeCode code
    if code.isEmpty then failWith (.invalid "Please enter the reset code")
    else
      Task.modify (·.showingError none)
      let payload := VerifyCodeRequest.mk username code
      match ← execute ((Request.post Endpoint.verifyCode).sending payload) with
      | .ok () =>
        Task.modify (·.atStep (.reset username code))
        return .ok ()
      | .error e => failWith (.ofApi e "Invalid reset code")
  | step => return outOfOrder "verify a code" step

/-- Sets a new password, and asks for the login page with a notice. -/
def submitPassword (new confirmation : String) : Task σ (Except RecoveryError String) := do
  match (← Task.read).recovery.step with
  | .reset username code =>
    if new.length < minPasswordLength then
      failWith (.invalid
        ("Password must be at least " ++ toString minPasswordLength ++ " characters long"))
    else if new ≠ confirmation then failWith (.invalid "Passwords do not match")
    else
      Task.modify (·.showingError none)
      let payload := ResetPasswordRequest.mk username code new confirmation
      match ← fetch messageDecoder ((Request.post Endpoint.resetPassword).sending payload) with
      | .ok notice =>
        Task.modify fun c => (c.atStep .idle).visit (.login (some resetNotice))
        return .ok notice
      | .error e => failWith (.ofApi e "Failed to reset password")
  | step => return outOfOrder "reset the password" step

end Recovery

end SessionKeeper
