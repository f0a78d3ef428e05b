import SessionKeeper.Client.Renewal

/-! # Delivery

Sending a request with the access token stored at that moment. If the backend refuses the token of a
first attempt, the token is renewed and the request sent once more; if no token can be had, the refusal
stands, unless the reason is a passing one, which is then the outcome. -/

namespace SessionKeeper

variable [Medium σ]

/-- Dispatches a request once. The result tells the token it carried. -/
def dispatchOnce (r : Request) : Task σ (Option String × Reply) := do
  let token := (← Task.read).store.accessToken
  return (token, ← Task.ask (r.call token))

/-- The outcome of a request's last dispatch. -/
def Reply.outcome : Reply → Except ApiError Answer
  | .error fault => .error fault.error
  | .ok answer => answer.outcome

/-- Sends a request, and once more after its token was refused and renewed. -/
def send (r : Request) : Task σ (Except ApiError Answer) := do
  let (token, reply) ← dispatchOnce r
  match reply with
  | .error fault => return .error fault.error
  | .ok answer =>
    if answer.status ≠ 401 || r.isRetry then return answer.outcome
    match ← renew token with
    | .ok _ =>
      let (_, reply) ← dispatchOnce r.retried
      return Reply.outcome reply
    | .error e => return if e.isTransient then .error e else answer.outcome

/-- Sends a request and decodes the answer. -/
def fetch (dec : Json.Decoder α) (r : Request) : Task σ (Except ApiError α) := do
  match ← send r with
  | .ok answer => return answer.decode dec
  | .error e => return .error e

/-- Sends a request, whatever a successful answer says. -/
def execute (r : Request) : Task σ (Except ApiError Unit) := do
  match ← send r with
  | .ok _ => return .ok ()
  | .error e => return .error e

/-! ## Endpoints -/

namespace Endpoint

/-- Creating an account. -/
def registration : String := "/auth/register/"

/-- Signing in. -/
def login : String := "/auth/login/"

/-- Signing out. -/
def logout : String := "/auth/logout/"

/-- The profile of the signed-in user. -/
def profile : String := "/auth/profile/"

/-- Sending the verification mail again. -/
def verification : String := "/auth/resend-verification/"

/-- Sending a reset code. -/
def forgotPassword : String := "/auth/forgot-password/"

/-- Checking a reset code. -/
def verifyCode : String := "/auth/verify-reset-code/"

/-- Setting a new password. -/
def resetPassword : String := "/auth/reset-password/"

end Endpoint

/-- The profile of the signed-in user. -/
def fetchProfile : Task σ (Except ApiError User) :=
  fetch profileDecoder (.get Endpoint.profile)

end SessionKeeper
