import SessionKeeper.Failure.ErrorBody

/-! # Failures of a request

The ways in which a request to the backend can fail, their texts, and which of them say nothing about
the credentials: trouble on the way and server-side failures are transient, everything else is an
answer. -/

namespace SessionKeeper

/-- Why a request failed. -/
inductive ApiError where
  | config (reason : String)
  | network (reason : String)
  | timeout (reason : String)
  | http (status : Nat) (message : String) (body : ErrorBody)
  | parse (reason : String)
  | serialization (reason : String)
  | noRefreshToken
  | sessionExpired
  | store (reason : String)
deriving DecidableEq

namespace ApiError

/-- The text of the failure. -/
def message : ApiError → String
  | .config r => "Config error: " ++ r
  | .network r => "Network error: " ++ r
  | .timeout r => "Timeout: " ++ r
  | .http status m _ => "Request failed (" ++ toString status ++ "): " ++ m
  | .parse r => "Response error: " ++ r
  | .serialization r => "Request error: " ++ r
  | .noRefreshToken => "No refresh token stored"
  | .sessionExpired => "Session expired, please log in again"
  | .store r => "Credential store error: " ++ r

/-- The status of the answer, if there was one. -/
def status? : ApiError → Option Nat
  | .http status _ _ => some status
  | _ => none

/-- The backend did not accept the token. -/
def isUnauthorized (e : ApiError) : Bool := e.status? == some 401

/-- The failure says nothing about the credentials. -/
def isTransient : ApiError → Bool
  | .network _ | .timeout _ => true
  | .http status _ _ => 500 ≤ status
  | _ => false

/-- The request did not get an answer. -/
def isTransport : ApiError → Bool
  | .network _ | .timeout _ => true
  | _ => false

/-- The message of the backend, if it sent one for the whole request. -/
def backendMessage? : ApiError → Option String
  | .http _ _ (.general m) => some m
  | _ => none

/-- The messages of the backend by field, if it sent such. -/
def fieldErrors? : ApiError → Option FieldErrors
  | .http _ _ (.fields f) => some f
  | _ => none

/-- The failure that an unsuccessful answer is. -/
def ofAnswer (status : Nat) (raw : String) : ApiError :=
  .http status (ErrorBody.sanitize raw) (ErrorBody.parse raw)

end ApiError

/-- A failed operation as it is presented: one message, and messages for fields. -/
structure AuthFailure where
  error : String
  fields : FieldErrors
deriving DecidableEq

namespace AuthFailure

/-- A message without fields. -/
def ofMessage (m : String) : AuthFailure := ⟨m, .empty⟩

/-- The message above the messages for fields. -/
def fieldsMessage : String := "Please correct the errors below"

/-- Presents a failure: the backend's own words if it found any, trouble on the way as it is, and the
fallback for everything else. -/
def ofApi (e : ApiError) (fallback : String) : AuthFailure :=
  match e with
  | .http _ _ (.general m) => ofMessage m
  | .http _ _ (.fields f) => ⟨fieldsMessage, f⟩
  | .network _ | .timeout _ => ofMessage e.message
  | _ => ofMessage fallback

/-- There are messages for fields. -/
def hasFields (f : AuthFailure) : Bool := !f.fields.isEmpty

/-- The message, and under it a line for each field. -/
def display (f : AuthFailure) : String :=
  f.fields.toList.foldl (fun s e => s ++ "\n  " ++ e.1 ++ ": " ++ e.2) f.error

end AuthFailure

end SessionKeeper
