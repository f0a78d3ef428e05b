import SessionKeeper.Account.User

/-! # What the client sends

The payloads of the authentication endpoints. Each has members, in the order of its fields, for the
written form, and a shown form for inspection, in which passwords and tokens are redacted. On the wire
the members stand in ascending key order (`Payload.body`). -/

namespace SessionKeeper

/-- A kind of request body. -/
class Payload (α : Type) where
  /-- The members, in the order of the fields. -/
  members : α → List (String × Json)

namespace Payload

/-- The compact text in the order of the fields. -/
def text [Payload α] (a : α) : String := Json.record (members a)

/-- The value that is sent. -/
def body [Payload α] (a : α) : Json :=
  .object ((members a).foldl (fun acc m => insertKey m.1 m.2 acc) [])

end Payload

instance : Payload UserUpdate := ⟨UserUpdate.members⟩

/-- Signing in. -/
structure LoginRequest where
  username : String
  password : String
deriving DecidableEq

/-- Creating an account. -/
structure RegisterRequest where
  username : String
  email : String
  password : String
  firstName : String
  lastName : String
  role : Role
deriving DecidableEq

/-- Signing out; the token is the one to invalidate. -/
structure LogoutRequest where
  refreshToken : Option String
deriving DecidableEq

/-- Trading a refresh token for an access token. -/
structure RefreshRequest where
  refresh : String
deriving DecidableEq

/-- Asking for a reset code. -/
structure ForgotPasswordRequest where
  username : String
  email : String
deriving DecidableEq

/-- Having a reset code checked. -/
structure VerifyCodeRequest where
  username : String
  code : String
deriving DecidableEq

/-- Setting a new password. -/
structure ResetPasswordRequest where
  username : String
  code : String
  newPassword : String
  confirmPassword : String
deriving DecidableEq

instance : Payload LoginRequest :=
  ⟨fun r => [("username", .text r.username), ("password", .text r.password)]⟩

instance : Payload RegisterRequest :=
  ⟨fun r => [("username", .text r.username), ("email", .text r.email),
    ("password", .text r.password), ("first_name", .text r.firstName),
    ("last_name", .text r.lastName), ("role", r.role.toJson)]⟩

instance : Payload LogoutRequest :=
  ⟨fun r => [("refresh_token", match r.refreshToken with | some t => .text t | none => .null)]⟩

instance : Payload RefreshRequest := ⟨fun r => [("refresh", .text r.refresh)]⟩

instance : Payload ForgotPasswordRequest :=
  ⟨fun r => [("username", .text r.username), ("email", .text r.email)]⟩

instance : Payload VerifyCodeRequest :=
  ⟨fun r => [("username", .text r.username), ("code", .text r.code)]⟩

instance : Payload ResetPasswordRequest :=
  ⟨fun r => [("username", .text r.username), ("code", .text r.code),
    ("new_password", .text r.newPassword), ("confirm_password", .text r.confirmPassword)]⟩

/-! ## Shown forms -/

open Text (quoted redacted inspectRecord)

/-- The shown name of a role. -/
def Role.inspect : Role → String
  | .faculty => "Faculty"
  | .student => "Student"

/-- Shown without the password. -/
def LoginRequest.inspect (r : LoginRequest) : String :=
  inspectRecord "LoginRequest" [("username", quoted r.username), ("password", redacted)]

/-- Shown without the password. -/
def RegisterRequest.inspect (r : RegisterRequest) : String :=
  inspectRecord "RegisterRequest"
    [("username", quoted r.username), ("email", quoted r.email), ("password", redacted),
      ("first_name", quoted r.firstName), ("last_name", quoted r.lastName),
      ("role", r.role.inspect)]

/-- Shown without the token, but with whether there is one. -/
def LogoutRequest.inspect (r : LogoutRequest) : String :=
  inspectRecord "LogoutRequest"
    [("refresh_token", match r.refreshToken with
      | some _ => "Some(" ++ redacted ++ ")"
      | none => "None")]

/-- Shown without the token. -/
def RefreshRequest.inspect (_ : RefreshRequest) : String :=
  inspectRecord "RefreshRequest" [("refresh", redacted)]

/-- Holds no secret. -/
def ForgotPasswordRequest.inspect (r : ForgotPasswordRequest) : String :=
  inspectRecord "ForgotPasswordRequest"
    [("username", quoted r.username), ("email", quoted r.email)]

/-- Holds no secret but the code, which is of no use after the reset. -/
def VerifyCodeRequest.inspect (r : VerifyCodeRequest) : String :=
  inspectRecord "VerifyResetCodeRequest"
    [("username", quoted r.username), ("code", quoted r.code)]

/-- Shown without the passwords. -/
def ResetPasswordRequest.inspect (r : ResetPasswordRequest) : String :=
  inspectRecord "ResetPasswordRequest"
    [("username", quoted r.username), ("code", quoted r.code), ("new_password", redacted),
      ("confirm_password", redacted)]

end SessionKeeper
