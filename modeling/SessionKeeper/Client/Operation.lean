import SessionKeeper.Client.Delivery

/-! # Session operations

Signing in and out, and keeping the profile up to date. Each operation but the resending of the
verification mail shows on the board as outstanding while it runs, clears the last error when it begins
and leaves its own when it fails. Signing out ends with an empty store and without a user in every case,
also when it is dropped on the way. -/

namespace SessionKeeper

variable [Medium σ]

/-- Fails: the message goes to the board. -/
def failWith (f : AuthFailure) : Task σ (Except AuthFailure α) := do
  Task.modify (·.post (·.setError f.error))
  return .error f

/-- Fails because a request did. -/
def fail (e : ApiError) (fallback : String) : Task σ (Except AuthFailure α) :=
  failWith (.ofApi e fallback)

/-- Stores and publishes a fresh login, or fails because it cannot be saved. -/
def adopt (u : User) (t : TokenPair) : Task σ (Except AuthFailure Unit) := do
  match ← Task.update (Client.adoptLogin u t) with
  | .ok () => return .ok ()
  | .error e => failWith (.ofMessage ("Could not store credentials: " ++ e.message))

/-- Adopts a profile, or fails because nobody is signed in any more or it cannot be saved. -/
def adoptProfile (u : User) : Task σ (Except AuthFailure User) := do
  match ← Task.update (Client.storeUser u) with
  | some u => return .ok u
  | none => failWith (.ofMessage "Not signed in")

/-- Signs in, and then replaces the user of the login answer by the full profile, if it can be had. -/
def login (username password : String) : Task σ (Except AuthFailure User) :=
  Task.tracked do
    let request := (Request.post Endpoint.login).sending (LoginRequest.mk username password)
    match ← fetch LoginAnswer.decoder request with
    | .error e => fail e "Login failed"
    | .ok answer =>
      match ← adopt answer.user answer.tokens with
      | .error f => return .error f
      | .ok () =>
        if let .ok profile ← fetchProfile then
          let _ ← Task.update (Client.storeUser profile)
        return .ok ((← Task.read).session.user.getD answer.user)

/-- A successful registration. -/
structure Registration where
  user : User
  /-- A notice about the verification mail. -/
  emailMessage : Option String
deriving DecidableEq

/-- Creates an account and signs in with it. -/
def register (fields : RegisterRequest) : Task σ (Except AuthFailure Registration) :=
  Task.tracked do
    let request := (Request.post Endpoint.registration).sending fields
    match ← fetch RegisterAnswer.decoder request with
    | .error e => fail e "Registration failed. Please try again."
    | .ok answer =>
      match ← adopt answer.user answer.tokens with
      | .error f => return .error f
      | .ok () => return .ok ⟨answer.user, answer.emailMessage⟩

/-- Signs out. The backend is asked to invalidate the refresh token; what it answers does not
matter. -/
def logout : Task σ Unit :=
  Task.tracked <| Task.guarded Client.signOut do
    let token := (← Task.read).store.refreshToken
    let _ ← execute ((Request.post Endpoint.logout).sending (LogoutRequest.mk token))
    return ()

/-- Loads the profile again. -/
def refreshProfile : Task σ (Except AuthFailure User) :=
  Task.tracked do
    match ← fetchProfile with
    | .ok profile => adoptProfile profile
    | .error e => fail e "Could not load profile"

/-- Saves changes of the profile with the backend and adopts the user it answers with. -/
def updateProfile (w : UserUpdate) : Task σ (Except AuthFailure User) :=
  Task.tracked do
    match ← fetch profileDecoder ((Request.put Endpoint.profile).sending w) with
    | .ok profile => adoptProfile profile
    | .error e => fail e "Profile update failed"

/-- Asks for the verification mail again; the answer is the backend's notice. -/
def resendVerification : Task σ (Except AuthFailure String) := do
  match ← fetch messageDecoder (.post Endpoint.verification) with
  | .ok notice => return .ok notice
  | .error e => return .error (.ofApi e "Failed to send verification email")

end SessionKeeper
