import SessionKeeper.Account.User

/-! # What the backend answers

The records that successful answers of the authentication endpoints decode to. -/

namespace SessionKeeper

/-- An access token and the refresh token that renews it. -/
structure TokenPair where
  access : String
  refresh : String
deriving DecidableEq, Inhabited

/-- The answer to a login. -/
structure LoginAnswer where
  user : User
  tokens : TokenPair
deriving DecidableEq

/-- The answer to a registration. -/
structure RegisterAnswer where
  user : User
  tokens : TokenPair
  /-- A notice about the verification mail. -/
  emailMessage : Option String
deriving DecidableEq

/-- The answer to a token refresh; the refresh token is there if the backend changed it. -/
structure RefreshAnswer where
  access : String
  refresh : Option String
deriving DecidableEq

open Json

namespace TokenPair

/-- Both tokens are required. -/
def layout : Layout := ⟨"TokenPair", [.required "access" .text, .required "refresh" .text]⟩

/-- Reads a pair. -/
def decoder : Json.Decoder TokenPair := fun t => do
  let seen ← layout.read t
  return { access := ← need seen "access" .text, refresh := ← need seen "refresh" .text }

/-- Shown without the tokens. -/
def inspect (_ : TokenPair) : String :=
  Text.inspectRecord "TokenPair"
    [("access", "SecretBox<str>([REDACTED])"), ("refresh", "SecretBox<str>([REDACTED])")]

end TokenPair

namespace LoginAnswer

/-- A user and their tokens. -/
def layout : Layout :=
  ⟨"LoginResponse", [.required "user" User.decoder, .required "tokens" TokenPair.decoder]⟩

/-- Reads the answer to a login. -/
def decoder : Json.Decoder LoginAnswer := fun t => do
  let seen ← layout.read t
  return { user := ← need seen "user" User.decoder, tokens := ← need seen "tokens" TokenPair.decoder }

end LoginAnswer

namespace RegisterAnswer

/-- A user, their tokens and perhaps a notice. -/
def layout : Layout :=
  ⟨"RegisterResponse",
    [.required "user" User.decoder, .required "tokens" TokenPair.decoder,
      .defaulted "email_message" (.nullable .text) []]⟩

/-- Reads the answer to a registration. -/
def decoder : Json.Decoder RegisterAnswer := fun t => do
  let seen ← layout.read t
  return {
    user := ← need seen "user" User.decoder
    tokens := ← need seen "tokens" TokenPair.decoder
    emailMessage := ← orElse seen "email_message" (.nullable .text) none }

end RegisterAnswer

/-- A user on its own. -/
def profileLayout : Layout := ⟨"ProfileResponse", [.required "user" User.decoder]⟩

/-- Reads a profile. -/
def profileDecoder : Json.Decoder User := fun t => do
  let seen ← profileLayout.read t
  need seen "user" User.decoder

/-- A notice, empty by default. -/
def messageLayout : Layout := ⟨"MessageResponse", [.defaulted "message" .text []]⟩

/-- Reads a notice. -/
def messageDecoder : Json.Decoder String := fun t => do
  let seen ← messageLayout.read t
  orElse seen "message" .text ""

namespace RefreshAnswer

/-- An access token, and a refresh token if it was changed. -/
def layout : Layout :=
  ⟨"RefreshResponse", [.required "access" .text, .defaulted "refresh" (.nullable .text) []]⟩

/-- Reads the answer to a token refresh. -/
def decoder : Json.Decoder RefreshAnswer := fun t => do
  let seen ← layout.read t
  return {
    access := ← need seen "access" .text
    refresh := ← orElse seen "refresh" (.nullable .text) none }

end RefreshAnswer

end SessionKeeper
