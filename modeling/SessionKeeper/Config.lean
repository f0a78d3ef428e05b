import SessionKeeper.Url.Basic

/-! # Configuration

Where the backend is, how long a request may take and where credentials are kept. Overrides are laid
over a configuration one by one; the base URL that results is validated, whether or not it was among
them, and a failed validation leaves the overrides in place. -/

namespace SessionKeeper

/-- The settings of a client. -/
structure Config where
  apiBaseUrl : String
  timeoutSecs : Nat
  /-- Without a path, credentials live as long as the process. -/
  credentialsPath : Option String
  userAgent : String
deriving DecidableEq

/-- Settings to lay over others. -/
structure Overrides where
  apiBaseUrl : Option String
  timeoutSecs : Option Nat
  credentialsPath : Option String

/-- Why a configuration is refused. -/
inductive ConfigError where
  | badUrl (raw : String) (why : Url.UrlError)
  | badScheme (scheme : String)
  | noHost
deriving DecidableEq

/-- The text of a configuration error. -/
def ConfigError.message : ConfigError → String
  | .badUrl raw why => "invalid API base URL " ++ raw ++ ": " ++ why.message
  | .badScheme scheme => "invalid API base URL: unsupported scheme " ++ scheme
  | .noHost => "invalid API base URL: no host specified"

namespace Config

/-- The backend of a development machine. -/
def defaultBaseUrl : String := "http://127.0.0.1:8000/api"

/-- The name of the program, in paths and to the backend. -/
def programName : String := "codenest"

/-- The settings without any override. -/
def default : Config :=
  ⟨defaultBaseUrl, 10, none, programName ++ "/0.1.0"⟩

/-- A base URL is a web address over HTTP, plain or secured. -/
def validateBaseUrl (raw : String) : Except ConfigError Unit :=
  match Url.parse raw with
  | .error e => .error (.badUrl raw e)
  | .ok u =>
    if u.scheme = "http" || u.scheme = "https" then
      if u.hasHost then .ok () else .error .noHost
    else .error (.badScheme u.scheme)

/-- The settings with the overrides that are there; a timeout of zero is none. -/
def withOverrides (c : Config) (o : Overrides) : Config where
  apiBaseUrl := o.apiBaseUrl.getD c.apiBaseUrl
  timeoutSecs := match o.timeoutSecs with
    | some n => if 0 < n then n else c.timeoutSecs
    | none => c.timeoutSecs
  credentialsPath := o.credentialsPath.or c.credentialsPath
  userAgent := c.userAgent

/-- Lays the overrides over the settings: the outcome of the validation, and the settings after it. -/
def override (c : Config) (o : Overrides) : Except ConfigError Unit × Config :=
  let c := c.withOverrides o
  (validateBaseUrl c.apiBaseUrl, c)

/-- The default settings with that base URL; a blank one stands for the default. -/
def ofBaseUrl (raw : String) : Except ConfigError Config :=
  match default.override ⟨Text.nonBlank? raw, none, none⟩ with
  | (.ok (), c) => .ok c
  | (.error e, _) => .error e

/-- A name below a directory. -/
def joinPath (dir name : String) : String :=
  if dir.toList.getLast? = some '/' then dir ++ name else dir ++ "/" ++ name

/-- The credential file of a user, in their configuration directory; without any of the two variables
there is none. An empty variable counts as unset. -/
def credentialsPathFor (configHome home : Option String) : Option String :=
  let set (v : Option String) : Option String := v.filter (!·.isEmpty)
  ((set configHome).or ((set home).map (joinPath · ".config"))).map fun dir =>
    joinPath (joinPath dir programName) "credentials.json"

end Config

/-- The address of an endpoint: the base without trailing slashes and the path without leading ones,
joined by a slash; an empty base leaves the path alone. -/
def joinUrl (base path : String) : String :=
  let base := Text.dropTrailing (· == '/') (Text.trimChars base.toList)
  let path := Text.trimChars path.toList
  String.ofList (if base.isEmpty then path else base ++ '/' :: path.dropWhile (· == '/'))

end SessionKeeper
