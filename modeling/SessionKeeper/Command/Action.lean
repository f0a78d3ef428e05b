import SessionKeeper.Command.Grammar
import SessionKeeper.Config
import SessionKeeper.Exchange.Payload

/-! # Commands

The command line of the program: its tables of arguments, and the action and the options that a command
line means. The tables let nothing through that has no meaning (`Action.ofInvocation`), but for an
update of nothing. -/

namespace SessionKeeper.Command

/-- What the program is asked to do. -/
inductive Action where
  | login (username password : String)
  | register (fields : RegisterRequest)
  | logout
  | whoami (refresh : Bool)
  | updateProfile (w : UserUpdate)
  | resendVerification
  | recover (username email : String)
  | checkRoute (path : String)
deriving DecidableEq

/-- The options common to all commands. -/
structure Options where
  apiUrl : String
  credentials : Option String
  timeoutSecs : Option Nat
  verbosity : Nat
deriving DecidableEq

/-- Why a command line means no action. -/
inductive ActionError where
  | noArguments
  | missing (argument : String)
  | badRole (name : String)
  | unknownCommand
  | nothingToUpdate
deriving DecidableEq

/-- The text of such a reason. -/
def ActionError.message : ActionError → String
  | .noArguments => "arguments not found"
  | .missing a => "missing required argument: --" ++ a
  | .badRole name => "unknown role: " ++ name
  | .unknownCommand => "unknown subcommand"
  | .nothingToUpdate => "nothing to update"

/-! ## The tables -/

/-- An option with a long name alone. -/
def option (name : String) (r : Reading) (required : Bool) : Argument :=
  ⟨name, none, some name, .value r, none, none, required⟩

/-- The account, given or in the environment. -/
def usernameArgument (envVar : Option String) : Argument :=
  ⟨"username", some 'u', some "username", .value .text, envVar, none, true⟩

/-- The password, given or in the environment. -/
def passwordArgument : Argument :=
  ⟨"password", some 'p', some "password", .value .text, some "CODENEST_PASSWORD", none, true⟩

/-- The variable that names the account. -/
def usernameVariable : String := "CODENEST_USERNAME"

/-- What a profile consists of. -/
def profileArguments (required : Bool) : List Argument :=
  [option "email" .text required, option "first-name" .text required,
    option "last-name" .text required]

/-- The arguments common to all levels. -/
def commonArguments : List Argument :=
  [⟨"api-url", none, some "api-url", .value .text, some "CODENEST_API_URL",
      some Config.defaultBaseUrl, false⟩,
    ⟨"credentials", some 'c', some "credentials", .value .text, some "CODENEST_CREDENTIALS", none,
      false⟩,
    ⟨"timeout", none, some "timeout", .value .number, some "CODENEST_TIMEOUT", none, false⟩,
    ⟨"verbosity", some 'v', some "verbose", .count, some "CODENEST_LOG_LEVEL", some "0", false⟩]

/-- The flag that explains a level. -/
def helpArgument : Argument := ⟨"help", some 'h', some "help", .help, none, none, false⟩

/-- The flag that names the program and its version. -/
def versionArgument : Argument :=
  ⟨"version", some 'V', some "version", .version, none, none, false⟩

/-- The choices of a role. -/
def roleNames : List String := [Role.faculty.name, Role.student.name]

/-- The commands. -/
def commandTables : List CommandTable :=
  [⟨"login", [usernameArgument (some usernameVariable), passwordArgument]⟩,
    ⟨"register",
      [usernameArgument (some usernameVariable), passwordArgument,
        option "role" (.choice roleNames) true] ++ profileArguments true⟩,
    ⟨"logout", []⟩,
    ⟨"whoami", [⟨"refresh", none, some "refresh", .switch, none, none, false⟩]⟩,
    ⟨"update-profile", profileArguments false⟩,
    ⟨"resend-verification", []⟩,
    ⟨"recover", [usernameArgument none, option "email" .text true]⟩,
    ⟨"check-route", [⟨"path", none, none, .value .text, none, none, true⟩]⟩]

/-- The program. -/
def program : Program where
  common := commonArguments
  own := [helpArgument, versionArgument]
  everyCommand := [helpArgument]
  commands := commandTables

/-! ## Their meaning -/

/-- The arguments of the command of that name, which has to be the one that was read. -/
def argumentsOf (i : Invocation) (command : String) : Except ActionError (Dictionary Matched) :=
  if i.command = command then .ok i.arguments else .error .noArguments

/-- The text that an argument was given. -/
def text? (m : Dictionary Matched) (name : String) : Option String :=
  match m.get? name with
  | some ⟨_, .text s⟩ => some s
  | _ => none

/-- The number that an argument was given. -/
def number? (m : Dictionary Matched) (name : String) : Option Nat :=
  match m.get? name with
  | some ⟨_, .number n⟩ => some n
  | _ => none

/-- The text of an argument that must be there. -/
def need (m : Dictionary Matched) (name : String) : Except ActionError String :=
  match text? m name with
  | some s => .ok s
  | none => .error (.missing name)

/-- The role of an argument that must be there. -/
def needRole (m : Dictionary Matched) (name : String) : Except ActionError Role := do
  match Role.parse (← need m name) with
  | .ok r => return r
  | .error e => .error (.badRole e)

/-- The update that the arguments of a profile make. -/
def profileUpdate (m : Dictionary Matched) : UserUpdate :=
  { UserUpdate.none with
    email := text? m "email"
    firstName := text? m "first-name"
    lastName := text? m "last-name" }

/-- The action that a command line means. -/
def Action.ofInvocation (i : Invocation) : Except ActionError Action :=
  match i.command with
  | "login" => do
    let m ← argumentsOf i "login"
    return .login (← need m "username") (← need m "password")
  | "register" => do
    let m ← argumentsOf i "register"
    let role ← needRole m "role"
    return .register {
      username := ← need m "username"
      email := ← need m "email"
      password := ← need m "password"
      firstName := ← need m "first-name"
      lastName := ← need m "last-name"
      role := role }
  | "logout" => .ok .logout
  | "whoami" => do return .whoami ((← argumentsOf i "whoami").contains "refresh")
  | "update-profile" => do
    let w := profileUpdate (← argumentsOf i "update-profile")
    if w.isEmpty then .error .nothingToUpdate else return .updateProfile w
  | "resend-verification" => .ok .resendVerification
  | "recover" => do
    let m ← argumentsOf i "recover"
    return .recover (← need m "username") (← need m "email")
  | "check-route" => do return .checkRoute (← need (← argumentsOf i "check-route") "path")
  | _ => .error .unknownCommand

/-- The name of the command that an action comes from. -/
def Action.command : Action → String
  | .login _ _ => "login"
  | .register _ => "register"
  | .logout => "logout"
  | .whoami _ => "whoami"
  | .updateProfile _ => "update-profile"
  | .resendVerification => "resend-verification"
  | .recover _ _ => "recover"
  | .checkRoute _ => "check-route"

/-- The options that a command line means. -/
def Options.ofInvocation (i : Invocation) : Options where
  apiUrl := (text? i.common "api-url").getD ""
  credentials := text? i.common "credentials"
  timeoutSecs := number? i.common "timeout"
  verbosity := (number? i.common "verbosity").getD 0

/-- The settings that the options make: blank texts do not count, and without a file for credentials
that of the user is taken. -/
def Options.config (o : Options) (env : String → Option String) : Except ConfigError Config :=
  match Config.default.override
      ⟨Text.nonBlank? o.apiUrl, o.timeoutSecs, o.credentials.bind Text.nonBlank?⟩ with
  | (.error e, _) => .error e
  | (.ok (), c) => .ok { c with
    credentialsPath := c.credentialsPath.or
      (Config.credentialsPathFor (env "XDG_CONFIG_HOME") (env "HOME")) }

end SessionKeeper.Command
