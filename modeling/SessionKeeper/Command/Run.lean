import SessionKeeper.Access.Guard
import SessionKeeper.Client.Host
import SessionKeeper.Client.Operation
import SessionKeeper.Client.Recovery
import SessionKeeper.Command.Action
import SessionKeeper.Credentials.File

/-! # Running commands

What the program does and prints for an action. A run has a client over a vault, in a surrounding that
answers its calls, and a terminal: lines to read, and what was written to either output. A run that fails
does so with one message. -/

namespace SessionKeeper.Command

/-- What a program reads and writes. -/
structure Terminal where
  /-- The lines not read yet. -/
  input : List String
  output : String
  errors : String
deriving DecidableEq

namespace Terminal

/-- The lines of a text. A line ends in a line feed, perhaps after a carriage return; what follows the
last one is a line unless it is empty. -/
def lines (cs : List Char) : List String :=
  let finish (rev : List Char) : String :=
    String.ofList (match rev with
      | '\r' :: r => r.reverse
      | r => r.reverse)
  let (rev, done) := cs.foldl
    (fun (acc : List Char × List String) c =>
      if c = '\n' then ([], finish acc.1 :: acc.2) else (c :: acc.1, acc.2))
    ([], [])
  (if rev.isEmpty then done else String.ofList rev.reverse :: done).reverse

/-- A terminal on which that text is entered. -/
def ofInput (s : String) : Terminal := ⟨lines s.toList, "", ""⟩

end Terminal

/-- A run in a surrounding of state `S`, ending in a value or a message. -/
abbrev Run (S α : Type) := ExceptT String (StateM (S × Terminal)) α

namespace Run

/-- Writes to the output. -/
def print (s : String) : Run S Unit :=
  modify fun st => (st.1, { st.2 with output := st.2.output ++ s })

/-- Writes a line to the output. -/
def printLine (s : String) : Run S Unit := print (s ++ "\n")

/-- Writes a line to the error output. -/
def complain (s : String) : Run S Unit :=
  modify fun st => (st.1, { st.2 with errors := st.2.errors ++ s ++ "\n" })

/-- Asks for a line. -/
def prompt (label : String) : Run S String := do
  print label
  let (s, t) ← get
  match t.input with
  | [] => throw "input closed"
  | l :: ls =>
    set (s, { t with input := ls })
    return l

/-- Has the client do something. -/
def perform (h : Host σ S) (t : Task σ α) : Run S α := do
  let (s, term) ← get
  let (e, s) := t.run h s
  set (s, term)
  match e with
  | .value a => return a
  | .dropped | .stuck => throw "interrupted"

/-- Has the client do something that may fail, which ends the run. -/
def performOrFail (h : Host σ S) (t : Task σ (Except ε α)) (message : ε → String) : Run S α := do
  match ← perform h t with
  | .ok a => return a
  | .error e => throw (message e)

end Run

/-- The lines that describe a user. -/
def describeUser (u : User) : List String :=
  let name := Text.trim (u.firstName ++ " " ++ u.lastName)
  let verified := if u.emailVerified then "verified" else "not verified"
  [u.username ++ " (" ++ u.role.name ++ ")"] ++
    (if name.isEmpty then [] else ["  name:     " ++ name]) ++
    (if u.email.isEmpty then [] else ["  email:    " ++ u.email ++ " (" ++ verified ++ ")"]) ++
    ["  home:     " ++ u.role.home]

/-- Prints a user. -/
def printUser (u : User) : Run S Unit := (describeUser u).forM Run.printLine

variable [Medium σ]

/-- Runs an action on the session. -/
def runSession (h : Host σ S) : Action → Run S Unit
  | .login username password => do
    printUser (← Run.performOrFail h (login username password) AuthFailure.display)
  | .register fields => do
    let r ← Run.performOrFail h (register fields) AuthFailure.display
    printUser r.user
    if let some notice := r.emailMessage then Run.printLine notice
  | .logout => do
    Run.perform h logout
    Run.printLine "Logged out"
  | .whoami true => do printUser (← Run.performOrFail h refreshProfile AuthFailure.display)
  | .whoami false => do
    match (h.client (← get).1).session.user with
    | some u => printUser u
    | none => Run.printLine "Not logged in"
  | .updateProfile w => do
    printUser (← Run.performOrFail h (updateProfile w) AuthFailure.display)
  | .resendVerification => do
    Run.printLine (← Run.performOrFail h resendVerification AuthFailure.display)
  | .recover _ _ | .checkRoute _ => throw "not a session action"

/-- What happens at a path, for whoever is signed in. -/
def describeDecision (s : Session) (path : String) : String :=
  let outcome := match Decision.ofPath s path with
    | .allow => "allow"
    | .pending => "pending"
    | .redirect r => "redirect to " ++ r.path
  path ++ " (" ++ (Access.ofPath path).describe ++ "): " ++ outcome

/-- How often a code, or a password, may be entered. -/
def maxAttempts : Nat := 3

/-- Has codes entered until one is confirmed. The result is whether one was. -/
def confirmCode (h : Host σ S) : Nat → Run S Bool
  | 0 => return false
  | n + 1 => do
    let code ← Run.prompt "Reset code: "
    match ← Run.perform h (Recovery.submitCode code) with
    | .ok () => return true
    | .error (.transport m) => throw m
    | .error e =>
      Run.complain e.message
      confirmCode h n

/-- Has passwords entered until one is accepted. The result is the notice about it. -/
def enterPassword (h : Host σ S) : Nat → Run S (Option String)
  | 0 => return none
  | n + 1 => do
    let new ← Run.prompt "New password: "
    let confirmation ← Run.prompt "Confirm password: "
    match ← Run.perform h (Recovery.submitPassword new confirmation) with
    | .ok notice => return some notice
    | .error (.transport m) => throw m
    | .error e =>
      Run.complain e.message
      enterPassword h n

/-- Gives the recovery up. -/
def giveUp (h : Host σ S) (reason : String) : Run S α := do
  Run.perform h (Task.modify Client.leaveRecovery)
  throw reason

/-- Runs a password recovery. -/
def runRecovery (h : Host σ S) (username email : String) : Run S Unit := do
  Run.perform h (Task.modify Client.beginRecovery)
  let notice ← Run.performOrFail h (Recovery.submitRequest username email) RecoveryError.message
  Run.printLine notice
  if !(← confirmCode h maxAttempts) then giveUp h "reset code not verified"
  match ← enterPassword h maxAttempts with
  | some notice => Run.printLine notice
  | none => giveUp h "password not reset"

/-! ## From the options to the end -/

/-- The part of the program that runs an action. -/
inductive Handler where
  | recovery
  | route
  | session
deriving DecidableEq

/-- The part that an action is for. -/
def Action.handler : Action → Handler
  | .recover _ _ => .recovery
  | .checkRoute _ => .route
  | _ => .session

/-- Why an action is not for a part of the program, if that is clear before a client is connected. -/
def Handler.objection? : Handler → Action → Option String
  | .recovery, .recover _ _ => none
  | .recovery, _ => some "not a recover action"
  | .route, .checkRoute _ => none
  | .route, _ => some "not a check-route action"
  | .session, _ => none

/-- Has a part of the program run an action, with a client connected. -/
def Handler.run (h : Host σ S) : Handler → Action → Run S Unit
  | .recovery, .recover username email => runRecovery h username email
  | .route, .checkRoute path => do
    Run.printLine (describeDecision (h.client (← get).1).session path)
  | .session, a => runSession h a
  | p, a => throw ((p.objection? a).getD "")

/-- The vault that a configuration asks for. -/
def vaultOf (c : Config) (d : Disk) : Vault :=
  match c.credentialsPath with
  | some path => .file ⟨.ofText path, d⟩
  | none => .memory (.ofEntries .empty)

/-- Opens the store that a configuration asks for. The result tells the vault after that, too. -/
def connect (c : Config) (d : Disk) : Except String (Client Vault) × Vault :=
  match Store.openOn (vaultOf c d) with
  | (.ok s, v) => (.ok (.connect s), v)
  | (.error _, v) => (.error ("failed to open " ++ c.credentialsPath.getD ""), v)

/-- How a run ended: whether it failed, and with what message, the surrounding if a client was
connected, the terminal and the disk. -/
structure Ended (S : Type) where
  result : Except String Unit
  surrounding : Option S
  terminal : Terminal
  disk : Disk

/-- Runs an action from the configuration on. The surrounding is made of the connected client. -/
def execute (h : Host Vault S) (make : Client Vault → S) (config : Except ConfigError Config)
    (part : Handler) (a : Action) (d : Disk) (t : Terminal) : Ended S :=
  match part.objection? a with
  | some m => ⟨.error m, none, t, d⟩
  | none =>
    match config with
    | .error e => ⟨.error e.message, none, t, d⟩
    | .ok c =>
      match connect c d with
      | (.error m, v) => ⟨.error m, none, t, v.disk?.getD d⟩
      | (.ok client, _) =>
        let (r, s, t) := (part.run h a).run (make client, t)
        ⟨r, some s, t, (h.client s).store.medium.disk?.getD d⟩

end SessionKeeper.Command
