import SessionKeeper.Command.Run

/-! # The program

Reads the command line and the environment, runs the action, and prints what the run wrote. The
credential file is read before the run, and if the run changed it, its entries are saved after it by the
actions of `CredentialFile.saveActions`. There is no network here: every request that can be made fails
as one that does not get through. -/

namespace SessionKeeper.Command

/-- The variables of the environment that count. -/
def envVars : List String :=
  ["CODENEST_USERNAME", "CODENEST_PASSWORD", "CODENEST_API_URL", "CODENEST_CREDENTIALS",
    "CODENEST_TIMEOUT", "CODENEST_LOG_LEVEL", "HOME", "XDG_CONFIG_HOME"]

/-- The message for words that are refused. -/
def Refusal.message : Refusal → String
  | .help | .helpInstead =>
    "Usage: " ++ Config.programName ++ " [OPTIONS] <" ++
      String.intercalate "|" (commandTables.map (·.name)) ++ ">"
  | .version => Config.programName ++ " 0.1.0"
  | .unknownCommand => "error: unrecognized subcommand"
  | .missingCommand => "error: a subcommand is required"
  | .missingArgument => "error: required arguments were not provided"
  | .unknownArgument => "error: unexpected argument"
  | .repeatedArgument => "error: an argument cannot be used multiple times"
  | .missingValue => "error: a value is required"
  | .unknownChoice => "error: invalid value"
  | .malformedValue => "error: invalid value"
  | .needlessValue => "error: unexpected value"

/-- The words were a question that was answered. -/
def Refusal.isAnswer : Refusal → Bool
  | .help | .version => true
  | _ => false

/-- The reply to a call where there is no network. -/
def offlineReply (base : String) (c : Call) : Reply :=
  match c.wire base with
  | .error f => .error f
  | .ok w => .error w.unsent

/-- The disk as far as a run needs it: the credential file, or what is in its place. -/
def loadDisk (path : Option String) : IO Disk := do
  let blank := Disk.blank ["."]
  match path with
  | none => return blank
  | some p =>
    let file := FilePath.ofText p
    let place := (if file.absolute then [] else blank.here) ++ file.parts
    try
      let bytes ← IO.FS.readBinFile p
      return blank.install place (.file bytes sharedMode)
    catch
      | .noFileOrDirectory .. => return blank
      | _ => return blank.ensure place

/-- The text of a path. -/
def pathText (p : FilePath) : String :=
  (if p.absolute then "/" else "") ++ String.intercalate "/" p.parts ++
    (if p.directory then "/" else "")

/-- Opens a file for writing; a new one is for the owner alone. -/
def openPrivate (path : String) : IO IO.FS.Handle := do
  try
    let out ← IO.FS.Handle.mk path .writeNew
    IO.setAccessRights path ⟨⟨true, true, false⟩, ⟨false, false, false⟩, ⟨false, false, false⟩⟩
    return out
  catch
    | .alreadyExists .. => IO.FS.Handle.mk path .write
    | e => throw e

/-- Performs an action on the files of the machine; `out` is the one that is open for writing. -/
def performHere (out : Option IO.FS.Handle) : DiskAction → IO (Option IO.FS.Handle)
  | .tryDirectory p => do
    try IO.FS.createDir (pathText p)
    catch
      | .noFileOrDirectory .. | .alreadyExists .. => pure ()
      | e => throw e
    return out
  | .makeDirectory p => do
    IO.FS.createDirAll (pathText p)
    return out
  | .truncate p => some <$> openPrivate (pathText p)
  | .append _ b => do
    if let some h := out then h.write (ByteArray.empty.push b)
    return out
  | .rename source target => do
    if let some h := out then h.flush
    IO.FS.rename (pathText source) (pathText target)
    return none
  | .remove p => do
    try IO.FS.removeFile (pathText p)
    catch
      | .noFileOrDirectory .. => pure ()
      | e => throw e
    return out

/-- Saves the entries of the credential file, if a run changed it. -/
def storeDisk (path : Option String) (before after : Disk) : IO Unit := do
  if let some p := path then
    let file := FilePath.ofText p
    unless (before.readText file).toOption = (after.readText file).toOption do
      if let .ok es := CredentialFile.load ⟨file, after⟩ then
        let _ ← (CredentialFile.saveActions file es).foldlM performHere none

/-- Runs the program; the exit code is 2 for words that are refused and 1 for a run that fails. -/
def runProgram (words : List String) : IO UInt32 := do
  let found ← envVars.filterMapM fun v => do return (← IO.getEnv v).map (v, ·)
  let env (v : String) : Option String := lookupKey v found
  match program.read env words with
  | .error r =>
    if r.isAnswer then
      IO.println r.message
      return 0
    else
      IO.eprintln r.message
      return 2
  | .ok i =>
    match Action.ofInvocation i with
    | .error e =>
      IO.eprintln ("Error: " ++ e.message)
      return 1
    | .ok a =>
      let config := (Options.ofInvocation i).config env
      let path := config.toOption.bind (·.credentialsPath)
      let base := (config.toOption.map (·.apiBaseUrl)).getD ""
      let input ← match a with
        | .recover _ _ => (← IO.getStdin).readToEnd
        | _ => pure ""
      let disk ← loadDisk path
      let ended := execute (Host.ofReply fun c _ => offlineReply base c) id config a.handler a disk
        (.ofInput input)
      IO.print ended.terminal.output
      IO.eprint ended.terminal.errors
      try storeDisk path disk ended.disk
      catch e =>
        IO.eprintln ("Error: " ++ (StoreError.io (toString e)).message)
        return 1
      match ended.result with
      | .ok () => return 0
      | .error m =>
        IO.eprintln ("Error: " ++ m)
        return 1

end SessionKeeper.Command

/-- Runs the program. -/
def main (words : List String) : IO UInt32 := SessionKeeper.Command.runProgram words
