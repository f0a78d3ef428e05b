import SessionKeeper.Credentials.Disk
import SessionKeeper.Credentials.Medium
import SessionKeeper.Json.Decode
import SessionKeeper.Text.Blank

/-! # The credential file

Entries kept in a file of one JSON object. A save writes a temporary file beside the target and renames
it over the target; it is a list of actions on the disk (`CredentialFile.saveActions`), each of which
changes one thing, the payload going out byte by byte, so that every state in which a save can be
interrupted is the outcome of a beginning of that list. Saving no entries removes the file. -/

namespace SessionKeeper

/-- One change of a disk. -/
inductive DiskAction where
  /-- Makes a directory, unless the one that it would lie in is missing. -/
  | tryDirectory (p : FilePath)
  | makeDirectory (p : FilePath)
  | truncate (p : FilePath)
  | append (p : FilePath) (byte : UInt8)
  | rename (source target : FilePath)
  /-- Removes a file, if it is there. -/
  | remove (p : FilePath)

namespace DiskAction

/-- The disk after the action. -/
def perform (d : Disk) : DiskAction → Except DiskError Disk
  | .tryDirectory p =>
    match d.makeDirectory p with
    | .error .notFound => .ok d
    | r => r
  | .makeDirectory p => d.makeDirectory p
  | .truncate p => d.truncate p
  | .append p b => d.append p (ByteArray.empty.push b)
  | .rename source target => d.rename source target
  | .remove p =>
    match d.remove p with
    | .error .notFound => .ok d
    | r => r

/-- Performs the actions up to the first that fails; the disk is as the others left it. -/
def performAll (d : Disk) : List DiskAction → Except DiskError Unit × Disk
  | [] => (.ok (), d)
  | a :: as =>
    match a.perform d with
    | .ok d => performAll d as
    | .error e => (.error e, d)

end DiskAction

/-- A file for credentials, and the disk it is on. -/
structure CredentialFile where
  path : FilePath
  disk : Disk

namespace CredentialFile

/-- The temporary file beside a path. -/
def temporary (p : FilePath) : FilePath := p.withName (p.name?.getD "" ++ ".tmp")

/-- The paths of the directories that a path lies in, the outermost first. -/
def parents (p : FilePath) : List FilePath :=
  let ps := p.parent.parts
  (List.range ps.length).map fun i => ⟨p.absolute, ps.take (i + 1), true⟩

/-- How the directories that a path lies in are made: the innermost at one go, and if that cannot be
had, all of them, the outermost first. -/
def directoryActions (p : FilePath) : List DiskAction :=
  (parents p).getLast?.toList.map .tryDirectory ++ (parents p).map .makeDirectory

/-- What a save of the entries does, in order. -/
def saveActions (p : FilePath) (es : Entries) : List DiskAction :=
  if es.isEmpty then [.remove p]
  else
    directoryActions p ++ .truncate (temporary p) ::
      ((Json.prettyDictionary es).toUTF8.toList.map (.append (temporary p)) ++
        [.rename (temporary p) p])

/-- The entries of a text, none if it is blank. The reason of an error does not tell its position. -/
def entriesOfText (s : String) : Except StoreError Entries :=
  if (Text.trim s).isEmpty then .ok .empty
  else (Json.decode Json.Decoder.text.dictionary s).mapError fun e => .json e.message

/-- The entries in the file, none if there is no file. -/
def load (f : CredentialFile) : Except StoreError Entries :=
  match f.disk.readText f.path with
  | .ok s => entriesOfText s
  | .error .notFound => .ok .empty
  | .error e => .error (.io e.message)

/-- The disk after a save, or after the part of it before its first failure. -/
def save (es : Entries) (f : CredentialFile) : Except StoreError Unit × CredentialFile :=
  match DiskAction.performAll f.disk (saveActions f.path es) with
  | (.ok (), d) => (.ok (), { f with disk := d })
  | (.error e, d) => (.error (.io e.message), { f with disk := d })

instance : Medium CredentialFile := ⟨load, save⟩

end CredentialFile

/-- The medium of a process: its memory or a file. -/
inductive Vault where
  | memory (m : Memory)
  | file (f : CredentialFile)

namespace Vault

/-- The disk, if the medium is on one. -/
def disk? : Vault → Option Disk
  | .memory _ => none
  | .file f => some f.disk

instance : Medium Vault where
  load
    | .memory m => Medium.load m
    | .file f => f.load
  save es
    | .memory m => let (r, m) := Medium.save es m; (r, .memory m)
    | .file f => let (r, f) := f.save es; (r, .file f)

end Vault

end SessionKeeper
