import SessionKeeper.Text.Utf8

/-! # A file system

Directories and files by their place below the root, as far as keeping a file needs it: reading, making
directories, writing through a temporary file, renaming and removing. There are no links. A path is
walked component by component, every one but the last having to be a directory; a path that ends in a
slash, or in a dot, names a directory. Each operation either changes one thing or fails and changes
nothing. Permission bits are kept and passed on, and they keep nobody out: whoever works with the disk may
read and write every file. -/

namespace SessionKeeper

/-- Why an operation on files failed. -/
inductive DiskError where
  | notFound
  | notDirectory
  | isDirectory
  | exists
  | busy
  | notText
deriving DecidableEq

/-- The text of a failure. -/
def DiskError.message : DiskError → String
  | .notFound => "No such file or directory (os error 2)"
  | .notDirectory => "Not a directory (os error 20)"
  | .isDirectory => "Is a directory (os error 21)"
  | .exists => "File exists (os error 17)"
  | .busy => "Device or resource busy (os error 16)"
  | .notText => "stream did not contain valid UTF-8"

/-- A directory or a file with its bytes and its permission bits. -/
inductive Node where
  | directory
  | file (bytes : ByteArray) (mode : Nat)

/-- The place of a directory or a file: the names on the way from the root. -/
abbrev Place := List String

/-- Permission to read and write for the owner alone. -/
def privateMode : Nat := 0o600

/-- Permission to read for everybody and to write for the owner. -/
def sharedMode : Nat := 0o644

/-- A file path: its components, whether it starts at the root, and whether it has to name a
directory. -/
structure FilePath where
  absolute : Bool
  parts : List String
  directory : Bool
deriving DecidableEq

namespace FilePath

/-- The parts of a text between slashes. -/
def splitSlashes : List Char → List (List Char)
  | [] => [[]]
  | '/' :: cs => [] :: splitSlashes cs
  | c :: cs =>
    match splitSlashes cs with
    | [] => [[c]]
    | p :: ps => (c :: p) :: ps

/-- Reads a path. Empty components and single dots do not count, except that at the end they ask for a
directory. -/
def ofText (s : String) : FilePath :=
  let parts := (splitSlashes s.toList).map String.ofList
  let blank (p : String) : Bool := p = "" || p = "."
  { absolute := s.toList.head? = some '/'
    parts := parts.filter fun p => !blank p
    directory := match parts.getLast? with
      | some p => blank p && s ≠ ""
      | none => false }

/-- The last component, unless it leads upwards. -/
def name? (p : FilePath) : Option String :=
  match p.parts.getLast? with
  | some ".." => none
  | n => n

/-- The path with another last component, or with a further one if the last leads upwards. -/
def withName (p : FilePath) (name : String) : FilePath where
  absolute := p.absolute
  parts := (if p.name?.isSome then p.parts.dropLast else p.parts) ++ [name]
  directory := false

/-- The directory that a path lies in. -/
def parent (p : FilePath) : FilePath where
  absolute := p.absolute
  parts := p.parts.dropLast
  directory := true

end FilePath

/-- The nodes below the root, which is always a directory, and the directory where relative paths
start. -/
structure Disk where
  nodes : List (Place × Node)
  here : Place

namespace Disk

/-- The node of an association list at a place. -/
def lookupPlace (p : Place) : List (Place × Node) → Option Node
  | [] => none
  | (q, n) :: r => if p = q then some n else lookupPlace p r

/-- The node at a place. -/
def node? (d : Disk) (p : Place) : Option Node :=
  if p.isEmpty then some .directory else lookupPlace p d.nodes

/-- Puts a node at a place. -/
def put (d : Disk) (p : Place) (n : Node) : Disk :=
  { d with nodes := (p, n) :: d.nodes.filter fun e => e.1 ≠ p }

/-- Takes away the node at a place. -/
def erase (d : Disk) (p : Place) : Disk :=
  { d with nodes := d.nodes.filter fun e => e.1 ≠ p }

/-- Walks the components from a directory. The result is the place of the last component, which need
not exist; all before it are directories. -/
def walk (d : Disk) (at_ : Place) : List String → Except DiskError Place
  | [] => .ok at_
  | [p] => .ok (if p = ".." then at_.dropLast else at_ ++ [p])
  | p :: ps =>
    let next := if p = ".." then at_.dropLast else at_ ++ [p]
    match d.node? next with
    | none => .error .notFound
    | some (.file ..) => .error .notDirectory
    | some .directory => d.walk next ps

/-- The place that a path names; the empty path names none. -/
def locate (d : Disk) (p : FilePath) : Except DiskError Place :=
  if p = ⟨false, [], false⟩ then .error .notFound
  else d.walk (if p.absolute then [] else d.here) p.parts

/-- The text of a file. -/
def readText (d : Disk) (p : FilePath) : Except DiskError String := do
  let place ← d.locate p
  match d.node? place with
  | none => .error .notFound
  | some .directory => .error .isDirectory
  | some (.file bytes _) =>
    if p.directory then .error .notDirectory
    else match String.fromUTF8? bytes with
      | some s => .ok s
      | none => .error .notText

/-- Makes a directory, unless it is there. -/
def makeDirectory (d : Disk) (p : FilePath) : Except DiskError Disk := do
  let place ← d.locate p
  match d.node? place with
  | none => return d.put place .directory
  | some .directory => return d
  | some (.file ..) => .error .exists

/-- Opens a file for writing: an existing one is emptied and keeps its permissions, a new one is for
the owner alone. -/
def truncate (d : Disk) (p : FilePath) : Except DiskError Disk := do
  let place ← d.locate p
  match d.node? place with
  | none => if p.directory then .error .isDirectory else return d.put place (.file .empty privateMode)
  | some .directory => .error .isDirectory
  | some (.file _ mode) =>
    if p.directory then .error .notDirectory else return d.put place (.file .empty mode)

/-- Adds bytes at the end of a file. -/
def append (d : Disk) (p : FilePath) (bytes : ByteArray) : Except DiskError Disk := do
  let place ← d.locate p
  match d.node? place with
  | some (.file old mode) => return d.put place (.file (old ++ bytes) mode)
  | some .directory => .error .isDirectory
  | none => .error .notFound

/-- Gives a file another name, in the place of the file that has it. No file can have the name of a
path that leads upwards at its end, or of one that has to name a directory, whatever is there. -/
def rename (d : Disk) (source target : FilePath) : Except DiskError Disk := do
  let old ← d.locate source
  let new ← d.locate target
  if target.name?.isNone then .error .busy
  else match d.node? old with
    | none => .error .notFound
    | some .directory => .error .isDirectory
    | some (.file bytes mode) =>
      if target.directory then .error .notDirectory
      else match d.node? new with
        | some .directory => .error .isDirectory
        | _ => return (d.erase old).put new (.file bytes mode)

/-- Removes a file. -/
def remove (d : Disk) (p : FilePath) : Except DiskError Disk := do
  let place ← d.locate p
  match d.node? place with
  | none => .error .notFound
  | some .directory => .error .isDirectory
  | some (.file ..) => if p.directory then .error .notDirectory else return d.erase place

/-- The places on the way from the root to a place, itself included. -/
def way (place : Place) : List Place := (List.range (place.length + 1)).map place.take

/-- Makes the directories that are missing on the way to a place. -/
def ensure (d : Disk) (place : Place) : Disk :=
  (way place).foldl (fun d p => if (d.node? p).isSome then d else d.put p .directory) d

/-- Puts a node at a place, with the directories that it lies in. -/
def install (d : Disk) (place : Place) (n : Node) : Disk := (d.ensure place.dropLast).put place n

/-- The nodes below a place, by their path from there. -/
def below (d : Disk) (place : Place) : List (Place × Node) :=
  d.nodes.filterMap fun e =>
    if place.isPrefixOf e.1 && e.1 != place then some (e.1.drop place.length, e.2) else none

/-- A disk whose only directories are those on the way to the starting directory. -/
def blank (here : Place) : Disk := (⟨[], here⟩ : Disk).ensure here

end Disk

end SessionKeeper
