import SessionKeeper.Client.Basic
import SessionKeeper.Credentials.File

/-! # Storage scenes

Steps on a credential store and on the medium below it, and what each of them brings about. A store is
opened on the vault of the scene, or on a memory of its own. -/

namespace SessionKeeper.Rehearsal

/-- A step on an open store. -/
inductive StoreStep where
  | saveLogin (u : User) (t : TokenPair)
  | updateTokens (sent access : String) (rotated : Option String)
  | clearIfRefresh (rejected : String)
  | updateUser (u : User)
  | clear
  | hydrate

/-- What a step on a store brings about. -/
inductive StoreFinding where
  | nothing
  | flag (b : Bool)
  | session (s : Session)

/-- Takes a step on a store. -/
def StoreStep.apply [Medium σ] (step : StoreStep) (s : Store σ) :
    Except StoreError StoreFinding × Store σ :=
  match step with
  | .saveLogin u t => let (r, s) := s.saveLogin u t; (r.map fun _ => .nothing, s)
  | .updateTokens sent access rotated =>
    let (r, s) := s.updateTokens sent access rotated; (r.map .flag, s)
  | .clearIfRefresh rejected => let (r, s) := s.clearIfRefresh rejected; (r.map .flag, s)
  | .updateUser u => let (r, s) := s.updateUser u; (r.map .flag, s)
  | .clear => let (r, s) := s.clear; (r.map fun _ => .nothing, s)
  | .hydrate => (.ok (.session (Client.hydrate s)), s)

/-- A step of a storage scene. -/
inductive StorageStep where
  /-- Opens a store on the vault. -/
  | openStore
  /-- Opens a store on a memory of its own. -/
  | openInMemory
  /-- Loads the entries of the vault, past any store. -/
  | load
  /-- Saves entries in the vault, past any store. -/
  | save (es : Entries)
  /-- From now on saves and loads of a memory fail, or do not. -/
  | failing (saves loads : Bool)
  /-- Writes files. -/
  | write (files : List (String × ByteArray))
  | onStore (step : StoreStep)

/-- The open store of a scene. -/
inductive OpenStore where
  | closed
  /-- On the vault of the scene; only the entries are kept here. -/
  | onVault (entries : Entries)
  | alone (s : Store Memory)

/-- A storage scene. -/
structure Storage where
  vault : Vault
  store : OpenStore

/-- What a step of a storage scene brings about. -/
inductive StorageFinding where
  | ofStore (f : StoreFinding)
  | entries (es : Entries)
  /-- The step needs a store, and none is open. -/
  | notOpen

/-- The user and the tokens that a store holds, and whether it is empty and consistent. -/
structure StoreView where
  user : Option User
  access : Option String
  refresh : Option String
  isEmpty : Bool
  isConsistent : Bool

/-- What a store holds. -/
def StoreView.ofStore (s : Store σ) : StoreView :=
  ⟨s.user, s.accessToken, s.refreshToken, s.isEmpty, s.isConsistent⟩

/-- The disk with a file written, in the place of one that may be there. -/
def writeFile (d : Disk) (path : String) (bytes : ByteArray) : Disk :=
  let place := d.here ++ (FilePath.ofText path).parts
  match d.node? place with
  | some (.file _ mode) => d.put place (.file bytes mode)
  | _ => d.install place (.file bytes sharedMode)

/-- The disk with a directory made. -/
def makeDirectories (d : Disk) (path : String) : Disk :=
  d.ensure (d.here ++ (FilePath.ofText path).parts)

namespace Storage

/-- The scene that keeps its entries in memory. -/
def inMemory (es : Entries) : Storage := ⟨.memory (.ofEntries es), .closed⟩

/-- The directory that relative paths start from. -/
def here : Place := ["scratch"]

/-- The disk of a scene: directories and files below the directory that relative paths start from. -/
def diskOf (dirs : List String) (files : List (String × ByteArray)) : Disk :=
  files.foldl (fun d f => writeFile d f.1 f.2) (dirs.foldl makeDirectories (.blank here))

/-- The scene that keeps its entries in a file. -/
def inFile (path : String) (d : Disk) : Storage := ⟨.file ⟨.ofText path, d⟩, .closed⟩

/-- What the open store holds. -/
def view (s : Storage) : Option StoreView :=
  match s.store with
  | .closed => none
  | .onVault es => some (.ofStore (⟨es, s.vault⟩ : Store Vault))
  | .alone st => some (.ofStore st)

/-- Takes a step. -/
def step (s : Storage) : StorageStep → Except StoreError StorageFinding × Storage
  | .openStore =>
    match Store.openOn s.vault with
    | (.ok st, v) => (.ok (.ofStore .nothing), ⟨v, .onVault st.entries⟩)
    | (.error e, v) => (.error e, ⟨v, .closed⟩)
  | .openInMemory => (.ok (.ofStore .nothing), { s with store := .alone ⟨.empty, .ofEntries .empty⟩ })
  | .load => ((Medium.load s.vault).map .entries, s)
  | .save es =>
    let (r, v) := Medium.save es s.vault
    (r.map fun _ => .ofStore .nothing, { s with vault := v })
  | .failing saves loads =>
    (.ok (.ofStore .nothing), match s.vault with
      | .memory m => { s with vault := .memory (m.failing saves loads) }
      | .file _ => s)
  | .write files =>
    (.ok (.ofStore .nothing), match s.vault with
      | .memory _ => s
      | .file f =>
        let d := files.foldl (fun d e => writeFile d e.1 e.2) f.disk
        { s with vault := .file { f with disk := d } })
  | .onStore step =>
    match s.store with
    | .closed => (.ok .notOpen, s)
    | .onVault es =>
      let (r, st) := step.apply (⟨es, s.vault⟩ : Store Vault)
      (r.map .ofStore, ⟨st.medium, .onVault st.entries⟩)
    | .alone st =>
      let (r, st) := step.apply st
      (r.map .ofStore, { s with store := .alone st })

/-- Takes the steps in order: what each brings about, and the scene after it. -/
def steps (s : Storage) : List StorageStep → List (Except StoreError StorageFinding × Storage)
  | [] => []
  | x :: xs =>
    let (r, s) := s.step x
    (r, s) :: s.steps xs

end Storage

end SessionKeeper.Rehearsal
