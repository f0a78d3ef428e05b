import SessionKeeper.Dictionary

/-! # Where credentials are kept

A medium holds all entries at once: it is loaded as a whole and saved as a whole, and either can fail.
`Memory` is the medium of a process; which of its saves fail is part of it, so that a run can be
followed under any pattern of failures. -/

namespace SessionKeeper

/-- The entries of a credential store. -/
abbrev Entries := Dictionary String

/-- Why a medium could not be loaded or saved. -/
inductive StoreError where
  | io (reason : String)
  | json (reason : String)
deriving DecidableEq

/-- The text of a store error. -/
def StoreError.message : StoreError → String
  | .io r => "credential storage I/O failed: " ++ r
  | .json r => "credential storage is not valid JSON: " ++ r

/-- A place that keeps entries between runs; `σ` is its state. -/
class Medium (σ : Type) where
  /-- The entries kept. -/
  load : σ → Except StoreError Entries
  /-- Keeps these entries in the place of all others. -/
  save : Entries → σ → Except StoreError Unit × σ

/-- Entries in memory. The `n`-th save, counted from zero, fails if `saveFails n`. -/
structure Memory where
  entries : Entries
  saves : Nat
  saveFails : Nat → Bool
  loadFails : Bool

namespace Memory

/-- A memory with these entries, of which no save and no load fails. -/
def ofEntries (es : Entries) : Memory := ⟨es, 0, fun _ => false, false⟩

/-- The failure of a save. -/
def diskFull : StoreError := .io "disk full"

/-- The failure of a load. -/
def unreadable : StoreError := .io "disk unreadable"

/-- From now on all saves, and all loads, fail or succeed. -/
def failing (m : Memory) (save load : Bool) : Memory :=
  { m with saveFails := fun _ => save, loadFails := load }

instance : Medium Memory where
  load m := if m.loadFails then .error unreadable else .ok m.entries
  save es m :=
    let m' := { m with saves := m.saves + 1 }
    if m.saveFails m.saves then (.error diskFull, m') else (.ok (), { m' with entries := es })

end Memory

end SessionKeeper
