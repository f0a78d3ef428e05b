import SessionKeeper.Proofs.Client.Restart
import SessionKeeper.Proofs.Credentials.Interruption

/-!
# The credential file as a medium

On a disk where everything lies in a directory the credential file is a reliable medium
(`CredentialFile.reliable`): what is saved is loaded, and a save that fails leaves what is loaded. No
action takes a disk out of that order, since a file is only made where its directory has been walked
through.
-/

namespace SessionKeeper

namespace Disk

variable {d d' : Disk}

/-- Everything lies in a directory, and relative paths start in one. -/
structure IsSound (d : Disk) : Prop where
  isTree : d.IsTree
  here : d.node? d.here = some .directory

theorem IsTree.put (H : d.IsTree) {place : Place} (hn : d.node? place ≠ some .directory)
    (hparent : d.node? place.dropLast = some .directory) (n : Node) : (d.put place n).IsTree := by
  have hkeeps : d.KeepsDirectories (d.put place n) := .put hn n
  intro q m hq
  refine hkeeps.node _ ?_
  by_cases hplace : q = place
  · rw [hplace]
    exact hparent
  · rw [node?_put_of_ne hplace] at hq
    exact H q m hq

theorem IsTree.erase (H : d.IsTree) {place : Place} (hn : d.node? place ≠ some .directory) :
    (d.erase place).IsTree := by
  have hkeeps : d.KeepsDirectories (d.erase place) := .erase hn
  intro q m hq
  refine hkeeps.node _ ?_
  by_cases hplace : q = place
  · subst hplace
    rw [node?_erase_self (ne_nil_of_node? hn)] at hq
    cases hq
  · rw [node?_erase_of_ne hplace] at hq
    exact H q m hq

/-- Where a walk arrives there is a directory, or the place lies in one. -/
theorem IsTree.walk (H : d.IsTree) {place r : Place} {ps : List String}
    (hplace : d.node? place = some .directory) (h : d.walk place ps = .ok r)
    (hn : d.node? r ≠ some .directory) : d.node? r.dropLast = some .directory := by
  induction ps generalizing place with
  | nil => cases h; exact absurd hplace hn
  | cons p ps ih =>
    cases ps with
    | nil =>
      cases h
      split
      next => exact H _ _ (H _ _ hplace)
      next => rwa [List.dropLast_concat]
    | cons q ps =>
      obtain ⟨hdir, h⟩ := walk_cons_ok.1 h
      exact ih hdir h

theorem IsSound.locate (H : d.IsSound) {p : FilePath} {place : Place} (h : d.locate p = .ok place)
    (hn : d.node? place ≠ some .directory) : d.node? place.dropLast = some .directory := by
  rw [Disk.locate] at h
  split at h
  · cases h
  · refine H.isTree.walk ?_ h hn
    split
    · rfl
    · exact H.here

end Disk

open DiskAction in
theorem DiskAction.isSound {d d' : Disk} {a : DiskAction} (H : d.IsSound)
    (h : a.perform d = .ok d') : d'.IsSound := by
  have hkeeps := keeps h
  refine ⟨?_, by rw [hkeeps.here]; exact hkeeps.node _ H.here⟩
  have hmakes {p : FilePath} (ha : a.Makes p) : d'.IsTree := by
    obtain rfl | ⟨place, hl, hn, rfl⟩ := ha.cases h
    · exact H.isTree
    · have hdir : d.node? place ≠ some .directory := by simp [hn]
      exact H.isTree.put hdir (H.locate hl hdir) _
  cases a with
  | tryDirectory p => exact hmakes .attempt
  | makeDirectory p => exact hmakes .demand
  | truncate p =>
    obtain ⟨place, hl, hn, rfl⟩ := Disk.truncate_eq h
    exact H.isTree.put hn (H.locate hl hn) _
  | append p b =>
    obtain ⟨place, old, mode, hl, hn, rfl⟩ := Disk.append_eq h
    have hdir : d.node? place ≠ some .directory := by simp [hn]
    exact H.isTree.put hdir (H.locate hl hdir) _
  | rename source target =>
    obtain ⟨old, new, bytes, mode, _, hl, hold, hnew, _, rfl⟩ := Disk.rename_eq h
    have hdir : d.node? old ≠ some .directory := by simp [hold]
    have herase : d.KeepsDirectories (d.erase old) := .erase hdir
    refine (H.isTree.erase hdir).put (Disk.node?_erase_ne hnew old) ?_ _
    exact herase.node _ (H.locate hl hnew)
  | remove p =>
    rw [perform] at h
    split at h
    next => cases h; exact H.isTree
    next =>
      obtain ⟨place, bytes, mode, _, hn, rfl⟩ := Disk.remove_eq h
      exact H.isTree.erase (by simp [hn])

namespace CredentialFile

theorem isSound_of_save {es : Entries} {f f' : CredentialFile} {r : Except StoreError Unit}
    (H : f.disk.IsSound) (h : save es f = (r, f')) : f'.path = f.path ∧ f'.disk.IsSound := by
  have hsound : (DiskAction.performAll f.disk (saveActions f.path es)).2.IsSound :=
    DiskAction.performAll_invariant (fun _ _ _ _ H => DiskAction.isSound H) H
  simp only [save] at h
  split at h
  all_goals
    next hall =>
      rw [hall] at hsound
      cases h
      exact ⟨rfl, hsound⟩

/-- On a disk where everything lies in a directory, a file at a path without `..` keeps what is saved. -/
theorem reliable : Medium.Reliable fun f : CredentialFile => f.path.IsPlain ∧ f.disk.IsSound where
  saved := by
    rintro es f f' ⟨hp, hd⟩ h
    obtain ⟨hpath, hsound⟩ := isSound_of_save hd h
    have hload := (saved_of_saveActions (performAll_of_save h).1).load
    rw [← hpath] at hp hload
    exact ⟨⟨hp, hsound⟩, hload⟩
  refused := by
    rintro es e f f' ⟨hp, hd⟩ h
    obtain ⟨hpath, hsound⟩ := isSound_of_save hd h
    refine ⟨⟨hpath ▸ hp, hsound⟩, ?_⟩
    simp only [Medium.save, save] at h
    split at h
    next => cases h
    next hall =>
      cases h
      exact load_of_failed hp hd.isTree hall

end CredentialFile

end SessionKeeper
