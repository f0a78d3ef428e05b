import SessionKeeper.Proofs.Credentials.Payload
import SessionKeeper.Proofs.Credentials.Walking

/-!
# What a save leaves on the disk

A save that succeeds has performed all its actions, none of which takes a directory away
(`DiskAction.keeps`), so that a path that names a place along the way still names it at the end. The
payload is written beside the file and then given its name (`Replaced`), with the permissions that
the temporary file had: the loaded entries are the saved ones (`saved_of_save`), and they are private
unless a file lay in the way whose permissions were others (`mode_of_save`).
-/

namespace SessionKeeper

/-! ## Performing actions -/

namespace DiskAction

variable {d d' : Disk}

theorem performAll_append (d : Disk) (as bs : List DiskAction) :
    performAll d (as ++ bs) =
      match performAll d as with
      | (.ok (), d') => performAll d' bs
      | (.error e, d') => (.error e, d') := by
  induction as generalizing d with
  | nil => rfl
  | cons a as ih =>
    simp only [List.cons_append, performAll]
    cases a.perform d with
    | error e => rfl
    | ok d' => exact ih d'

/-- The actions that succeed after a first one. -/
theorem performAll_cons_ok {a : DiskAction} {as : List DiskAction} :
    performAll d (a :: as) = (.ok (), d') ↔
      ∃ d₁, a.perform d = .ok d₁ ∧ performAll d₁ as = (.ok (), d') := by
  rw [performAll]
  cases a.perform d with
  | error e => simp
  | ok d₁ => simp

theorem performAll_append_ok {as bs : List DiskAction} :
    performAll d (as ++ bs) = (.ok (), d') ↔
      ∃ d₁, performAll d as = (.ok (), d₁) ∧ performAll d₁ bs = (.ok (), d') := by
  rw [performAll_append]
  cases h : performAll d as with
  | mk r d₁ => cases r <;> simp

/-- What each action keeps, if it succeeds, holds wherever they stop. -/
theorem performAll_invariant {P : Disk → Prop} {as : List DiskAction}
    (h : ∀ a ∈ as, ∀ d d', P d → a.perform d = .ok d' → P d') {d : Disk} (hd : P d) :
    P (performAll d as).2 := by
  induction as generalizing d with
  | nil => exact hd
  | cons a as ih =>
    rw [performAll]
    cases ha : a.perform d with
    | error e => exact hd
    | ok d' =>
      exact ih (fun b hb => h b (List.mem_cons_of_mem a hb)) (h a List.mem_cons_self d d' hd ha)

/-- The action makes a directory at the path, and nothing else. -/
inductive Makes (p : FilePath) : DiskAction → Prop where
  | attempt : Makes p (.tryDirectory p)
  | demand : Makes p (.makeDirectory p)

theorem Makes.cases {a : DiskAction} {p : FilePath} (ha : a.Makes p) (h : a.perform d = .ok d') :
    d' = d ∨ ∃ place, d.locate p = .ok place ∧ d.node? place = none ∧
      d' = d.put place .directory := by
  cases ha with
  | demand => exact Disk.makeDirectory_cases h
  | attempt =>
    rw [perform] at h
    split at h
    · cases h
      exact .inl rfl
    · exact Disk.makeDirectory_cases h

theorem Makes.keeps {a : DiskAction} {p : FilePath} (ha : a.Makes p) (h : a.perform d = .ok d') :
    d.KeepsDirectories d' := by
  obtain rfl | ⟨place, _, hn, rfl⟩ := ha.cases h
  · exact .refl _
  · exact .put (by simp [hn]) _

/-- No action takes a directory away. -/
theorem keeps {a : DiskAction} (h : a.perform d = .ok d') : d.KeepsDirectories d' := by
  cases a with
  | tryDirectory p => exact Makes.attempt.keeps h
  | makeDirectory p => exact Makes.demand.keeps h
  | truncate p =>
    obtain ⟨place, _, hn, rfl⟩ := Disk.truncate_eq h
    exact .put hn _
  | append p b =>
    obtain ⟨place, old, mode, _, hn, rfl⟩ := Disk.append_eq h
    exact .put (by simp [hn]) _
  | rename source target =>
    obtain ⟨old, new, bytes, mode, _, _, hold, hnew, _, rfl⟩ := Disk.rename_eq h
    have herase : d.KeepsDirectories (d.erase old) := .erase (by simp [hold])
    exact herase.trans (.put (Disk.node?_erase_ne hnew old) _)
  | remove p =>
    rw [perform] at h
    split at h
    next => cases h; exact .refl d
    next =>
      obtain ⟨place, bytes, mode, _, hn, rfl⟩ := Disk.remove_eq h
      exact .erase (by simp [hn])

theorem performAll_keeps {as : List DiskAction} {r : Except DiskError Unit}
    (h : performAll d as = (r, d')) : d.KeepsDirectories d' := by
  have H : d.KeepsDirectories (performAll d as).2 :=
    performAll_invariant (fun _ _ _ _ H h => H.trans (keeps h)) (.refl d)
  rwa [h] at H

/-- Making directories changes nothing but that those that were missing are there. -/
theorem performAll_makes {ps : List FilePath} {as : List DiskAction}
    (has : ∀ a ∈ as, ∃ p ∈ ps, a.Makes p) (h : performAll d as = (.ok (), d')) (q : Place) :
    d'.node? q = d.node? q ∨
      d.node? q = none ∧ d'.node? q = some .directory ∧ ∃ p ∈ ps, d'.locate p = .ok q := by
  induction as generalizing d with
  | nil => cases h; exact .inl rfl
  | cons a as ih =>
    obtain ⟨⟨p, hp, ha⟩, has⟩ := List.forall_mem_cons.1 has
    obtain ⟨d₁, h₁, h⟩ := performAll_cons_ok.1 h
    have hkeeps := performAll_keeps h
    obtain hsame | ⟨hnone, hdir, hloc⟩ := ih has h
    · obtain rfl | ⟨place, hl, hn, rfl⟩ := ha.cases h₁
      · exact .inl hsame
      · by_cases hq : q = place
        · subst hq
          have hne : q ≠ [] := Disk.ne_nil_of_node? (d := d) (by simp [hn])
          have hself := Disk.node?_put_self (d := d) hne .directory
          exact .inr ⟨hn, hsame.trans hself, p, hp, hkeeps.locate ((keeps h₁).locate hl)⟩
        · exact .inl (by rw [hsame, Disk.node?_put_of_ne hq])
    · refine .inr ⟨?_, hdir, hloc⟩
      obtain rfl | ⟨place, _, hn, rfl⟩ := ha.cases h₁
      · exact hnone
      · by_cases hq : q = place
        · exact hq ▸ hn
        · rwa [Disk.node?_put_of_ne hq] at hnone

/-- Bytes that are added one by one end up behind one another. -/
theorem performAll_appends {p : FilePath} {place : Place} {bs : List UInt8} {bytes : ByteArray}
    {mode : Nat} (hl : d.locate p = .ok place) (hn : d.node? place = some (.file bytes mode))
    (h : performAll d (bs.map (.append p)) = (.ok (), d')) :
    d'.node? place = some (.file (bytes ++ bs.toByteArray) mode) ∧
      ∀ q, q ≠ place → d'.node? q = d.node? q := by
  induction bs generalizing d bytes with
  | nil => cases h; exact ⟨by simpa using hn, fun q _ => rfl⟩
  | cons b bs ih =>
    obtain ⟨d₁, h₁, h⟩ := performAll_cons_ok.1 h
    have hl₁ := (keeps h₁).locate hl
    obtain ⟨place', old, mode', hl', hn', rfl⟩ := Disk.append_eq h₁
    rw [hl] at hl'
    cases hl'
    rw [hn] at hn'
    cases hn'
    have hne : place ≠ [] := Disk.ne_nil_of_node? (d := d) (by simp [hn])
    obtain ⟨hplace, hother⟩ := ih hl₁ (Disk.node?_put_self hne _) h
    rw [append_toByteArray_cons]
    exact ⟨hplace, fun q hq => by rw [hother q hq, Disk.node?_put_of_ne hq]⟩

end DiskAction

namespace CredentialFile

open DiskAction

variable {p : FilePath} {d d' : Disk} {es : Entries}

/-! ## The temporary file -/

theorem append_tmp_ne (name : String) : name ++ ".tmp" ≠ ".." ∧ name ++ ".tmp" ≠ name := by
  have htmp : ".tmp".length = 4 := rfl
  have htwo : "..".length = 2 := rfl
  have hlen : (name ++ ".tmp").length = name.length + 4 := by rw [String.length_append, htmp]
  constructor
  · intro h
    rw [h] at hlen
    omega
  · intro h
    rw [h] at hlen
    omega

/-- The temporary file has another last component than the file, or a further one. -/
theorem temporary_parts (p : FilePath) : ∃ (pre : List String) (name : Option String),
    name ≠ some ".." ∧ p.parts = pre ++ name.toList ∧
      (temporary p).parts = pre ++ [name.getD "" ++ ".tmp"] := by
  rcases List.eq_nil_or_concat p.parts with h | ⟨pre, last, h⟩
  · exact ⟨[], none, by simp, by simp [h], by simp [temporary, FilePath.withName, FilePath.name?, h]⟩
  · rw [List.concat_eq_append] at h
    by_cases hlast : last = ".."
    · have hname : p.name? = none := by simp [FilePath.name?, h, hlast]
      exact ⟨p.parts, none, by simp, by simp, by simp [temporary, FilePath.withName, hname]⟩
    · have hname : p.name? = some last := by
        simp only [FilePath.name?, h, List.getLast?_concat]
        split
        next heq => exact absurd (Option.some.inj heq) hlast
        next => rfl
      exact ⟨pre, some last, by simpa using hlast, by simp [h],
        by simp [temporary, FilePath.withName, hname, h]⟩

/-- The temporary file is not the file. -/
theorem temporary_apart {source target : Place} (hs : d.locate (temporary p) = .ok source)
    (ht : d.locate p = .ok target) : source ≠ target := by
  obtain ⟨pre, name, hname, hparts, htmp⟩ := temporary_parts p
  have habs : (temporary p).absolute = p.absolute := rfl
  rw [Disk.locate] at hs ht
  split at hs
  · cases hs
  split at ht
  · cases ht
  rw [habs, htmp] at hs
  rw [hparts] at ht
  -- both walks come by the same place, and only their last components differ
  obtain ⟨base, hbase, rfl, hother⟩ := Disk.walk_concat hs
  have hsource : Disk.enter base (name.getD "" ++ ".tmp") = base ++ [name.getD "" ++ ".tmp"] :=
    if_neg (append_tmp_ne _).1
  rw [hsource]
  cases name with
  | none =>
    rw [Option.toList_none, List.append_nil, hbase] at ht
    cases ht
    exact fun h => by simpa using congrArg List.length h
  | some n =>
    rw [Option.toList_some, hother] at ht
    cases ht
    rw [Disk.enter, if_neg (by simpa using hname)]
    simp [(append_tmp_ne n).2]

/-! ## Writing beside the file -/

theorem makes_of_mem {a : DiskAction} (ha : a ∈ directoryActions p) : ∃ q ∈ parents p, a.Makes q := by
  obtain ha | ha := List.mem_append.1 ha
  · obtain ⟨q, hq, rfl⟩ := List.mem_map.1 ha
    exact ⟨q, List.mem_of_getLast? (Option.mem_toList.1 hq), .attempt⟩
  · obtain ⟨q, hq, rfl⟩ := List.mem_map.1 ha
    exact ⟨q, hq, .demand⟩

/-- The actions of a save before the renaming. -/
def preparations (p : FilePath) (es : Entries) : List DiskAction :=
  directoryActions p ++ .truncate (temporary p) ::
    (Json.prettyDictionary es).toUTF8.toList.map (.append (temporary p))

theorem saveActions_eq (h : es.isEmpty = false) (p : FilePath) :
    saveActions p es = preparations p es ++ [.rename (temporary p) p] := by
  simp [saveActions, preparations, h]

/-- A place has come by the directory that was missing on the way to the file. -/
def MadeParent (p : FilePath) (d d' : Disk) (q : Place) : Prop :=
  d.node? q = none ∧ d'.node? q = some .directory ∧ ∃ r ∈ parents p, d'.locate r = .ok q

/-- When all preparations have succeeded the temporary file holds the payload, with the permissions
that it was found with, and else there are only the directories that were missing. -/
theorem payload_of_preparations (h : performAll d (preparations p es) = (.ok (), d')) :
    ∃ source, d'.locate (temporary p) = .ok source ∧
      d'.node? source = some (.file (Json.prettyDictionary es).toUTF8 (d.modeAt source)) ∧
      ∀ q, q ≠ source → d'.node? q = d.node? q ∨ MadeParent p d d' q := by
  obtain ⟨d₁, h₁, h⟩ := performAll_append_ok.1 h
  obtain ⟨d₂, h₂, h⟩ := performAll_cons_ok.1 h
  have hmade := performAll_makes (fun _ => makes_of_mem) h₁
  have hkeeps : d₁.KeepsDirectories d' := (keeps h₂).trans (performAll_keeps h)
  have hkeeps₂ := keeps h₂
  obtain ⟨source, hl₁, hn, rfl⟩ := Disk.truncate_eq h₂
  -- a place that has come by a directory is not opened, so the file is as it was at first
  have hmode : d₁.modeAt source = d.modeAt source := by
    obtain hsame | ⟨_, hdir, _⟩ := hmade source
    · rw [Disk.modeAt, Disk.modeAt, hsame]
    · exact absurd hdir hn
  obtain ⟨hpayload, hother⟩ :=
    performAll_appends (hkeeps₂.locate hl₁) (Disk.node?_put_self (Disk.ne_nil_of_node? hn) _) h
  rw [toByteArray_toList, ByteArray.empty_append, hmode] at hpayload
  refine ⟨source, hkeeps.locate hl₁, hpayload, fun q hq => ?_⟩
  have hafter : d'.node? q = d₁.node? q := by rw [hother q hq, Disk.node?_put_of_ne hq]
  obtain hsame | ⟨hnone, hdir, r, hr, hloc⟩ := hmade q
  · exact .inl (hafter.trans hsame)
  · exact .inr ⟨hnone, hafter.trans hdir, r, hr, hkeeps.locate hloc⟩

/-! ## Taking its place -/

/-- The payload has gone from the place beside the file to that of the file, and else there are only
the directories that were missing. -/
structure Replaced (p : FilePath) (es : Entries) (d d' : Disk) (source target : Place) : Prop where
  isFile : p.directory = false
  locate_source : d'.locate (temporary p) = .ok source
  locate_target : d'.locate p = .ok target
  payload : d'.node? target = some (.file (Json.prettyDictionary es).toUTF8 (d.modeAt source))
  cleared : d'.node? source = none
  elsewhere : ∀ q, q ≠ source → q ≠ target → d'.node? q = d.node? q ∨ MadeParent p d d' q

theorem replaced_of_saveActions (he : es.isEmpty = false)
    (h : performAll d (saveActions p es) = (.ok (), d')) :
    ∃ source target, Replaced p es d d' source target := by
  rw [saveActions_eq he] at h
  obtain ⟨d₁, h₁, h⟩ := performAll_append_ok.1 h
  obtain ⟨d₂, h₂, h⟩ := performAll_cons_ok.1 h
  cases h
  have hkeeps := keeps h₂
  obtain ⟨source, hl, hn, hother⟩ := payload_of_preparations h₁
  -- the temporary file is found where the preparations left it
  obtain ⟨old, target, bytes, mode, hold, ht, hn', hnew, hfile, rfl⟩ := Disk.rename_eq h₂
  rw [hl] at hold
  cases hold
  rw [hn] at hn'
  cases hn'
  have hapart := temporary_apart hl ht
  refine ⟨source, target, hfile, hkeeps.locate hl, hkeeps.locate ht,
    Disk.node?_put_self (Disk.ne_nil_of_node? hnew) _, ?_, fun q hs ht => ?_⟩
  · rw [Disk.node?_put_of_ne hapart,
      Disk.node?_erase_self (Disk.ne_nil_of_node? (d := d₁) (by simp [hn]))]
  · have hafter : ((d₁.erase source).put target
        (.file (Json.prettyDictionary es).toUTF8 (d.modeAt source))).node? q = d₁.node? q := by
      rw [Disk.node?_put_of_ne ht, Disk.node?_erase_of_ne hs]
    obtain hsame | ⟨hnone, hdir, r, hr, hloc⟩ := hother q hs
    · exact .inl (hafter.trans hsame)
    · exact .inr ⟨hnone, hafter.trans hdir, r, hr, hkeeps.locate hloc⟩

theorem Replaced.load {source target : Place} (H : Replaced p es d d' source target) :
    load ⟨p, d'⟩ = .ok es := by
  have hread : d'.readText p = .ok (Json.prettyDictionary es) := by
    rw [Disk.readText_eq, H.locate_target, Except.bind, H.payload, Disk.content, H.isFile,
      fromUTF8?_toUTF8]
    rfl
  rw [CredentialFile.load, hread]
  exact entriesOfText_prettyDictionary es

/-! ## Removal -/

/-- The file is not there any more, or was not there before, and nothing else is different. -/
theorem removed_of_perform (h : (DiskAction.remove p).perform d = .ok d') :
    d'.readText p = .error .notFound ∧ ∀ q, d'.locate p ≠ .ok q → d'.node? q = d.node? q := by
  have hkeeps := keeps h
  rw [perform] at h
  split at h
  next hr =>
    cases h
    exact ⟨Disk.readText_of_remove hr, fun q _ => rfl⟩
  next =>
    obtain ⟨place, bytes, mode, hl, hn, rfl⟩ := Disk.remove_eq h
    have hl' := hkeeps.locate hl
    have hne : place ≠ [] := Disk.ne_nil_of_node? (d := d) (by simp [hn])
    refine ⟨Disk.readText_of_vacant hl' (Disk.node?_erase_self hne), fun q hq => ?_⟩
    rw [Disk.node?_erase_of_ne (by rintro rfl; exact hq hl')]

theorem load_of_readText (h : d.readText p = .error .notFound) : load ⟨p, d⟩ = .ok .empty := by
  rw [load, h]

/-! ## Saves that succeed -/

theorem performAll_of_save {f f' : CredentialFile} (h : save es f = (.ok (), f')) :
    performAll f.disk (saveActions f.path es) = (.ok (), f'.disk) ∧ f'.path = f.path := by
  simp only [save] at h
  split at h
  next hall => cases h; exact ⟨hall, rfl⟩
  next => cases h

/-- What a save of the entries leaves: they are what is loaded, and the file is gone if there are none
of them, the temporary file if there are some. Elsewhere there are only the directories that the file
was missing. -/
structure Saved (p : FilePath) (es : Entries) (d d' : Disk) : Prop where
  here : d'.here = d.here
  load : load ⟨p, d'⟩ = .ok es
  gone : es = .empty → d'.readText p = .error .notFound
  cleared : es ≠ .empty → d'.readText (temporary p) = .error .notFound
  elsewhere : ∀ q, d'.locate p ≠ .ok q → (es ≠ .empty → d'.locate (temporary p) ≠ .ok q) →
    d'.node? q = d.node? q ∨ es ≠ .empty ∧ MadeParent p d d' q

theorem saved_of_saveActions (h : performAll d (saveActions p es) = (.ok (), d')) :
    Saved p es d d' := by
  have hhere := (performAll_keeps h).here
  cases he : es.isEmpty with
  | true =>
    obtain rfl := Dictionary.isEmpty_iff.1 he
    rw [saveActions, he, if_pos rfl] at h
    obtain ⟨d₁, h₁, h⟩ := performAll_cons_ok.1 h
    cases h
    obtain ⟨hgone, helsewhere⟩ := removed_of_perform h₁
    exact ⟨hhere, load_of_readText hgone, fun _ => hgone, fun h => absurd rfl h,
      fun q hq _ => .inl (helsewhere q hq)⟩
  | false =>
    have hne : es ≠ .empty := by
      rintro rfl
      cases he
    obtain ⟨source, target, H⟩ := replaced_of_saveActions he h
    refine ⟨hhere, H.load, fun h => absurd h hne,
      fun _ => Disk.readText_of_vacant H.locate_source H.cleared, fun q ht hs => ?_⟩
    have hsource : q ≠ source := by
      rintro rfl
      exact hs hne H.locate_source
    have htarget : q ≠ target := by
      rintro rfl
      exact ht H.locate_target
    exact (H.elsewhere q hsource htarget).imp_right fun hmade => ⟨hne, hmade⟩

/-- A saved file has the permissions of the file that lay where the temporary file is written, and is
its owner's alone exactly if none lay there that was not. -/
theorem mode_of_save {f f' : CredentialFile} (he : es ≠ .empty) (h : save es f = (.ok (), f')) :
    ∃ source, f'.disk.locate (temporary f.path) = .ok source ∧
      f'.disk.mode? f'.path = some (f.disk.modeAt source) ∧
      (f'.disk.mode? f'.path = some privateMode ↔
        ∀ bytes mode, f.disk.node? source = some (.file bytes mode) → mode = privateMode) := by
  obtain ⟨hall, hpath⟩ := performAll_of_save h
  have hne : es.isEmpty = false := by
    simpa [← Dictionary.isEmpty_iff] using he
  obtain ⟨source, target, H⟩ := replaced_of_saveActions hne hall
  have hmode : f'.disk.mode? f'.path = some (f.disk.modeAt source) := by
    rw [hpath]
    exact Disk.mode?_eq H.locate_target H.payload
  refine ⟨source, H.locate_source, hmode, ?_⟩
  rw [hmode, Option.some.injEq, Disk.modeAt]
  split
  next bytes mode hn =>
    refine ⟨fun hmode bytes' mode' hn' => ?_, fun hall => hall bytes mode hn⟩
    rw [hn] at hn'
    cases hn'
    exact hmode
  next hn => exact iff_of_true rfl fun bytes mode h => absurd h (hn bytes mode)

/-- The file that is replaced could be read by everybody; nothing lay beside it. -/
theorem mode_of_save_over_shared :
    let f : CredentialFile :=
      ⟨.ofText "s", ⟨[(["home"], .directory), (["home", "s"], .file .empty sharedMode)], ["home"]⟩⟩
    let es : Entries := .ofList [("user", "u")]
    let f' := (save es f).2
    es ≠ .empty ∧ save es f = (.ok (), f') ∧ f'.disk.mode? f'.path = some privateMode := by
  intro f es f'
  have he : es ≠ .empty := by decide
  have h : save es f = (.ok (), f') := by
    have hok : (save es f).1 = .ok () := by decide +kernel
    exact Prod.ext hok rfl
  obtain ⟨source, hl, _, hprivate⟩ := mode_of_save he h
  have hsource : f'.disk.locate (temporary f.path) = .ok ["home", "s.tmp"] := by decide +kernel
  rw [hsource] at hl
  cases hl
  have hvacant : f.disk.node? ["home", "s.tmp"] = none := by decide +kernel
  exact ⟨he, h, hprivate.2 fun bytes mode hn => by rw [hvacant] at hn; cases hn⟩

/-- A file that everybody can read lies where the temporary file is written: the save succeeds, and
everybody can read the credentials. -/
theorem mode_of_save_beside_shared :
    let f : CredentialFile :=
      ⟨.ofText "s", ⟨[(["home"], .directory), (["home", "s.tmp"], .file .empty sharedMode)], ["home"]⟩⟩
    let es : Entries := .ofList [("user", "u")]
    let f' := (save es f).2
    es ≠ .empty ∧ (save es f).1 = .ok () ∧ f'.disk.mode? f'.path = some sharedMode ∧
      sharedMode ≠ privateMode := by
  refine ⟨by decide, by decide +kernel, by decide +kernel, by decide⟩

end CredentialFile

end SessionKeeper
