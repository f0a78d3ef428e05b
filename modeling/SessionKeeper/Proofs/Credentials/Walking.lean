import SessionKeeper.Credentials.Disk

/-!
# What changes on a disk leave to be read

A path without `..` names the place of its components (`locate_eq`), and only the directories above
that place decide whether it is reached; where no directory goes, a path that names a place goes on
naming it (`KeepsDirectories.locate`). `Grown` says that a disk has come by directories that were
missing above a target, and by anything at one other place beside it. On a disk where everything
lies in a directory, nothing was below what was missing, so the target reads as before
(`Grown.readText_eq`).
-/

namespace SessionKeeper

/-- No component leads upwards. -/
def FilePath.IsPlain (p : FilePath) : Prop := ∀ q ∈ p.parts, q ≠ ".."

namespace Disk

variable {d d' d'' : Disk}

/-! ## Nodes -/

theorem lookupPlace_filter {p q : Place} (h : q ≠ p) (ns : List (Place × Node)) :
    lookupPlace q (ns.filter fun e => e.1 ≠ p) = lookupPlace q ns := by
  induction ns with
  | nil => rfl
  | cons e ns ih =>
    obtain ⟨r, n⟩ := e
    by_cases hr : r = p
    · subst hr
      simpa [lookupPlace, h] using ih
    · simp only [List.filter_cons, hr, ne_eq, not_false_eq_true, decide_true, if_true, lookupPlace]
      rw [ih]

theorem lookupPlace_filter_self (p : Place) (ns : List (Place × Node)) :
    lookupPlace p (ns.filter fun e => e.1 ≠ p) = none := by
  induction ns with
  | nil => rfl
  | cons e ns ih =>
    obtain ⟨r, n⟩ := e
    by_cases hr : r = p
    · simpa [hr] using ih
    · simpa [hr, lookupPlace, Ne.symm hr] using ih

theorem node?_put_of_ne {p q : Place} (h : q ≠ p) (n : Node) : (d.put p n).node? q = d.node? q := by
  simp only [node?, put, lookupPlace, if_neg h, lookupPlace_filter h]

theorem node?_put_self {p : Place} (h : p ≠ []) (n : Node) : (d.put p n).node? p = some n := by
  simp [node?, put, lookupPlace, h]

theorem node?_erase_of_ne {p q : Place} (h : q ≠ p) : (d.erase p).node? q = d.node? q := by
  simp only [node?, erase, lookupPlace_filter h]

theorem node?_erase_self {p : Place} (h : p ≠ []) : (d.erase p).node? p = none := by
  simp only [node?, erase, lookupPlace_filter_self]
  simp [h]

theorem ne_nil_of_node? {place : Place} (h : d.node? place ≠ some .directory) : place ≠ [] := by
  rintro rfl
  exact h rfl

theorem node?_erase_ne {q : Place} (h : d.node? q ≠ some .directory) (p : Place) :
    (d.erase p).node? q ≠ some .directory := by
  by_cases hq : q = p
  · subst hq
    rw [node?_erase_self (ne_nil_of_node? h)]
    nofun
  · rwa [node?_erase_of_ne hq]

/-- Everything lies in a directory. -/
def IsTree (d : Disk) : Prop :=
  ∀ place n, d.node? place = some n → d.node? place.dropLast = some .directory

theorem IsTree.node?_append (H : d.IsTree) {place : Place} (h : d.node? place = none)
    (ps : List String) : d.node? (place ++ ps) = none := by
  induction ps generalizing place with
  | nil => simpa using h
  | cons p ps ih =>
    have hp : d.node? (place ++ [p]) = none := by
      cases hn : d.node? (place ++ [p]) with
      | none => rfl
      | some n =>
        have := H _ _ hn
        rw [List.dropLast_concat, h] at this
        cases this
    simpa using ih hp

/-! ## Walks -/

theorem walk_cons_cons {p : String} (h : p ≠ "..") (d : Disk) (place : Place) (q : String)
    (ps : List String) : d.walk place (p :: q :: ps) =
      match d.node? (place ++ [p]) with
      | none => .error .notFound
      | some (.file ..) => .error .notDirectory
      | some .directory => d.walk (place ++ [p]) (q :: ps) := by
  cases hnode : d.node? (place ++ [p]) with
  | none => simp only [walk, if_neg h, hnode]
  | some n => cases n <;> simp only [walk, if_neg h, hnode]

theorem walk_eq {place place' : Place} {ps : List String} (hps : ∀ q ∈ ps, q ≠ "..")
    (h : d.walk place ps = .ok place') : place' = place ++ ps := by
  induction ps generalizing place with
  | nil => cases h; simp
  | cons p ps ih =>
    obtain ⟨hp, hps⟩ := List.forall_mem_cons.1 hps
    cases ps with
    | nil => simp only [walk, if_neg hp] at h; cases h; rfl
    | cons q ps =>
      rw [walk_cons_cons hp] at h
      split at h
      · cases h
      · cases h
      · rw [ih hps h]; simp

/-- The place that a component leads to. -/
def enter (place : Place) (p : String) : Place :=
  if p = ".." then place.dropLast else place ++ [p]

theorem walk_cons_ok {place r : Place} {p q : String} {ps : List String} :
    d.walk place (p :: q :: ps) = .ok r ↔
      d.node? (enter place p) = some .directory ∧ d.walk (enter place p) (q :: ps) = .ok r := by
  simp only [walk, enter]
  cases d.node? (if p = ".." then place.dropLast else place ++ [p]) with
  | none => simp
  | some n => cases n <;> simp

/-- A walk to a component arrives below the directory that the walk to those before it arrives at. -/
theorem walk_concat {place r : Place} {ps : List String} {p : String}
    (h : d.walk place (ps ++ [p]) = .ok r) :
    ∃ base, d.walk place ps = .ok base ∧ r = enter base p ∧
      ∀ q, d.walk place (ps ++ [q]) = .ok (enter base q) := by
  induction ps generalizing place with
  | nil => cases h; exact ⟨place, rfl, rfl, fun q => rfl⟩
  | cons p' ps ih =>
    cases ps with
    | nil =>
      obtain ⟨hdir, h⟩ := walk_cons_ok.1 h
      cases h
      exact ⟨enter place p', rfl, rfl, fun q => walk_cons_ok.2 ⟨hdir, rfl⟩⟩
    | cons q' ps =>
      obtain ⟨hdir, h⟩ := walk_cons_ok.1 h
      obtain ⟨base, hbase, hr, hother⟩ := ih h
      exact ⟨base, walk_cons_ok.2 ⟨hdir, hbase⟩, hr, fun q => walk_cons_ok.2 ⟨hdir, hother q⟩⟩

/-! ## Paths -/

/-- The directory that a path starts from. -/
def start (d : Disk) (p : FilePath) : Place := if p.absolute then [] else d.here

/-- The place of a path without `..`. -/
def placeOf (d : Disk) (p : FilePath) : Place := d.start p ++ p.parts

theorem placeOf_congr (h : d'.here = d.here) (p : FilePath) : d'.placeOf p = d.placeOf p := by
  rw [placeOf, placeOf, start, start, h]

theorem locate_eq {p : FilePath} (hp : p.IsPlain) {place : Place} (h : d.locate p = .ok place) :
    place = d.placeOf p := by
  rw [locate] at h
  split at h
  · cases h
  · exact walk_eq hp h

/-- What is read off a node. -/
def content (directory : Bool) : Option Node → Except DiskError String
  | none => .error .notFound
  | some .directory => .error .isDirectory
  | some (.file bytes _) =>
    if directory then .error .notDirectory
    else match String.fromUTF8? bytes with
      | some s => .ok s
      | none => .error .notText

theorem readText_eq (d : Disk) (p : FilePath) :
    d.readText p = (d.locate p).bind fun place => content p.directory (d.node? place) := by
  rw [readText]
  cases d.locate p with
  | error e => rfl
  | ok place =>
    simp only [bind, Except.bind]
    cases d.node? place with
    | none => rfl
    | some n => cases n <;> rfl

/-! ## Operations that succeed -/

theorem locate_bind {p : FilePath} {f : Place → Except DiskError α} {a : α}
    (h : (d.locate p >>= f) = .ok a) : ∃ place, d.locate p = .ok place ∧ f place = .ok a := by
  cases hl : d.locate p with
  | error e => rw [hl] at h; cases h
  | ok place => rw [hl] at h; exact ⟨place, rfl, h⟩

theorem makeDirectory_cases {p : FilePath} (h : d.makeDirectory p = .ok d') :
    d' = d ∨ ∃ place, d.locate p = .ok place ∧ d.node? place = none ∧
      d' = d.put place .directory := by
  obtain ⟨place, hl, h⟩ := locate_bind h
  split at h
  next hn => cases h; exact .inr ⟨place, hl, hn, rfl⟩
  next => cases h; exact .inl rfl
  next => cases h

/-- The permissions of a file that is opened for writing. -/
def modeAt (d : Disk) (place : Place) : Nat :=
  match d.node? place with
  | some (.file _ mode) => mode
  | _ => privateMode

/-- The permissions of the file that a path names. -/
def mode? (d : Disk) (p : FilePath) : Option Nat :=
  (d.locate p).toOption.bind fun place =>
    match d.node? place with
    | some (.file _ mode) => some mode
    | _ => none

theorem mode?_eq {p : FilePath} {place : Place} {bytes : ByteArray} {mode : Nat}
    (hl : d.locate p = .ok place) (hn : d.node? place = some (.file bytes mode)) :
    d.mode? p = some mode := by
  rw [mode?, hl, Except.toOption, Option.bind_some, hn]

theorem truncate_eq {p : FilePath} (h : d.truncate p = .ok d') :
    ∃ place, d.locate p = .ok place ∧ d.node? place ≠ some .directory ∧
      d' = d.put place (.file .empty (d.modeAt place)) := by
  obtain ⟨place, hl, h⟩ := locate_bind h
  refine ⟨place, hl, ?_⟩
  split at h
  next hn =>
    split at h
    · cases h
    · cases h; exact ⟨by simp [hn], by rw [modeAt, hn]⟩
  next => cases h
  next hn =>
    split at h
    · cases h
    · cases h; exact ⟨by simp [hn], by rw [modeAt, hn]⟩

theorem append_eq {p : FilePath} {bytes : ByteArray} (h : d.append p bytes = .ok d') :
    ∃ place old mode, d.locate p = .ok place ∧ d.node? place = some (.file old mode) ∧
      d' = d.put place (.file (old ++ bytes) mode) := by
  obtain ⟨place, hl, h⟩ := locate_bind h
  split at h
  next hn => cases h; exact ⟨place, _, _, hl, hn, rfl⟩
  next => cases h
  next => cases h

theorem rename_eq {source target : FilePath} (h : d.rename source target = .ok d') :
    ∃ old new bytes mode, d.locate source = .ok old ∧ d.locate target = .ok new ∧
      d.node? old = some (.file bytes mode) ∧ d.node? new ≠ some .directory ∧
      target.directory = false ∧ d' = (d.erase old).put new (.file bytes mode) := by
  obtain ⟨old, hs, h⟩ := locate_bind h
  obtain ⟨new, ht, h⟩ := locate_bind h
  split at h
  · cases h
  split at h
  next => cases h
  next => cases h
  next hold =>
    split at h
    · cases h
    next hdir =>
      split at h
      · cases h
      next hnew =>
        cases h
        exact ⟨old, new, _, _, hs, ht, hold, fun hn => hnew hn, by simpa using hdir, rfl⟩

theorem remove_eq {p : FilePath} (h : d.remove p = .ok d') :
    ∃ place bytes mode, d.locate p = .ok place ∧ d.node? place = some (.file bytes mode) ∧
      d' = d.erase place := by
  obtain ⟨place, hl, h⟩ := locate_bind h
  split at h
  next => cases h
  next => cases h
  next hn =>
    split at h
    · cases h
    · cases h; exact ⟨place, _, _, hl, hn, rfl⟩

/-! ## Directories that stay -/

/-- No directory is gone, and relative paths start where they did. -/
structure KeepsDirectories (d d' : Disk) : Prop where
  here : d'.here = d.here
  node : ∀ q, d.node? q = some .directory → d'.node? q = some .directory

namespace KeepsDirectories

theorem refl (d : Disk) : KeepsDirectories d d := ⟨rfl, fun _ => id⟩

theorem trans (H : KeepsDirectories d d') (H' : KeepsDirectories d' d'') : KeepsDirectories d d'' :=
  ⟨H'.here.trans H.here, fun q hq => H'.node q (H.node q hq)⟩

theorem put {place : Place} (h : d.node? place ≠ some .directory) (n : Node) :
    KeepsDirectories d (d.put place n) := by
  refine ⟨rfl, fun q hq => ?_⟩
  rw [node?_put_of_ne (by rintro rfl; exact h hq)]
  exact hq

theorem erase {place : Place} (h : d.node? place ≠ some .directory) :
    KeepsDirectories d (d.erase place) := by
  refine ⟨rfl, fun q hq => ?_⟩
  rw [node?_erase_of_ne (by rintro rfl; exact h hq)]
  exact hq

theorem walk (H : KeepsDirectories d d') {place r : Place} {ps : List String}
    (h : d.walk place ps = .ok r) : d'.walk place ps = .ok r := by
  induction ps generalizing place with
  | nil => exact h
  | cons p ps ih =>
    cases ps with
    | nil => exact h
    | cons q ps =>
      obtain ⟨hdir, h⟩ := walk_cons_ok.1 h
      exact walk_cons_ok.2 ⟨H.node _ hdir, ih h⟩

/-- A path that names a place goes on to name it. -/
theorem locate (H : KeepsDirectories d d') {p : FilePath} {place : Place}
    (h : d.locate p = .ok place) : d'.locate p = .ok place := by
  rw [Disk.locate] at h ⊢
  split at h
  · cases h
  next hp =>
    rw [if_neg hp, H.here]
    exact H.walk h

end KeepsDirectories

theorem readText_of_vacant {p : FilePath} {place : Place} (hl : d.locate p = .ok place)
    (hn : d.node? place = none) : d.readText p = .error .notFound := by
  rw [readText_eq, hl, Except.bind, hn, content]

/-- What is not there to be removed is not there to be read. -/
theorem readText_of_remove {p : FilePath} (h : d.remove p = .error .notFound) :
    d.readText p = .error .notFound := by
  rw [Disk.readText_eq]
  rw [remove] at h
  cases hl : d.locate p with
  | error e => rw [hl] at h; cases h; rfl
  | ok place =>
    simp only [hl, bind, Except.bind] at h ⊢
    split at h
    next hn => rw [hn]; rfl
    next => cases h
    next => split at h <;> cases h

/-! ## Growing -/

/-- The disk has got directories that were missing above the target and, at the place beside it,
anything at all; nothing else is different. -/
structure Grown (beside target : Place) (d d' : Disk) : Prop where
  here : d'.here = d.here
  node : ∀ q, q ≠ beside → d'.node? q = d.node? q ∨
    d.node? q = none ∧ d'.node? q = some .directory ∧ q.length < target.length

variable {beside target : Place}

theorem Grown.refl (beside target : Place) (d : Disk) : Grown beside target d d :=
  ⟨rfl, fun _ _ => .inl rfl⟩

theorem Grown.put_beside (H : Grown beside target d d') (n : Node) :
    Grown beside target d (d'.put beside n) :=
  ⟨H.here, fun q hq => by rw [node?_put_of_ne hq]; exact H.node q hq⟩

theorem Grown.put_above (H : Grown beside target d d') {place : Place}
    (hplace : place.length < target.length) (h : d'.node? place = none) :
    Grown beside target d (d'.put place .directory) := by
  have hne : place ≠ [] := by
    rintro rfl
    cases h
  refine ⟨H.here, fun q hq => ?_⟩
  by_cases hqp : q = place
  · subst hqp
    obtain hsame | ⟨_, hdir, _⟩ := H.node q hq
    · exact .inr ⟨hsame ▸ h, node?_put_self hne _, hplace⟩
    · rw [h] at hdir; cases hdir
  · rw [node?_put_of_ne hqp]
    exact H.node q hq

/-- Nothing is read below a place where nothing is. -/
theorem IsTree.walk_vacant (ht : d.IsTree) {place : Place} (h : d.node? place = none)
    {p : String} {ps : List String} (hps : ∀ q ∈ p :: ps, q ≠ "..") (directory : Bool) :
    ((d.walk place (p :: ps)).bind fun q => content directory (d.node? q)) = .error .notFound := by
  obtain ⟨hp, _⟩ := List.forall_mem_cons.1 hps
  have hnode := ht.node?_append h [p]
  cases ps with
  | nil => simp only [walk, if_neg hp, Except.bind, hnode, content]
  | cons q ps => rw [walk_cons_cons hp, hnode]; rfl

theorem Grown.walk_eq (H : Grown beside target d d') (ht : d.IsTree)
    (hlen : target.length ≤ beside.length) (hne : target ≠ beside) (directory : Bool)
    {place : Place} {ps : List String} (hps : ∀ q ∈ ps, q ≠ "..") (hplace : place ++ ps = target) :
    ((d'.walk place ps).bind fun q => content directory (d'.node? q)) =
      (d.walk place ps).bind fun q => content directory (d.node? q) := by
  have htarget : d'.node? target = d.node? target :=
    (H.node target hne).resolve_right fun h => Nat.lt_irrefl _ h.2.2
  induction ps generalizing place with
  | nil =>
    rw [List.append_nil] at hplace
    simp only [walk, Except.bind, hplace, htarget]
  | cons p ps ih =>
    obtain ⟨hp, hps'⟩ := List.forall_mem_cons.1 hps
    cases ps with
    | nil => simp only [walk, if_neg hp, Except.bind, hplace, htarget]
    | cons q ps =>
      have hnext : (place ++ [p]) ≠ beside := by
        rintro rfl
        simp only [← hplace, List.length_append, List.length_cons, List.length_nil] at hlen
        omega
      have ih := @ih (place ++ [p]) hps' (by simpa using hplace)
      rw [walk_cons_cons hp, walk_cons_cons hp]
      obtain hsame | ⟨hnone, hdir, _⟩ := H.node _ hnext
      · rw [hsame]
        cases d.node? (place ++ [p]) with
        | none => rfl
        | some n => cases n with
          | file => rfl
          | directory => exact ih
      · rw [hdir, hnone]
        exact ih.trans (ht.walk_vacant hnone hps' directory)

theorem Grown.readText_eq {p : FilePath} (hp : p.IsPlain) (ht : d.IsTree)
    (H : Grown beside (d.placeOf p) d d') (hlen : (d.placeOf p).length ≤ beside.length)
    (hne : d.placeOf p ≠ beside) : d'.readText p = d.readText p := by
  rw [Disk.readText_eq, Disk.readText_eq, locate, locate, H.here]
  split
  · rfl
  · exact H.walk_eq ht hlen hne p.directory hp rfl

end Disk

end SessionKeeper
