import Mathlib.Tactic.Convert
import SessionKeeper.Command.Grammar

/-!
# The words of a level

What the words of a level mention is told here by a grammar of its own (`Spells`): options by their
long or short names, with their values in the same word or the next one, flags that stand together,
places, and the two dashes. The reader takes its words one by one and keeps a value that it has not
read yet; whatever it accepts is so spelled, and the values that it ends with are those of the
arguments mentioned, each taking effect in its turn (`takeWords_spells`). Words are spelled in one
way only (`Spells.unique`).
-/

namespace SessionKeeper.Command

/-- An argument that words name, with the text they give it. -/
structure Mention where
  argument : Argument
  given : Option String

variable {t : Table} {a : Argument} {o o' : Option Argument} {ms ms' : List Mention} {w : String}
  {ws : List String} {n : Nat} {b : Bool} {rest rest' : Option (String × List String)}

/-! ## The grammar -/

/-- Short names that stand together: what they mention, and the option that still has no value. -/
inductive Cluster (t : Table) : List Char → List Mention → Option Argument → Prop where
  | nil : Cluster t [] [] none
  | flag {a : Argument} {c : Char} {cs : List Char} {ms : List Mention} {o : Option Argument}
    (ha : t.short? c = some a) (hv : a.takesValue = false) (H : Cluster t cs ms o) :
    Cluster t (c :: cs) (⟨a, none⟩ :: ms) o
  | attached {a : Argument} {c d : Char} {v : List Char} (ha : t.short? c = some a)
    (hv : a.takesValue = true) (hd : d ≠ '=') :
    Cluster t (c :: d :: v) [⟨a, some (String.ofList (d :: v))⟩] none
  | assigned {a : Argument} {c : Char} {v : List Char} (ha : t.short? c = some a)
    (hv : a.takesValue = true) : Cluster t (c :: '=' :: v) [⟨a, some (String.ofList v)⟩] none
  | waiting {a : Argument} {c : Char} (ha : t.short? c = some a) (hv : a.takesValue = true) :
    Cluster t [c] [] (some a)

/-- An argument with a long name is met, with or without a value in its word. -/
inductive Argument.Meets (a : Argument) :
    Option String → List Mention → Option Argument → Prop where
  | flag (hv : a.takesValue = false) : a.Meets none [⟨a, none⟩] none
  | assigned {v : String} (hv : a.takesValue = true) : a.Meets (some v) [⟨a, some v⟩] none
  | waiting (hv : a.takesValue = true) : a.Meets none [] (some a)

/-- How a value stands in the word of a long name. -/
def assignment : Option String → String
  | none => ""
  | some v => "=" ++ v

/-- A word that names options or flags: what it mentions, and the option whose value is the next
word. -/
inductive Names (t : Table) : String → List Mention → Option Argument → Prop where
  | long {a : Argument} {name : String} {attached : Option String} {ms : List Mention}
    {o : Option Argument} (hname : '=' ∉ name.toList) (ha : t.long? name = some a)
    (h : a.Meets attached ms o) : Names t ("--" ++ name ++ assignment attached) ms o
  | short {c : Char} {cs : List Char} {ms : List Mention} {o : Option Argument} (hc : c ≠ '-')
    (H : Cluster t (c :: cs) ms o) : Names t ("-" ++ String.ofList (c :: cs)) ms o

/-- The word looks like an option. -/
def IsDashed (w : String) : Prop := ∃ c cs, w.toList = '-' :: c :: cs

/-- The words mention these arguments, in this order, up to the name of a command with the words
after it, if there is one. They come after an option without a value, or not, after the places before
`n`, and perhaps after two dashes. -/
inductive Spells (t : Table) : Option Argument → Nat → Bool → List String → List Mention →
    Option (String × List String) → Prop where
  | nil {n : Nat} {b : Bool} : Spells t none n b [] [] none
  | command {n : Nat} {w : String} {ws : List String} (hw : t.isCommand w = true)
    (hhelp : w ≠ Table.helpCommand) : Spells t none n false (w :: ws) [] (some (w, ws))
  | dashes {n : Nat} {ws : List String} {ms : List Mention} {rest : Option (String × List String)}
    (hw : t.isCommand "--" = false) (H : Spells t none n true ws ms rest) :
    Spells t none n false ("--" :: ws) ms rest
  | option {n : Nat} {w : String} {ws : List String} {ms ms' : List Mention} {o : Option Argument}
    {rest : Option (String × List String)} (hw : t.isCommand w = false) (hdashes : w ≠ "--")
    (h : Names t w ms o) (H : Spells t o n false ws ms' rest) :
    Spells t none n false (w :: ws) (ms ++ ms') rest
  | value {a : Argument} {n : Nat} {v : String} {ws : List String} {ms : List Mention}
    {rest : Option (String × List String)} (hv : ¬IsDashed v)
    (H : Spells t none n false ws ms rest) :
    Spells t (some a) n false (v :: ws) (⟨a, some v⟩ :: ms) rest
  | place {a : Argument} {n : Nat} {b : Bool} {w : String} {ws : List String} {ms : List Mention}
    {rest : Option (String × List String)} (ha : t.position? n = some a)
    (hw : b = true ∨ t.isCommand w = false ∧ ¬IsDashed w) (H : Spells t none (n + 1) b ws ms rest) :
    Spells t none n b (w :: ws) (⟨a, some w⟩ :: ms) rest

/-! ### Arguments of the table -/

namespace Table

variable {c : Char} {name : String}

theorem mem_of_long? (h : t.long? name = some a) : a ∈ t.arguments := List.mem_of_find?_eq_some h

theorem mem_of_short? (h : t.short? c = some a) : a ∈ t.arguments := List.mem_of_find?_eq_some h

theorem mem_of_position? (h : t.position? n = some a) : a ∈ t.arguments :=
  (List.mem_filter.1 (List.mem_of_getElem? h)).1

theorem isPosition_of_long? (h : t.long? name = some a) : a.isPosition = false := by
  have hlong : a.long = some name := by simpa using List.find?_some h
  rw [Argument.isPosition, hlong]
  exact Bool.and_false _

theorem isPosition_of_short? (h : t.short? c = some a) : a.isPosition = false := by
  have hshort : a.short = some c := by simpa using List.find?_some h
  rw [Argument.isPosition, hshort]
  rfl

end Table

theorem Cluster.mem {cs : List Char} (H : Cluster t cs ms o) :
    ∀ m ∈ ms, m.argument ∈ t.arguments := by
  induction H with
  | nil | waiting => exact List.forall_mem_nil _
  | flag ha _ _ ih => exact List.forall_mem_cons.2 ⟨Table.mem_of_short? ha, ih⟩
  | attached ha | assigned ha => exact List.forall_mem_singleton.2 (Table.mem_of_short? ha)

/-- It is an option of the table that waits for its value. -/
theorem Cluster.waits {cs : List Char} (H : Cluster t cs ms (some a)) :
    a ∈ t.arguments ∧ a.takesValue = true ∧ a.isPosition = false := by
  generalize ho : some a = o at H
  induction H with
  | nil | attached | assigned => cases ho
  | flag _ _ _ ih => exact ih ho
  | waiting ha hv =>
    cases ho
    exact ⟨Table.mem_of_short? ha, hv, Table.isPosition_of_short? ha⟩

theorem Names.mem (H : Names t w ms o) : ∀ m ∈ ms, m.argument ∈ t.arguments := by
  cases H with
  | long _ ha h =>
    cases h with
    | flag | assigned => exact List.forall_mem_singleton.2 (Table.mem_of_long? ha)
    | waiting => exact List.forall_mem_nil _
  | short _ H => exact H.mem

theorem Names.waits (H : Names t w ms (some a)) :
    a ∈ t.arguments ∧ a.takesValue = true ∧ a.isPosition = false := by
  cases H with
  | long _ ha h =>
    cases h with
    | waiting hv => exact ⟨Table.mem_of_long? ha, hv, Table.isPosition_of_long? ha⟩
  | short _ H => exact H.waits

theorem Spells.mem (H : Spells t o n b ws ms rest) (ho : ∀ a, o = some a → a ∈ t.arguments) :
    ∀ m ∈ ms, m.argument ∈ t.arguments := by
  induction H with
  | nil | command => exact List.forall_mem_nil _
  | dashes _ _ ih => exact ih ho
  | option _ _ h _ ih =>
    exact List.forall_mem_append.2 ⟨h.mem, ih fun a ha => (Names.waits (ha ▸ h)).1⟩
  | value _ _ ih => exact List.forall_mem_cons.2 ⟨ho _ rfl, ih fun _ => nofun⟩
  | place ha _ _ ih =>
    exact List.forall_mem_cons.2 ⟨Table.mem_of_position? ha, ih fun _ => nofun⟩

/-! ### One way to read -/

theorem Cluster.unique {cs : List Char} (H : Cluster t cs ms o) (H' : Cluster t cs ms' o') :
    ms = ms' ∧ o = o' := by
  have hnot {a a' : Argument} {c : Char} (ha : t.short? c = some a) (hv : a.takesValue = false)
      (ha' : t.short? c = some a') (hv' : a'.takesValue = true) : False := by
    obtain rfl := Option.some.inj (ha.symm.trans ha')
    exact Bool.false_ne_true (hv.symm.trans hv')
  induction H generalizing ms' o' with
  | nil =>
    cases H'
    exact ⟨rfl, rfl⟩
  | flag ha hv _ ih =>
    cases H' with
    | flag ha' _ H' =>
      obtain rfl := Option.some.inj (ha.symm.trans ha')
      obtain ⟨rfl, rfl⟩ := ih H'
      exact ⟨rfl, rfl⟩
    | attached ha' hv' | assigned ha' hv' | waiting ha' hv' => exact (hnot ha hv ha' hv').elim
  | attached ha hv hd =>
    cases H' with
    | flag ha' hv' => exact (hnot ha' hv' ha hv).elim
    | attached ha' =>
      obtain rfl := Option.some.inj (ha.symm.trans ha')
      exact ⟨rfl, rfl⟩
    | assigned => exact absurd rfl hd
  | assigned ha hv =>
    cases H' with
    | flag ha' hv' => exact (hnot ha' hv' ha hv).elim
    | attached _ _ hd => exact absurd rfl hd
    | assigned ha' =>
      obtain rfl := Option.some.inj (ha.symm.trans ha')
      exact ⟨rfl, rfl⟩
  | waiting ha hv =>
    cases H' with
    | flag ha' hv' => exact (hnot ha' hv' ha hv).elim
    | waiting ha' =>
      obtain rfl := Option.some.inj (ha.symm.trans ha')
      exact ⟨rfl, rfl⟩

theorem Argument.Meets.unique {attached : Option String} (H : a.Meets attached ms o)
    (H' : a.Meets attached ms' o') : ms = ms' ∧ o = o' := by
  cases H with
  | flag hv =>
    cases H' with
    | flag => exact ⟨rfl, rfl⟩
    | waiting hv' => exact (Bool.false_ne_true (hv.symm.trans hv')).elim
  | assigned =>
    cases H'
    exact ⟨rfl, rfl⟩
  | waiting hv =>
    cases H' with
    | flag hv' => exact (Bool.false_ne_true (hv'.symm.trans hv)).elim
    | waiting => exact ⟨rfl, rfl⟩

theorem assignment_inj {x x' : Option String}
    (h : (assignment x).toList = (assignment x').toList) : x = x' := by
  cases x with
  | none =>
    cases x' with
    | none => rfl
    | some v' => simp [assignment] at h
  | some v =>
    cases x' with
    | none => simp [assignment] at h
    | some v' =>
      have hv : v = v' := by simpa [assignment, String.toList_inj] using h
      rw [hv]

/-- A name has no equals sign, so that a value begins behind the first one. -/
theorem eq_nil_of_assignment {cs ds : List Char} {x : Option String} (hcs : '=' ∉ cs)
    (h : (assignment x).toList = cs ++ ds) : cs = [] := by
  cases cs with
  | nil => rfl
  | cons c cs =>
    cases x with
    | none => cases h
    | some v =>
      obtain rfl : '=' = c := by simpa [assignment] using congrArg List.head? h
      exact absurd List.mem_cons_self hcs

theorem eq_of_long {name name' : String} {x x' : Option String} (hname : '=' ∉ name.toList)
    (hname' : '=' ∉ name'.toList)
    (h : "--" ++ name ++ assignment x = "--" ++ name' ++ assignment x') :
    name = name' ∧ x = x' := by
  rw [← String.toList_inj] at h
  have happend : name.toList ++ (assignment x).toList = name'.toList ++ (assignment x').toList := by
    simpa using h
  obtain ⟨cs, hcs, hx⟩ | ⟨cs, hcs, hx⟩ := List.append_eq_append_iff.1 happend
  · obtain rfl := eq_nil_of_assignment (fun hmem => hname' (by simp [hcs, hmem])) hx
    exact ⟨by simpa [String.toList_inj] using hcs.symm, assignment_inj (by simpa using hx)⟩
  · obtain rfl := eq_nil_of_assignment (fun hmem => hname (by simp [hcs, hmem])) hx
    exact ⟨by simpa [String.toList_inj] using hcs, assignment_inj (by simpa using hx.symm)⟩

theorem Names.isDashed (H : Names t w ms o) : IsDashed w := by
  cases H with
  | @long _ name attached => exact ⟨'-', name.toList ++ (assignment attached).toList, by simp⟩
  | @short c cs => exact ⟨c, cs, by simp⟩

theorem Names.unique {w' : String} (H : Names t w ms o) (H' : Names t w' ms' o') (hw : w = w') :
    ms = ms' ∧ o = o' := by
  cases H with
  | long hname ha h =>
    cases H' with
    | long hname' ha' h' =>
      obtain ⟨rfl, rfl⟩ := eq_of_long hname hname' hw
      obtain rfl := Option.some.inj (ha.symm.trans ha')
      exact h.unique h'
    | short hc =>
      rw [← String.toList_inj] at hw
      simp [hc.symm] at hw
  | short hc H =>
    cases H' with
    | long =>
      rw [← String.toList_inj] at hw
      simp [hc] at hw
    | short _ H' =>
      rw [← String.toList_inj] at hw
      obtain ⟨rfl, rfl⟩ : _ ∧ _ := by simpa using hw
      exact H.unique H'

/-- Words are spelled in one way. -/
theorem Spells.unique (H : Spells t o n b ws ms rest) (H' : Spells t o n b ws ms' rest') :
    ms = ms' ∧ rest = rest' := by
  induction H generalizing ms' rest' with
  | nil =>
    cases H'
    exact ⟨rfl, rfl⟩
  | command hw hhelp =>
    cases H' with
    | command => exact ⟨rfl, rfl⟩
    | dashes hw' | option hw' => exact absurd hw (by simp [hw'])
    | place _ hw' => exact absurd hw (by simp [(hw'.resolve_left nofun).1])
  | dashes hw H ih =>
    cases H' with
    | command hw' => exact absurd hw' (by simp [hw])
    | dashes _ H' => exact ih H'
    | option _ hdashes => exact absurd rfl hdashes
    | place _ hw' => exact absurd ⟨'-', [], rfl⟩ (hw'.resolve_left nofun).2
  | option hw hdashes h H ih =>
    cases H' with
    | command hw' => exact absurd hw' (by simp [hw])
    | dashes => exact absurd rfl hdashes
    | option _ _ h' H' =>
      obtain ⟨rfl, rfl⟩ := h.unique h' rfl
      obtain ⟨rfl, rfl⟩ := ih H'
      exact ⟨rfl, rfl⟩
    | place _ hw' => exact absurd h.isDashed (hw'.resolve_left nofun).2
  | value _ H ih =>
    cases H' with
    | value _ H' =>
      obtain ⟨rfl, rfl⟩ := ih H'
      exact ⟨rfl, rfl⟩
  | place ha hw H ih =>
    cases H' with
    | command hw' => exact absurd hw' (by simp [(hw.resolve_left nofun).1])
    | dashes => exact absurd ⟨'-', [], rfl⟩ (hw.resolve_left nofun).2
    | option _ _ h' => exact absurd h'.isDashed (hw.resolve_left nofun).2
    | place ha' _ H' =>
      obtain rfl := Option.some.inj (ha.symm.trans ha')
      obtain ⟨rfl, rfl⟩ := ih H'
      exact ⟨rfl, rfl⟩

/-! ## What a mention does -/

/-- How often a counting argument is given, by the values so far. -/
def countOf (d : Dictionary Matched) (a : Argument) : Nat :=
  { Progress.start with matched := d }.count a

/-- A mention of an argument takes effect on the values so far. -/
inductive Effect (d : Dictionary Matched) : Mention → Dictionary Matched → Prop where
  | value {a : Argument} {r : Reading} {s : String} {v : Value} (hk : a.kind = .value r)
    (hnew : d.get? a.name = none) (hv : r.read s = .ok v) :
    Effect d ⟨a, some s⟩ (d.insert a.name ⟨.words, v⟩)
  | switch {a : Argument} {given : Option String} (hk : a.kind = .switch)
    (hnew : d.get? a.name = none) : Effect d ⟨a, given⟩ (d.insert a.name ⟨.words, .on⟩)
  | count {a : Argument} {given : Option String} (hk : a.kind = .count)
    (hmax : countOf d a + 1 ≤ maxLevel) :
    Effect d ⟨a, given⟩ (d.insert a.name ⟨.words, .number (countOf d a + 1)⟩)

/-- Mentions take effect one after the other. -/
inductive Effects : Dictionary Matched → List Mention → Dictionary Matched → Prop where
  | nil {d : Dictionary Matched} : Effects d [] d
  | cons {d d' d'' : Dictionary Matched} {m : Mention} {ms : List Mention} (h : Effect d m d')
    (H : Effects d' ms d'') : Effects d (m :: ms) d''

theorem Effects.append {d d' d'' : Dictionary Matched} (H : Effects d ms d')
    (H' : Effects d' ms' d'') : Effects d (ms ++ ms') d'' := by
  induction H with
  | nil => exact H'
  | cons h _ ih => exact .cons h (ih H')

theorem Effects.single {d d' : Dictionary Matched} {m : Mention} (h : Effect d m d') :
    Effects d [m] d' := .cons h .nil

theorem exists_of_bind_eq_ok {ε α β : Type} {x : Except ε α} {f : α → Except ε β} {r : β}
    (h : (x >>= f) = .ok r) : ∃ y, x = .ok y ∧ f y = .ok r := by
  cases x with
  | error e => cases h
  | ok y => exact ⟨y, rfl, h⟩

namespace Progress

variable {p q r : Progress}

theorem give_ok {given : Option String} (h : p.give a given = .ok q) :
    ∃ d, Effect p.matched ⟨a, given⟩ d ∧ q = { p with matched := d } := by
  have hnew (hc : ¬p.matched.contains a.name = true) : p.matched.get? a.name = none := by
    rwa [Dictionary.contains, Option.not_isSome_iff_eq_none] at hc
  unfold give at h
  split at h
  next => cases h
  next r s hk =>
    split at h
    next => cases h
    next hc =>
      cases hv : r.read s with
      | error e => rw [hv] at h; cases h
      | ok v =>
        rw [hv] at h
        cases h
        exact ⟨_, .value hk (hnew hc) hv, rfl⟩
  next hk =>
    split at h
    next => cases h
    next hc =>
      cases h
      exact ⟨_, .switch hk (hnew hc), rfl⟩
  next hk =>
    dsimp only at h
    split at h
    next hmax =>
      cases h
      exact ⟨_, .count hk hmax, rfl⟩
    next => cases h
  next => cases h
  next => cases h

/-! ## What is not settled yet -/

/-- The option that has no value yet. -/
def waiting (p : Progress) : Option Argument :=
  match p.pending with
  | some (a, none) => some a
  | _ => none

/-- The value that has not taken effect yet. -/
def held (p : Progress) : List Mention :=
  match p.pending with
  | some (a, some s) => [⟨a, some s⟩]
  | _ => []

theorem held_of_waiting (h : p.waiting = some a) : p.held = [] := by
  rw [waiting] at h
  rw [held]
  split
  next a' s hp =>
    rw [hp] at h
    cases h
  next => rfl

/-- It is an option that takes a value that is left without one. -/
def IsProper (p : Progress) : Prop :=
  ∀ a, p.waiting = some a → a.takesValue = true ∧ a.isPosition = false

theorem IsProper.isAwaiting_eq (H : p.IsProper) : p.isAwaiting = p.waiting.isSome := by
  rw [isAwaiting]
  split
  next a hp =>
    have hwaiting : p.waiting = some a := by rw [waiting, hp]
    rw [hwaiting, (H a hwaiting).2]
    rfl
  next h =>
    rw [waiting]
    split
    next a hp => exact absurd hp (h a)
    next => rfl

theorem IsProper.settle_ok (H : p.IsProper) (h : p.settle = .ok q) :
    p.waiting = none ∧ ∃ d, Effects p.matched p.held d ∧
      q = { p with pending := none, matched := d } := by
  unfold settle at h
  split at h
  next hp =>
    cases h
    refine ⟨by rw [waiting, hp], p.matched, ?_, ?_⟩
    · rw [held, hp]
      exact .nil
    · rw [← hp]
  next a given hp =>
    obtain ⟨d, heffect, rfl⟩ := give_ok h
    cases given with
    | some s =>
      refine ⟨by rw [waiting, hp], d, ?_, rfl⟩
      rw [held, hp]
      exact .single heffect
    | none =>
      -- an option without a value has no effect
      have hv := (H a (by rw [waiting, hp])).1
      rw [Argument.takesValue] at hv
      cases heffect with
      | switch hk | count hk =>
        rw [hk] at hv
        cases hv

/-- The progress once what is pending has taken effect, with an option that has no value yet. -/
def after (p : Progress) (d : Dictionary Matched) (o : Option Argument) : Progress :=
  { p with matched := d, pending := o.map (·, none) }

theorem waiting_after (d : Dictionary Matched) : (p.after d o).waiting = o := by cases o <;> rfl

theorem held_after (d : Dictionary Matched) : (p.after d o).held = [] := by cases o <;> rfl

/-! ## Words that look like options -/

theorem meet_after_ok {d : Dictionary Matched} {attached : Option String}
    (h : (p.after d none).meet a attached = .ok q) :
    (attached = none ∧ q = p.after d (some a)) ∨
      ∃ s d', attached = some s ∧ Effect d ⟨a, some s⟩ d' ∧ q = p.after d' none := by
  obtain ⟨p', hp', h⟩ := exists_of_bind_eq_ok h
  cases hp'
  cases attached with
  | none =>
    cases h
    exact .inl ⟨rfl, rfl⟩
  | some s =>
    obtain ⟨d', heffect, rfl⟩ := give_ok h
    exact .inr ⟨s, d', rfl, heffect, rfl⟩

theorem takeShort_ok {d : Dictionary Matched} {cs : List Char}
    (h : (p.after d none).takeShort t cs = .ok q) :
    ∃ ms o d', Cluster t cs ms o ∧ Effects d ms d' ∧ q = p.after d' o := by
  induction cs generalizing d with
  | nil =>
    cases h
    exact ⟨[], none, d, .nil, .nil, rfl⟩
  | cons c cs ih =>
    rw [takeShort.eq_def] at h
    dsimp only at h
    split at h
    next => cases h
    next a ha =>
      split at h
      next hv =>
        obtain ⟨hcs, rfl⟩ | ⟨s, d', hcs, heffect, rfl⟩ := meet_after_ok h
        · split at hcs
          next => exact ⟨[], some a, d, .waiting ha hv, .nil, rfl⟩
          next => cases hcs
          next => cases hcs
        · split at hcs
          next => cases hcs
          next v =>
            cases hcs
            exact ⟨_, none, d', .assigned ha hv, .single heffect, rfl⟩
          next hnil hassigned =>
            cases hcs
            match cs with
            | [] => exact absurd rfl hnil
            | e :: v =>
              have he : e ≠ '=' := fun he => hassigned v (he ▸ rfl)
              exact ⟨_, none, d', .attached ha hv he, .single heffect, rfl⟩
      next hv =>
        obtain ⟨p', hp', h⟩ := exists_of_bind_eq_ok h
        cases hp'
        obtain ⟨p', hp', h⟩ := exists_of_bind_eq_ok h
        obtain ⟨d', heffect, rfl⟩ := give_ok hp'
        obtain ⟨ms, o, d'', hcluster, heffects, rfl⟩ := ih h
        exact ⟨_, o, d'', .flag ha (Bool.eq_false_iff.2 hv) hcluster, .cons heffect heffects, rfl⟩

theorem takeLong_ok {d : Dictionary Matched} {name : String} {attached : Option String}
    (h : (p.after d none).takeLong t name attached = .ok q) :
    ∃ a ms o d', t.long? name = some a ∧ a.Meets attached ms o ∧ Effects d ms d' ∧
      q = p.after d' o := by
  rw [takeLong] at h
  split at h
  next => cases h
  next a ha =>
    split at h
    next hv =>
      obtain ⟨rfl, rfl⟩ | ⟨s, d', rfl, heffect, rfl⟩ := meet_after_ok h
      · exact ⟨a, [], some a, d, ha, .waiting hv, .nil, rfl⟩
      · exact ⟨a, _, none, d', ha, .assigned hv, .single heffect, rfl⟩
    next hv =>
      split at h
      next => cases h
      next =>
        obtain ⟨p', hp', h⟩ := exists_of_bind_eq_ok h
        cases hp'
        obtain ⟨d', heffect, rfl⟩ := give_ok h
        exact ⟨a, _, none, d', ha, .flag (Bool.eq_false_iff.2 hv), .single heffect, rfl⟩

/-- What is held takes effect before anything that names an option does. -/
theorem IsProper.settled_of_bind (H : p.IsProper) {f : Progress → Except Refusal Progress}
    (h : (p.settle >>= f) = .ok q) :
    p.waiting = none ∧
      ∃ d, Effects p.matched p.held d ∧ ((p.after d none).settle >>= f) = .ok q := by
  obtain ⟨p', hp', h⟩ := exists_of_bind_eq_ok h
  obtain ⟨hwaiting, d, heffects, rfl⟩ := H.settle_ok hp'
  exact ⟨hwaiting, d, heffects, h⟩

theorem IsProper.settled_of_takeShort (H : p.IsProper) {c : Char} {cs : List Char}
    (h : p.takeShort t (c :: cs) = .ok q) :
    p.waiting = none ∧
      ∃ d, Effects p.matched p.held d ∧ (p.after d none).takeShort t (c :: cs) = .ok q := by
  rw [takeShort.eq_def] at h
  simp only [takeShort.eq_def _ _ (c :: cs)]
  dsimp only at h
  split at h
  next => cases h
  next a ha =>
    split at h
    next hv => simpa only [ha, if_pos hv, meet] using H.settled_of_bind h
    next hv => simpa only [ha, if_neg hv] using H.settled_of_bind h

theorem IsProper.settled_of_takeLong (H : p.IsProper) {name : String} {attached : Option String}
    (h : p.takeLong t name attached = .ok q) :
    p.waiting = none ∧
      ∃ d, Effects p.matched p.held d ∧ (p.after d none).takeLong t name attached = .ok q := by
  simp only [takeLong] at h ⊢
  split at h
  next => cases h
  next a ha =>
    split at h
    next hv => simpa only [ha, if_pos hv, meet] using H.settled_of_bind h
    next hv =>
      split at h
      next => cases h
      next => simpa only [ha, if_neg hv] using H.settled_of_bind h

/-- A word that looks like an option names some. -/
theorem IsProper.takeWord_dashed (H : p.IsProper) (hw : IsDashed w) (h : p.takeWord t w = .ok q) :
    p.waiting = none ∧ ∃ ms o d, Names t w ms o ∧ Effects p.matched (p.held ++ ms) d ∧
      q = p.after d o := by
  obtain ⟨c, cs, hcs⟩ := hw
  rw [takeWord, hcs] at h
  by_cases hc : c = '-'
  · subst hc
    obtain ⟨hwaiting, d, heffects, h⟩ := H.settled_of_takeLong h
    obtain ⟨a, ms, o, d', ha, hmeets, heffects', rfl⟩ := takeLong_ok h
    refine ⟨hwaiting, ms, o, d', ?_, heffects.append heffects', rfl⟩
    convert Names.long (fun hmem => ?_) ha hmeets using 1
    · rw [← String.toList_inj, hcs]
      calc
        '-' :: '-' :: cs = '-' :: '-' :: (cs.takeWhile (· != '=') ++ cs.dropWhile (· != '=')) := by
          rw [List.takeWhile_append_dropWhile]
        _ = _ := by
          cases hrest : cs.dropWhile (· != '=') with
          | nil => simp [assignment]
          | cons e v =>
            have he := cs.head?_dropWhile_not (· != '=')
            rw [hrest] at he
            obtain rfl : e = '=' := by simpa using he
            simp [assignment]
    · rw [String.toList_ofList] at hmem
      simpa using List.all_eq_true.1 List.all_takeWhile _ hmem
  · obtain ⟨hwaiting, d, heffects, h⟩ := H.settled_of_takeShort (by simpa [hc] using h)
    obtain ⟨ms, o, d', hcluster, heffects', rfl⟩ := takeShort_ok h
    refine ⟨hwaiting, ms, o, d', ?_, heffects.append heffects', rfl⟩
    convert Names.short hc hcluster using 1
    rw [← String.toList_inj, hcs]
    simp

/-! ## Words one by one -/

theorem IsProper.takePosition_ok (H : p.IsProper) (h : p.takePosition t w = .ok q) :
    p.waiting = none ∧ ∃ a d, t.position? p.filled = some a ∧ Effects p.matched p.held d ∧
      q = ⟨d, some (a, some w), p.filled + 1, p.trailing⟩ := by
  rw [takePosition] at h
  split at h
  next a ha =>
    obtain ⟨p', hp', h⟩ := exists_of_bind_eq_ok h
    obtain ⟨hwaiting, d, heffects, rfl⟩ := H.settle_ok hp'
    cases h
    exact ⟨hwaiting, a, d, ha, heffects, rfl⟩
  next => cases h

/-- A word that looks like no option is the value of the one that waits, or fills a place. -/
theorem takeWord_undashed (hw : ¬IsDashed w) (h : p.takeWord t w = .ok q) :
    (∃ a, p.waiting = some a ∧ q = { p with pending := some (a, some w) }) ∨
      p.takePosition t w = .ok q := by
  rw [takeWord] at h
  split at h
  next cs hcs => exact absurd ⟨'-', cs, hcs⟩ hw
  next c cs _ hcs => exact absurd ⟨c, cs, hcs⟩ hw
  next =>
    split at h
    next a given hp hawaiting =>
      cases given with
      | none =>
        cases h
        exact .inl ⟨a, by rw [waiting, hp], rfl⟩
      | some s =>
        rw [isAwaiting, hp] at hawaiting
        cases hawaiting
    next => exact .inr h

theorem isProper_start : start.IsProper := fun _ h => by cases h

theorem isProper_of_held {s : String} (h : p.pending = some (a, some s)) : p.IsProper := by
  intro a' ha'
  rw [waiting, h] at ha'
  cases ha'

theorem isProper_after {d : Dictionary Matched} (h : Names t w ms o) : (p.after d o).IsProper := by
  intro a ha
  rw [waiting_after] at ha
  subst ha
  exact h.waits.2

theorem IsProper.takePosition (H : p.IsProper) (h : p.takePosition t w = .ok q) : q.IsProper := by
  obtain ⟨-, a, d, -, -, rfl⟩ := H.takePosition_ok h
  exact isProper_of_held rfl

theorem IsProper.takeWord (H : p.IsProper) (h : p.takeWord t w = .ok q) : q.IsProper := by
  by_cases hw : IsDashed w
  · obtain ⟨-, ms, o, d, hnames, -, rfl⟩ := H.takeWord_dashed hw h
    exact isProper_after hnames
  · obtain ⟨a, -, rfl⟩ | hplace := takeWord_undashed hw h
    · exact isProper_of_held rfl
    · exact H.takePosition hplace

/-! ## Words that are left -/

/-- The words that are left are spelled from here on, and with what is held their mentions lead to
the values `d`. -/
def IsExplained (t : Table) (p : Progress) (ws : List String) (rest : Option (String × List String))
    (d : Dictionary Matched) : Prop :=
  ∃ ms, Spells t p.waiting p.filled p.trailing ws ms rest ∧ Effects p.matched (p.held ++ ms) d

namespace IsProper

variable {d : Dictionary Matched}

theorem explained_nil (H : p.IsProper) (h : p.settle = .ok q) :
    p.IsExplained t [] none q.matched := by
  obtain ⟨hwaiting, d, heffects, rfl⟩ := H.settle_ok h
  refine ⟨[], ?_, by simpa using heffects⟩
  rw [hwaiting]
  exact .nil

theorem explained_command (H : p.IsProper) (h : p.settle = .ok q) (htrailing : p.trailing = false)
    (hw : t.isCommand w = true) (hhelp : w ≠ Table.helpCommand) :
    p.IsExplained t (w :: ws) (some (w, ws)) q.matched := by
  obtain ⟨hwaiting, d, heffects, rfl⟩ := H.settle_ok h
  refine ⟨[], ?_, by simpa using heffects⟩
  rw [hwaiting, htrailing]
  exact .command hw hhelp

theorem explained_place (H : p.IsProper) (h : p.takePosition t w = .ok q)
    (hw : p.trailing = true ∨ t.isCommand w = false ∧ ¬IsDashed w)
    (hq : q.IsExplained t ws rest d) : p.IsExplained t (w :: ws) rest d := by
  obtain ⟨hwaiting, a, d', ha, heffects, rfl⟩ := H.takePosition_ok h
  obtain ⟨ms, hspells, heffects'⟩ := hq
  refine ⟨⟨a, some w⟩ :: ms, ?_, heffects.append heffects'⟩
  rw [hwaiting]
  exact .place ha hw hspells

end IsProper

theorem explained_dashes {d : Dictionary Matched} (htrailing : p.trailing = false)
    (hcommand : p.waiting = none → t.isCommand "--" = false)
    (h : { p with trailing := true }.IsExplained t ws rest d) :
    p.IsExplained t ("--" :: ws) rest d := by
  obtain ⟨ms, hspells, heffects⟩ := h
  change Spells t p.waiting p.filled true ws ms rest at hspells
  -- no value is taken after the dashes, so that no option can be waiting for one
  have hwaiting : p.waiting = none := by
    generalize p.waiting = o at hspells
    cases hspells <;> rfl
  refine ⟨ms, ?_, heffects⟩
  rw [hwaiting] at hspells ⊢
  rw [htrailing]
  exact .dashes (hcommand hwaiting) hspells

/-- A word in front of the dashes names options, or is the value of the one that waits, or fills a
place. -/
theorem IsProper.explained_word {d : Dictionary Matched} (H : p.IsProper)
    (h : p.takeWord t w = .ok q) (htrailing : p.trailing = false)
    (hcommand : p.waiting = none → t.isCommand w = false) (hdashes : w ≠ "--")
    (hq : q.IsExplained t ws rest d) : p.IsExplained t (w :: ws) rest d := by
  by_cases hw : IsDashed w
  · obtain ⟨hwaiting, ms, o, d', hnames, heffects, rfl⟩ := H.takeWord_dashed hw h
    obtain ⟨ms', hspells, heffects'⟩ := hq
    rw [waiting_after] at hspells
    rw [held_after] at heffects'
    refine ⟨ms ++ ms', ?_, by simpa using heffects.append heffects'⟩
    change Spells t o p.filled p.trailing ws ms' rest at hspells
    rw [htrailing] at hspells ⊢
    rw [hwaiting]
    exact .option (hcommand hwaiting) hdashes hnames hspells
  · obtain ⟨a, ha, rfl⟩ | hplace := takeWord_undashed hw h
    · obtain ⟨ms, hspells, heffects⟩ := hq
      refine ⟨⟨a, some w⟩ :: ms, ?_, by rwa [held_of_waiting ha]⟩
      change Spells t none p.filled p.trailing ws ms rest at hspells
      rw [htrailing] at hspells ⊢
      rw [ha]
      exact .value hw hspells
    · exact H.explained_place hplace (.inr ⟨hcommand (H.takePosition_ok hplace).1, hw⟩) hq

/-- Words that are accepted are spelled by the grammar, with the effects of what they mention. -/
theorem takeWords_spells (H : p.IsProper) (h : takeWords t p ws = .ok (q, rest))
    (hr : q.settle = .ok r) : p.IsExplained t ws rest r.matched := by
  induction ws generalizing p with
  | nil =>
    cases h
    exact H.explained_nil hr
  | cons w ws ih =>
    rw [takeWords] at h
    split at h
    next htrailing =>
      obtain ⟨p', hp', h⟩ := exists_of_bind_eq_ok h
      exact H.explained_place hp' (.inl htrailing) (ih (H.takePosition hp') h)
    next htrailing =>
      rw [Bool.not_eq_true] at htrailing
      split at h
      next hcommand =>
        split at h
        next => cases h
        next hhelp =>
          cases h
          rw [Bool.and_eq_true] at hcommand
          exact H.explained_command hr htrailing hcommand.2 hhelp
      next hcommand =>
        have hnot (hwaiting : p.waiting = none) : t.isCommand w = false := by
          rw [H.isAwaiting_eq, hwaiting] at hcommand
          simpa using hcommand
        split at h
        next hdashes =>
          subst hdashes
          exact explained_dashes htrailing hnot (ih (p := { p with trailing := true }) H h)
        next hdashes =>
          obtain ⟨p', hp', h⟩ := exists_of_bind_eq_ok h
          exact H.explained_word hp' htrailing hnot hdashes (ih (H.takeWord hp') h)

end Progress

end SessionKeeper.Command
