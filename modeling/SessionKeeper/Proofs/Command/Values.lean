import SessionKeeper.Proofs.Command.Words
import SessionKeeper.Proofs.Dictionary

/-!
# Where values come from

What the words say of an argument comes first, then its variable in the environment, then its
default; of the words, those after the name of the command come before those in front of it
(`Supplies`). A command line that is accepted can be read in one way, as a command with what was
mentioned before and after its name, and each argument has the value that is so supplied
(`Program.read_supplies`).
-/

namespace SessionKeeper

namespace Command

variable {t : Table} {a : Argument} {ms ms' : List Mention} {d d' : Dictionary Matched}
  {gs : List (Option String)} {env : String → Option String}

/-! ## What is said -/

namespace Argument

/-- What the mentions of the argument give it, one after the other. -/
def given (a : Argument) (ms : List Mention) : List (Option String) :=
  (ms.filter (·.argument.name == a.name)).map (·.given)

/-- A value is what was given, once; a switch is on if it was met, once; what counts counts how
often it was met. -/
inductive Reads (a : Argument) : List (Option String) → Value → Prop where
  | value {r : Reading} {s : String} {v : Value} (hk : a.kind = .value r) (hv : r.read s = .ok v) :
    a.Reads [some s] v
  | switch {g : Option String} (hk : a.kind = .switch) : a.Reads [g] .on
  | count {gs : List (Option String)} (hk : a.kind = .count) (hmet : gs ≠ [])
    (hmax : gs.length ≤ maxLevel) : a.Reads gs (.number gs.length)

/-- The argument has the value that was said, or none if nothing was. -/
inductive Told (a : Argument) : List (Option String) → Option Matched → Prop where
  | silent : a.Told [] none
  | said {gs : List (Option String)} {v : Value} (h : a.Reads gs v) :
    a.Told gs (some ⟨.words, v⟩)

theorem given_append (a : Argument) (ms ms' : List Mention) :
    a.given (ms ++ ms') = a.given ms ++ a.given ms' := by
  rw [given, List.filter_append, List.map_append]
  rfl

theorem given_of_ne {m : Mention} (h : m.argument.name ≠ a.name) : a.given [m] = [] := by
  simp [given, h]

theorem given_self (a : Argument) (g : Option String) : a.given [⟨a, g⟩] = [g] := by
  simp [given]

theorem Reads.ne_nil {v : Value} (H : a.Reads gs v) : gs ≠ [] := by
  cases H with
  | value | switch => exact List.cons_ne_nil _ _
  | count _ hmet => exact hmet

theorem Reads.unique {v v' : Value} (H : a.Reads gs v) (H' : a.Reads gs v') : v = v' := by
  cases H with
  | value hk hv =>
    cases H' with
    | value hk' hv' =>
      cases hk.symm.trans hk'
      exact Except.ok.inj (hv.symm.trans hv')
    | switch hk' | count hk' => cases hk.symm.trans hk'
  | switch hk =>
    cases H' with
    | switch => rfl
    | value hk' | count hk' => cases hk.symm.trans hk'
  | count hk =>
    cases H' with
    | count => rfl
    | value hk' | switch hk' => cases hk.symm.trans hk'

theorem Told.countOf_eq (H : a.Told gs (d.get? a.name)) (hk : a.kind = .count) :
    countOf d a = gs.length := by
  unfold countOf Progress.count
  dsimp only
  generalize d.get? a.name = x at H
  cases H with
  | silent => rfl
  | said h =>
    cases h with
    | value hk' | switch hk' => cases hk.symm.trans hk'
    | count => rfl

/-- A mention adds to what is said of its argument. -/
theorem Told.step {g : Option String} (H : a.Told gs (d.get? a.name)) (h : Effect d ⟨a, g⟩ d') :
    a.Told (gs ++ [g]) (d'.get? a.name) := by
  cases h with
  | value hk hnew hv =>
    rw [hnew] at H
    cases H
    rw [Dictionary.get?_insert, if_pos rfl]
    exact .said (.value hk hv)
  | switch hk hnew =>
    rw [hnew] at H
    cases H
    rw [Dictionary.get?_insert, if_pos rfl]
    exact .said (.switch hk)
  | count hk hmax =>
    rw [H.countOf_eq hk, ← List.length_singleton, ← List.length_append] at hmax ⊢
    rw [Dictionary.get?_insert, if_pos rfl]
    exact .said (.count hk (List.concat_ne_nil g gs) hmax)

end Argument

theorem get?_of_effect {m : Mention} (h : Effect d m d') {k : String} (hk : k ≠ m.argument.name) :
    d'.get? k = d.get? k := by
  cases h <;> exact (Dictionary.get?_insert ..).trans (if_neg hk)

/-- The values are those that the mentions say. -/
def Records (t : Table) (ms : List Mention) (d : Dictionary Matched) : Prop :=
  ∀ a ∈ t.arguments, a.Told (a.given ms) (d.get? a.name)

/-- No two arguments of the table have one name. -/
def Table.IsDistinct (t : Table) : Prop := (t.arguments.map (·.name)).Nodup

theorem Table.IsDistinct.eq (H : t.IsDistinct) {a' : Argument} (ha : a ∈ t.arguments)
    (ha' : a' ∈ t.arguments) (h : a.name = a'.name) : a = a' :=
  List.inj_on_of_nodup_map H ha ha' h

theorem Records.step {m : Mention} (ht : t.IsDistinct) (H : Records t ms d)
    (hm : m.argument ∈ t.arguments) (h : Effect d m d') : Records t (ms ++ [m]) d' := by
  intro a ha
  rw [Argument.given_append]
  by_cases hname : a.name = m.argument.name
  · obtain rfl := ht.eq ha hm hname
    rw [Argument.given_self]
    exact (H _ ha).step h
  · rw [Argument.given_of_ne (Ne.symm hname), List.append_nil, get?_of_effect h hname]
    exact H a ha

theorem Records.effects (ht : t.IsDistinct) (H : Records t ms d)
    (hms : ∀ m ∈ ms', m.argument ∈ t.arguments) (h : Effects d ms' d') :
    Records t (ms ++ ms') d' := by
  induction h generalizing ms with
  | nil => rwa [List.append_nil]
  | @cons _ _ _ m ms' h _ ih =>
    obtain ⟨hm, hms⟩ := List.forall_mem_cons.1 hms
    have hrest := ih (H.step ht hm h) hms
    rwa [List.append_assoc] at hrest

/-! ## What fills the gaps -/

/-- A value that is there is kept; else the text for it is read, if there is one. -/
inductive Argument.Filled (a : Argument) (source : Source) (text : Option String) :
    Option Matched → Option Matched → Prop where
  | kept {m : Matched} : a.Filled source text (some m) (some m)
  | read {s : String} {v : Value} (hs : text = some s) (hv : a.kind.read s = .ok v) :
    a.Filled source text none (some ⟨source, v⟩)
  | left (hs : text = none) : a.Filled source text none none

namespace Progress

variable {p q : Progress} {source : Source} {text : Argument → Option String} {as : List Argument}

theorem fill_cons_ok (h : p.fill source text (a :: as) = .ok q) :
    ∃ p' : Progress, p'.fill source text as = .ok q ∧
      a.Filled source (text a) (p.matched.get? a.name) (p'.matched.get? a.name) ∧
      ∀ k, k ≠ a.name → p'.matched.get? k = p.matched.get? k := by
  rw [fill] at h
  split at h
  next hc =>
    obtain ⟨m, hm⟩ := Option.isSome_iff_exists.1 hc
    refine ⟨p, h, ?_, fun _ _ => rfl⟩
    rw [hm]
    exact .kept
  next hc =>
    rw [Dictionary.contains, Option.not_isSome_iff_eq_none] at hc
    split at h
    next hs =>
      refine ⟨p, h, ?_, fun _ _ => rfl⟩
      rw [hc]
      exact .left hs
    next s hs =>
      obtain ⟨v, hv, h⟩ := exists_of_bind_eq_ok h
      refine ⟨p.set a source v, h, ?_, fun k hk => ?_⟩
      · rw [hc, set, Dictionary.get?_insert, if_pos rfl]
        exact .read hs hv
      · exact (Dictionary.get?_insert ..).trans (if_neg hk)

theorem fill_ok (has : (as.map (·.name)).Nodup) (h : p.fill source text as = .ok q) :
    (∀ a ∈ as, a.Filled source (text a) (p.matched.get? a.name) (q.matched.get? a.name)) ∧
      ∀ k ∉ as.map (·.name), q.matched.get? k = p.matched.get? k := by
  induction as generalizing p with
  | nil =>
    cases h
    exact ⟨List.forall_mem_nil _, fun _ _ => rfl⟩
  | cons a as ih =>
    obtain ⟨ha, has⟩ := List.nodup_cons.1 has
    obtain ⟨p', h, hfilled, hothers⟩ := fill_cons_ok h
    obtain ⟨hin, hout⟩ := ih has h
    constructor
    · refine List.forall_mem_cons.2 ⟨?_, fun b hb => ?_⟩
      · rwa [hout _ ha]
      · have hname : b.name ≠ a.name := fun h => ha (List.mem_map.2 ⟨b, hb, h⟩)
        rw [← hothers b.name hname]
        exact hin b hb
    · intro k hk
      obtain ⟨hka, hk⟩ := not_or.1 (mt List.mem_cons.2 hk)
      exact (hout k hk).trans (hothers k hka)

end Progress

/-! ## The sources in their order -/

/-- The value of an argument and where it comes from: what is said after the name of the command
(`inner`) comes before what is said in front of it (`outer`), before the environment, before the
default. -/
inductive Supplies (env : String → Option String) (a : Argument) :
    List (Option String) → List (Option String) → Option Matched → Prop where
  | inner {outer inner : List (Option String)} {v : Value} (h : a.Reads inner v) :
    Supplies env a outer inner (some ⟨.words, v⟩)
  | outer {outer : List (Option String)} {v : Value} (h : a.Reads outer v) :
    Supplies env a outer [] (some ⟨.words, v⟩)
  | environment {s : String} {v : Value} (hs : a.envVar.bind env = some s)
    (hv : a.kind.read s = .ok v) : Supplies env a [] [] (some ⟨.environment, v⟩)
  | default {s : String} {v : Value} (henv : a.envVar.bind env = none) (hs : a.default = some s)
    (hv : a.kind.read s = .ok v) : Supplies env a [] [] (some ⟨.default, v⟩)
  | nothing (henv : a.envVar.bind env = none) (hs : a.default = none) : Supplies env a [] [] none

theorem Argument.Told.supplies {x y z : Option Matched} (H : a.Told gs x)
    (henv : a.Filled .environment (a.envVar.bind env) x y)
    (hdefault : a.Filled .default a.default y z) :
    Supplies env a [] gs z := by
  cases H with
  | silent =>
    cases henv with
    | read hs hv =>
      cases hdefault
      exact .environment hs hv
    | left hs =>
      cases hdefault with
      | read hs' hv => exact .default hs hs' hv
      | left hs' => exact .nothing hs hs'
  | said h =>
    cases henv
    cases hdefault
    exact .inner h

namespace Supplies

variable {outer inner : List (Option String)} {x y : Option Matched}

theorem unique (H : Supplies env a outer inner x) (H' : Supplies env a outer inner y) : x = y := by
  cases H with
  | inner h =>
    cases H' with
    | inner h' => rw [h.unique h']
    | outer | environment | default | nothing => exact absurd rfl h.ne_nil
  | outer h =>
    cases H' with
    | inner h' => exact absurd rfl h'.ne_nil
    | outer h' => rw [h.unique h']
    | environment | default | nothing => exact absurd rfl h.ne_nil
  | environment hs hv =>
    cases H' with
    | inner h' | outer h' => exact absurd rfl h'.ne_nil
    | environment hs' hv' =>
      cases hs.symm.trans hs'
      cases hv.symm.trans hv'
      rfl
    | default henv' | nothing henv' => cases hs.symm.trans henv'
  | default henv hs hv =>
    cases H' with
    | inner h' | outer h' => exact absurd rfl h'.ne_nil
    | environment hs' => cases henv.symm.trans hs'
    | default _ hs' hv' =>
      cases hs.symm.trans hs'
      cases hv.symm.trans hv'
      rfl
    | nothing _ hs' => cases hs.symm.trans hs'
  | nothing henv hs =>
    cases H' with
    | inner h' | outer h' => exact absurd rfl h'.ne_nil
    | environment hs' => cases henv.symm.trans hs'
    | default _ hs' => cases hs.symm.trans hs'
    | nothing => rfl

/-- Where nothing is said after the name, what is said in front of it counts, and all else is the
same on both levels. -/
theorem merge_silent (H : Supplies env a [] outer x) (H' : Supplies env a [] [] y) :
    Supplies env a outer [] (Program.mergeOne x y) := by
  by_cases houter : outer = []
  · subst houter
    obtain rfl := H.unique H'
    have hself : Program.mergeOne x x = x := by cases x <;> simp [Program.mergeOne]
    rw [hself]
    exact H
  · cases H with
    | inner h =>
      cases H' with
      | inner h' | outer h' => exact absurd rfl h'.ne_nil
      | environment | default | nothing => exact .outer h
    | outer | environment | default | nothing => exact absurd rfl houter

/-- What an argument of both levels has on each comes to what both supply. -/
theorem merge (H : Supplies env a [] outer x) (H' : Supplies env a [] inner y) :
    Supplies env a outer inner (Program.mergeOne x y) := by
  by_cases hinner : inner = []
  · subst hinner
    exact H.merge_silent H'
  · cases H' with
    | inner h =>
      have hwords (v : Value) : Program.mergeOne x (some ⟨.words, v⟩) = some ⟨.words, v⟩ := by
        rcases x with _ | ⟨source, w⟩
        · rfl
        · cases source <;> rfl
      rw [hwords]
      exact .inner h
    | outer | environment | default | nothing => exact absurd rfl hinner

end Supplies

/-! ## A level -/

/-- Where there are no commands, all words are of the level. -/
theorem Spells.rest_eq_none {o : Option Argument} {n : Nat} {b : Bool} {ws : List String}
    {rest : Option (String × List String)} (H : Spells t o n b ws ms rest) (ht : t.commands = []) :
    rest = none := by
  induction H with
  | nil => rfl
  | command hw =>
    rw [Table.isCommand, ht] at hw
    cases hw
  | dashes _ _ ih | option _ _ _ _ ih | value _ _ ih | place _ _ _ ih => exact ih

/-- What is accepted on a level: the words are spelled, and its arguments have what they, the
environment and the defaults supply. -/
theorem Table.IsDistinct.finish_supplies (ht : t.IsDistinct) {ws : List String}
    {rest : Option (String × List String)} {p q : Progress}
    (h : Progress.takeWords t .start ws = .ok (p, rest)) (hq : p.finish t env = .ok q) :
    ∃ ms, Spells t none 0 false ws ms rest ∧
      ∀ a ∈ t.arguments, Supplies env a [] (a.given ms) (q.matched.get? a.name) := by
  obtain ⟨p₀, hp₀, hq⟩ := exists_of_bind_eq_ok hq
  obtain ⟨p₁, hp₁, hq⟩ := exists_of_bind_eq_ok hq
  obtain ⟨ms, hspells, heffects⟩ := Progress.takeWords_spells Progress.isProper_start h hp₀
  have hstart : Records t [] Progress.start.matched := fun _ _ => .silent
  have hrecords : Records t ms p₀.matched :=
    hstart.effects ht (hspells.mem fun _ => nofun) heffects
  obtain ⟨henv, -⟩ := Progress.fill_ok ht hp₁
  obtain ⟨hdefault, -⟩ := Progress.fill_ok ht hq
  exact ⟨ms, hspells, fun a ha => (hrecords a ha).supplies (henv a ha) (hdefault a ha)⟩

/-! ## A command line -/

/-- A command line as it is read: the command, and what was mentioned in front of its name and
after it. -/
structure Line where
  command : CommandTable
  outer : List Mention
  inner : List Mention

namespace Line

/-- The words are the command line. -/
def Spells (g : Program) (ws : List String) (l : Line) : Prop :=
  l.command ∈ g.commands ∧ ∃ rest,
    Command.Spells g.table none 0 false ws l.outer (some (l.command.name, rest)) ∧
      Command.Spells (g.tableOf l.command) none 0 false rest l.inner none

/-- The command line, with the environment and the defaults, gives the argument that value, and from
that source. -/
def Supplies (l : Line) (env : String → Option String) (a : Argument) (x : Option Matched) : Prop :=
  Command.Supplies env a (a.given l.outer) (a.given l.inner) x

end Line

namespace Program

variable {g : Program} {ws : List String} {i : Invocation}

/-- Names tell the arguments of each level apart, and those of a command from all in front of it,
and they tell the commands apart. -/
structure IsDistinct (g : Program) : Prop where
  table : g.table.IsDistinct
  tableOf : ∀ c ∈ g.commands, (g.tableOf c).IsDistinct
  apart : ∀ c ∈ g.commands, ∀ a ∈ c.arguments, ∀ b ∈ g.table.arguments, b.name ≠ a.name
  commands : (g.commands.map (·.name)).Nodup

/-- A command line is read in one way. -/
theorem IsDistinct.unique (hg : g.IsDistinct) {l l' : Line} (H : l.Spells g ws)
    (H' : l'.Spells g ws) : l = l' := by
  obtain ⟨c, outer, inner⟩ := l
  obtain ⟨c', outer', inner'⟩ := l'
  obtain ⟨hc, rest, houter, hinner⟩ := H
  obtain ⟨hc', rest', houter', hinner'⟩ := H'
  obtain ⟨rfl, hrest⟩ : outer = outer' ∧ _ := houter.unique houter'
  obtain ⟨hname, rfl⟩ := Prod.mk.inj (Option.some.inj hrest)
  obtain rfl : c = c' := List.inj_on_of_nodup_map hg.commands hc hc' hname
  obtain ⟨rfl, -⟩ : inner = inner' ∧ _ := hinner.unique hinner'
  rfl

theorem IsDistinct.get?_merge (hg : g.IsDistinct) (ha : a ∈ g.common) (d d' : Dictionary Matched) :
    (g.merge d d').get? a.name = mergeOne (d.get? a.name) (d'.get? a.name) := by
  have hcommon : (g.common.map (·.name)).Nodup :=
    hg.table.sublist ((List.sublist_append_left _ _).map _)
  exact Dictionary.get?_ofList_filterMap hcommon ha

theorem IsDistinct.readCommand_supplies (hg : g.IsDistinct) {c : CommandTable} (hc : c ∈ g.commands)
    (h : g.readCommand env c ws = .ok d) :
    ∃ ms, Spells (g.tableOf c) none 0 false ws ms none ∧ ∀ a ∈ (g.tableOf c).arguments,
      Supplies env a [] (a.given ms) (d.get? a.name) ∧
        (a.required = true → (d.get? a.name).isSome = true) := by
  obtain ⟨⟨p, rest⟩, hwords, hread⟩ := exists_of_bind_eq_ok h
  obtain ⟨q, hq, hd⟩ := exists_of_bind_eq_ok hread
  obtain ⟨ms, hspells, hsupplies⟩ := (hg.tableOf c hc).finish_supplies hwords hq
  have hrest := hspells.rest_eq_none rfl
  split at hd
  next hrequired =>
    cases hd
    refine ⟨ms, hrest ▸ hspells, fun a ha => ⟨hsupplies a ha, fun hreq => ?_⟩⟩
    have hthere := List.all_eq_true.1 hrequired a ha
    rwa [hreq, Bool.not_true, Bool.false_or] at hthere
  next => cases hd

/-- Nothing in front of the name of a command mentions an argument of its own. -/
theorem IsDistinct.given_outer (hg : g.IsDistinct) {l : Line} (H : l.Spells g ws)
    (ha : a ∈ l.command.arguments) : a.given l.outer = [] := by
  obtain ⟨hc, rest, houter, -⟩ := H
  have hnone : l.outer.filter (·.argument.name == a.name) = [] := by
    refine List.filter_eq_nil_iff.2 fun m hm => ?_
    have hname := hg.apart _ hc a ha m.argument (houter.mem (fun _ => nofun) m hm)
    simpa using hname
  rw [Argument.given, hnone]
  rfl

/-- A command line that is accepted can be read, and every argument has what it supplies; what is
required is there. -/
theorem IsDistinct.read_supplies (hg : g.IsDistinct) (h : g.read env ws = .ok i) :
    ∃ l : Line, l.Spells g ws ∧ i.command = l.command.name ∧
      (∀ a ∈ l.command.arguments, l.Supplies env a (i.arguments.get? a.name) ∧
        (a.required = true → (i.arguments.get? a.name).isSome = true)) ∧
      ∀ a ∈ g.common, l.Supplies env a (i.common.get? a.name) := by
  obtain ⟨⟨p, rest⟩, hwords, hread⟩ := exists_of_bind_eq_ok h
  dsimp only at hread
  split at hread
  next c ws' hrest =>
    obtain ⟨⟨name, _⟩, rfl, hfound⟩ := Option.bind_eq_some_iff.1 hrest
    obtain ⟨_, hfind, hpair⟩ := Option.map_eq_some_iff.1 hfound
    cases hpair
    have hc : c ∈ g.commands := List.mem_of_find?_eq_some hfind
    obtain rfl : c.name = name := by simpa using List.find?_some hfind
    obtain ⟨d, hd, hfinish⟩ := exists_of_bind_eq_ok hread
    obtain ⟨q, hq, hi⟩ := exists_of_bind_eq_ok hfinish
    cases hi
    obtain ⟨inner, hinner, hown⟩ := hg.readCommand_supplies hc hd
    obtain ⟨outer, houter, hprogram⟩ := hg.table.finish_supplies hwords hq
    have hl : Line.Spells g ws ⟨c, outer, inner⟩ := ⟨hc, _, houter, hinner⟩
    refine ⟨⟨c, outer, inner⟩, hl, rfl, fun a ha => ?_, fun a ha => ?_⟩
    · obtain ⟨hsupplies, hrequired⟩ := hown a (List.mem_append_left _ (List.mem_append_left _ ha))
      refine ⟨?_, hrequired⟩
      rw [Line.Supplies, hg.given_outer hl ha]
      exact hsupplies
    · rw [hg.get?_merge ha]
      exact (hprogram a (List.mem_append_left _ ha)).merge
        (hown a (List.mem_append_left _ (List.mem_append_right _ ha))).1
  next =>
    obtain ⟨q, hq, hi⟩ := exists_of_bind_eq_ok hread
    cases hi

end Program

end Command

end SessionKeeper
