import SessionKeeper.Command.Action
import SessionKeeper.Proofs.Command.Values

/-!
# What command lines mean

The tables of the program let through only what has a meaning: each command line that is accepted
means an action of its command with the values of its arguments, and the options common to all
commands, but for an update of nothing (`program_read_means`). No command looks for its arguments in
vain (`Action.ofInvocation_ne_noArguments`). The values of actions and options are listed here in the
order of the tables (`Action.values`, `Options.values`), so that the arguments of a command and what
its action carries can be told one by one.
-/

namespace SessionKeeper

/-- The name of a role is read as that role. -/
theorem Role.parse_name (r : Role) : Role.parse r.name = .ok r := by
  cases r <;> decide +kernel

namespace Command

variable {env : String → Option String} {a : Argument} {m : Dictionary Matched} {l : Line}
  {x : Option Matched}

/-! ## Values of a kind -/

/-- The value is one of those that an argument of the kind can have. -/
def Kind.Has : Kind → Value → Prop
  | .value .text, .text _ => True
  | .value (.choice names), .text s => s ∈ names
  | .value .number, .number n => n < UInt64.size
  | .value .level, .number n | .count, .number n => n ≤ maxLevel
  | .switch, .on | .help, .on | .version, .on => True
  | _, _ => False

theorem level?_le {s : String} {n : Nat} (h : level? s = some n) : n ≤ maxLevel := by
  unfold level? at h
  split at h
  next k hk =>
    cases h
    simpa using (Option.filter_eq_some_iff.1 hk).2
  next =>
    have hlevels : ∀ e ∈ levelNames, e.2 ≤ maxLevel := by decide
    exact hlevels _ (mem_of_lookupKey h)

theorem Kind.has_of_read {k : Kind} {s : String} {v : Value} (h : k.read s = .ok v) : k.Has v := by
  have hlevel (h : Reading.level.read s = .ok v) : ∃ n, v = .number n ∧ n ≤ maxLevel := by
    unfold Reading.read at h
    dsimp only at h
    split at h
    next n hn =>
      cases h
      exact ⟨n, rfl, level?_le hn⟩
    next => cases h
  cases k with
  | value r =>
    cases r with
    | text =>
      cases h
      trivial
    | number =>
      unfold Kind.read Reading.read at h
      dsimp only at h
      split at h
      next n hn =>
        cases h
        have hlt := (Option.filter_eq_some_iff.1 hn).2
        rwa [decide_eq_true_eq] at hlt
      next => cases h
    | choice names =>
      unfold Kind.read Reading.read at h
      dsimp only at h
      split at h
      next hmem =>
        cases h
        exact List.contains_iff_mem.1 hmem
      next => cases h
    | level =>
      obtain ⟨n, rfl, hn⟩ := hlevel h
      exact hn
  | count =>
    obtain ⟨n, rfl, hn⟩ := hlevel h
    exact hn
  | switch | help | version =>
    cases h
    trivial

theorem Argument.Reads.has {gs : List (Option String)} {v : Value} (H : a.Reads gs v) :
    a.kind.Has v := by
  cases H with
  | value hk hv =>
    rw [hk]
    exact Kind.has_of_read (k := .value _) hv
  | switch hk =>
    rw [hk]
    trivial
  | count hk _ hmax =>
    rw [hk]
    exact hmax

/-- Whatever the source, an argument has a value of its kind. -/
theorem Supplies.has {outer inner : List (Option String)} {y : Matched}
    (H : Supplies env a outer inner (some y)) : a.kind.Has y.value := by
  cases H with
  | inner h | outer h => exact h.has
  | environment _ hv | default _ _ hv => exact Kind.has_of_read hv

/-- The command line, with the environment and the defaults, gives the argument that value. -/
def Line.Gives (l : Line) (env : String → Option String) (a : Argument) (v : Option Value) : Prop :=
  ∃ y, l.Supplies env a y ∧ y.map (·.value) = v

/-- A kind of texts. -/
def Kind.IsText (k : Kind) : Prop := ∀ v, k.Has v → ∃ s, v = .text s

/-- A kind of numbers. -/
def Kind.IsNumber (k : Kind) : Prop := ∀ v, k.Has v → ∃ n, v = .number n

theorem Kind.isText_text : (Kind.value .text).IsText
  | .text s, _ => ⟨s, rfl⟩

theorem Kind.isText_choice (names : List String) : (Kind.value (.choice names)).IsText
  | .text s, _ => ⟨s, rfl⟩

theorem Kind.isNumber_number : (Kind.value .number).IsNumber
  | .number n, _ => ⟨n, rfl⟩

theorem Kind.isNumber_count : Kind.count.IsNumber
  | .number n, _ => ⟨n, rfl⟩

namespace Line.Supplies

theorem value_text (H : l.Supplies env a (m.get? a.name)) (hk : a.kind.IsText) :
    (m.get? a.name).map (·.value) = (text? m a.name).map .text := by
  rw [text?]
  generalize m.get? a.name = x at H
  cases x with
  | none => rfl
  | some y =>
    obtain ⟨source, v⟩ := y
    obtain ⟨s, rfl⟩ : ∃ s, v = .text s := hk _ (Command.Supplies.has H)
    rfl

theorem value_number (H : l.Supplies env a (m.get? a.name)) (hk : a.kind.IsNumber) :
    (m.get? a.name).map (·.value) = (number? m a.name).map .number := by
  rw [number?]
  generalize m.get? a.name = x at H
  cases x with
  | none => rfl
  | some y =>
    obtain ⟨source, v⟩ := y
    obtain ⟨n, rfl⟩ : ∃ n, v = .number n := hk _ (Command.Supplies.has H)
    rfl

theorem value_switch (H : l.Supplies env a (m.get? a.name)) (hk : a.kind = .switch) :
    (m.get? a.name).map (·.value) = if m.contains a.name then some .on else none := by
  rw [Dictionary.contains]
  generalize m.get? a.name = x at H
  cases x with
  | none => rfl
  | some y =>
    have hhas := Command.Supplies.has H
    rw [hk] at hhas
    obtain ⟨source, v⟩ := y
    cases v with
    | on => rfl
    | text | number => exact hhas.elim

end Line.Supplies

/-- The values of the arguments of a command are those that the command line gives them, and what is
required is there. -/
def Line.Fills (l : Line) (env : String → Option String) (m : Dictionary Matched) : Prop :=
  ∀ a ∈ l.command.arguments, l.Supplies env a (m.get? a.name) ∧
    (a.required = true → (m.get? a.name).isSome = true)

theorem Line.Fills.need (H : l.Fills env m) (ha : a ∈ l.command.arguments) (hk : a.kind.IsText)
    (hrequired : a.required = true) :
    ∃ s, Command.need m a.name = .ok s ∧ l.Gives env a (some (.text s)) := by
  obtain ⟨hsupplies, hthere⟩ := H a ha
  have hvalue := hsupplies.value_text hk
  cases htext : text? m a.name with
  | none =>
    rw [htext, Option.map_none, Option.map_eq_none_iff] at hvalue
    have hsome := hthere hrequired
    rw [hvalue] at hsome
    cases hsome
  | some s =>
    rw [htext] at hvalue
    exact ⟨s, by rw [Command.need, htext], _, hsupplies, hvalue⟩

theorem Line.Gives.has {v : Value} (H : l.Gives env a (some v)) : a.kind.Has v := by
  obtain ⟨y, hsupplies, hy⟩ := H
  obtain ⟨y, rfl, rfl⟩ := Option.map_eq_some_iff.1 hy
  exact Command.Supplies.has hsupplies

/-- What is no role is no choice. -/
theorem Line.Fills.needRole (H : l.Fills env m) (ha : a ∈ l.command.arguments)
    (hk : a.kind = .value (.choice roleNames)) (hrequired : a.required = true) :
    ∃ r : Role, Command.needRole m a.name = .ok r ∧ l.Gives env a (some (.text r.name)) := by
  obtain ⟨s, hneed, hgives⟩ := H.need ha (hk ▸ Kind.isText_choice roleNames) hrequired
  have hmem : s ∈ roleNames := by
    have hhas := hgives.has
    rwa [hk] at hhas
  obtain ⟨r, rfl⟩ : ∃ r : Role, s = r.name := by
    simp only [roleNames, List.mem_cons, List.not_mem_nil, or_false] at hmem
    exact hmem.elim (⟨.faculty, ·⟩) (⟨.student, ·⟩)
  refine ⟨r, ?_, hgives⟩
  simp only [Command.needRole, hneed, bind, Except.bind, Role.parse_name]
  rfl

/-! ## The values of an action -/

/-- What an action carries, in the order of the arguments of its command. -/
def Action.values : Action → List (Option Value)
  | .login username password => [some (.text username), some (.text password)]
  | .register r => [some (.text r.username), some (.text r.password), some (.text r.role.name),
    some (.text r.email), some (.text r.firstName), some (.text r.lastName)]
  | .logout | .resendVerification => []
  | .whoami refresh => [if refresh then some .on else none]
  | .updateProfile w => [w.email.map .text, w.firstName.map .text, w.lastName.map .text]
  | .recover username email => [some (.text username), some (.text email)]
  | .checkRoute path => [some (.text path)]

/-- What the options are, in the order of the common arguments. -/
def Options.values (o : Options) : List (Option Value) :=
  [some (.text o.apiUrl), o.credentials.map .text, o.timeoutSecs.map .number,
    some (.number o.verbosity)]

/-- The command line asks for an update of nothing. -/
def Line.IsIdle (l : Line) : Prop :=
  l.command.name = "update-profile" ∧ ∀ a ∈ l.command.arguments, a.given l.inner = []

/-- The action is what the command line asks for: of its command, with the values that it gives the
arguments, one by one; an update is not one of nothing, and changes nothing that has no argument. -/
structure Line.Asks (l : Line) (env : String → Option String) (act : Action) : Prop where
  command : act.command = l.command.name
  values : List.Forall₂ (l.Gives env) l.command.arguments act.values
  update : ∀ w, act = .updateProfile w →
    w.isEmpty = false ∧ w.username = none ∧ w.role = none ∧ w.emailVerified = none

/-- What a command line means: the options are the values that it gives the common arguments, and
there is an action that it asks for, but for an update of nothing. -/
structure Line.Means (l : Line) (env : String → Option String) (i : Invocation) : Prop where
  options : List.Forall₂ (l.Gives env) program.common (Options.ofInvocation i).values
  idle : l.IsIdle → Action.ofInvocation i = .error .nothingToUpdate
  asks : ¬l.IsIdle → ∃ act, Action.ofInvocation i = .ok act ∧ l.Asks env act

/-! ## The tables of the program -/

theorem program_isDistinct : program.IsDistinct where
  table := by unfold Table.IsDistinct; decide
  tableOf := by unfold Table.IsDistinct; decide
  apart := by decide
  commands := by decide

/-! ## The options -/

theorem Supplies.ne_none {outer inner : List (Option String)} {s : String}
    (H : Supplies env a outer inner x) (hs : a.default = some s) : x ≠ none := by
  rintro rfl
  cases H with
  | nothing _ hs' => cases hs.symm.trans hs'

/-- What has neither a variable nor a default has a value just if it is mentioned. -/
theorem Supplies.eq_none_iff {inner : List (Option String)} (H : Supplies env a [] inner x)
    (henv : a.envVar = none) (hdefault : a.default = none) : x = none ↔ inner = [] := by
  cases H with
  | inner h => exact iff_of_false nofun h.ne_nil
  | outer h => exact absurd rfl h.ne_nil
  | environment hs =>
    rw [henv] at hs
    cases hs
  | default _ hs =>
    rw [hdefault] at hs
    cases hs
  | nothing => exact iff_of_true rfl rfl

/-- An argument with a default has a value, so that none has to be put in its place. -/
theorem Line.Supplies.value_of_default {s : String} {β : Type} {f : β → Value} {o : Option β}
    (H : l.Supplies env a (m.get? a.name)) (hs : a.default = some s)
    (hvalue : (m.get? a.name).map (·.value) = o.map f) (b : β) :
    (m.get? a.name).map (·.value) = some (f (o.getD b)) := by
  cases o with
  | none =>
    rw [Option.map_none, Option.map_eq_none_iff] at hvalue
    exact absurd hvalue (Command.Supplies.ne_none H hs)
  | some c => exact hvalue

theorem Line.options_given {i : Invocation}
    (H : ∀ a ∈ program.common, l.Supplies env a (i.common.get? a.name)) :
    List.Forall₂ (l.Gives env) program.common (Options.ofInvocation i).values := by
  obtain ⟨hurl, hcredentials, htimeout, hverbosity, -⟩ :
      _ ∧ _ ∧ _ ∧ _ ∧ ∀ a ∈ ([] : List Argument), l.Supplies env a (i.common.get? a.name) := by
    simpa only [program, commonArguments, List.forall_mem_cons] using H
  exact .cons ⟨_, hurl, hurl.value_of_default rfl (hurl.value_text Kind.isText_text) ""⟩
    (.cons ⟨_, hcredentials, hcredentials.value_text Kind.isText_text⟩
      (.cons ⟨_, htimeout, htimeout.value_number Kind.isNumber_number⟩
        (.cons ⟨_, hverbosity,
          hverbosity.value_of_default rfl (hverbosity.value_number Kind.isNumber_count) 0⟩ .nil)))

/-! ## The actions -/

/-- The arguments of the command that was read are found under its name. -/
theorem argumentsOf_eq {i : Invocation} {name : String} (h : i.command = name) :
    argumentsOf i name = .ok i.arguments := if_pos h

/-- Where no step fails for a reason, their chain does not. -/
theorem bind_ne_error {ε α β : Type} {x : Except ε α} {f : α → Except ε β} {e : ε}
    (hx : x ≠ .error e) (hf : ∀ a, f a ≠ .error e) : x >>= f ≠ .error e := by
  cases x with
  | ok a => exact hf a
  | error _ => exact fun h => hx (congrArg Except.error (Except.error.inj h))

theorem need_ne_noArguments (m : Dictionary Matched) (name : String) :
    need m name ≠ .error .noArguments := by
  rw [need]
  split <;> nofun

theorem needRole_ne_noArguments (m : Dictionary Matched) (name : String) :
    needRole m name ≠ .error .noArguments := by
  refine bind_ne_error (need_ne_noArguments m name) fun _ => ?_
  split <;> nofun

/-- Arguments are looked up only under the name of the command that was read. -/
theorem Action.ofInvocation_ne_noArguments (i : Invocation) :
    Action.ofInvocation i ≠ .error .noArguments := by
  have hfound {name : String} (h : i.command = name) : argumentsOf i name ≠ .error .noArguments := by
    rw [argumentsOf_eq h]
    nofun
  have hneed := need_ne_noArguments
  rw [Action.ofInvocation]
  split
  next h =>
    refine bind_ne_error (hfound h) fun m => ?_
    exact bind_ne_error (hneed m _) fun _ => bind_ne_error (hneed m _) fun _ => nofun
  next h =>
    refine bind_ne_error (hfound h) fun m => bind_ne_error (needRole_ne_noArguments m _) fun _ => ?_
    exact bind_ne_error (hneed m _) fun _ => bind_ne_error (hneed m _) fun _ =>
      bind_ne_error (hneed m _) fun _ => bind_ne_error (hneed m _) fun _ =>
        bind_ne_error (hneed m _) fun _ => nofun
  next => nofun
  next h => exact bind_ne_error (hfound h) fun _ => nofun
  next h =>
    refine bind_ne_error (hfound h) fun m => ?_
    dsimp only
    split <;> nofun
  next => nofun
  next h =>
    refine bind_ne_error (hfound h) fun m => ?_
    exact bind_ne_error (hneed m _) fun _ => bind_ne_error (hneed m _) fun _ => nofun
  next h =>
    exact bind_ne_error (hfound h) fun m => bind_ne_error (hneed m _) fun _ => nofun
  next => nofun

namespace Line.Fills

variable {common : Dictionary Matched}

theorem asks_login (H : l.Fills env m)
    (hl : l.command = ⟨"login", [usernameArgument (some usernameVariable), passwordArgument]⟩) :
    ∃ act, Action.ofInvocation ⟨l.command.name, m, common⟩ = .ok act ∧ l.Asks env act := by
  obtain ⟨c, outer, inner⟩ := l
  cases hl
  obtain ⟨username, husername, hgives⟩ :=
    H.need (a := usernameArgument (some usernameVariable)) (by simp) Kind.isText_text rfl
  obtain ⟨password, hpassword, hgives'⟩ :=
    H.need (a := passwordArgument) (by simp) Kind.isText_text rfl
  refine ⟨.login username password, ?_, rfl, .cons hgives (.cons hgives' .nil), fun _ => nofun⟩
  simp only [usernameArgument, passwordArgument] at husername hpassword
  simp only [Action.ofInvocation, argumentsOf_eq, bind, Except.bind, husername, hpassword]
  rfl

theorem asks_register (H : l.Fills env m)
    (hl : l.command = ⟨"register", [usernameArgument (some usernameVariable), passwordArgument,
      option "role" (.choice roleNames) true] ++ profileArguments true⟩) :
    ∃ act, Action.ofInvocation ⟨l.command.name, m, common⟩ = .ok act ∧ l.Asks env act := by
  obtain ⟨c, outer, inner⟩ := l
  cases hl
  obtain ⟨username, husername, hgives₁⟩ :=
    H.need (a := usernameArgument (some usernameVariable)) (by simp) Kind.isText_text rfl
  obtain ⟨password, hpassword, hgives₂⟩ :=
    H.need (a := passwordArgument) (by simp) Kind.isText_text rfl
  obtain ⟨role, hrole, hgives₃⟩ :=
    H.needRole (a := option "role" (.choice roleNames) true) (by simp) rfl rfl
  obtain ⟨email, hemail, hgives₄⟩ :=
    H.need (a := option "email" .text true) (by simp [profileArguments]) Kind.isText_text rfl
  obtain ⟨firstName, hfirst, hgives₅⟩ :=
    H.need (a := option "first-name" .text true) (by simp [profileArguments]) Kind.isText_text rfl
  obtain ⟨lastName, hlast, hgives₆⟩ :=
    H.need (a := option "last-name" .text true) (by simp [profileArguments]) Kind.isText_text rfl
  refine ⟨.register { username, email, password, firstName, lastName, role }, ?_, rfl,
    .cons hgives₁ (.cons hgives₂ (.cons hgives₃ (.cons hgives₄
      (.cons hgives₅ (.cons hgives₆ .nil))))), fun _ => nofun⟩
  simp only [usernameArgument, passwordArgument, option]
    at husername hpassword hrole hemail hfirst hlast
  simp only [Action.ofInvocation, argumentsOf_eq, bind, Except.bind, husername, hpassword,
    hrole, hemail, hfirst, hlast]
  rfl

theorem asks_whoami (H : l.Fills env m)
    (hl : l.command = ⟨"whoami", [⟨"refresh", none, some "refresh", .switch, none, none, false⟩]⟩) :
    ∃ act, Action.ofInvocation ⟨l.command.name, m, common⟩ = .ok act ∧ l.Asks env act := by
  obtain ⟨c, outer, inner⟩ := l
  cases hl
  have hsupplies := (H _ List.mem_cons_self).1
  exact ⟨.whoami (m.contains "refresh"), rfl, rfl,
    .cons ⟨_, hsupplies, hsupplies.value_switch rfl⟩ .nil, fun _ => nofun⟩

theorem asks_recover (H : l.Fills env m)
    (hl : l.command = ⟨"recover", [usernameArgument none, option "email" .text true]⟩) :
    ∃ act, Action.ofInvocation ⟨l.command.name, m, common⟩ = .ok act ∧ l.Asks env act := by
  obtain ⟨c, outer, inner⟩ := l
  cases hl
  obtain ⟨username, husername, hgives⟩ :=
    H.need (a := usernameArgument none) (by simp) Kind.isText_text rfl
  obtain ⟨email, hemail, hgives'⟩ :=
    H.need (a := option "email" .text true) (by simp) Kind.isText_text rfl
  refine ⟨.recover username email, ?_, rfl, .cons hgives (.cons hgives' .nil), fun _ => nofun⟩
  simp only [usernameArgument, option] at husername hemail
  simp only [Action.ofInvocation, argumentsOf_eq, bind, Except.bind, husername, hemail]
  rfl

theorem asks_checkRoute (H : l.Fills env m)
    (hl : l.command = ⟨"check-route", [⟨"path", none, none, .value .text, none, none, true⟩]⟩) :
    ∃ act, Action.ofInvocation ⟨l.command.name, m, common⟩ = .ok act ∧ l.Asks env act := by
  obtain ⟨c, outer, inner⟩ := l
  cases hl
  obtain ⟨path, hpath, hgives⟩ := H.need List.mem_cons_self Kind.isText_text rfl
  refine ⟨.checkRoute path, ?_, rfl, .cons hgives .nil, fun _ => nofun⟩
  simp only at hpath
  simp only [Action.ofInvocation, argumentsOf_eq, bind, Except.bind, hpath]
  rfl

/-- Where only the words after the name can give an option a value, it has none just if they do not
mention it. -/
theorem text?_eq_none_iff (H : l.Fills env m) (ha : a ∈ l.command.arguments) (hk : a.kind.IsText)
    (houter : a.given l.outer = []) (henv : a.envVar = none) (hdefault : a.default = none) :
    text? m a.name = none ↔ a.given l.inner = [] := by
  have hsupplies := (H a ha).1
  rw [← Option.map_eq_none_iff (f := Value.text), ← hsupplies.value_text hk,
    Option.map_eq_none_iff]
  rw [Line.Supplies, houter] at hsupplies
  exact hsupplies.eq_none_iff henv hdefault

theorem isEmpty_profileUpdate (H : l.Fills env m)
    (hl : l.command = ⟨"update-profile", profileArguments false⟩)
    (houter : ∀ a ∈ l.command.arguments, a.given l.outer = []) :
    (profileUpdate m).isEmpty = true ↔ l.IsIdle := by
  have hsilent (a : Argument) (ha : a ∈ profileArguments false) (hk : a.kind.IsText)
      (henv : a.envVar = none) (hdefault : a.default = none) :
      text? m a.name = none ↔ a.given l.inner = [] := by
    have ha : a ∈ l.command.arguments := by rwa [hl]
    exact H.text?_eq_none_iff ha hk (houter a ha) henv hdefault
  have hemail : text? m "email" = none ↔ (option "email" .text false).given l.inner = [] :=
    hsilent (option "email" .text false) (by simp [profileArguments]) Kind.isText_text rfl rfl
  have hfirst : text? m "first-name" = none ↔
      (option "first-name" .text false).given l.inner = [] :=
    hsilent (option "first-name" .text false) (by simp [profileArguments]) Kind.isText_text rfl rfl
  have hlast : text? m "last-name" = none ↔
      (option "last-name" .text false).given l.inner = [] :=
    hsilent (option "last-name" .text false) (by simp [profileArguments]) Kind.isText_text rfl rfl
  have hempty : (profileUpdate m).isEmpty = true ↔
      text? m "first-name" = none ∧ text? m "last-name" = none ∧ text? m "email" = none := by
    simp [profileUpdate, UserUpdate.isEmpty, UserUpdate.none]
  rw [hempty, hemail, hfirst, hlast, Line.IsIdle, hl]
  simp only [profileArguments, List.forall_mem_cons, List.not_mem_nil, IsEmpty.forall_iff,
    implies_true, and_true, true_and]
  exact and_rotate.symm

theorem asks_updateProfile (H : l.Fills env m)
    (hl : l.command = ⟨"update-profile", profileArguments false⟩)
    (houter : ∀ a ∈ l.command.arguments, a.given l.outer = []) :
    (l.IsIdle → Action.ofInvocation ⟨l.command.name, m, common⟩ = .error .nothingToUpdate) ∧
      (¬l.IsIdle → ∃ act, Action.ofInvocation ⟨l.command.name, m, common⟩ = .ok act ∧
        l.Asks env act) := by
  have hempty := H.isEmpty_profileUpdate hl houter
  obtain ⟨c, outer, inner⟩ := l
  cases hl
  refine ⟨fun hidle => if_pos (hempty.2 hidle), fun hbusy => ?_⟩
  have hnonempty := mt hempty.1 hbusy
  refine ⟨.updateProfile (profileUpdate m), if_neg hnonempty, rfl, ?_, ?_⟩
  · have hvalue {a : Argument} (ha : a ∈ profileArguments false) (hk : a.kind.IsText) :
        Line.Gives ⟨⟨"update-profile", profileArguments false⟩, outer, inner⟩ env a
          ((text? m a.name).map .text) := by
      have hsupplies := (H a ha).1
      exact ⟨_, hsupplies, hsupplies.value_text hk⟩
    exact .cons (hvalue (by simp [profileArguments]) Kind.isText_text)
      (.cons (hvalue (by simp [profileArguments]) Kind.isText_text)
        (.cons (hvalue (by simp [profileArguments]) Kind.isText_text) .nil))
  · intro w hw
    cases hw
    exact ⟨Bool.eq_false_iff.2 hnonempty, rfl, rfl, rfl⟩

end Line.Fills

theorem Line.Fills.asks {i : Invocation} (H : l.Fills env i.arguments)
    (hc : l.command ∈ commandTables) (hi : i.command = l.command.name)
    (houter : ∀ a ∈ l.command.arguments, a.given l.outer = []) :
    (l.IsIdle → Action.ofInvocation i = .error .nothingToUpdate) ∧
      (¬l.IsIdle → ∃ act, Action.ofInvocation i = .ok act ∧ l.Asks env act) := by
  obtain ⟨name, m, common⟩ := i
  obtain rfl : name = l.command.name := hi
  have hbusy (hname : l.command.name ≠ "update-profile")
      (h : ∃ act, Action.ofInvocation ⟨l.command.name, m, common⟩ = .ok act ∧ l.Asks env act) :
      (l.IsIdle → Action.ofInvocation ⟨l.command.name, m, common⟩ = .error .nothingToUpdate) ∧
        (¬l.IsIdle → ∃ act, Action.ofInvocation ⟨l.command.name, m, common⟩ = .ok act ∧
          l.Asks env act) :=
    ⟨fun hidle => absurd hidle.1 hname, fun _ => h⟩
  simp only [commandTables, List.mem_cons, List.not_mem_nil, or_false] at hc
  rcases hc with hl | hl | hl | hl | hl | hl | hl | hl
  · exact hbusy (by simp [hl]) (H.asks_login hl)
  · exact hbusy (by simp [hl]) (H.asks_register hl)
  · refine hbusy (by simp [hl]) ⟨.logout, by rw [hl]; rfl, by rw [hl]; rfl, ?_, fun _ => nofun⟩
    rw [hl]
    exact .nil
  · exact hbusy (by simp [hl]) (H.asks_whoami hl)
  · exact H.asks_updateProfile hl houter
  · refine hbusy (by simp [hl])
      ⟨.resendVerification, by rw [hl]; rfl, by rw [hl]; rfl, ?_, fun _ => nofun⟩
    rw [hl]
    exact .nil
  · exact hbusy (by simp [hl]) (H.asks_recover hl)
  · exact hbusy (by simp [hl]) (H.asks_checkRoute hl)

/-- For every list of words and every environment that the tables accept: the words are a command line
in one way, the options are the values that it gives the common arguments on either level, and unless
it asks for an update of nothing it means an action of its command, with the values that it gives the
arguments of the command. -/
theorem program_read_means {ws : List String} {i : Invocation} (h : program.read env ws = .ok i) :
    ∃ l : Line, (∀ l', l'.Spells program ws ↔ l' = l) ∧ l.Means env i := by
  obtain ⟨l, hspells, hi, hfills, hcommon⟩ := program_isDistinct.read_supplies h
  have houter : ∀ a ∈ l.command.arguments, a.given l.outer = [] := fun a ha =>
    program_isDistinct.given_outer hspells ha
  obtain ⟨hidle, hasks⟩ := Line.Fills.asks hfills hspells.1 hi houter
  refine ⟨l, fun l' => ⟨fun H => ?_, fun hl => ?_⟩, Line.options_given hcommon, hidle, hasks⟩
  · exact program_isDistinct.unique H hspells
  · rw [hl]
    exact hspells

/-- Common options stand in front of the command and after it, and one takes the name of a command for
its value; the password is in the environment, with texts for the user and the timeout that the words
come before. -/
theorem program_read_means_login :
    let env : String → Option String := fun name => lookupKey name
      [("CODENEST_USERNAME", "bob"), ("CODENEST_PASSWORD", "secret"), ("CODENEST_TIMEOUT", "9")]
    let ws := ["--timeout", "30", "-vv", "login", "-ualice", "-vc", "logout",
      "--api-url=https://codenest.dev/api"]
    ∃ i, program.read env ws = .ok i ∧ Action.ofInvocation i = .ok (.login "alice" "secret") ∧
      Options.ofInvocation i = ⟨"https://codenest.dev/api", some "logout", some 30, 1⟩ ∧
      ∃ l : Line, (∀ l', l'.Spells program ws ↔ l' = l) ∧ l.Means env i := by
  intro env ws
  have hmeans : (program.read env ws).toOption.map
      (fun i => (Action.ofInvocation i, Options.ofInvocation i)) =
        some (.ok (.login "alice" "secret"),
          ⟨"https://codenest.dev/api", some "logout", some 30, 1⟩) := by decide +kernel
  cases h : program.read env ws with
  | error e =>
    rw [h] at hmeans
    cases hmeans
  | ok i =>
    rw [h] at hmeans
    obtain ⟨haction, hoptions⟩ := Prod.mk.inj (Option.some.inj hmeans)
    exact ⟨i, rfl, haction, hoptions, program_read_means h⟩

end Command

end SessionKeeper
