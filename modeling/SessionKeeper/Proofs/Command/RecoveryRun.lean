import SessionKeeper.Proofs.Command.Attempts

/-!
# The run of a recovery

The command to recover a password has three phases: it asks for a code, has codes submitted until one is
confirmed, and then passwords until one is set (`Drives`). Each phase begins where the recovery stands
after the one before, so none of the submissions is out of order (`Drives.recovery`), and the lines, the
navigations and the reasons to stop are those of the phases together. `Driven` puts down all that is
observed of a run, and `execute_recover` is about the command from its configuration on.
-/

namespace SessionKeeper.Command

variable {σ : Type} {script : Nat → Reply}

/-! ## The phases of a run -/

/-- How a run goes on after attempts with that result: with a failure they were, or if they are spent,
for that reason. -/
def concluded (reason : String) : Except String Bool → Except String Unit
  | .ok true => .ok ()
  | .ok false => .error reason
  | .error m => .error m

/-- The recovery is given up when attempts are spent. -/
def leaving : Except String Bool → Surroundings σ → Surroundings σ
  | .ok false, s => (s.1.leaveRecovery, s.2)
  | _, s => s

/-- What is done for a recovery that has begun. -/
inductive Drives [Medium σ] (script : Nat → Reply) (username email : String) (s : Surroundings σ)
    (input : List String) : Except RecoveryError Unit → List Attempt → List Attempt →
      Except String Unit → Surroundings σ → List String → Prop where
  | refused {e : RecoveryError} {s' : Surroundings σ}
    (h : Makes script (.request username email) s (.error e) s') :
    Drives script username email s input (.error e) [] [] (.error e.message) s' input
  | unverified {s₁ s₂ : Surroundings σ} {codes : List Attempt} {r : Except String Bool}
    {rest : List String} (h : Makes script (.request username email) s (.ok ()) s₁)
    (H : Tries script 1 3 s₁ input codes r s₂ rest) (hr : r ≠ .ok true) :
    Drives script username email s input (.ok ()) codes [] (concluded "reset code not verified" r)
      (leaving r s₂) rest
  | verified {s₁ s₂ s₃ : Surroundings σ} {codes passwords : List Attempt} {r : Except String Bool}
    {rest rest' : List String} (h : Makes script (.request username email) s (.ok ()) s₁)
    (H : Tries script 1 3 s₁ input codes (.ok true) s₂ rest)
    (H' : Tries script 2 3 s₂ rest passwords r s₃ rest') :
    Drives script username email s input (.ok ()) codes passwords (concluded "password not reset" r)
      (leaving r s₃) rest'

variable [Medium σ]

theorem runRecovery_drives (script : Nat → Reply) (username email : String) (s : Surroundings σ)
    (t : Terminal) (hs : s.1.renewing = false) :
    ∃ o codes passwords r s' t',
      (runRecovery (.scripted script) username email).run (s, t) = (r, s', t') ∧
      Drives script username email (s.1.beginRecovery, s.2) t.input o codes passwords r s' t'.input := by
  have hbegun : (s.1.beginRecovery, s.2).1.renewing = false := hs
  obtain ⟨o, s₁, hmakes, hs₁⟩ := makes_of_idle script (.request username email) hbegun
  obtain ⟨v, hrun, rfl⟩ := Task.run_map_value hmakes
  have hbegin : (Task.modify Client.beginRecovery).run (.scripted script) s =
    (.value (), s.1.beginRecovery, s.2) := rfl
  rw [runRecovery, Run.run_bind, Run.run_perform _ hbegin]
  simp only [Run.run_bind, Run.run_performOrFail _ hrun]
  cases v with
  | error e => exact ⟨_, [], [], _, s₁, t, rfl, .refused hmakes⟩
  | ok notice =>
    obtain ⟨codes, r, s₂, t₂, hcodes, H, hs₂⟩ := confirmCode_tries maxAttempts s₁
      { t with output := t.output ++ (notice ++ "\n") } hs₁
    simp only [Except.mapError, Run.run_printLine]
    rw [hcodes]
    cases r with
    | error m => exact ⟨_, codes, [], _, s₂, t₂, rfl, .unverified hmakes H nofun⟩
    | ok verified =>
      cases verified with
      | false => exact ⟨_, codes, [], _, _, t₂, rfl, .unverified hmakes H nofun⟩
      | true =>
        obtain ⟨passwords, r, s₃, t₃, hpasswords, H', hs₃⟩ :=
          enterPassword_tries maxAttempts s₂ t₂ hs₂
        simp only [Run.run_bind, Bool.not_true, Bool.false_eq_true, if_false]
        rw [hpasswords]
        cases r with
        | error m => exact ⟨_, codes, passwords, _, s₃, t₃, rfl, .verified hmakes H H'⟩
        | ok reset =>
          cases reset with
          | none => exact ⟨_, codes, passwords, _, _, t₃, rfl, .verified hmakes H H'⟩
          | some notice => exact ⟨_, codes, passwords, _, s₃, _, rfl, .verified hmakes H H'⟩

/-! ## What follows from the phases -/

/-- The submission reached the backend, or was refused before. -/
def Reached (a : Attempt) : Prop := ∀ m, a.2 ≠ .error (.transport m)

/-- No submission follows one that did not reach the backend, and the run fails with its message. -/
inductive StopsOnTransport (r : Except String Unit) : List Attempt → Prop where
  | nil : StopsOnTransport r []
  | reached {a : Attempt} {as : List Attempt} (h : Reached a) (H : StopsOnTransport r as) :
    StopsOnTransport r (a :: as)
  | broken {x : Recovery.Action} {m : String} (h : r = .error m) :
    StopsOnTransport r [(x, .error (.transport m))]

section

omit [Medium σ]

variable {n : Nat} {as bs : List Attempt} {rest : List String} {r : Except String Bool}
  {r' : Except String Unit} {reason : String}

theorem Retried.reached {a : Attempt} (H : Retried a) : Reached a := by
  obtain ⟨e, he, hnot⟩ := H
  intro m hm
  exact hnot m (Except.error.inj (he.symm.trans hm))

theorem Retried.ne_ok {a : Attempt} (H : Retried a) : a.2 ≠ .ok () := by
  obtain ⟨e, he, _⟩ := H
  rw [he]
  nofun

theorem StopsOnTransport.append (h : ∀ a ∈ as, Reached a) (H : StopsOnTransport r' bs) :
    StopsOnTransport r' (as ++ bs) := by
  induction as with
  | nil => exact H
  | cons a as ih =>
    obtain ⟨ha, has⟩ := List.forall_mem_cons.1 h
    exact .reached ha (ih has)

theorem TriesEnd.stops (H : TriesEnd n as rest r) : StopsOnTransport (concluded reason r) as := by
  have hreached : ∀ {as}, (∀ a ∈ as, Retried a) → StopsOnTransport (concluded reason r) as :=
    fun hall => by simpa using StopsOnTransport.append (fun a ha => (hall a ha).reached) .nil
  cases H with
  | spent _ hall | closed _ hall => exact hreached hall
  | accepted h hall =>
    rw [h]
    exact .append (fun a ha => (hall a ha).reached) (.reached nofun .nil)
  | broken h hall =>
    rw [h]
    exact .append (fun a ha => (hall a ha).reached) (.broken rfl)

theorem TriesEnd.reached (H : TriesEnd n as rest (.ok true)) : ∀ a ∈ as, Reached a := by
  cases H with
  | accepted h hall =>
    rw [h]
    exact List.forall_mem_append.2 ⟨fun a ha => (hall a ha).reached, List.forall_mem_singleton.2 nofun⟩

/-- Attempts end well exactly if one of them succeeds. -/
theorem TriesEnd.ok_iff (H : TriesEnd n as rest r) : r = .ok true ↔ ∃ a ∈ as, a.2 = .ok () := by
  cases H with
  | spent _ hall | closed _ hall =>
    exact iff_of_false nofun fun ⟨a, ha, hok⟩ => (hall a ha).ne_ok hok
  | accepted h => exact iff_of_true rfl ⟨_, h ▸ List.mem_append_right _ (List.mem_singleton_self _), rfl⟩
  | broken h hall =>
    refine iff_of_false nofun ?_
    rintro ⟨a, ha, hok⟩
    rw [h] at ha
    obtain ha | ha := List.mem_append.1 ha
    · exact (hall a ha).ne_ok hok
    · rw [List.mem_singleton.1 ha] at hok
      cases hok

theorem TriesEnd.getLast?_eq (H : TriesEnd n as rest (.ok true)) :
    ∃ x, as.getLast? = some (x, .ok ()) := by
  cases H with
  | accepted h => exact ⟨_, h ▸ List.getLast?_concat⟩

theorem concluded_eq_ok_iff : concluded reason r = .ok () ↔ r = .ok true := by
  cases r with
  | error m => exact iff_of_false nofun nofun
  | ok b => cases b <;> simp [concluded]

end

/-- Why a run fails, and with what message. -/
inductive Stopped (o : Except RecoveryError Unit) (codes passwords : List Attempt)
    (rest : List String) : String → Prop where
  | refused {e : RecoveryError} (h : o = .error e) : Stopped o codes passwords rest e.message
  | broken {x : Recovery.Action} {m : String}
    (h : (codes ++ passwords).getLast? = some (x, .error (.transport m))) :
    Stopped o codes passwords rest m
  | closed (h : rest = []) : Stopped o codes passwords rest "input closed"
  | unverified (h : codes.length = 3) (hall : ∀ a ∈ codes, a.2 ≠ .ok ()) :
    Stopped o codes passwords rest "reset code not verified"
  | unset (h : passwords.length = 3) (hall : ∀ a ∈ passwords, a.2 ≠ .ok ()) :
    Stopped o codes passwords rest "password not reset"

/-- A recovery of that user name was driven from `s`, where it has begun: the outcome of the request for
a code, the codes and passwords that were submitted then, the result, and what is left of the lines. -/
structure Driven (script : Nat → Reply) (username email : String) (s : Surroundings σ)
    (input : List String) (o : Except RecoveryError Unit) (codes passwords : List Attempt)
    (r : Except String Unit) (s' : Surroundings σ) (rest : List String) : Prop where
  submissions : ∃ s₁, Chain script s ((.request username email, o) :: (codes ++ passwords)) s₁ ∧
    (s' = s₁ ∨ s' = (s₁.1.leaveRecovery, s₁.2))
  codes_eq : ∀ a ∈ codes, ∃ code, a.1 = .code code
  codes_length_le : codes.length ≤ 3
  passwords_eq : ∀ a ∈ passwords, ∃ new repeated, a.1 = .password new repeated
  passwords_length_le : passwords.length ≤ 3
  inOrder : ∀ a ∈ (.request username email, o) :: (codes ++ passwords),
    ∀ what step, a.2 ≠ .error (.outOfOrder what step)
  requested : codes ++ passwords ≠ [] → o = .ok ()
  verified : passwords ≠ [] → ∃ code, codes.getLast? = some (.code code, .ok ())
  /-- One line for each code and two for each password, and nothing else but a first line of a password
  that the input ends after. -/
  lines : ∃ cut, input = (codes ++ passwords).flatMap (·.1.lines) ++ (cut ++ rest) ∧
    (cut = [] ∨ cut.length = 1 ∧ rest = [] ∧ r = .error "input closed")
  stopsOnTransport : StopsOnTransport r ((.request username email, o) :: (codes ++ passwords))
  stopped : ∀ m, r = .error m → Stopped o codes passwords rest m
  ok_iff : r = .ok () ↔ ∃ a ∈ passwords, a.2 = .ok ()
  done : r = .ok () → s'.1.recovery = .idle ∧
    ∃ vs, Redirected s.1.visits vs ∧ s'.1.visits = .login (some resetNotice) :: vs
  failed : r ≠ .ok () → Redirected s.1.visits s'.1.visits

section

variable {n : Nat} {as : List Attempt} {input rest : List String} {s s' : Surroundings σ}
  {r : Except String Bool} {reason : String}

theorem Tries.codes_eq (H : Tries script 1 n s input as r s' rest) :
    ∀ a ∈ as, ∃ code, a.1 = .code code := by
  intro a ha
  have hlength := H.length_lines a ha
  cases hx : a.1 with
  | code code => exact ⟨code, rfl⟩
  | begin | leave | request | password =>
    rw [hx] at hlength
    cases hlength

theorem Tries.passwords_eq (H : Tries script 2 n s input as r s' rest) :
    ∀ a ∈ as, ∃ new repeated, a.1 = .password new repeated := by
  intro a ha
  have hlength := H.length_lines a ha
  cases hx : a.1 with
  | password new repeated => exact ⟨new, repeated, rfl⟩
  | begin | leave | request | code =>
    rw [hx] at hlength
    cases hlength

/-- Where an attempt takes one line, no line is left over. -/
theorem Tries.input_eq_of_one (H : Tries script 1 n s input as r s' rest) :
    input = as.flatMap (·.1.lines) ++ rest := by
  obtain ⟨cut, h, hcut⟩ := H.input_eq
  have hnil : cut = [] := hcut.elim id fun ⟨hlt, _⟩ => List.length_eq_zero_iff.1 (Nat.lt_one_iff.1 hlt)
  rw [h, hnil, List.nil_append]

theorem Tries.getLast?_code (H : Tries script 1 n s input as (.ok true) s' rest) :
    ∃ code, as.getLast? = some (.code code, .ok ()) := by
  obtain ⟨x, hx⟩ := H.ends.getLast?_eq
  obtain ⟨code, rfl⟩ : ∃ code, x = .code code := H.codes_eq _ (List.mem_of_getLast? hx)
  exact ⟨code, hx⟩

/-- Codes are entered while one is awaited; the one that is confirmed leads to the password. -/
theorem Tries.codes (H : Tries script 1 n s input as r s' rest) {user : String}
    (hs : s.1.recovery.step = .verify user) :
    (∀ a ∈ as, ∀ what step, a.2 ≠ .error (.outOfOrder what step)) ∧
      Redirected s.1.visits s'.1.visits ∧
      (r = .ok true → ∃ code, s'.1.recovery.step = .reset user code) := by
  obtain ⟨hinOrder, vs, hvs, hend⟩ := H.recovery fun x hx => by
    rw [hs]
    cases x with
    | code => exact .code
    | begin | leave | request | password => cases hx
  rw [hs] at hend
  refine ⟨hinOrder, ?_⟩
  obtain ⟨_, x, q, t, hx, hleads, hrecovery, hvisits⟩ | ⟨hr, _, hvisits⟩ := hend
  · cases hleads
    exact ⟨hvisits ▸ hvs, fun _ => ⟨_, congrArg Recovery.step hrecovery⟩⟩
  · exact ⟨hvisits ▸ hvs, fun h => absurd h hr⟩

/-- Passwords are entered while one is awaited; with the one that is set the recovery ends. -/
theorem Tries.passwords (H : Tries script 2 n s input as r s' rest) {user code : String}
    (hs : s.1.recovery.step = .reset user code) :
    (∀ a ∈ as, ∀ what step, a.2 ≠ .error (.outOfOrder what step)) ∧
      (r = .ok true → s'.1.recovery = .idle ∧
        ∃ vs, Redirected s.1.visits vs ∧ s'.1.visits = .login (some resetNotice) :: vs) ∧
      (r ≠ .ok true → Redirected s.1.visits s'.1.visits) := by
  obtain ⟨hinOrder, vs, hvs, hend⟩ := H.recovery fun x hx => by
    rw [hs]
    cases x with
    | password => exact .password
    | begin | leave | request | code => cases hx
  rw [hs] at hend
  refine ⟨hinOrder, ?_⟩
  obtain ⟨hr, x, q, t, hx, hleads, hrecovery, hvisits⟩ | ⟨hr, _, hvisits⟩ := hend
  · cases hleads
    exact ⟨fun _ => ⟨hrecovery, vs, hvs, hvisits⟩, fun h => absurd hr h⟩
  · exact ⟨fun h => absurd h hr, fun _ => hvisits ▸ hvs⟩

omit [Medium σ] in
theorem leaving_eq (r : Except String Bool) (s : Surroundings σ) :
    leaving r s = s ∨ leaving r s = (s.1.leaveRecovery, s.2) := by
  match r with
  | .ok true | .error _ => exact .inl rfl
  | .ok false => exact .inr rfl

omit [Medium σ] in
theorem visits_leaving (r : Except String Bool) (s : Surroundings σ) :
    (leaving r s).1.visits = s.1.visits := by
  obtain h | h := leaving_eq r s <;> rw [h]
  rfl

end

theorem Makes.asked {username email : String} {s s' : Surroundings σ}
    (h : Makes script (.request username email) s (.ok ()) s') (hs : s.1.recovery.step = .request) :
    s'.1.recovery.step = .verify (Text.trim username) ∧ s'.1.visits = s.1.visits := by
  obtain ⟨_, q, t, hleads, hrecovery, hvisits⟩ | ⟨e, he, _⟩ := h.cases (hs ▸ .request)
  · rw [hs] at hleads
    cases hleads
    exact ⟨congrArg Recovery.step hrecovery, hvisits⟩
  · cases he

namespace Drives

variable {username email : String} {s s' : Surroundings σ} {input rest : List String}
  {o : Except RecoveryError Unit} {codes passwords : List Attempt} {r : Except String Unit}

theorem submissions (H : Drives script username email s input o codes passwords r s' rest) :
    ∃ s₁, Chain script s ((.request username email, o) :: (codes ++ passwords)) s₁ ∧
      (s' = s₁ ∨ s' = (s₁.1.leaveRecovery, s₁.2)) := by
  cases H with
  | refused h => exact ⟨_, .cons h .nil, .inl rfl⟩
  | unverified h H =>
    rw [List.append_nil]
    exact ⟨_, .cons h H.chain, leaving_eq _ _⟩
  | verified h H H' => exact ⟨_, .cons h (H.chain.append H'.chain), leaving_eq _ _⟩

theorem lines (H : Drives script username email s input o codes passwords r s' rest) :
    ∃ cut, input = (codes ++ passwords).flatMap (·.1.lines) ++ (cut ++ rest) ∧
      (cut = [] ∨ cut.length = 1 ∧ rest = [] ∧ r = .error "input closed") := by
  cases H with
  | refused => exact ⟨[], rfl, .inl rfl⟩
  | unverified _ H => exact ⟨[], by rw [List.append_nil]; exact H.input_eq_of_one, .inl rfl⟩
  | verified _ H H' =>
    obtain ⟨cut, h, hcut⟩ := H'.input_eq
    refine ⟨cut, by rw [H.input_eq_of_one, h, List.flatMap_append, List.append_assoc], ?_⟩
    obtain hnil | ⟨hlt, hrest, rfl⟩ := hcut
    · exact .inl hnil
    -- what is cut off of two lines is one line, if it is anything
    · by_cases hnil : cut = []
      · exact .inl hnil
      · have hpos := List.length_pos_iff.2 hnil
        exact .inr ⟨by omega, hrest, rfl⟩

theorem stopsOnTransport (H : Drives script username email s input o codes passwords r s' rest) :
    StopsOnTransport r ((.request username email, o) :: (codes ++ passwords)) := by
  cases H with
  | @refused e =>
    cases e with
    | transport m => exact .broken rfl
    | outOfOrder | invalid | rejected => exact .reached nofun .nil
  | unverified _ H =>
    rw [List.append_nil]
    exact .reached nofun H.ends.stops
  | verified _ H H' => exact .reached nofun (.append H.ends.reached H'.ends.stops)

theorem ok_iff (H : Drives script username email s input o codes passwords r s' rest) :
    r = .ok () ↔ ∃ a ∈ passwords, a.2 = .ok () := by
  cases H with
  | refused => exact iff_of_false nofun nofun
  | unverified _ _ hr => exact iff_of_false (fun h => hr (concluded_eq_ok_iff.1 h)) nofun
  | verified _ _ H' => exact concluded_eq_ok_iff.trans H'.ends.ok_iff

theorem stopped (H : Drives script username email s input o codes passwords r s' rest) {m : String}
    (hm : r = .error m) : Stopped o codes passwords rest m := by
  cases H with
  | refused =>
    cases hm
    exact .refused rfl
  | unverified _ H hr =>
    cases H.ends with
    | spent h hall =>
      cases hm
      exact .unverified h fun a ha => (hall a ha).ne_ok
    | closed h =>
      cases hm
      exact .closed h
    | accepted => exact absurd rfl hr
    | @broken before x _ h =>
      cases hm
      exact .broken (by rw [List.append_nil, h, List.getLast?_concat])
  | verified _ H H' =>
    cases H'.ends with
    | spent h hall =>
      cases hm
      exact .unset h fun a ha => (hall a ha).ne_ok
    | closed h =>
      cases hm
      exact .closed h
    | accepted => cases hm
    | @broken before x _ h =>
      cases hm
      exact .broken (by rw [h, ← List.append_assoc, List.getLast?_concat])

/-- Where the recovery stands after each phase decides what the next one may do. -/
theorem recovery (H : Drives script username email s input o codes passwords r s' rest)
    (hs : s.1.recovery.step = .request) :
    (∀ a ∈ (.request username email, o) :: (codes ++ passwords),
        ∀ what step, a.2 ≠ .error (.outOfOrder what step)) ∧
      (r = .ok () → s'.1.recovery = .idle ∧
        ∃ vs, Redirected s.1.visits vs ∧ s'.1.visits = .login (some resetNotice) :: vs) ∧
      (r ≠ .ok () → Redirected s.1.visits s'.1.visits) := by
  have hmeets : (Recovery.Action.request username email).Meets s.1.recovery.step := hs ▸ .request
  cases H with
  | refused h =>
    obtain ⟨ho, _⟩ | ⟨e, ho, hinOrder, _, hvisits⟩ := h.cases hmeets
    · cases ho
    · cases ho
      refine ⟨List.forall_mem_singleton.2 fun what step h => hinOrder what step (Except.error.inj h),
        nofun, fun _ => .of_visits hvisits⟩
  | unverified h H hr =>
    obtain ⟨hverify, hvisits₁⟩ := h.asked hs
    obtain ⟨hinOrder, hvisits₂, _⟩ := H.codes hverify
    rw [List.append_nil, visits_leaving, ← hvisits₁]
    exact ⟨List.forall_mem_cons.2 ⟨nofun, hinOrder⟩, fun hok => absurd (concluded_eq_ok_iff.1 hok) hr,
      fun _ => hvisits₂⟩
  | @verified _ _ _ _ _ r _ _ h H H' =>
    obtain ⟨hverify, hvisits₁⟩ := h.asked hs
    obtain ⟨hinOrder, hvisits₂, hreset⟩ := H.codes hverify
    obtain ⟨code, hreset⟩ := hreset rfl
    obtain ⟨hinOrder', hdone, hfailed⟩ := H'.passwords hreset
    rw [visits_leaving, ← hvisits₁, ne_eq, concluded_eq_ok_iff]
    refine ⟨List.forall_mem_cons.2 ⟨nofun, List.forall_mem_append.2 ⟨hinOrder, hinOrder'⟩⟩, ?_,
      fun hr => hvisits₂.trans (hfailed hr)⟩
    rintro rfl
    obtain ⟨hidle, vs, hvs, hvisits₃⟩ := hdone rfl
    exact ⟨hidle, vs, hvisits₂.trans hvs, hvisits₃⟩

theorem driven (H : Drives script username email s input o codes passwords r s' rest)
    (hs : s.1.recovery.step = .request) :
    Driven script username email s input o codes passwords r s' rest := by
  obtain ⟨hinOrder, hdone, hfailed⟩ := H.recovery hs
  have hshape : (∀ a ∈ codes, ∃ code, a.1 = .code code) ∧ codes.length ≤ 3 ∧
      (∀ a ∈ passwords, ∃ new repeated, a.1 = .password new repeated) ∧ passwords.length ≤ 3 := by
    cases H with
    | refused => exact ⟨nofun, Nat.zero_le 3, nofun, Nat.zero_le 3⟩
    | unverified _ H => exact ⟨H.codes_eq, H.length_le, nofun, Nat.zero_le 3⟩
    | verified _ H H' => exact ⟨H.codes_eq, H.length_le, H'.passwords_eq, H'.length_le⟩
  obtain ⟨hcodes, hcodesLength, hpasswords, hpasswordsLength⟩ := hshape
  refine ⟨H.submissions, hcodes, hcodesLength, hpasswords, hpasswordsLength, hinOrder, ?_, ?_, H.lines,
    H.stopsOnTransport, fun m => H.stopped, H.ok_iff, hdone, hfailed⟩
  · intro hsome
    cases H with
    | refused => exact absurd rfl hsome
    | unverified | verified => rfl
  · intro hsome
    cases H with
    | refused | unverified => exact absurd rfl hsome
    | verified _ H => exact H.getLast?_code

end Drives

/-! ## From the command line -/

omit [Medium σ] in
theorem eq_connect {config : Config} {d : Disk} {c : Client Vault} {v : Vault}
    (h : connect config d = (.ok c, v)) : ∃ s, c = .connect s := by
  rw [connect] at h
  split at h
  next s _ _ =>
    cases h
    exact ⟨s, rfl⟩
  next => cases h

/-- With a client connected, the command to recover a password ends, whatever lines are entered and
whatever the backend answers. It asks once for a code, has up to three codes and, with one of them
confirmed, up to three passwords submitted, none of them out of order; it takes the lines of these from
the beginning of the input; and it succeeds exactly if a password is set, with one navigation of its
own. -/
theorem execute_recover {config : Config} {d : Disk} {c : Client Vault} {v : Vault}
    (hconnect : connect config d = (.ok c, v)) {script : Nat → Reply} {username email : String}
    {t : Terminal} {ended : Ended (Surroundings Vault)}
    (hended : execute (.scripted script) (fun c => (c, [])) (.ok config) .recovery
      (.recover username email) d t = ended) :
    ∃ o codes passwords s', ended.surrounding = some s' ∧
      Driven script username email (c.beginRecovery, []) t.input o codes passwords ended.result s'
        ended.terminal.input := by
  obtain ⟨s, rfl⟩ := eq_connect hconnect
  obtain ⟨o, codes, passwords, r, s', t', hrun, H⟩ :=
    runRecovery_drives script username email (.connect s, []) t rfl
  simp only [execute, Handler.objection?, hconnect, Handler.run] at hended
  rw [hrun] at hended
  cases hended
  exact ⟨o, codes, passwords, s', rfl, H.driven rfl⟩

/-- The second code is the right one, and so is the second password; one more line is not read. -/
theorem execute_recover_second_tries :
    let script : Nat → Reply
      | 1 => .ok ⟨400, "\x7b\"error\": \"Wrong code\"\x7d"⟩
      | _ => .ok ⟨200, "\x7b\x7d"⟩
    let t : Terminal := ⟨["zz", " ab12", "short", "short", "secret", "secret", "more"], "", ""⟩
    ∃ c v ended, connect .default ⟨[], []⟩ = (.ok c, v) ∧
      execute (.scripted script) (fun c => (c, [])) (.ok .default) .recovery
        (.recover "alice" "alice@example.org") ⟨[], []⟩ t = ended ∧
      (ended.result.isOk = true ∧ ended.terminal.input = ["more"] ∧ ended.terminal.errors =
        "Wrong code\nPassword must be at least 6 characters long\n") ∧
      ∃ o codes passwords s', ended.surrounding = some s' ∧
        Driven script "alice" "alice@example.org" (c.beginRecovery, []) t.input o codes passwords
          ended.result s' ended.terminal.input := by
  intro script t
  obtain ⟨c, v, hconnect⟩ : ∃ c v, connect .default ⟨[], []⟩ = (.ok c, v) := ⟨_, _, rfl⟩
  obtain ⟨ended, hended, hseen⟩ : ∃ ended, execute (.scripted script) (fun c => (c, [])) (.ok .default)
      .recovery (.recover "alice" "alice@example.org") ⟨[], []⟩ t = ended ∧
      ended.result.isOk = true ∧ ended.terminal.input = ["more"] ∧ ended.terminal.errors =
        "Wrong code\nPassword must be at least 6 characters long\n" := ⟨_, rfl, by decide +kernel⟩
  exact ⟨c, v, ended, hconnect, hended, hseen, execute_recover hconnect hended⟩

end SessionKeeper.Command
