import SessionKeeper.Proofs.Client.Submissions

/-!
# A password is set only with a confirmed code

A recovery is driven by one action after the other, each of them with whatever the backend answers, to
its end, up to a wait, or until it is dropped. How a recovery came to where it stands is a list of
such episodes (`Recovery.Came`). The step alone tells part of that list: at the last step, the user
name was taken and the code confirmed since the recovery was last begun or given up
(`Recovery.Came.explains`). So every call that sets a password was earned by the episodes before it
(`Recovery.Came.password_confirmed`).
-/

namespace SessionKeeper.Recovery

variable {σ : Type} [Medium σ]

/-! ## Actions -/

/-- What the user of a recovery can do. -/
inductive Action where
  | begin
  | leave
  | request (username email : String)
  | code (given : String)
  | password (new repeated : String)

namespace Action

/-- The action begins the recovery anew, or gives it up. -/
def restarts : Action → Bool
  | .begin | .leave => true
  | .request _ _ | .code _ | .password _ _ => false

/-- The task of an action; of its result, only whether it failed. -/
def task : Action → Task σ (Except RecoveryError Unit)
  | .begin => .ok <$> Task.modify Client.beginRecovery
  | .leave => .ok <$> Task.modify Client.leaveRecovery
  | .request username email => (·.map fun _ => ()) <$> submitRequest username email
  | .code given => submitCode given
  | .password new repeated => (·.map fun _ => ()) <$> submitPassword new repeated

end Action

/-- An action, as far as it has come. Others may have changed the client while it waited, but not the
recovery, which belongs to who drives it. -/
structure Episode (σ : Type) [Medium σ] where
  action : Action
  began : Client σ
  waits : List (Wait σ)
  task : Task σ (Except RecoveryError Unit)
  client : Client σ
  course : action.task.Course began waits task client
  kept : KeepRecovery waits

namespace Episode

/-- The calls that the action made, each with the client when it was made. -/
def calls (e : Episode σ) : List (Call × Client σ) := Task.calls e.waits e.task e.client

/-- A code was asked for, for that user name, and this succeeded. -/
def Requests (e : Episode σ) (user : String) : Prop :=
  ∃ username email, e.action = .request username email ∧ Text.trim username = user ∧
    e.task = .done (.ok ())

/-- A code was handed in, and the backend confirmed it for that user name. -/
def Confirms (e : Episode σ) (user code : String) : Prop :=
  ∃ given, e.action = .code given ∧ normalizeCode given = code ∧ code ≠ "" ∧
    ∃ bearer began ended a,
      .reply ((codeRequest user code).call bearer) began ended (.ok a) ∈ e.waits ∧
        a.isSuccess = true

/-- The step that the action found has been left for another one. -/
inductive Moved (e : Episode σ) : Prop where
  | idle (h : e.client.recovery.step = .idle)
  | request (h : e.client.recovery.step = .request)
  | verify {user : String} (h : e.client.recovery.step = .verify user) (H : e.Requests user)
  | reset {user code : String} (h : e.client.recovery.step = .reset user code)
    (hfound : e.began.recovery.step = .verify user) (H : e.Confirms user code)

/-- The call sets a password, and the step that the action found allows it. -/
def Sets (e : Episode σ) (call : Call) : Prop :=
  ∃ new user code bearer, e.action = .password new new ∧ 6 ≤ new.length ∧
    e.began.recovery.step = .reset user code ∧ call = (passwordRequest user code new).call bearer

theorem restarted {e : Episode σ} (h : e.action.restarts = true) :
    e.Moved ∧ e.calls = [] ∧ ∀ d, e.task.drop d = d := by
  obtain ⟨action, began, waits, task, client, hcourse, hkept⟩ := e
  cases action with
  | begin =>
    obtain ⟨rfl, rfl, rfl⟩ := hcourse
    exact ⟨.request rfl, rfl, fun _ => rfl⟩
  | leave =>
    obtain ⟨rfl, rfl, rfl⟩ := hcourse
    exact ⟨.idle rfl, rfl, fun _ => rfl⟩
  | request | code | password => cases h

theorem submitted {e : Episode σ} (h : e.action.restarts = false) :
    Submitted e.began.recovery.step e.waits e.task e.client
      (fun call => call.path = Endpoint.resetPassword → e.Sets call) e.Moved := by
  obtain ⟨action, began, waits, task, client, hcourse, hkept⟩ := e
  cases action with
  | begin | leave => cases h
  | request username email =>
    obtain ⟨v, hv, rfl⟩ := Task.Course.map_cases hcourse
    refine ((submitRequest_course hv hkept).map _).mono ?_ ?_
    · intro call hpath hreset
      exact absurd (hpath.symm.trans hreset) (by decide)
    · rintro ⟨hstep, notice, rfl⟩
      exact .verify hstep ⟨username, email, rfl, rfl, rfl⟩
  | code given =>
    refine (submitCode_course hcourse hkept).mono ?_ ?_
    · intro call hpath hreset
      exact absurd (hpath.symm.trans hreset) (by decide)
    · rintro ⟨user, hfound, hstep, hcode, hreply⟩
      exact .reset hstep hfound ⟨given, rfl, rfl, hcode, hreply⟩
  | password new repeated =>
    obtain ⟨v, hv, rfl⟩ := Task.Course.map_cases hcourse
    refine ((submitPassword_course hv hkept).map _).mono ?_ fun hstep => .idle hstep
    rintro call ⟨rfl, hlength, user, code, bearer, hfound, rfl⟩ _
    exact ⟨repeated, user, code, bearer, rfl, hlength, hfound, rfl⟩

theorem drop (e : Episode σ) (d : Client σ) : (e.task.drop d).recovery = d.recovery := by
  cases h : e.action.restarts with
  | true => rw [(restarted h).2.2 d]
  | false => exact (submitted h).drop d

theorem sets (e : Episode σ) {x : Call × Client σ} (hx : x ∈ e.calls)
    (hpath : x.1.path = Endpoint.resetPassword) : e.Sets x.1 := by
  cases h : e.action.restarts with
  | true =>
    rw [(restarted h).2.1] at hx
    cases hx
  | false =>
    obtain h | h := (submitted h).calls x hx
    · exact h hpath
    · exact absurd (hpath.symm.trans h) (by decide)

end Episode

/-! ## How a recovery came about -/

/-- The recovery came to be as it is by these episodes, the latest first. -/
inductive Came : List (Episode σ) → Recovery → Prop where
  | idle : Came [] .idle
  | stands {es : List (Episode σ)} {e : Episode σ} (H : Came es e.began.recovery) :
    Came (e :: es) e.client.recovery
  | dropped {es : List (Episode σ)} {e : Episode σ} (H : Came es e.began.recovery) :
    Came (e :: es) (e.task.drop e.client).recovery

/-- The episodes since the recovery was last begun or given up. -/
def flow (es : List (Episode σ)) : List (Episode σ) := es.takeWhile fun e => !e.action.restarts

/-- In the present flow the user name was taken, and after that the code was confirmed. -/
def Confirmed (es : List (Episode σ)) (user code : String) : Prop :=
  ∃ e₁ e₂, [e₂, e₁].Sublist (flow es) ∧ e₁.Requests user ∧ e₂.Confirms user code

/-- What the episodes must have been for the recovery to stand at a step. -/
def Explains (es : List (Episode σ)) : RecoveryStep → Prop
  | .idle | .request => True
  | .verify user => ∃ e ∈ flow es, e.Requests user
  | .reset user code => Confirmed es user code

variable {es : List (Episode σ)} {e : Episode σ}

theorem flow_cons (h : e.action.restarts = false) : flow (e :: es) = e :: flow es := by
  rw [flow, List.takeWhile_cons, h]
  rfl

theorem Explains.cons {s : RecoveryStep} (H : Explains es s) (h : e.action.restarts = false) :
    Explains (e :: es) s := by
  cases s with
  | idle | request => trivial
  | verify user =>
    obtain ⟨e₁, hmem, hrequests⟩ := H
    exact ⟨e₁, flow_cons h ▸ List.mem_cons_of_mem e hmem, hrequests⟩
  | reset user code =>
    obtain ⟨e₁, e₂, hsub, hrequests, hconfirms⟩ := H
    exact ⟨e₁, e₂, flow_cons h ▸ hsub.cons e, hrequests, hconfirms⟩

theorem Explains.moved (H : Explains es e.began.recovery.step) (hmoved : e.Moved) :
    Explains (e :: es) e.client.recovery.step := by
  cases hmoved with
  | idle h | request h =>
    rw [h]
    trivial
  | @verify user h hrequests =>
    obtain ⟨_, _, haction, _⟩ := id hrequests
    have hflow : flow (e :: es) = e :: flow es := flow_cons (by rw [haction]; rfl)
    rw [h]
    exact ⟨e, hflow ▸ List.mem_cons_self, hrequests⟩
  | @reset user code h hfound hconfirms =>
    obtain ⟨_, haction, _⟩ := id hconfirms
    have hflow : flow (e :: es) = e :: flow es := flow_cons (by rw [haction]; rfl)
    rw [hfound] at H
    rw [h]
    -- the user name was taken before, in the same flow, because the step still had it
    obtain ⟨e₁, hmem, hrequests⟩ := H
    exact ⟨e₁, e, hflow ▸ (List.singleton_sublist.2 hmem).cons_cons e, hrequests, hconfirms⟩

/-- One episode keeps the steps explained. -/
theorem Explains.episode (H : Explains es e.began.recovery.step) :
    Explains (e :: es) e.client.recovery.step := by
  cases h : e.action.restarts with
  | true => exact H.moved (Episode.restarted h).1
  | false =>
    obtain hstep | hmoved := (Episode.submitted h).step
    · rw [hstep]
      exact H.cons h
    · exact H.moved hmoved

theorem Came.explains {r : Recovery} (H : Came es r) : Explains es r.step := by
  induction H with
  | idle => trivial
  | stands _ ih => exact ih.episode
  | @dropped es e _ ih =>
    rw [e.drop]
    exact ih.episode

/-- Each episode of a recovery began where the ones before it had brought it. -/
theorem Came.before {after before : List (Episode σ)} {r : Recovery}
    (H : Came (after ++ e :: before) r) : Came before e.began.recovery := by
  induction after generalizing r with
  | nil =>
    cases H with
    | stands H | dropped H => exact H
  | cons e' after ih =>
    cases H with
    | stands H | dropped H => exact ih H

/-- The client after an action that goes on alone as these replies and turns come, if they fit. -/
def drive? (c : Client σ) (x : Action × List (Option Reply)) : Option (Client σ) :=
  (Pool.run? ⟨c, []⟩ (.start x.1.task :: x.2.map (.progress 0))).map Pool.client

theorem Came.drive {c d : Client σ} {x : Action × List (Option Reply)} (H : Came es c.recovery)
    (h : drive? c x = some d) : ∃ e : Episode σ, e.action = x.1 ∧ Came (e :: es) d.recovery := by
  obtain ⟨q, hrun, rfl⟩ := Option.map_eq_some_iff.1 h
  obtain ⟨p, hstart, hrun⟩ := Option.bind_eq_some_iff.1 hrun
  generalize hms : x.2.map (Move.progress 0) = ms at hrun
  have hprogress : ∀ m ∈ ms, ∃ r, m = .progress 0 r := by
    rw [← hms]
    intro m hm
    obtain ⟨r, _, rfl⟩ := List.mem_map.1 hm
    exact ⟨r, rfl⟩
  obtain ⟨hundisturbed, hlast⟩ := Pool.history_undisturbed hprogress hrun
  have htrack : Move.trackAll? 0 ms = some 0 := Move.trackAll?_of_isProgress fun m hm => by
    obtain ⟨r, rfl⟩ := hprogress m hm
    cases r <;> trivial
  obtain ⟨v, _, hcourse⟩ := Pool.start_course hstart hrun htrack
  let e : Episode σ := ⟨x.1, c, _, v, _, hcourse,
    fun w hw => congrArg Client.recovery (hundisturbed w hw)⟩
  have hrecovery : e.client.recovery = q.client.recovery := congrArg Client.recovery hlast
  exact ⟨e, rfl, hrecovery ▸ Came.stands H⟩

/-- Actions that go on one after the other, each of them alone, are episodes. -/
theorem Came.script {script : List (Action × List (Option Reply))} {c d : Client σ}
    (H : Came es c.recovery) (hrun : script.foldlM drive? c = some d) :
    ∃ es' : List (Episode σ), es'.map Episode.action = (script.map Prod.fst).reverse ∧
      Came (es' ++ es) d.recovery := by
  induction script generalizing es c with
  | nil =>
    cases hrun
    exact ⟨[], rfl, H⟩
  | cons x script ih =>
    obtain ⟨c', hx, hrest⟩ := Option.bind_eq_some_iff.1 hrun
    obtain ⟨e, haction, He⟩ := H.drive hx
    obtain ⟨es', hactions, Hes⟩ := ih He hrest
    refine ⟨es' ++ [e], ?_, by rwa [List.append_assoc]⟩
    simp [hactions, haction]

/-- However a recovery was driven and whatever the backend answered: if it is at the last step, with a
user name and a code, then in the present flow a code was asked for, for that user name, and after
that the backend confirmed this code for it; and of each call that ever set a password this was true
before it was made, with the user name and the code that it carries. -/
theorem Came.password_confirmed {r : Recovery} (H : Came es r) :
    (∀ user code, r.step = .reset user code → Confirmed es user code) ∧
      ∀ after e before, es = after ++ e :: before → ∀ x ∈ e.calls,
        x.1.path = Endpoint.resetPassword →
          ∃ new user code bearer, e.action = .password new new ∧ 6 ≤ new.length ∧
            x.1 = (passwordRequest user code new).call bearer ∧ Confirmed before user code := by
  constructor
  · intro user code hstep
    have hexplained := H.explains
    rw [hstep] at hexplained
    exact hexplained
  · rintro after e before rfl x hx hpath
    obtain ⟨new, user, code, bearer, haction, hlength, hfound, hcall⟩ := e.sets hx hpath
    have hexplained := H.before.explains
    rw [hfound] at hexplained
    exact ⟨new, user, code, bearer, haction, hlength, hcall, hexplained⟩

/-- A flow for one user is given up. In the next one, for another, a token is renewed on the way to a
code, and a wrong code is handed in before the right one; then the password is on its way. -/
theorem Came.password_confirmed_second_flow :
    let entries := Store.withLogin .empty default ⟨"A1", "R1"⟩
    let c₀ : Client Memory := .connect ⟨entries, .ofEntries entries⟩
    let notice : Reply := .ok ⟨200, "\x7b\"message\":\"sent\"\x7d"⟩
    let script : List (Action × List (Option Reply)) :=
      [(.begin, []), (.request "bob" "bob@example.org", [some notice]), (.leave, []), (.begin, []),
        (.request " alice " "alice@example.org", [some (.ok ⟨401, ""⟩), none,
          some (.ok ⟨200, "\x7b\"access\":\"A2\"\x7d"⟩), some notice]),
        (.code "zz", [some (.ok ⟨400, ""⟩)]), (.code " ab12 ", [some (.ok ⟨200, ""⟩)]),
        (.password "secret" "secret", [])]
    ∃ (es : List (Episode Memory)) (c : Client Memory), script.foldlM drive? c₀ = some c ∧
      es.map Episode.action = (script.map Prod.fst).reverse ∧ Came es c.recovery ∧
      c.recovery.step = .reset "alice" "AB12" ∧
      (∀ user code, c.recovery.step = .reset user code → Confirmed es user code) ∧
      ∀ after e before, es = after ++ e :: before → ∀ x ∈ e.calls,
        x.1.path = Endpoint.resetPassword →
          ∃ new user code bearer, e.action = .password new new ∧ 6 ≤ new.length ∧
            x.1 = (passwordRequest user code new).call bearer ∧ Confirmed before user code := by
  intro entries c₀ notice script
  have hend : (script.foldlM drive? c₀).any (·.recovery.step = .reset "alice" "AB12") = true := by
    decide +kernel
  obtain ⟨c, hrun, hstep⟩ := (Option.any_eq_true _ _).1 hend
  obtain ⟨es, hactions, H⟩ := Came.script (.idle : Came [] c₀.recovery) hrun
  rw [List.append_nil] at H
  exact ⟨es, c, hrun, hactions, H, of_decide_eq_true hstep, H.password_confirmed⟩

end SessionKeeper.Recovery
