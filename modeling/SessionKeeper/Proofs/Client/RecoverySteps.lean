import SessionKeeper.Proofs.Client.Navigations
import SessionKeeper.Proofs.Client.RecoverySafety

/-!
# The steps of a recovery

A submission is meant for one step (`Recovery.Action.Meets`). There it sends one request, unless its
input is refused, and leads to one other step (`Recovery.Action.Leads`). It succeeds exactly if this
request is answered with a success that it accepts, and then the recovery moves; otherwise the recovery
stays where it is and an error is returned (`Recovery.Action.Concluded`). What others do meanwhile makes
no difference, nor does a token that is renewed on the way (`Pool.submission_concluded`).
-/

namespace SessionKeeper

variable {σ α : Type}

/-! ## Answered requests -/

/-- A dispatch of the request was answered so. -/
def Request.AnsweredBy (r : Request) (ws : List (Wait σ)) (a : Answer) : Prop :=
  ∃ bearer began ended, .reply (r.call bearer) began ended (.ok a) ∈ ws

theorem Reply.outcome_eq_ok_iff {x : Reply} {a : Answer} :
    x.outcome = .ok a ↔ x = .ok a ∧ a.isSuccess = true := by
  refine ⟨Reply.eq_of_outcome, ?_⟩
  rintro ⟨rfl, hsuccess⟩
  exact if_pos hsuccess

section

variable {c c' d : Client σ} {ws ws' : List (Wait σ)} {r : Request} {a a' : Answer} {x : Reply}

theorem Request.answeredBy_append :
    r.AnsweredBy (ws ++ ws') a ↔ r.AnsweredBy ws a ∨ r.AnsweredBy ws' a := by
  simp only [AnsweredBy, List.mem_append, exists_or]

theorem Request.answeredBy_singleton : r.AnsweredBy [.reply (r.callAt c) c d x] a ↔ x = .ok a := by
  constructor
  · rintro ⟨bearer, began, ended, h⟩
    exact ((Wait.reply.injEq ..).mp (List.mem_singleton.1 h)).2.2.2.symm
  · rintro rfl
    exact ⟨_, _, _, List.mem_singleton_self _⟩

variable [Medium σ]

theorem Renewal.Stands.path_of_mem {refused : Option String} {u : Task σ (Except ApiError String)}
    (H : Stands refused c ws u d) {call : Call} {began ended : Client σ}
    (hw : .reply call began ended x ∈ ws) : call.path = endpoint := by
  cases H <;> simp at hw
  obtain ⟨rfl, _⟩ := hw
  rfl

/-- Up to the end of its renewal, a request whose token is refused is not answered with a success. -/
theorem Request.IsRefused.not_answeredBy (h : r.IsRefused a') (hpath : r.path ≠ Renewal.endpoint)
    {refused : Option String} {u : Task σ (Except ApiError String)}
    (H : Renewal.Stands refused c' ws u d) (hsuccess : a.isSuccess = true) :
    ¬ r.AnsweredBy (.reply (r.callAt c) c c' (.ok a') :: ws) a := by
  rw [← List.singleton_append, answeredBy_append, answeredBy_singleton]
  rintro (⟨⟨⟩⟩ | ⟨bearer, began, ended, hmem⟩)
  · rw [Answer.isSuccess, h.1] at hsuccess
    cases hsuccess
  · have hcall : (r.call bearer).path = Renewal.endpoint := H.path_of_mem hmem
    exact hpath hcall

/-- A request ends well exactly if a dispatch of it was answered with a success. -/
theorem Request.Stands.ok_iff {x : Except ApiError Answer} (H : r.Stands c ws (.done x) d)
    (hpath : r.path ≠ Renewal.endpoint) :
    x = .ok a ↔ r.AnsweredBy ws a ∧ a.isSuccess = true := by
  generalize hu : (.done x : Task σ (Except ApiError Answer)) = u at H
  cases H with
  | out | resent => cases hu
  | renewing _ _ hv => exact absurd hu.symm (hv.bind _).ne_done
  | answered =>
    cases hu
    rw [Reply.outcome_eq_ok_iff, answeredBy_singleton]
  | @refused c' _ a' ws e hrefused H =>
    cases hu
    rw [hrefused.outcome_eq, ← apply_ite]
    refine iff_of_false nofun ?_
    rintro ⟨hanswered, hsuccess⟩
    exact hrefused.not_answeredBy hpath H.renewal hsuccess hanswered
  | @resentAnswered c' d' _ a' ws token y hrefused H =>
    cases hu
    rw [Reply.outcome_eq_ok_iff, ← List.cons_append, answeredBy_append, answeredBy_singleton]
    refine and_congr_left fun hsuccess => (or_iff_right ?_).symm
    exact hrefused.not_answeredBy hpath H.renewal hsuccess

end

namespace Recovery

/-- The request that has a code sent. -/
def forgotRequest (username email : String) : Request :=
  (Request.post Endpoint.forgotPassword).sending (ForgotPasswordRequest.mk username email)

namespace Action

/-! ## What an action is meant to do -/

/-- The action is a submission, and meant for that step. -/
inductive Meets : Action → RecoveryStep → Prop where
  | request {username email : String} : Meets (.request username email) .request
  | code {given user : String} : Meets (.code given) (.verify user)
  | password {new repeated user code : String} : Meets (.password new repeated) (.reset user code)

/-- At that step the action sends the request, whose success leads to the second step. -/
inductive Leads : Action → RecoveryStep → Request → RecoveryStep → Prop where
  | request {username email : String} :
    Leads (.request username email) .request (forgotRequest (Text.trim username) (Text.trim email))
      (.verify (Text.trim username))
  | code {given user : String} (h : normalizeCode given ≠ "") :
    Leads (.code given) (.verify user) (codeRequest user (normalizeCode given))
      (.reset user (normalizeCode given))
  | password {new user code : String} (h : 6 ≤ new.length) :
    Leads (.password new new) (.reset user code) (passwordRequest user code new) .idle

/-- A success that the action takes for one: whatever it says, for a code, and else a notice. -/
def Accepts : Action → Answer → Prop
  | .code _, _ => True
  | _, a => ∃ notice, a.decode messageDecoder = .ok notice

/-- The navigations that the action asks for when it succeeds. -/
def notices : Action → List Route
  | .password _ _ => [.login (some resetNotice)]
  | _ => []

variable {x : Action} {s s' t t' : RecoveryStep} {r r' : Request}

theorem Leads.meets (H : x.Leads s r t) : x.Meets s := by
  cases H <;> constructor

theorem Leads.unique (H : x.Leads s r t) (H' : x.Leads s r' t') : r = r' ∧ t = t' := by
  cases H <;> cases H' <;> exact ⟨rfl, rfl⟩

theorem Leads.path_ne (H : x.Leads s r t) : r.path ≠ Renewal.endpoint := by
  cases H with
  | request => exact (by decide : Endpoint.forgotPassword ≠ Renewal.endpoint)
  | code => exact (by decide : Endpoint.verifyCode ≠ Renewal.endpoint)
  | password => exact (by decide : Endpoint.resetPassword ≠ Renewal.endpoint)

theorem Meets.restarts (H : x.Meets s) : x.restarts = false := by
  cases H <;> rfl

/-! ## How it does that -/

/-- What the end of its request means for the submission. -/
def resultOf : Action → Except ApiError Answer → Except ApiError Unit
  | .code _, o => o.map fun _ => ()
  | _, o => (o.bind (·.decode messageDecoder)).map fun _ => ()

/-- What is said where the backend gives no reason. -/
def fallback : Action → String
  | .request _ _ => "Failed to send reset code"
  | .code _ => "Invalid reset code"
  | _ => "Failed to reset password"

/-- The recovery moves on, with the navigations that come with it. -/
def arrive (x : Action) (t : RecoveryStep) (c : Client σ) : Client σ :=
  { c.atStep t with visits := x.notices ++ c.visits }

theorem resultOf_eq_ok_iff {o : Except ApiError Answer} :
    x.resultOf o = .ok () ↔ ∃ a, o = .ok a ∧ x.Accepts a := by
  have hnotice : ((o.bind (·.decode messageDecoder)).map fun _ => ()) = .ok () ↔
      ∃ a, o = .ok a ∧ ∃ notice, a.decode messageDecoder = .ok notice := by
    cases o with
    | error e => exact iff_of_false nofun nofun
    | ok a =>
      simp only [Except.bind, Except.ok.injEq, exists_eq_left']
      cases a.decode messageDecoder with
      | error e => exact iff_of_false nofun nofun
      | ok notice => exact iff_of_true rfl ⟨notice, rfl⟩
  cases x with
  | code given =>
    cases o with
    | error e => exact iff_of_false nofun nofun
    | ok a => exact iff_of_true rfl ⟨a, rfl, trivial⟩
  | begin | leave | request | password => exact hnotice

variable [Medium σ] {c d : Client σ} {ws : List (Wait σ)} {u : Task σ (Except RecoveryError Unit)}

omit [Medium σ] in
theorem conclude_map {α β : Type} (m : String) (advance : Client σ → Client σ) (f : α → β)
    (o : Except ApiError α) :
    (·.map f) <$> conclude m advance o = conclude m advance (o.map f) := by
  cases o <;> rfl

theorem fetch_conclude {α : Type} {dec : Json.Decoder α} {m : String} {advance : Client σ → Client σ}
    {k : Except ApiError α → Task σ (Except RecoveryError α)} (hk : ∀ o, k o = conclude m advance o)
    (r : Request) :
    (·.map fun _ => ()) <$> (fetch dec r >>= k) =
      send r >>= fun o => conclude m advance ((o.bind (·.decode dec)).map fun _ => ()) := by
  simp only [fetch_eq, bind_map_left, map_bind, hk, conclude_map]

/-- At a step that it is meant for, with an input that is not refused, a submission sends its request
and concludes. -/
theorem Leads.course (H : x.Leads c.recovery.step r t) (hcourse : x.task.Course c ws u d) :
    (send r >>= fun o => conclude x.fallback (x.arrive t) (x.resultOf o) : Task σ _).Course
      (c.showingError none) ws u d := by
  generalize hstep : c.recovery.step = s at H
  cases H with
  | request =>
    rw [task, submitRequest, map_bind, Task.Course.read, hstep] at hcourse
    refine (congrArg (Task.Course · (c.showingError none) ws u d) (fetch_conclude ?_ _)).mp hcourse
    intro o
    cases o <;> rfl
  | @code given user h =>
    have hcode : (normalizeCode given).isEmpty = false :=
      Bool.eq_false_iff.2 fun hempty => h (String.isEmpty_iff.1 hempty)
    rw [task, submitCode, Task.Course.read, hstep] at hcourse
    simp only [hcode, Bool.false_eq_true, if_false, execute_eq, bind_map_left] at hcourse
    refine (congrArg (fun k => Task.Course (send _ >>= k) (c.showingError none) ws u d) ?_).mp hcourse
    funext o
    cases o <;> rfl
  | @password new user code h =>
    have hlength : ¬ new.length < minPasswordLength := Nat.not_lt.2 h
    rw [task, submitPassword, map_bind, Task.Course.read, hstep] at hcourse
    simp only [hlength, if_false, ne_eq, not_true] at hcourse
    refine (congrArg (Task.Course · (c.showingError none) ws u d) (fetch_conclude ?_ _)).mp hcourse
    intro o
    cases o <;> rfl

/-- At any other step a submission is refused, and nothing happens. -/
theorem course_of_not_meets (hx : x.restarts = false) (h : ¬ x.Meets c.recovery.step)
    (hcourse : x.task.Course c ws u d) :
    ∃ what, u = .done (.error (.outOfOrder what c.recovery.step.name)) ∧ ws = [] ∧ d = c := by
  cases x with
  | begin | leave => cases hx
  | request username email =>
    rw [task, submitRequest, map_bind, Task.Course.read] at hcourse
    split at hcourse
    next hstep => exact absurd (hstep ▸ .request) h
    next =>
      obtain ⟨rfl, rfl, rfl⟩ := hcourse
      exact ⟨_, rfl, rfl, rfl⟩
  | code given =>
    rw [task, submitCode, Task.Course.read] at hcourse
    split at hcourse
    next hstep => exact absurd (hstep ▸ .code) h
    next =>
      obtain ⟨rfl, rfl, rfl⟩ := hcourse
      exact ⟨_, rfl, rfl, rfl⟩
  | password new repeated =>
    rw [task, submitPassword, map_bind, Task.Course.read] at hcourse
    split at hcourse
    next hstep => exact absurd (hstep ▸ .password) h
    next =>
      obtain ⟨rfl, rfl, rfl⟩ := hcourse
      exact ⟨_, rfl, rfl, rfl⟩

/-- An input that is refused is refused before anything is sent. -/
theorem Meets.course (H : x.Meets c.recovery.step) (h : ∀ r t, ¬ x.Leads c.recovery.step r t)
    (hcourse : x.task.Course c ws u d) :
    ∃ m, u = .done (.error (.invalid m)) ∧ ws = [] ∧ d = c.showingError (some m) := by
  generalize hstep : c.recovery.step = s at H h
  cases H with
  | request => exact absurd .request (h _ _)
  | @code given user =>
    have hcode : (normalizeCode given).isEmpty = true := by
      by_contra hcode
      exact h _ _ (.code fun heq => hcode (String.isEmpty_iff.2 heq))
    rw [task, submitCode, Task.Course.read, hstep] at hcourse
    simp only [hcode, if_true] at hcourse
    obtain ⟨rfl, rfl, rfl⟩ := hcourse
    exact ⟨_, rfl, rfl, rfl⟩
  | @password new repeated user code =>
    rw [task, submitPassword, map_bind, Task.Course.read, hstep] at hcourse
    simp only at hcourse
    split at hcourse
    next =>
      obtain ⟨rfl, rfl, rfl⟩ := hcourse
      exact ⟨_, rfl, rfl, rfl⟩
    next hlength =>
      split at hcourse
      next =>
        obtain ⟨rfl, rfl, rfl⟩ := hcourse
        exact ⟨_, rfl, rfl, rfl⟩
      next hsame =>
        obtain rfl : new = repeated := Decidable.of_not_not hsame
        exact absurd (.password (Nat.le_of_not_lt hlength)) (h _ _)

/-! ## What a submission comes to -/

/-- The request that the action sends at that step was answered with a success that it accepts. -/
def Succeeds (x : Action) (s : RecoveryStep) (ws : List (Wait σ)) : Prop :=
  ∃ r t a, x.Leads s r t ∧ r.AnsweredBy ws a ∧ a.isSuccess = true ∧ x.Accepts a

/-- A submission that began at the client `c` has failed: the step does not allow it, or the input is
refused, and then it waited for nothing; or its request came to a failure. -/
inductive Fails (x : Action) (c : Client σ) (ws : List (Wait σ)) (d : Client σ) :
    RecoveryError → Prop where
  | outOfOrder {what : String} (h : ¬ x.Meets c.recovery.step) (hws : ws = []) (hd : d = c) :
    Fails x c ws d (.outOfOrder what c.recovery.step.name)
  | invalid {m : String} (h : x.Meets c.recovery.step) (hrefused : ∀ r t, ¬ x.Leads c.recovery.step r t)
    (hws : ws = []) (hd : d = c.showingError (some m)) : Fails x c ws d (.invalid m)
  | request {r : Request} {t : RecoveryStep} {o : Except ApiError Answer} {e : ApiError}
    (h : x.Leads c.recovery.step r t) (hcomes : r.ComesTo (c.showingError none) ws o)
    (hresult : x.resultOf o = .error e)
    (hd : d.recovery = ⟨c.recovery.step, some (RecoveryError.ofApi e x.fallback).message⟩)
    (hvisits : Navigates c ws d [] ∨ Navigates c ws d [.login none]) :
    Fails x c ws d (.ofApi e x.fallback)

/-- A submission that began at the client `c` has ended with `o`. -/
structure Concluded (x : Action) (c : Client σ) (ws : List (Wait σ)) (d : Client σ)
    (o : Except RecoveryError Unit) : Prop where
  ok_iff : o = .ok () ↔ x.Succeeds c.recovery.step ws
  moved : o = .ok () → ∃ r t, x.Leads c.recovery.step r t ∧ d.recovery = ⟨t, none⟩ ∧
    Navigates c ws d x.notices
  failed : ∀ e, o = .error e → x.Fails c ws d e
  /-- Where no request is due, none is made, and nothing is asked for. -/
  silent : (∀ r t, ¬ x.Leads c.recovery.step r t) →
    Task.calls ws (.done o) d = [] ∧ Navigates c ws d []

/-- A submission that began at the client `c` stands at `u` now. While its request is out, and if it is
dropped then, the recovery is where it was. -/
structure Submits (x : Action) (c : Client σ) (ws : List (Wait σ))
    (u : Task σ (Except RecoveryError Unit)) (d : Client σ) : Prop where
  waiting : u.IsWaiting → ∃ r t, x.Leads c.recovery.step r t ∧
    d.recovery = ⟨c.recovery.step, none⟩ ∧ ∀ d', (u.drop d').recovery = d'.recovery
  ended : ∀ o, u = .done o → x.Concluded c ws d o

omit [Medium σ] in
theorem Leads.succeeds_iff (H : x.Leads s r t) :
    x.Succeeds s ws ↔ ∃ a, r.AnsweredBy ws a ∧ a.isSuccess = true ∧ x.Accepts a := by
  constructor
  · rintro ⟨r', t', a, H', hanswered⟩
    obtain ⟨rfl, _⟩ := H.unique H'
    exact ⟨a, hanswered⟩
  · rintro ⟨a, hanswered⟩
    exact ⟨r, t, a, H, hanswered⟩

theorem Concluded.submits {o : Except RecoveryError Unit} (H : x.Concluded c ws d o) :
    x.Submits c ws (.done o) d where
  waiting h := nomatch h
  ended _ ho := Task.done.inj ho ▸ H

theorem Fails.concluded {e : RecoveryError} (H : x.Fails c ws d e)
    (hnot : ¬ x.Succeeds c.recovery.step ws) : x.Concluded c ws d (.error e) where
  ok_iff := iff_of_false nofun hnot
  moved := nofun
  failed _ he := Except.error.inj he ▸ H
  silent hnone := by
    cases H with
    | outOfOrder _ hws hd | invalid _ _ hws hd =>
      rw [hws, hd]
      exact ⟨rfl, .last rfl⟩
    | request h => exact absurd h (hnone _ _)

/-- When its request has ended, a submission ends too. -/
theorem Leads.concludes (H : x.Leads c.recovery.step r t) {o : Except ApiError Answer}
    {c₁ : Client σ} {ws' : List (Wait σ)}
    (hstands : r.Stands (c.showingError none) ws (.done o) c₁) (hws : KeepRecovery ws)
    (hafter : (conclude x.fallback (x.arrive t) (x.resultOf o)).Course c₁ ws' u d) :
    ws' = [] ∧ x.Submits c ws u d := by
  have hkept : c₁.recovery = ⟨c.recovery.step, none⟩ := (hstands.spared hws).recovery
  -- what the request came to decides, and its answer decides what it came to
  have hresult : x.resultOf o = .ok () ↔ x.Succeeds c.recovery.step ws := by
    rw [H.succeeds_iff, resultOf_eq_ok_iff]
    exact exists_congr fun a => (and_congr_left fun _ => hstands.ok_iff H.path_ne).trans and_assoc
  cases hx : x.resultOf o with
  | ok y =>
    rw [hx] at hafter hresult
    obtain ⟨rfl, rfl, rfl⟩ := hafter
    obtain ⟨a, rfl, _⟩ := resultOf_eq_ok_iff.1 hx
    have hvisits : Navigates c ws c₁ [] := by
      obtain h | ⟨_, e, he⟩ := hstands.navigates
      · exact h.congr rfl
      · cases he
    have hmoved : Navigates c ws (x.arrive t c₁) (x.notices ++ []) := hvisits.finish rfl
    rw [List.append_nil] at hmoved
    have hrecovery : (x.arrive t c₁).recovery = ⟨t, none⟩ := by
      change (⟨t, c₁.recovery.error⟩ : Recovery) = _
      rw [hkept]
    have hconcluded : x.Concluded c ws (x.arrive t c₁) (.ok y) :=
      ⟨iff_of_true rfl (hresult.1 rfl), fun _ => ⟨r, t, H, hrecovery, hmoved⟩, nofun,
        fun hnone => absurd H (hnone r t)⟩
    exact ⟨rfl, hconcluded.submits⟩
  | error e =>
    rw [hx] at hafter hresult
    obtain ⟨rfl, rfl, rfl⟩ := hafter
    have hfails : x.Fails c ws (c₁.showingError (some (RecoveryError.ofApi e x.fallback).message))
        (.ofApi e x.fallback) := by
      refine .request H hstands.comesTo hx ?_ ?_
      · change (⟨c₁.recovery.step, some _⟩ : Recovery) = _
        rw [hkept]
      · obtain h | ⟨h, _⟩ := hstands.navigates
        · exact .inl (Navigates.still (h.congr rfl) rfl)
        · exact .inr (Navigates.still (h.congr rfl) rfl)
    exact ⟨rfl, (hfails.concluded fun h => nomatch hresult.2 h).submits⟩

theorem Leads.submits (H : x.Leads c.recovery.step r t) (hcourse : x.task.Course c ws u d)
    (hws : KeepRecovery ws) : x.Submits c ws u d := by
  obtain ⟨v, hv, hwait, rfl⟩ | ⟨o, ws₁, ws₂, c₁, rfl, hsend, hafter⟩ := (H.course hcourse).bind_cases
  · have hspared := ((Request.carried hv).spared hws).bind hwait
      fun o => conclude x.fallback (x.arrive t) (x.resultOf o)
    exact ⟨fun _ => ⟨r, t, H, hspared.recovery, hspared.drop⟩,
      fun o ho => absurd ho (hwait.bind _).ne_done⟩
  · obtain ⟨rfl, hsubmits⟩ := H.concludes hsend.request (List.forall_mem_append.1 hws).1 hafter
    rwa [List.append_nil]

/-- One submission from any step, with any input. -/
theorem submits (hx : x.restarts = false) (H : x.task.Course c ws u d) (hws : KeepRecovery ws) :
    x.Submits c ws u d := by
  by_cases hmeets : x.Meets c.recovery.step
  · by_cases hleads : ∃ r t, x.Leads c.recovery.step r t
    · obtain ⟨r, t, hleads⟩ := hleads
      exact hleads.submits H hws
    · have hnone : ∀ r t, ¬ x.Leads c.recovery.step r t := fun r t h => hleads ⟨r, t, h⟩
      obtain ⟨m, rfl, hempty, hd⟩ := hmeets.course hnone H
      have hfails : x.Fails c ws d (.invalid m) := .invalid hmeets hnone hempty hd
      exact (hfails.concluded fun ⟨r, t, _, h, _⟩ => hnone r t h).submits
  · obtain ⟨what, rfl, hempty, hd⟩ := course_of_not_meets hx hmeets H
    have hfails : x.Fails c ws d (.outOfOrder what _) := .outOfOrder hmeets hempty hd
    exact (hfails.concluded fun ⟨r, t, _, h, _⟩ => hmeets h.meets).submits

end Action

end Recovery

/-! ## Among other tasks -/

section

variable {β : Type} {p p' q : Pool σ α} {ms : List (Move σ α)} {j : Nat}

theorem Recovery.Action.orderly [Medium σ] (x : Recovery.Action) :
    (x.task : Task σ _).Orderly false := by
  cases x with
  | begin | leave => exact (Task.Orderly.modify fun _ => rfl).map
  | request => exact (orderly_submitRequest _ _).map
  | code => exact orderly_submitCode _
  | password => exact (orderly_submitPassword _ _).map

/-- A task that starts among orderly tasks has a course, and replies and turns bring it to its end. -/
theorem Pool.Orderly.start_ends (hp : p.Orderly) {t : Task σ β} (ht : t.Orderly false) {f : β → α}
    (hstart : p.move? (.start (f <$> t)) = some p') (hms : ∀ m ∈ ms, m.IsOrderly)
    (hrun : p'.run? ms = some q) (htrack : Move.trackAll? p.tasks.length ms = some j) :
    ∃ u : Task σ β, q.tasks[j]? = some (f <$> u) ∧
      t.Course p.client (p'.history p.tasks.length p'.client ms).1 u
        (p'.history p.tasks.length p'.client ms).2 ∧
      ∃ ms' q' b, (∀ m ∈ ms', m.IsProgress) ∧ q.run? ms' = some q' ∧
        q'.tasks[j]? = some (.done (f b)) := by
  obtain ⟨v, hj, hcourse⟩ := start_course hstart hrun htrack
  obtain ⟨u, hu, rfl⟩ := hcourse.map_cases
  refine ⟨u, hj, hu, ?_⟩
  have horderly : (Move.start (f <$> t) : Move σ α).IsOrderly := ht.map
  have hq : q.Orderly := (hp.move horderly hstart).run hms hrun
  obtain ⟨ms', q', y, hms', hrun', hend⟩ := hq.ends hj
  -- what the end brings is a value of the task
  have hrun'' : p'.run? (ms ++ ms') = some q' := (run?_append hrun ms').trans hrun'
  have htrack' : Move.trackAll? p.tasks.length (ms ++ ms') = some j :=
    (Move.trackAll?_append htrack ms').trans (Move.trackAll?_of_isProgress hms')
  obtain ⟨v', hj', hcourse'⟩ := start_course hstart hrun'' htrack'
  obtain ⟨u', _, rfl⟩ := hcourse'.map_cases
  cases u' with
  | done b => exact ⟨ms', q', b, hms', hrun', hj'⟩
  | act | dispatch | acquire => cases hj'.symm.trans hend

variable [Medium σ]

/-- A submission is made among any orderly tasks that leave the recovery to it, at any step and with any
input: while its request is out the recovery is where it was; it moves on exactly if the request is
answered with a success, and with a failure it stays. Replies and turns bring every submission to its
end. -/
theorem Pool.submission_concluded (hp : p.Orderly) {x : Recovery.Action} (hx : x.restarts = false)
    {f : Except RecoveryError Unit → α} (hstart : p.move? (.start (f <$> x.task)) = some p')
    (hms : ∀ m ∈ ms, m.IsOrderly) (hrun : p'.run? ms = some q)
    (htrack : Move.trackAll? p.tasks.length ms = some j)
    (hkept : KeepRecovery (p'.history p.tasks.length p'.client ms).1) :
    ∃ u : Task σ (Except RecoveryError Unit), q.tasks[j]? = some (f <$> u) ∧
      x.Submits p.client (p'.history p.tasks.length p'.client ms).1 u
        (p'.history p.tasks.length p'.client ms).2 ∧
      ∃ ms' q' o, (∀ m ∈ ms', m.IsProgress) ∧ q.run? ms' = some q' ∧
        q'.tasks[j]? = some (.done (f o)) := by
  obtain ⟨u, hj, hcourse, hend⟩ := hp.start_ends x.orderly hstart hms hrun htrack
  exact ⟨u, hj, x.submits hx hcourse hkept, hend⟩

/-- A password is set while a logout is under way; on the way there the token is renewed. -/
theorem Pool.submission_concluded_renewed :
    let es := Store.withLogin .empty default ⟨"A1", "R1"⟩
    let c : Client Memory :=
      { Client.connect ⟨es, .ofEntries es⟩ with
        recovery := ⟨.reset "alice" "AB12", some "Passwords do not match"⟩ }
    let logout : Task Memory (Option (Except RecoveryError Unit)) :=
      (fun _ => none) <$> Operation.task .logout
    let x : Recovery.Action := .password "secret" "secret"
    let p : Pool Memory (Option (Except RecoveryError Unit)) :=
      ⟨(logout.settle c).2, [(logout.settle c).1]⟩
    let ms : List (Move Memory (Option (Except RecoveryError Unit))) :=
      [.reply 1 (.ok ⟨401, ""⟩), .enter 1, .reply 1 (.ok ⟨200, "\x7b\"access\":\"A2\"\x7d"⟩),
        .reply 1 (.ok ⟨200, "\x7b\x7d"⟩)]
    p.Orderly ∧ x.restarts = false ∧ (∀ m ∈ ms, m.IsOrderly) ∧
      Move.trackAll? p.tasks.length ms = some 1 ∧
      ∃ p' q, p.move? (.start (some <$> x.task)) = some p' ∧ p'.run? ms = some q ∧
        KeepRecovery (p'.history p.tasks.length p'.client ms).1 ∧
        q.client.visits = [.login (some resetNotice)] ∧
        ∃ u : Task Memory (Except RecoveryError Unit), q.tasks[1]? = some (some <$> u) ∧
          x.Submits p.client (p'.history p.tasks.length p'.client ms).1 u
            (p'.history p.tasks.length p'.client ms).2 ∧
          ∃ ms' q' o, (∀ m ∈ ms', m.IsProgress) ∧ q.run? ms' = some q' ∧
            q'.tasks[1]? = some (.done (some o)) := by
  intro es c logout x p ms
  have hlogout : (Move.start logout).IsOrderly := (Operation.orderly .logout).map
  have halone : (⟨c, []⟩ : Pool Memory (Option (Except RecoveryError Unit))).Orderly := .alone rfl
  have hp : p.Orderly := halone.move hlogout rfl
  have hms : ∀ m ∈ ms, m.IsOrderly := by
    simp only [ms, List.forall_mem_cons]
    exact ⟨trivial, trivial, trivial, trivial, nofun⟩
  have hrun : ((p.move? (.start (some <$> x.task))).bind fun p' => (p'.run? ms).filter fun q =>
      (p'.history p.tasks.length p'.client ms).1.all (fun w => w.ended.recovery = w.began.recovery) &&
        q.client.visits = [.login (some resetNotice)]).isSome = true := by
    decide +kernel
  obtain ⟨q, hq⟩ := Option.isSome_iff_exists.1 hrun
  obtain ⟨p', hstart, hrun⟩ := Option.bind_eq_some_iff.1 hq
  obtain ⟨hrun, hseen⟩ := Option.filter_eq_some_iff.1 hrun
  obtain ⟨hall, hvisits⟩ := Bool.and_eq_true_iff.1 hseen
  have hkept : KeepRecovery (p'.history p.tasks.length p'.client ms).1 := fun w hw =>
    of_decide_eq_true (List.all_eq_true.1 hall w hw)
  exact ⟨hp, rfl, hms, rfl, p', q, hstart, hrun, hkept, of_decide_eq_true hvisits,
    submission_concluded hp rfl hstart hms hrun rfl hkept⟩

end

end SessionKeeper
