import SessionKeeper.Client.Delivery
import SessionKeeper.Proofs.Client.Calls
import SessionKeeper.Proofs.Client.Changes

/-!
# Claimants of a new token

Tasks whose access token was refused, or is about to be: some ask for another token, some send a
request. Between two moves each is at one of five stages, and a move takes one of them from a stage
to a next one (`Pool.move?_staged`), so a run of claimants is followed stage by stage.
-/

namespace SessionKeeper

variable {σ α : Type}

/-- A task that holds a token which is refused. -/
inductive Claimant where
  /-- Asks for another token. -/
  | seeker
  /-- Sends a request with the token. -/
  | sender (r : Request)

/-- What a claimant ends with. -/
inductive Award where
  | token (x : Except ApiError String)
  | delivery (x : Except ApiError Answer)

/-- The part of a claimant in a renewal: it asks for a token, or has its first dispatch refused. -/
inductive Job where
  | seek
  | resend (r : Request) (refusal : Answer)

/-- Where a claimant stands. -/
inductive Stage where
  /-- The first dispatch is out. -/
  | out (r : Request)
  /-- The turn to renew has not come. -/
  | waiting (j : Job)
  /-- The renewal call is out. -/
  | calling (j : Job) (sent : String)
  /-- The second dispatch is out. -/
  | resent (r : Request) (bearer : String)
  | closed (k : Claimant) (x : Award)

def Job.claimant : Job → Claimant
  | .seek => .seeker
  | .resend r _ => .sender r

/-- What the renewal comes to for a claimant. -/
def Job.next : Job → Except ApiError String → Stage
  | .seek, x => .closed .seeker (.token x)
  | .resend r _, .ok token => .resent r token
  | .resend r refusal, .error e =>
    .closed (.sender r) (.delivery (if e.isTransient then .error e else refusal.outcome))

namespace Stage

def claimant : Stage → Claimant
  | .out r | .resent r _ => .sender r
  | .waiting j | .calling j _ => j.claimant
  | .closed k _ => k

/-- The job of a claimant between its first dispatch and what the renewal comes to. -/
def job? : Stage → Option Job
  | .waiting j | .calling j _ => some j
  | _ => none

/-- The call that is out at a stage, of a claimant with that token. -/
def call? (stale : String) : Stage → Option Call
  | .out r => some (r.call (some stale))
  | .calling _ sent => some ((Renewal.request sent).call none)
  | .resent r bearer => some (r.retried.call (some bearer))
  | .waiting _ | .closed _ _ => none

end Stage

@[simp] theorem Job.claimant_next (j : Job) (x : Except ApiError String) :
    (j.next x).claimant = j.claimant := by
  cases j <;> cases x <;> rfl

@[simp] theorem Job.job?_next (j : Job) (x : Except ApiError String) : (j.next x).job? = none := by
  cases j <;> cases x <;> rfl

variable [Medium σ]

/-! ## The tasks of claimants -/

/-- The task of a claimant with that token. -/
def Claimant.task (stale : String) : Claimant → Task σ Award
  | .seeker => Award.token <$> renew (some stale)
  | .sender r => Award.delivery <$> send r

/-- What a request does with the reply to its first dispatch. -/
def sendAgain (r : Request) (token : Option String) : Reply → Task σ (Except ApiError Answer)
  | .error fault => return .error fault.error
  | .ok answer => do
    if answer.status ≠ 401 || r.isRetry then return answer.outcome
    match ← renew token with
    | .ok _ =>
      let (_, reply) ← dispatchOnce r.retried
      return Reply.outcome reply
    | .error e => return if e.isTransient then .error e else answer.outcome

/-- What a claimant does with what the renewal comes to. -/
def Job.after : Job → Except ApiError String → Task σ Award
  | .seek, x => .done (.token x)
  | .resend r _, .ok _ => Award.delivery <$> do
    let (_, reply) ← dispatchOnce r.retried
    return Reply.outcome reply
  | .resend _ refusal, .error e =>
    .done (.delivery (if e.isTransient then .error e else refusal.outcome))

/-- The task at a stage. -/
def Stage.task (stale : String) : Stage → Task σ Award
  | .out r => .dispatch (r.call (some stale)) id fun reply =>
    Award.delivery <$> sendAgain r (some stale) reply
  | .waiting j => (renew (some stale)).bind j.after
  | .calling j sent => (awaitRenewal sent).bind j.after
  | .resent r bearer => .dispatch (r.retried.call (some bearer)) id fun reply =>
    .done (.delivery (Reply.outcome reply))
  | .closed _ x => .done x

theorem send_eq (r : Request) :
    (send r : Task σ _) = (dispatchOnce r).bind fun x => sendAgain r x.1 x.2 := by
  refine congrArg (Task.act id) (funext fun c => congrArg (Task.dispatch _ id) (funext fun x => ?_))
  cases x <;> rfl

@[simp] theorem Stage.call?_task (stale : String) (s : Stage) :
    (s.task stale : Task σ Award).call? = s.call? stale := by
  cases s with
  | waiting j => cases j <;> rfl
  | out | calling | resent | closed => rfl

/-! ## From stage to stage -/

/-- What takes a claimant from a stage to the next one and changes the client: a reply, or else its
turn. -/
inductive Stage.Step (stale : String) (c : Client σ) :
    Stage → Option Reply → Stage → Client σ → Prop where
  | answered {r : Request} {x : Reply} (h : ∀ a, x = .ok a → a.status = 401 → r.isRetry = true) :
    Step stale c (.out r) (some x) (.closed (.sender r) (.delivery x.outcome)) c
  | refused {r : Request} {a : Answer} (h : a.status = 401) :
    Step stale c (.out r) (some (.ok a)) (.waiting (.resend r a)) c
  | reuse {j : Job} {token : String} (hidle : c.renewing = false)
    (h : Renewal.plan c.store.accessToken (some stale) = .reuse token) :
    Step stale c (.waiting j) none (j.next (.ok token)) c
  | gone {j : Job} (hidle : c.renewing = false)
    (h : Renewal.plan c.store.accessToken (some stale) = .gone) :
    Step stale c (.waiting j) none (j.next (.error .sessionExpired)) c
  | lacking {j : Job} (hidle : c.renewing = false)
    (hdue : Renewal.plan c.store.accessToken (some stale) = .due)
    (h : c.store.refreshToken = none) :
    Step stale c (.waiting j) none (j.next (.error .noRefreshToken))
      ({ c with renewing := true } : Client σ).withoutRefreshToken.released
  | call {j : Job} {sent : String} (hidle : c.renewing = false)
    (hdue : Renewal.plan c.store.accessToken (some stale) = .due)
    (h : c.store.refreshToken = some sent) :
    Step stale c (.waiting j) none (.calling j sent) { c with renewing := true }
  | renewed {j : Job} {sent : String} {x : Reply} :
    Step stale c (.calling j sent) (some x) (j.next (c.settleReply sent x).1)
      (c.settleReply sent x).2.released
  | resentAnswered {r : Request} {bearer : String} {x : Reply} :
    Step stale c (.resent r bearer) (some x) (.closed (.sender r) (.delivery x.outcome)) c

omit [Medium σ] in
theorem Renewal.stored_of_plan {stored refused : Option String} {token : String}
    (h : Renewal.plan stored refused = .reuse token) : stored = some token := by
  revert h
  fun_cases Renewal.plan stored refused with
  | case1 => nofun
  | case2 | case3 =>
    intro h
    cases h
    rfl
  | case4 | case5 => nofun

/-- A token that a renewal call brings is the one stored then. -/
theorem Client.accessToken_settleReply {c : Client σ} {sent token : String} {x : Reply}
    (h : (c.settleReply sent x).1 = .ok token) :
    (c.settleReply sent x).2.store.accessToken = some token := by
  cases x with
  | error fault => cases h
  | ok a =>
    rw [settleReply] at h ⊢
    obtain ⟨fresh, m, _, _, _, hs⟩ := settleRenewal_ok h
    rw [hs] at h ⊢
    cases h
    exact Store.get?_access_withTokens _ _ _

theorem Job.settle_after (stale : String) {j : Job} {x : Except ApiError String} {c : Client σ}
    (h : ∀ token, x = .ok token → c.store.accessToken = some token) :
    (j.after x).settle c = ((j.next x).task stale, c) := by
  cases j with
  | seek => rfl
  | resend r refusal =>
    cases x with
    | error e => rfl
    | ok token =>
      change (Task.dispatch (r.retried.call c.store.accessToken) id _, c) = _
      rw [h token rfl]; rfl

theorem settle_sendAgain (stale : String) {r : Request} {a : Answer} (c : Client σ)
    (h401 : a.status = 401) (hr : r.isRetry = false) :
    (Award.delivery <$> sendAgain r (some stale) (.ok a)).settle c =
      ((Stage.waiting (.resend r a)).task stale, c) := by
  have hcond : ¬ (a.status ≠ 401 || r.isRetry) = true := by simp [h401, hr]
  simp only [sendAgain, if_neg hcond]
  change (((renew (some stale)).bind _).bind _).settle c = _
  rw [Task.bind_assoc]
  refine congrArg (fun f => (((renew (some stale)).bind f).settle c)) (funext fun x => ?_)
  cases x <;> rfl

variable {c c' : Client σ} {ss : List Stage} {stale : String}

namespace Stage

variable {s s' : Stage} {x : Option Reply} {i k : Nat}

/-- Only a renewal call asks for a token. -/
theorem any_isRenewal (stale : String) (s : Stage) :
    (s.call? stale).any Call.isRenewal = true ↔ ∃ j sent, s = .calling j sent := by
  cases s with
  | calling j sent => exact iff_of_true rfl ⟨j, sent, rfl⟩
  | out r | resent r bearer =>
    simp [call?, Call.isRenewal, Request.call]
  | waiting | closed => simp [call?]

theorem not_calling_next {j : Job} {y : Except ApiError String} (j' : Job) (sent : String) :
    j.next y ≠ .calling j' sent := fun h => by
  have := j.job?_next y
  rw [h] at this; cases this

/-- A stage after one was replaced is the new one, or another one as it was. -/
theorem getElem?_set_cases (h : (ss.set k s')[i]? = some s) :
    (i = k ∧ s = s') ∨ (i ≠ k ∧ ss[i]? = some s) := by
  by_cases hi : k = i
  · subst hi
    by_cases hlt : k < ss.length
    · rw [List.getElem?_set_self hlt] at h
      exact .inl ⟨rfl, (Option.some.inj h).symm⟩
    · rw [List.getElem?_eq_none (by simpa using hlt)] at h
      cases h
  · rw [List.getElem?_set_ne hi] at h
    exact .inr ⟨Ne.symm hi, h⟩

/-- The claimant is past the renewal. -/
def IsPast : Stage → Prop
  | .resent _ _ | .closed _ _ => True
  | .out _ | .waiting _ | .calling _ _ => False

theorem isPast_next (j : Job) (y : Except ApiError String) : (j.next y).IsPast := by
  cases j <;> cases y <;> trivial

theorem claimant_of_job? {j : Job} (h : s.job? = some j) : j.claimant = s.claimant := by
  cases s with
  | waiting | calling => cases h; rfl
  | out | resent | closed => cases h

theorem Step.claimant_eq (H : Step stale c s x s' c') : s'.claimant = s.claimant := by
  cases H with
  | reuse | gone | lacking | renewed => exact Job.claimant_next ..
  | answered | refused | call | resentAnswered => rfl

/-- The one step past the renewal is to take the reply to the second dispatch. -/
theorem Step.of_past (H : Step stale c s x s' c') (hpast : s.IsPast) :
    x.isSome = true ∧ s'.IsPast ∧ s'.call? stale = none ∧ ∀ k y, s ≠ .closed k y := by
  cases H with
  | resentAnswered => exact ⟨rfl, trivial, rfl, nofun⟩
  | answered | refused | reuse | gone | lacking | call | renewed => cases hpast

theorem Step.map_claimant (H : Step stale c s x s' c') (hi : ss[i]? = some s) :
    (ss.set i s').map claimant = ss.map claimant := by
  rw [List.map_set, H.claimant_eq]
  refine List.ext_getElem? fun k => ?_
  by_cases hk : i = k
  · subst hk
    have hlt : i < (ss.map claimant).length := by
      simpa using (List.getElem?_eq_some_iff.1 hi).1
    rw [List.getElem?_set_self hlt, List.getElem?_map, hi]; rfl
  · rw [List.getElem?_set_ne hk]

end Stage

namespace Pool

variable {s s' : Stage} {x : Option Reply} {i : Nat}

/-- The pool of claimants at these stages. -/
def staged (stale : String) (c : Client σ) (ss : List Stage) : Pool σ Award :=
  ⟨c, ss.map (·.task stale)⟩

theorem staged_tasks (h : ss[i]? = some s) :
    (staged stale c ss).tasks[i]? = some (s.task stale) := by
  simp [staged, h]

theorem resume_staged {t : Task σ Award} {c₁ c' : Client σ} {s' : Stage}
    (h : t.settle c₁ = (s'.task stale, c')) :
    (staged stale c ss).resume i t c₁ = staged stale c' (ss.set i s') := by
  simp only [resume, h, staged, List.map_set]

theorem enter_staged {j : Job} {q : Pool σ Award} (hs : ss[i]? = some (.waiting j))
    (h : (staged stale c ss).move? (.enter i) = some q) :
    ∃ s' c', Stage.Step stale c (.waiting j) none s' c' ∧ q = staged stale c' (ss.set i s') := by
  have hidle : c.renewing = false := renewing_of_enter h
  have hK : Task.Context fun t => t.bind (j.after (σ := σ)) := Task.Context.id.bind _
  rw [enter_renew hK (staged_tasks hs) hidle] at h
  simp only [Option.some.injEq] at h
  split at h
  next token hplan =>
    refine ⟨_, _, .reuse hidle hplan, ?_⟩
    rw [← h]
    refine resume_staged (j.settle_after stale fun t ht => ?_)
    cases ht
    exact Renewal.stored_of_plan hplan
  next hplan =>
    refine ⟨_, _, .gone hidle hplan, ?_⟩
    rw [← h]
    exact resume_staged (j.settle_after stale nofun)
  next hplan =>
    split at h
    next hnone =>
      refine ⟨_, _, .lacking hidle hplan hnone, ?_⟩
      rw [← h]
      exact resume_staged (j.settle_after stale nofun)
    next sent hsent =>
      refine ⟨_, _, .call hidle hplan hsent, ?_⟩
      rw [← h, resume_awaitRenewal hK]
      simp only [staged, List.map_set]; rfl

theorem reply_staged {s : Stage} {r : Reply} {q : Pool σ Award} (hs : ss[i]? = some s)
    (h : (staged stale c ss).move? (.reply i r) = some q) :
    ∃ s' c', Stage.Step stale c s (some r) s' c' ∧ q = staged stale c' (ss.set i s') := by
  cases s with
  | out request =>
    rw [move?, staged_tasks hs] at h
    cases h
    cases r with
    | error fault =>
      refine ⟨_, _, .answered ?_, resume_staged rfl⟩
      intro a h; cases h
    | ok a =>
      by_cases hcond : a.status = 401 ∧ request.isRetry = false
      · exact ⟨_, _, .refused hcond.1, resume_staged (settle_sendAgain stale c hcond.1 hcond.2)⟩
      · refine ⟨_, _, .answered ?_, resume_staged ?_⟩
        · rintro _ ⟨⟩ h401
          exact Bool.of_not_eq_false fun hr => hcond ⟨h401, hr⟩
        · have hcond : (a.status ≠ 401 || request.isRetry) = true := by
            by_cases h401 : a.status = 401 <;> simp_all
          simp only [sendAgain, if_pos hcond]; rfl
  | waiting j =>
    rw [move?, staged_tasks hs] at h
    cases j <;> cases h
  | calling j sent =>
    have hK : Task.Context fun t => t.bind (j.after (σ := σ)) := Task.Context.id.bind _
    rw [reply_awaitRenewal hK (staged_tasks hs)] at h
    cases h
    exact ⟨_, _, .renewed, resume_staged
      (j.settle_after stale fun token ht => Client.accessToken_settleReply ht)⟩
  | resent request bearer =>
    rw [move?, staged_tasks hs] at h
    cases h
    exact ⟨_, _, .resentAnswered, resume_staged rfl⟩
  | closed k x =>
    rw [move?, staged_tasks hs] at h
    cases h

theorem getElem?_staged {t : Task σ Award} (h : (staged stale c ss).tasks[i]? = some t) :
    ∃ s, ss[i]? = some s ∧ s.task stale = t := by
  rwa [staged, List.getElem?_map, Option.map_eq_some_iff] at h

/-- A move of a pool of claimants takes one of them to its next stage. -/
theorem move?_staged {m : Move σ Award} {q : Pool σ Award} (hm : m.IsProgress)
    (h : (staged stale c ss).move? m = some q) :
    ∃ i x s s' c', m = .progress i x ∧ ss[i]? = some s ∧ Stage.Step stale c s x s' c' ∧
      q = staged stale c' (ss.set i s') := by
  rcases move?_cases h with ⟨_, rfl, _⟩ | ⟨i, r, _, _, _, rfl, hget, _⟩ |
    ⟨i, _, _, rfl, hget, _, _⟩ | ⟨_, _, rfl, _, _⟩
  · cases hm
  · obtain ⟨s, hs, _⟩ := getElem?_staged hget
    obtain ⟨s', c', hstep, hq⟩ := reply_staged hs h
    exact ⟨i, some r, s, s', c', rfl, hs, hstep, hq⟩
  · obtain ⟨s, hs, htask⟩ := getElem?_staged hget
    cases s with
    | waiting j =>
      obtain ⟨s', c', hstep, hq⟩ := enter_staged hs h
      exact ⟨i, none, _, s', c', rfl, hs, hstep, hq⟩
    | calling j sent => cases j <;> cases htask
    | out | resent | closed => cases htask
  · cases hm

theorem callAt?_staged (hi : ss[i]? = some s) :
    (staged stale c ss).callAt? i = s.call? stale := by
  rw [callAt?, staged_tasks hi]
  exact Stage.call?_task stale s

theorem isCalling_staged :
    (staged stale c ss).isCalling i = true ↔ ∃ j sent, ss[i]? = some (Stage.calling j sent) := by
  cases hi : ss[i]? with
  | none => exact iff_of_false (by simp [isCalling, callAt?, staged, hi]) nofun
  | some s =>
    rw [isCalling, callAt?_staged hi, Stage.any_isRenewal]
    exact exists_congr fun j => exists_congr fun sent => by rw [Option.some.injEq]

theorem calls_staged {ms : List (Move σ Award)} (hi : ss[i]? = some s)
    (h : (staged stale c ss).move? (.progress i x) = some (staged stale c' (ss.set i s'))) :
    (staged stale c ss).calls (.progress i x :: ms) =
      ((s'.call? stale).map (i, ·)).toList ++ (staged stale c' (ss.set i s')).calls ms := by
  rw [calls_cons h]
  have htarget : (Move.progress i x : Move σ Award).target? (staged stale c ss) = some i := by
    cases x <;> rfl
  rw [htarget, Option.bind_some,
    callAt?_staged (List.getElem?_set_self (List.getElem?_eq_some_iff.1 hi).1)]

end Pool

/-! ## The start -/

/-- Where a claimant waits first. -/
def Claimant.first : Claimant → Stage
  | .seeker => .waiting .seek
  | .sender r => .out r

theorem Claimant.settle_task (haccess : c.store.accessToken = some stale) (k : Claimant) :
    (k.task stale).settle c = (k.first.task stale, c) := by
  cases k with
  | seeker => rfl
  | sender r =>
    rw [Claimant.task, send_eq]
    change (Task.dispatch (r.call c.store.accessToken) id fun reply =>
      Award.delivery <$> sendAgain r c.store.accessToken reply, c) = _
    rw [haccess]; rfl

/-- Claimants that start find the client as it is, and leave it so. -/
theorem Pool.run?_start (haccess : c.store.accessToken = some stale) (ks : List Claimant) :
    Pool.run? ⟨c, []⟩ (ks.map fun k => .start (k.task stale)) =
      some (.staged stale c (ks.map Claimant.first)) := by
  have h (ts : List (Task σ Award)) : Pool.run? ⟨c, ts⟩ (ks.map fun k => .start (k.task stale)) =
      some ⟨c, ts ++ ks.map fun k => k.first.task stale⟩ := by
    induction ks generalizing ts with
    | nil => simp [run?]
    | cons k ks ih =>
      simp only [List.map_cons, run?, move?, Claimant.settle_task haccess, Option.bind_some]
      rw [ih, List.append_assoc]; rfl
  rw [h, staged, List.map_map]; rfl

end SessionKeeper
