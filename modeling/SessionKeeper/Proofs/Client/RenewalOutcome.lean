import Mathlib.Logic.ExistsUnique
import SessionKeeper.Client.Host
import SessionKeeper.Proofs.Client.Decision
import SessionKeeper.Proofs.Client.LateRenewal
import SessionKeeper.Proofs.Client.Restart

/-!
# How a renewal ends

A renewal changes four things: the entries in memory, those on the medium, the board, and the
navigations. Its reply can be of any kind and its save can fail, but it never changes some of the four
and leaves others behind. It ends in one of three ways (`Renewal.Way`): the tokens are replaced, the
session has ended, or nothing has happened (`renew_allOrNothing`).

A rejected refresh token ends the session if the cleared store can be saved, whatever the renewal is a
part of and whatever happens while its call is out (`Pool.reply_rejected_renewal`). If the cleared
store cannot be saved the session goes on with the rejected token
(`Pool.reply_rejected_renewal_unsaved`), unlike after a logout.
-/

namespace SessionKeeper

open Store

variable {σ α : Type}

/-! ## The end of a session -/

/-- On the way from `c` to `d` the session ended: nothing is stored in memory, nobody is published, and
the login page was asked for once. -/
structure Client.EndedIn (c d : Client σ) : Prop where
  entries : d.store.entries = .empty
  user : d.session.user = none
  visits : d.visits = .login none :: c.visits

variable [Medium σ] {c : Client σ}

/-- A rejection of the refresh token that is stored clears the store if that can be saved, and changes
only the medium if it cannot. -/
theorem Client.settleRenewal_rejected {sent : String} {a : Answer}
    (hstored : c.store.refreshToken = some sent) (hreject : a.isRejection = true) :
    settleRenewal sent a c =
      match Medium.save Dictionary.empty c.store.medium with
      | (.ok (), m) => (.error .sessionExpired, (c.holding .empty m).forgetSession)
      | (.error e, m) => (.error (.store e.message), c.holding c.store.entries m) := by
  have hsuccess : a.isSuccess = false := by
    simp only [Answer.isSuccess, Answer.isRejection, Bool.and_eq_true, decide_eq_true_eq,
      Bool.and_eq_false_iff, decide_eq_false_iff_not] at hreject ⊢
    omega
  have hholds : holdsRefresh c.store.entries sent = true := beq_iff_eq.2 hstored
  simp only [settleRenewal, onStore, clearIfRefresh, Store.mutate, hsuccess, hreject, hholds,
    Bool.false_eq_true, if_false, if_true]
  cases Medium.save Dictionary.empty c.store.medium with
  | mk x m => cases x <;> rfl

theorem Client.endedIn_settleRenewal {sent : String} {a : Answer}
    (hstored : c.store.refreshToken = some sent) (hreject : a.isRejection = true)
    (hsaves : c.saves .empty = true) :
    (settleRenewal sent a c).1 = .error .sessionExpired ∧
      c.EndedIn (settleRenewal sent a c).2 := by
  rw [saves] at hsaves
  rw [settleRenewal_rejected hstored hreject]
  split
  · exact ⟨rfl, rfl, rfl, rfl⟩
  next hsave =>
    rw [hsave] at hsaves
    cases hsaves

/-- The turn of a renewal comes, and it calls with the refresh token stored then. Whatever other
tasks do while the call is outstanding, if that refresh token is still stored when the backend rejects
it, and the cleared store can be saved, then the session ends: the renewal has asked for the login
page once, and it returns that the session expired. -/
theorem Pool.reply_rejected_renewal {p q q' : Pool σ α} {i j : Nat} {refused : Option String}
    {K : Task σ (Except ApiError String) → Task σ α} {sent : String} {ms : List (Move σ α)}
    {a : Answer} (H : Task.Context K) (hwait : p.tasks[i]? = some (K (renew refused)))
    (hplan : Renewal.plan p.client.store.accessToken refused = .due)
    (hsent : p.client.store.refreshToken = some sent) (henter : p.move? (.enter i) = some q)
    (hrun : q.run? ms = some q') (hfollow : Move.followAll? i ms = some j)
    (hstored : q'.client.store.refreshToken = some sent) (hreject : a.isRejection = true)
    (hsaves : q'.client.saves .empty = true) :
    q.tasks[i]?.bind Task.call? = some ((Renewal.request sent).call none) ∧
      q.client.visits = p.client.visits ∧
      ∃ d, q'.move? (.reply j (.ok a)) =
          some (q'.resume j (K (.done (.error .sessionExpired))) d) ∧
        q'.client.EndedIn d := by
  obtain ⟨hclient, hcall⟩ := enter_renew_due H hwait hplan hsent henter
  obtain ⟨onDrop, h⟩ := H.awaitRenewal sent
  obtain ⟨hexpired, hended⟩ := Client.endedIn_settleRenewal hstored hreject hsaves
  refine ⟨by rw [hcall, h]; rfl, by rw [hclient], (q'.client.settleRenewal sent a).2.released,
    ?_, hended.entries, hended.user, hended.visits⟩
  rw [reply_awaitRenewal H (run?_follow hrun hfollow hcall), ← hexpired]
  rfl

/-- A profile request renews the token, and is answered that the refresh token is not known, while
another request has come and gone and a login could not be saved. -/
theorem Pool.reply_rejected_renewal_busy :
    let es := Store.withLogin .empty default ⟨"A1", "R1"⟩
    let m : Memory := ⟨es, 0, fun n => n == 0, false⟩
    let K : Task Memory (Except ApiError String) → Task Memory Unit := fun t =>
      (t.guarded (·.post Board.finish)).bind fun _ => .done ()
    let p : Pool Memory Unit := ⟨.connect ⟨es, m⟩, [K (renew (some "A1"))]⟩
    let ms : List (Move Memory Unit) :=
      [.start (Operation.send (.get "/courses/")).task, .reply 1 (.ok ⟨200, ""⟩),
        .start (discard (adopt default ⟨"A9", "R9"⟩))]
    ∃ q q', p.move? (.enter 0) = some q ∧ q.run? ms = some q' ∧
      q'.client.store.refreshToken = some "R1" ∧ q'.client.saves .empty = true ∧
      q.tasks[0]?.bind Task.call? = some ((Renewal.request "R1").call none) ∧
      q.client.visits = p.client.visits ∧
      ∃ d, q'.move? (.reply 0 (.ok ⟨404, ""⟩)) =
          some (q'.resume 0 (K (.done (.error .sessionExpired))) d) ∧
        q'.client.EndedIn d := by
  intro es m K p ms
  have hrun : ((p.move? (.enter 0)).bind fun q => q.run? ms).any (fun q' =>
      q'.client.store.refreshToken = some "R1" && q'.client.saves .empty) = true := by
    decide +kernel
  obtain ⟨q', hq', hr⟩ := (Option.any_eq_true _ _).1 hrun
  obtain ⟨q, hq, hms⟩ := Option.bind_eq_some_iff.1 hq'
  obtain ⟨hr, hsaves⟩ := Bool.and_eq_true_iff.1 hr
  have hr : q'.client.store.refreshToken = some "R1" := of_decide_eq_true hr
  have hK : Task.Context K := (Task.Context.id.guarded _).bind _
  exact ⟨q, q', hq, hms, hr, hsaves,
    reply_rejected_renewal hK rfl rfl rfl hq hms rfl hr rfl hsaves⟩

/-- On a full disk a rejected refresh token ends nothing: the renewal fails, and the user stays signed
in with the rejected token, and where they are. A logout there would have cleared the store. -/
theorem Pool.reply_rejected_renewal_unsaved :
    let es := Store.withLogin .empty default ⟨"A1", "R1"⟩
    let c : Client Memory := .connect ⟨es, ⟨es, 0, fun _ => true, false⟩⟩
    ∃ q q', Pool.move? ⟨c, [renew (some "A1")]⟩ (.enter 0) = some q ∧
      q.tasks[0]?.bind Task.call? = some ((Renewal.request "R1").call none) ∧
      q.client.store.refreshToken = some "R1" ∧
      q.move? (.reply 0 (.ok ⟨401, ""⟩)) = some q' ∧
      q'.tasks[0]?.bind Task.value? =
        some (.error (.store "credential storage I/O failed: disk full")) ∧
      q'.client.store.entries = es ∧ q'.client.session.user = some default ∧
      q'.client.visits = [] ∧ c.signOut.store.entries = .empty := by
  intro es c
  have hsaved : c.session.user = some default := by decide +kernel
  exact ⟨_, _, rfl, rfl, rfl, rfl, rfl, rfl, hsaved, rfl, rfl⟩

/-! ## The three ways -/

/-- From `c` to `d` nothing happened to the credentials, here and on the medium, or to the session. -/
structure Client.UntouchedIn (c d : Client σ) : Prop where
  entries : d.store.entries = c.store.entries
  persisted : Medium.load d.store.medium = Medium.load c.store.medium
  board : d.board = c.board
  visits : d.visits = c.visits

namespace Renewal

/-- The reply to a renewal call with the refresh token that is stored brings these tokens. -/
def Brings (reply : Call → Client σ → Reply) (c : Client σ) (sent : String) (fresh : RefreshAnswer) :
    Prop :=
  c.store.refreshToken = some sent ∧
    ∃ a, reply ((request sent).call none) { c with renewing := true } = .ok a ∧
      a.isSuccess = true ∧ a.decode RefreshAnswer.decoder = .ok fresh

/-- From `c` to `d` the access token became `token`, or was that already. -/
structure Renewed (reply : Call → Client σ → Reply) (c d : Client σ) (token : String) : Prop where
  access : d.store.accessToken = some token
  /-- Both tokens are as before, or both are as one answer has them. -/
  refresh : d.store = c.store ∨ ∃ sent fresh, Brings reply c sent fresh ∧ fresh.access = token ∧
    d.store.refreshToken = some (fresh.refresh.getD sent) ∧
    Medium.load d.store.medium = .ok d.store.entries
  user : d.store.user = c.store.user
  board : d.board = c.board
  visits : d.visits = c.visits

/-- The ways in which a renewal can end. -/
inductive Way where
  | renewed
  | ended
  | failed

/-- A renewal that goes from `c` to `d` and returns `x` ends that way. -/
def Way.Leads (reply : Call → Client σ → Reply) (c d : Client σ) (x : Except ApiError String) :
    Way → Prop
  | .renewed => ∃ token, x = .ok token ∧ Renewed reply c d token
  | .ended =>
    x = .error .sessionExpired ∧ c.EndedIn d ∧ Medium.load d.store.medium = .ok .empty
  | .failed => (∃ e, x = .error e) ∧ c.UntouchedIn d

variable {reply : Call → Client σ → Reply} {d : Client σ} {x : Except ApiError String}

theorem Way.Leads.unique {w w' : Way} (H : w.Leads reply c d x) (H' : w'.Leads reply c d x) :
    w = w' := by
  -- the results tell a renewal from the other two ways, and the navigations tell these apart
  have hvisits : ∀ {c d : Client σ}, c.EndedIn d → ¬ c.UntouchedIn d := fun h h' =>
    List.cons_ne_self _ _ (h.visits.symm.trans h'.visits)
  cases w with
  | renewed =>
    obtain ⟨token, rfl, _⟩ := H
    cases w' with
    | renewed => rfl
    | ended => cases H'.1
    | failed =>
      obtain ⟨⟨e, h⟩, _⟩ := H'
      cases h
  | ended =>
    obtain ⟨rfl, hended, _⟩ := H
    cases w' with
    | renewed =>
      obtain ⟨_, h, _⟩ := H'
      cases h
    | ended => rfl
    | failed => exact absurd H'.2 (hvisits hended)
  | failed =>
    obtain ⟨⟨e, rfl⟩, hsame⟩ := H
    cases w' with
    | renewed =>
      obtain ⟨_, h, _⟩ := H'
      cases h
    | ended => exact absurd hsame (hvisits H'.2.1)
    | failed => rfl

theorem Brings.renewed {sent : String} {fresh : RefreshAnswer} {m : σ}
    (H : Brings reply c sent fresh)
    (hload : Medium.load m = .ok (withTokens c.store.entries fresh.access fresh.refresh)) :
    Renewed reply c
      (({ c with renewing := true } : Client σ).holding
        (withTokens c.store.entries fresh.access fresh.refresh) m).released fresh.access where
  access := get?_access_withTokens _ _ _
  refresh := by
    have hsent : c.store.entries.get? refreshKey = some sent := H.1
    have hstored := get?_refresh_withTokens c.store.entries fresh.access fresh.refresh
    rw [hsent, Option.or_some] at hstored
    exact .inr ⟨sent, fresh, H, rfl, hstored, hload⟩
  user := congrArg (Option.bind · User.ofText?) (get?_user_withTokens _ _ _)
  board := rfl
  visits := rfl

omit [Medium σ] in
theorem plan_eq_due_iff {stored refused : Option String} :
    plan stored refused = .due ↔ stored = refused := by
  cases stored <;> cases refused <;> simp [plan]

end Renewal

variable {R : σ → Prop} {reply : Call → Client σ → Reply}

open Renewal

/-- Whatever comes back for the refresh token that is stored, and whatever becomes of the save, the
renewal ends in one of the three ways. -/
theorem Client.settleReply_leads (hR : Medium.Reliable R) (hm : R c.store.medium) {sent : String}
    (hsent : c.store.refreshToken = some sent) :
    let begun : Client σ := { c with renewing := true }
    let y := begun.settleReply sent (reply ((request sent).call none) begun)
    ∃ w : Way, w.Leads reply c y.2.released y.1 := by
  intro begun y
  cases hr : reply ((request sent).call none) begun with
  | error fault =>
    have hy : y = (.error fault.error, begun) := by simp only [y, hr]; rfl
    rw [hy]
    exact ⟨.failed, ⟨_, rfl⟩, rfl, rfl, rfl, rfl⟩
  | ok a =>
    have hy : y = begun.settleRenewal sent a := by simp only [y, hr]; rfl
    rw [hy]
    obtain ⟨fresh, m, hsuccess, hdec, _, _, hsave, h⟩ | ⟨m, _, _, _, hsave, h⟩ |
      ⟨es, e, m, hsave, _, h⟩ | ⟨e, _, h⟩ := settleRenewal_cases sent a begun
    · rw [h]
      have hbrings : Brings reply c sent fresh := ⟨hsent, a, hr, hsuccess, hdec⟩
      exact ⟨.renewed, fresh.access, rfl, hbrings.renewed (hR.saved hm hsave).2⟩
    · rw [h]
      exact ⟨.ended, rfl, ⟨rfl, rfl, rfl⟩, (hR.saved hm hsave).2⟩
    · rw [h]
      exact ⟨.failed, ⟨_, rfl⟩, rfl, (hR.refused hm hsave).2, rfl, rfl⟩
    · rw [h]
      exact ⟨.failed, ⟨_, rfl⟩, rfl, rfl, rfl, rfl⟩

/-- A host that answers each call from the call and the client alone, and keeps the calls, the latest
first. -/
def Host.recording (reply : Call → Client σ → Reply) : Host σ (Client σ × List Call) where
  client := Prod.fst
  setClient c s := (c, s.2)
  reply call s := (some (reply call s.1), s.1, call :: s.2)

omit [Medium σ] in
theorem Task.run_settle (t : Task σ α) (c : Client σ) (calls : List Call) :
    t.run (.recording reply) (c, calls) =
      (t.settle c).1.run (.recording reply) ((t.settle c).2, calls) := by
  induction t generalizing c with
  | act change next ih => exact ih c (change c)
  | done | dispatch | acquire => rfl

theorem run_awaitRenewal (sent : String) (calls : List Call) :
    (awaitRenewal sent).run (.recording reply) (c, calls) =
      let call := (request sent).call none
      let y := c.settleReply sent (reply call c)
      (.value y.1, y.2.released, call :: calls) := by
  change Task.run _ (Task.guarded _ (answered sent (reply ((request sent).call none) c))) (c, _) = _
  rw [Task.run_settle, settle_answered]
  rfl

theorem run_renew (refused : Option String) (hidle : c.renewing = false) :
    (renew refused).run (.recording reply) (c, []) =
      match plan c.store.accessToken refused with
      | .reuse token => (.value (.ok token), c, [])
      | .gone => (.value (.error .sessionExpired), c, [])
      | .due =>
        let begun : Client σ := { c with renewing := true }
        match c.store.refreshToken with
        | none => (.value (.error .noRefreshToken), begun.withoutRefreshToken.released, [])
        | some sent => (awaitRenewal sent).run (.recording reply) (begun, []) := by
  have hturn : (renew refused).run (.recording reply) (c, []) =
      ((turn refused).guarded Client.released).run (.recording reply)
        ({ c with renewing := true }, []) := by
    rw [renew_eq, Task.run]
    exact if_neg (by rw [Host.recording, hidle]; exact Bool.false_ne_true)
  rw [hturn, Task.run_settle, settle_turn]
  cases hplan : plan c.store.accessToken refused with
  | reuse | gone => simp only [Task.run, Client.released_begun hidle]
  | due => cases c.store.refreshToken <;> rfl

/-- A renewal that runs alone, while session and store agree, ends in just one of the three ways,
whatever the reply and the save come to. It calls once if a refresh token is stored and the refused
token is the stored one, and else not at all. -/
theorem renew_allOrNothing (hR : Medium.Reliable R) (hm : R c.store.medium)
    (hidle : c.renewing = false)
    (hagree : c.session.isAuthenticated = true ↔
      ∀ k ∈ keys, c.store.entries.contains k = true)
    (refused : Option String) (reply : Call → Client σ → Reply) :
    ∃ x d calls, (renew refused).run (.recording reply) (c, []) = (.value x, d, calls) ∧
      (∃! w : Way, w.Leads reply c d x) ∧
      calls = if c.store.accessToken = refused then
          (c.store.refreshToken.map fun sent => (request sent).call none).toList
        else [] := by
  suffices ∃ x d calls, (renew refused).run (.recording reply) (c, []) = (.value x, d, calls) ∧
      (∃ w : Way, w.Leads reply c d x) ∧
      calls = if c.store.accessToken = refused then
          (c.store.refreshToken.map fun sent => (request sent).call none).toList
        else [] by
    obtain ⟨x, d, calls, hrun, ⟨w, hw⟩, hcalls⟩ := this
    exact ⟨x, d, calls, hrun, ⟨w, hw, fun w' hw' => hw'.unique hw⟩, hcalls⟩
  rw [run_renew refused hidle]
  cases hplan : plan c.store.accessToken refused with
  | reuse token =>
    have hother : c.store.accessToken ≠ refused := fun h =>
      absurd (hplan.symm.trans (plan_eq_due_iff.2 h)) nofun
    exact ⟨_, _, _, rfl,
      ⟨.renewed, token, rfl, stored_of_plan hplan, .inl rfl, rfl, rfl, rfl⟩, (if_neg hother).symm⟩
  | gone =>
    have hother : c.store.accessToken ≠ refused := fun h =>
      absurd (hplan.symm.trans (plan_eq_due_iff.2 h)) nofun
    exact ⟨_, _, _, rfl, ⟨.failed, ⟨_, rfl⟩, rfl, rfl, rfl, rfl⟩, (if_neg hother).symm⟩
  | due =>
    rw [if_pos (plan_eq_due_iff.1 hplan)]
    cases hsent : c.store.refreshToken with
    | none =>
      have hanonymous : ¬ c.session.isAuthenticated = true := fun h => by
        have hcontains := hagree.1 h refreshKey (by simp [keys])
        rw [Dictionary.contains, show c.store.entries.get? refreshKey = none from hsent] at hcontains
        cases hcontains
      have hkept : ({ c with renewing := true } : Client σ).withoutRefreshToken.released = c :=
        (congrArg Client.released (if_neg hanonymous)).trans (Client.released_begun hidle)
      dsimp only
      rw [hkept]
      exact ⟨_, _, _, rfl, ⟨.failed, ⟨_, rfl⟩, rfl, rfl, rfl, rfl⟩, rfl⟩
    | some sent =>
      exact ⟨_, _, _, run_awaitRenewal _ _, Client.settleReply_leads hR hm hsent, rfl⟩

/-- New tokens arrive for a renewal, both changed, and cannot be saved. -/
theorem renew_allOrNothing_unsaved_rotation :
    let es := Store.withLogin .empty default ⟨"A1", "R1"⟩
    let m : Memory := ⟨es, 0, fun n => n == 0, false⟩
    let c : Client Memory := .connect ⟨es, m⟩
    let reply : Call → Client Memory → Reply := fun _ _ =>
      .ok ⟨200, "\x7b\"access\":\"A2\",\"refresh\":\"R2\"\x7d"⟩
    Medium.Reliable (fun m : Memory => m.loadFails = false) ∧ m.loadFails = false ∧
      c.renewing = false ∧
      (c.session.isAuthenticated = true ↔ ∀ k ∈ keys, c.store.entries.contains k = true) ∧
      ∃ x d calls, (renew (some "A1")).run (.recording reply) (c, []) = (.value x, d, calls) ∧
        (∃! w : Way, w.Leads reply c d x) ∧
        calls = if c.store.accessToken = some "A1" then
            (c.store.refreshToken.map fun sent => (request sent).call none).toList
          else [] := by
  intro es m c reply
  have hagree := (Client.Agrees.connect (s := ⟨es, m⟩)
    (.inr (Whole.withLogin (.inl rfl) _ _))).isAuthenticated_iff
  exact ⟨Memory.reliable, rfl, rfl, hagree,
    renew_allOrNothing Memory.reliable rfl rfl hagree (some "A1") reply⟩

end SessionKeeper
