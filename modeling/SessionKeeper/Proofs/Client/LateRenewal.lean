import SessionKeeper.Proofs.Client.Operations
import SessionKeeper.Proofs.Client.Turn

/-!
# A late renewal changes nothing

While a renewal call is outstanding, other tasks go on, and one of them may end the session or begin
another. The reply then finds a refresh token stored that is not the one that was sent, or none; it
is an error whatever it says, and the client stays as the others left it
(`Pool.reply_late_renewal`).
-/

namespace SessionKeeper

variable {σ α : Type}

/-! ## Where a task is among others -/

/-- The index of the task at `i` after a move of another one. -/
def Move.follow? (i : Nat) : Move σ α → Option Nat
  | .start _ => some i
  | .reply j _ | .enter j => if j = i then none else some i
  | .cancel j => if j = i then none else some (if j < i then i - 1 else i)

/-- The index of the task at `i` after moves of others. -/
def Move.followAll? (i : Nat) (ms : List (Move σ α)) : Option Nat := ms.foldlM Move.follow? i

namespace Pool

variable {p q : Pool σ α} {i j : Nat}

theorem resume_tasks_of_ne (p : Pool σ α) (t : Task σ α) (c : Client σ) (h : j ≠ i) :
    (p.resume j t c).tasks[i]? = p.tasks[i]? :=
  List.getElem?_set_ne h

/-- A move of another task leaves a task as it is. -/
theorem move?_follow {m : Move σ α} (h : p.move? m = some q) (hfollow : m.follow? i = some j)
    {t : Task σ α} (hi : p.tasks[i]? = some t) : q.tasks[j]? = some t := by
  have hlt : i < p.tasks.length := (List.getElem?_eq_some_iff.1 hi).1
  rcases move?_cases h with ⟨u, rfl, rfl⟩ | ⟨k, r, _, _, _, rfl, _, rfl⟩ |
    ⟨k, _, _, rfl, _, _, rfl⟩ | ⟨k, u, rfl, _, rfl⟩
  · cases hfollow
    exact List.getElem?_append_left hlt ▸ hi
  · obtain ⟨hk, hj⟩ := Option.ite_none_left_eq_some.1 hfollow
    cases hj
    rw [resume_tasks_of_ne _ _ _ hk, hi]
  · obtain ⟨hk, hj⟩ := Option.ite_none_left_eq_some.1 hfollow
    cases hj
    rw [resume_tasks_of_ne _ _ _ hk, hi]
  · obtain ⟨hk, hj⟩ := Option.ite_none_left_eq_some.1 hfollow
    cases hj
    rw [← hi]
    -- the tasks behind the dropped one move up
    split
    next hlt => rw [List.getElem?_eraseIdx_of_ge (by omega), Nat.sub_add_cancel (by omega)]
    next hge => rw [List.getElem?_eraseIdx_of_lt (by omega)]

theorem run?_follow {ms : List (Move σ α)} (h : p.run? ms = some q)
    (hfollow : Move.followAll? i ms = some j) {t : Task σ α} (hi : p.tasks[i]? = some t) :
    q.tasks[j]? = some t := by
  induction ms generalizing p i with
  | nil => cases h; cases hfollow; exact hi
  | cons m ms ih =>
    obtain ⟨p', hp, hrun⟩ := Option.bind_eq_some_iff.1 h
    obtain ⟨k, hk, hms⟩ := Option.bind_eq_some_iff.1 hfollow
    exact ih hrun hms (move?_follow hp hk hi)

end Pool

/-! ## The reply -/

/-- The reply says whether the refresh token is good: it brings a token, or rejects the one sent. -/
def Reply.IsConclusive : Reply → Prop
  | .ok a =>
    (a.isSuccess = true ∧ ∃ fresh, a.decode RefreshAnswer.decoder = .ok fresh) ∨
      a.isRejection = true
  | .error _ => False

variable [Medium σ]

/-- Once another refresh token is stored, or none, a reply comes to an error and to nothing else. -/
theorem Client.settleReply_changed {c : Client σ} {sent : String}
    (H : c.store.refreshToken ≠ some sent) (r : Reply) :
    ∃ e, settleReply sent r c = (.error e, c) ∧ (r.IsConclusive → e = .sessionExpired) := by
  have hholds : Store.holdsRefresh c.store.entries sent = false := beq_eq_false_iff_ne.2 H
  cases r with
  | error fault => exact ⟨_, rfl, False.elim⟩
  | ok a =>
    simp only [settleReply, settleRenewal, onStore, Store.updateTokens, Store.clearIfRefresh,
      Store.mutate, hholds, Bool.and_false, Bool.false_eq_true, if_false]
    split
    next hsuccess =>
      split
      next e hdec =>
        -- a success that does not decode is no rejection either
        refine ⟨e, rfl, fun hr => ?_⟩
        obtain ⟨_, fresh, hfresh⟩ | hreject := hr
        · rw [hdec] at hfresh; cases hfresh
        · simp only [Answer.isSuccess, Answer.isRejection, Bool.and_eq_true,
            decide_eq_true_eq] at hsuccess hreject
          omega
      next => exact ⟨_, rfl, fun _ => rfl⟩
    next hsuccess =>
      split
      next => exact ⟨_, rfl, fun _ => rfl⟩
      next hreject =>
        refine ⟨_, rfl, fun hr => ?_⟩
        obtain ⟨h, _⟩ | h := hr
        · exact absurd h hsuccess
        · exact absurd h hreject

/-- The turn of a renewal comes, and it calls with the refresh token stored then. Whatever other
tasks do while the call is outstanding, if they leave another refresh token in the store, or none,
then the reply leaves the client as they left it, but for the turn given back, and the renewal ends
with an error, which says that the session expired if the reply is conclusive. -/
theorem Pool.reply_late_renewal {p q q' : Pool σ α} {i j : Nat} {refused : Option String}
    {K : Task σ (Except ApiError String) → Task σ α} {sent : String} {ms : List (Move σ α)}
    (H : Task.Context K) (hwait : p.tasks[i]? = some (K (renew refused)))
    (hplan : Renewal.plan p.client.store.accessToken refused = .due)
    (hsent : p.client.store.refreshToken = some sent) (henter : p.move? (.enter i) = some q)
    (hrun : q.run? ms = some q') (hfollow : Move.followAll? i ms = some j)
    (hchanged : q'.client.store.refreshToken ≠ some sent) :
    q.tasks[i]?.bind Task.call? = some ((Renewal.request sent).call none) ∧
      ∀ r : Reply, ∃ e,
        q'.move? (.reply j r) =
          some (q'.resume j (K (.done (.error e))) { q'.client with renewing := false }) ∧
        (r.IsConclusive → e = .sessionExpired) := by
  have hidle : p.client.renewing = false := renewing_of_enter henter
  have hcall : q.tasks[i]? = some (K (awaitRenewal sent)) := by
    rw [enter_renew H hwait hidle, hplan] at henter
    simp only [hsent] at henter
    cases henter
    rw [resume_awaitRenewal H]
    exact List.getElem?_set_self (List.getElem?_eq_some_iff.1 hwait).1
  obtain ⟨onDrop, h⟩ := H.awaitRenewal sent
  refine ⟨by rw [hcall, h]; rfl, fun r => ?_⟩
  obtain ⟨e, he, hexpired⟩ := Client.settleReply_changed hchanged r
  refine ⟨e, ?_, hexpired⟩
  rw [reply_awaitRenewal H (run?_follow hrun hfollow hcall), he]
  rfl

/-- A profile request renews the token while another task is dropped, the session ends and somebody
else signs in. -/
theorem Pool.reply_late_renewal_new_login :
    let es := Store.withLogin .empty default ⟨"A1", "R1"⟩
    let K : Task Memory (Except ApiError String) → Task Memory Unit := fun t =>
      (t.guarded (·.post Board.finish)).bind fun _ => .done ()
    let p : Pool Memory Unit :=
      ⟨.connect ⟨es, .ofEntries es⟩, [Operation.task (.renew none), K (renew (some "A1"))]⟩
    let ms : List (Move Memory Unit) :=
      [.cancel 0, .start (Operation.task .logout), .reply 1 (.error .timedOut),
        .start (discard (adopt default ⟨"A9", "R9"⟩))]
    ∃ q q', p.move? (.enter 1) = some q ∧ q.run? ms = some q' ∧
      q'.client.store.refreshToken = some "R9" ∧
      q.tasks[1]?.bind Task.call? = some ((Renewal.request "R1").call none) ∧
      ∀ r : Reply, ∃ e,
        q'.move? (.reply 0 r) =
          some (q'.resume 0 (K (.done (.error e))) { q'.client with renewing := false }) ∧
        (r.IsConclusive → e = .sessionExpired) := by
  intro es K p ms
  have hrun : ((p.move? (.enter 1)).bind fun q => q.run? ms).any
      (fun q' => q'.client.store.refreshToken = some "R9") = true := by decide +kernel
  obtain ⟨q', hq', hr⟩ := (Option.any_eq_true _ _).1 hrun
  obtain ⟨q, hq, hms⟩ := Option.bind_eq_some_iff.1 hq'
  have hr : q'.client.store.refreshToken = some "R9" := of_decide_eq_true hr
  refine ⟨q, q', hq, hms, hr, ?_⟩
  have hK : Task.Context K := (Task.Context.id.guarded _).bind _
  exact reply_late_renewal hK rfl rfl rfl hq hms rfl (by rw [hr]; decide)

end SessionKeeper
