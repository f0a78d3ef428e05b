import SessionKeeper.Client.Renewal
import SessionKeeper.Proofs.Client.Invariant

/-!
# One turn of a renewal

A renewal waits twice: for its turn, and for the reply to its call if the turn leads to one. Each
wait ends with one move of a pool (`Pool.enter_renew`, `Pool.reply_awaitRenewal`), whatever task the
renewal is a part of: what surrounds it (`Task.Context`) only adds what follows it and the cleanups.
-/

namespace SessionKeeper

variable {σ α β γ : Type}

namespace Task

/-- The call that a task waits for. -/
def call? : Task σ α → Option Call
  | .dispatch call _ _ => some call
  | _ => none

/-- What surrounds a task under way: it leaves to it what the task changes and waits for. -/
structure Context (K : Task σ β → Task σ α) : Prop where
  act : ∀ change next, K (.act change next) = .act change fun c => K (next c)
  dispatch : ∀ call onDrop next, ∃ onDrop',
    K (.dispatch call onDrop next) = .dispatch call onDrop' fun r => K (next r)
  acquire : ∀ onDrop next, ∃ onDrop', K (.acquire onDrop next) = .acquire onDrop' (K next)

namespace Context

variable {K : Task σ β → Task σ α}

protected theorem id : Context (id : Task σ β → Task σ β) :=
  ⟨fun _ _ => rfl, fun _ onDrop _ => ⟨onDrop, rfl⟩, fun onDrop _ => ⟨onDrop, rfl⟩⟩

protected theorem bind (H : Context K) (f : α → Task σ γ) : Context fun t => (K t).bind f where
  act change next := by rw [H.act]; rfl
  dispatch call onDrop next := by
    obtain ⟨onDrop', h⟩ := H.dispatch call onDrop next
    exact ⟨onDrop', by rw [h]; rfl⟩
  acquire onDrop next := by
    obtain ⟨onDrop', h⟩ := H.acquire onDrop next
    exact ⟨onDrop', by rw [h]; rfl⟩

protected theorem guarded (H : Context K) (cleanup : Client σ → Client σ) :
    Context fun t => (K t).guarded cleanup where
  act change next := by rw [H.act]; rfl
  dispatch call onDrop next := by
    obtain ⟨onDrop', h⟩ := H.dispatch call onDrop next
    exact ⟨cleanup ∘ onDrop', by rw [h]; rfl⟩
  acquire onDrop next := by
    obtain ⟨onDrop', h⟩ := H.acquire onDrop next
    exact ⟨cleanup ∘ onDrop', by rw [h]; rfl⟩

/-- Settling the task inside first makes no difference. -/
theorem settle (H : Context K) (t : Task σ β) (c : Client σ) :
    (K t).settle c = (K (t.settle c).1).settle (t.settle c).2 := by
  induction t generalizing c with
  | act change next ih => rw [H.act]; exact ih c (change c)
  | done | dispatch | acquire => rfl

end Context

end Task

namespace Client

/-- The client after a renewal has given its turn back. -/
def released (c : Client σ) : Client σ := { c with renewing := false }

/-- A turn that changes nothing leaves no trace. -/
theorem released_begun {c : Client σ} (H : c.renewing = false) :
    ({ c with renewing := true } : Client σ).released = c := by
  cases c; cases H; rfl

variable [Medium σ]

/-- Applies the reply to a renewal call that was made with the refresh token `sent`. -/
def settleReply (sent : String) (r : Reply) (c : Client σ) : Except ApiError String × Client σ :=
  match r with
  | .error fault => (.error fault.error, c)
  | .ok answer => settleRenewal sent answer c

end Client

variable [Medium σ] {c : Client σ}

namespace Renewal

/-- What a renewal does when its turn has come, up to giving it back. -/
def turn (refused : Option String) : Task σ (Except ApiError String) := do
  match plan (← Task.read).store.accessToken refused with
  | .reuse token => return .ok token
  | .gone => return .error .sessionExpired
  | .due => renewNow

/-- What a renewal does with the reply to its call, up to giving its turn back. -/
def answered (sent : String) (r : Reply) : Task σ (Except ApiError String) :=
  match r with
  | .error fault => return .error fault.error
  | .ok answer => Task.update (Client.settleRenewal sent answer)

end Renewal

/-- A renewal that waits for the reply to its call with a refresh token. -/
def awaitRenewal (sent : String) : Task σ (Except ApiError String) :=
  .dispatch ((Renewal.request sent).call none) Client.released fun r =>
    (Renewal.answered sent r).guarded Client.released

theorem renew_eq (refused : Option String) :
    (renew refused : Task σ _) = .acquire id ((Renewal.turn refused).guarded Client.released) := rfl

theorem settle_turn (refused : Option String) :
    ((Renewal.turn refused).guarded Client.released).settle c =
      match Renewal.plan c.store.accessToken refused with
      | .reuse token => (.done (.ok token), c.released)
      | .gone => (.done (.error .sessionExpired), c.released)
      | .due =>
        match c.store.refreshToken with
        | none => (.done (.error .noRefreshToken), c.withoutRefreshToken.released)
        | some token => (awaitRenewal token, c) := by
  change (Task.guarded Client.released (match Renewal.plan c.store.accessToken refused with
    | .reuse token => .done (.ok token)
    | .gone => .done (.error .sessionExpired)
    | .due => renewNow)).settle c = _
  split
  · rfl
  · rfl
  · change (Task.guarded Client.released (match c.store.refreshToken with
      | none => _
      | some token => _)).settle c = _
    split <;> rfl

theorem settle_answered (sent : String) (r : Reply) :
    ((Renewal.answered sent r).guarded Client.released).settle c =
      (.done (c.settleReply sent r).1, (c.settleReply sent r).2.released) := by
  cases r <;> rfl

theorem Task.Context.awaitRenewal {K : Task σ (Except ApiError String) → Task σ α}
    (H : Task.Context K) (sent : String) : ∃ onDrop,
    K (awaitRenewal sent) = .dispatch ((Renewal.request sent).call none) onDrop fun r =>
      K ((Renewal.answered sent r).guarded Client.released) :=
  H.dispatch _ _ _

namespace Pool

variable {p : Pool σ α} {i : Nat} {K : Task σ (Except ApiError String) → Task σ α}

omit [Medium σ] in
theorem resume_context {K : Task σ β → Task σ α} (H : Task.Context K) (p : Pool σ α) (i : Nat)
    (t : Task σ β) (c : Client σ) :
    p.resume i (K t) c = p.resume i (K (t.settle c).1) (t.settle c).2 := by
  simp only [resume, H.settle t c]

theorem enter_renew (H : Task.Context K) {refused : Option String}
    (hwait : p.tasks[i]? = some (K (renew refused))) (hidle : p.client.renewing = false) :
    p.move? (.enter i) = some (
      match Renewal.plan p.client.store.accessToken refused with
      | .reuse token => p.resume i (K (.done (.ok token))) p.client
      | .gone => p.resume i (K (.done (.error .sessionExpired))) p.client
      | .due =>
        let begun := { p.client with renewing := true }
        match p.client.store.refreshToken with
        | none => p.resume i (K (.done (.error .noRefreshToken))) begun.withoutRefreshToken.released
        | some token => p.resume i (K (awaitRenewal token)) begun) := by
  obtain ⟨onDrop, h⟩ := H.acquire id ((Renewal.turn refused).guarded Client.released)
  rw [renew_eq, h] at hwait
  simp only [move?, hwait, hidle, Bool.false_eq_true, if_false, Option.some.injEq]
  rw [resume_context H, settle_turn, Client.released_begun hidle]
  dsimp only
  cases Renewal.plan p.client.store.accessToken refused with
  | reuse | gone => rfl
  | due => cases p.client.store.refreshToken <;> rfl

theorem resume_awaitRenewal (H : Task.Context K) (p : Pool σ α) (i : Nat) (sent : String)
    (c : Client σ) :
    p.resume i (K (awaitRenewal sent)) c = ⟨c, p.tasks.set i (K (awaitRenewal sent))⟩ := by
  obtain ⟨onDrop, h⟩ := H.awaitRenewal sent
  rw [h]; rfl

/-- A turn that is due, with a refresh token stored, leads to a call and to nothing else. -/
theorem enter_renew_due (H : Task.Context K) {refused : Option String} {q : Pool σ α}
    {sent : String} (hwait : p.tasks[i]? = some (K (renew refused)))
    (hplan : Renewal.plan p.client.store.accessToken refused = .due)
    (hsent : p.client.store.refreshToken = some sent) (henter : p.move? (.enter i) = some q) :
    q.client = { p.client with renewing := true } ∧
      q.tasks[i]? = some (K (awaitRenewal sent)) := by
  rw [enter_renew H hwait (renewing_of_enter henter), hplan] at henter
  simp only [hsent] at henter
  cases henter
  rw [resume_awaitRenewal H]
  exact ⟨rfl, List.getElem?_set_self (List.getElem?_eq_some_iff.1 hwait).1⟩

theorem reply_awaitRenewal (H : Task.Context K) {sent : String}
    (hcall : p.tasks[i]? = some (K (awaitRenewal sent))) (r : Reply) :
    p.move? (.reply i r) = some (p.resume i (K (.done (p.client.settleReply sent r).1))
      (p.client.settleReply sent r).2.released) := by
  obtain ⟨onDrop, h⟩ := H.awaitRenewal sent
  rw [h] at hcall
  simp only [move?, hcall, Option.some.injEq]
  rw [resume_context H, settle_answered]

end Pool

end SessionKeeper
