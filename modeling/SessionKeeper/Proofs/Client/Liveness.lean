import Mathlib.Data.List.Perm.Basic
import SessionKeeper.Proofs.Client.Changes
import SessionKeeper.Proofs.Client.Course
import SessionKeeper.Proofs.Client.Operations

/-!
# No task is stuck

A task waits for a reply, which may come at any time, or for its turn to renew, which comes only when
no other task has it. Tasks are orderly: who has the turn gives it back after replies alone, and when
dropped, and nobody else touches it (`Task.Orderly`). So whoever waits for the turn can have it after
replies to the one who has it, and every task of a pool can be brought to its end
(`Pool.Orderly.ends`). All operations are orderly (`Operation.orderly`).
-/

namespace SessionKeeper

variable {σ α β : Type}

namespace Task

/-- The task keeps to the turn; it has the turn if `held`. -/
def Orderly : Task σ α → Bool → Prop
  | .done _, held => held = false
  | .act change next, held =>
    ((∀ c, (change c).renewing = c.renewing) ∧ ∀ c, (next c).Orderly held) ∨
      (held = true ∧ (∀ c, (change c).renewing = false) ∧ ∀ c, (next c).Orderly false)
  | .dispatch _ onDrop next, held =>
    (∀ c, (onDrop c).renewing = (c.renewing && !held)) ∧ ∀ r, (next r).Orderly held
  | .acquire onDrop next, held =>
    held = false ∧ (∀ c, (onDrop c).renewing = c.renewing) ∧ next.Orderly true

namespace Orderly

variable {t : Task σ α} {held : Bool} {c : Client σ}

protected theorem pure (a : α) : (Pure.pure a : Task σ α).Orderly false := rfl

protected theorem bind {f : α → Task σ β} (H : t.Orderly held) (hf : ∀ a, (f a).Orderly false) :
    (t >>= f).Orderly held := by
  change (t.bind f).Orderly held
  induction t generalizing held with
  | done a =>
    cases H
    exact hf a
  | act change next ih =>
    obtain ⟨hchange, hnext⟩ | ⟨hheld, hchange, hnext⟩ := H
    · exact .inl ⟨hchange, fun c => ih c (hnext c)⟩
    · exact .inr ⟨hheld, hchange, fun c => ih c (hnext c)⟩
  | dispatch call onDrop next ih => exact ⟨H.1, fun r => ih r (H.2 r)⟩
  | acquire onDrop next ih => exact ⟨H.1, H.2.1, ih H.2.2⟩

protected theorem map {f : α → β} (H : t.Orderly held) : (f <$> t).Orderly held :=
  H.bind fun _ => rfl

protected theorem read {f : Client σ → Task σ α} (H : ∀ c, (f c).Orderly false) :
    (Task.read >>= f).Orderly false := .inl ⟨fun _ => rfl, H⟩

protected theorem update {f : Client σ → α × Client σ} (h : ∀ c, (f c).2.renewing = c.renewing) :
    (Task.update f).Orderly false := .inl ⟨h, fun _ => rfl⟩

protected theorem modify {f : Client σ → Client σ} (h : ∀ c, (f c).renewing = c.renewing) :
    (Task.modify f).Orderly false := .inl ⟨h, fun _ => rfl⟩

protected theorem ask (call : Call) : (Task.ask call : Task σ Reply).Orderly false :=
  ⟨fun _ => (Bool.and_true _).symm, fun _ => rfl⟩

protected theorem guarded {g : Client σ → Client σ} (hg : ∀ c, (g c).renewing = c.renewing)
    (H : t.Orderly held) : (t.guarded g).Orderly held := by
  induction t generalizing held with
  | done a => exact .inl ⟨hg, fun _ => H⟩
  | act change next ih =>
    obtain ⟨hchange, hnext⟩ | ⟨hheld, hchange, hnext⟩ := H
    · exact .inl ⟨hchange, fun c => ih c (hnext c)⟩
    · exact .inr ⟨hheld, hchange, fun c => ih c (hnext c)⟩
  | dispatch call onDrop next ih => exact ⟨fun c => (hg _).trans (H.1 c), fun r => ih r (H.2 r)⟩
  | acquire onDrop next ih => exact ⟨H.1, fun c => (hg _).trans (H.2.1 c), ih H.2.2⟩

protected theorem tracked (H : t.Orderly false) : t.tracked.Orderly false :=
  .inl ⟨fun _ => rfl, fun _ => H.guarded fun _ => rfl⟩

/-- Without the turn a task runs to its next wait without it. -/
theorem settle_false (H : t.Orderly false) (c : Client σ) :
    (t.settle c).1.Orderly false ∧ (t.settle c).2.renewing = c.renewing := by
  induction t generalizing c with
  | act change next ih =>
    obtain ⟨hchange, hnext⟩ | ⟨h, _⟩ := H
    · obtain ⟨ht, hc⟩ := ih c (hnext c) (change c)
      exact ⟨ht, hc.trans (hchange c)⟩
    · cases h
  | done | dispatch | acquire => exact ⟨H, rfl⟩

/-- With the turn it runs to its next wait and may give it back on the way. -/
theorem settle_true (H : t.Orderly true) (hc : c.renewing = true) :
    (t.settle c).1.Orderly (t.settle c).2.renewing := by
  induction t generalizing c with
  | act change next ih =>
    obtain ⟨hchange, hnext⟩ | ⟨_, hchange, hnext⟩ := H
    · exact ih c (hnext c) ((hchange c).trans hc)
    · obtain ⟨ht, hc'⟩ := (hnext c).settle_false (change c)
      change ((next c).settle (change c)).1.Orderly ((next c).settle (change c)).2.renewing
      rw [hc', hchange c]
      exact ht
  | done | dispatch => exact (congrArg (Task.Orderly _) hc).mpr H
  | acquire => cases H.1

end Orderly

/-- One of the tasks has the turn, or if `false` none of them. -/
def Turns : List (Task σ α) → Bool → Prop
  | [], held => held = false
  | t :: ts, held =>
    (t.Orderly false ∧ Turns ts held) ∨ (held = true ∧ t.Orderly true ∧ Turns ts false)

theorem Turns.perm {ts us : List (Task σ α)} {held : Bool} (h : ts.Perm us) (H : Turns ts held) :
    Turns us held := by
  induction h generalizing held with
  | nil => exact H
  | cons t _ ih =>
    obtain ⟨ht, H⟩ | ⟨hheld, ht, H⟩ := H
    · exact .inl ⟨ht, ih H⟩
    · exact .inr ⟨hheld, ht, ih H⟩
  | swap t u ts =>
    obtain ⟨hu, ⟨ht, H⟩ | ⟨hheld, ht, H⟩⟩ | ⟨hheld, hu, ⟨ht, H⟩ | ⟨h, _⟩⟩ := H
    · exact .inl ⟨ht, .inl ⟨hu, H⟩⟩
    · exact .inr ⟨hheld, ht, .inl ⟨hu, H⟩⟩
    · exact .inl ⟨ht, .inr ⟨hheld, hu, H⟩⟩
    · cases h
  | trans _ _ ih₁ ih₂ => exact ih₂ (ih₁ H)

/-- If a task has the turn, it is one of them. -/
theorem Turns.exists_holder {ts : List (Task σ α)} (H : Turns ts true) :
    ∃ (i : Nat) (t : Task σ α), ts[i]? = some t ∧ t.Orderly true := by
  induction ts with
  | nil => cases H
  | cons t ts ih =>
    obtain ⟨_, H⟩ | ⟨_, ht, _⟩ := H
    · obtain ⟨i, u, hi, hu⟩ := ih H
      exact ⟨i + 1, u, hi, hu⟩
    · exact ⟨0, t, rfl, ht⟩

end Task

/-- A task that starts is orderly. -/
def Move.IsOrderly : Move σ α → Prop
  | .start t => t.Orderly false
  | _ => True

namespace Pool

open SessionKeeper.Task

variable {p q : Pool σ α} {i : Nat}

/-- The turn is with one of the tasks while a renewal is under way, and with none otherwise. -/
structure Orderly (p : Pool σ α) : Prop where
  turns : Turns p.tasks p.client.renewing
  settled : ∀ t ∈ p.tasks, t.IsWaiting ∨ ∃ a, t = .done a

theorem Orderly.alone {c : Client σ} (h : c.renewing = false) : (⟨c, []⟩ : Pool σ α).Orderly := ⟨h, nofun⟩

/-- A task is one of the tasks; the others stay as they are when it is replaced. -/
theorem perm_of_getElem? {u : Task σ α} (hi : p.tasks[i]? = some u) :
    p.tasks.Perm (u :: p.tasks.eraseIdx i) ∧
      ∀ v, (p.tasks.set i v).Perm (v :: p.tasks.eraseIdx i) := by
  obtain ⟨hlt, rfl⟩ := List.getElem?_eq_some_iff.1 hi
  exact ⟨(List.getElem_cons_eraseIdx_perm hlt).symm, List.set_perm_cons_eraseIdx hlt⟩

theorem Orderly.settled_resume (H : p.Orderly) (t : Task σ α) (c : Client σ) :
    ∀ u ∈ (p.resume i t c).tasks, u.IsWaiting ∨ ∃ a, u = .done a := by
  intro u hu
  obtain hu | rfl := List.mem_or_eq_of_mem_set hu
  · exact H.settled u hu
  · exact settle_waiting_or_done t c

theorem Orderly.resume_false (H : p.Orderly) {u t : Task σ α} (hi : p.tasks[i]? = some u)
    (hothers : Turns (p.tasks.eraseIdx i) p.client.renewing) (ht : t.Orderly false) :
    (p.resume i t p.client).Orderly := by
  obtain ⟨ht', hc⟩ := ht.settle_false p.client
  refine ⟨Turns.perm ((perm_of_getElem? hi).2 _).symm (.inl ⟨ht', ?_⟩), H.settled_resume t _⟩
  change Turns _ (t.settle p.client).2.renewing
  rw [hc]
  exact hothers

theorem Orderly.resume_true (H : p.Orderly) {u t : Task σ α} {c : Client σ}
    (hi : p.tasks[i]? = some u) (hothers : Turns (p.tasks.eraseIdx i) false) (ht : t.Orderly true)
    (hc : c.renewing = true) : (p.resume i t c).Orderly := by
  have ht' := ht.settle_true hc
  refine ⟨Turns.perm ((perm_of_getElem? hi).2 _).symm ?_, H.settled_resume t c⟩
  change Turns ((t.settle c).1 :: _) (t.settle c).2.renewing
  -- it may have given the turn back on the way to its next wait
  cases hheld : (t.settle c).2.renewing with
  | false => exact .inl ⟨hheld ▸ ht', hothers⟩
  | true => exact .inr ⟨rfl, hheld ▸ ht', hothers⟩

/-- A move of orderly tasks leaves them orderly. -/
theorem Orderly.move (H : p.Orderly) {m : Move σ α} (hm : m.IsOrderly) (h : p.move? m = some q) :
    q.Orderly := by
  rcases move?_cases h with ⟨t, rfl, rfl⟩ | ⟨i, r, call, onDrop, next, rfl, hget, rfl⟩ |
    ⟨i, onDrop, next, rfl, hget, hidle, rfl⟩ | ⟨i, t, rfl, hget, rfl⟩
  · obtain ⟨ht, hc⟩ := Task.Orderly.settle_false hm p.client
    refine ⟨Turns.perm (List.perm_append_singleton _ _).symm (.inl ⟨ht, ?_⟩), ?_⟩
    · change Turns _ (t.settle p.client).2.renewing
      rw [hc]
      exact H.turns
    · intro v hv
      obtain hv | hv := List.mem_append.1 hv
      · exact H.settled v hv
      · exact List.mem_singleton.1 hv ▸ settle_waiting_or_done t p.client
  · obtain ⟨⟨_, hnext⟩, hothers⟩ | ⟨hc, ⟨_, hnext⟩, hothers⟩ :=
      Turns.perm (perm_of_getElem? hget).1 H.turns
    · exact H.resume_false hget hothers (hnext r)
    · exact H.resume_true hget hothers (hnext r) hc
  · obtain ⟨⟨_, _, hnext⟩, hothers⟩ | ⟨_, ⟨hheld, _⟩, _⟩ :=
      Turns.perm (perm_of_getElem? hget).1 H.turns
    · exact H.resume_true hget (hidle ▸ hothers) hnext rfl
    · cases hheld
  · refine ⟨?_, fun v hv => H.settled v (List.mem_of_mem_eraseIdx hv)⟩
    obtain ⟨ht, hothers⟩ | ⟨hc, ht, hothers⟩ := Turns.perm (perm_of_getElem? hget).1 H.turns
    · have hkept : (t.drop p.client).renewing = p.client.renewing := by
        cases t with
        | done | act => rfl
        | dispatch => exact (ht.1 _).trans (Bool.and_true _)
        | acquire => exact ht.2.1 _
      exact hkept ▸ hothers
    · have hreleased : (t.drop p.client).renewing = false := by
        cases t with
        | done => cases ht
        | act => obtain h | ⟨_, h⟩ := H.settled _ (List.mem_of_getElem? hget) <;> cases h
        | dispatch => exact (ht.1 _).trans (Bool.and_false _)
        | acquire => cases ht.1
      exact hreleased ▸ hothers

theorem Orderly.run (H : p.Orderly) {ms : List (Move σ α)} (hms : ∀ m ∈ ms, m.IsOrderly)
    (h : p.run? ms = some q) : q.Orderly := by
  induction ms generalizing p with
  | nil => cases h; exact H
  | cons m ms ih =>
    obtain ⟨p', hp, hrun⟩ := Option.bind_eq_some_iff.1 h
    obtain ⟨hm, hrest⟩ := List.forall_mem_cons.1 hms
    exact ih (H.move hm hp) hrest hrun

/-- A task at rest is resumed as it is. -/
theorem resume_self {t : Task σ α} (hi : p.tasks[i]? = some t)
    (ht : t.IsWaiting ∨ ∃ a, t = .done a) : p.resume i t p.client = p := by
  have hsettle : t.settle p.client = (t, p.client) := by
    cases t with
    | act => obtain h | ⟨_, h⟩ := ht <;> cases h
    | done | dispatch | acquire => rfl
  obtain ⟨hlt, rfl⟩ := List.getElem?_eq_some_iff.1 hi
  simp only [resume, hsettle, List.set_getElem_self]

theorem getElem?_resume (hlt : i < p.tasks.length) (t : Task σ α) (c : Client σ) :
    (p.resume i t c).tasks[i]? = some (t.settle c).1 :=
  List.getElem?_set_self hlt

theorem resume_dispatch (hlt : i < p.tasks.length) (call : Call) (onDrop : Client σ → Client σ)
    (next : Reply → Task σ α) (c : Client σ) (r : Reply) :
    (p.resume i (.dispatch call onDrop next) c).move? (.reply i r) =
      some ((p.resume i (.dispatch call onDrop next) c).resume i (next r) c) := by
  rw [move?, getElem?_resume hlt]
  rfl

/-- Replies to the task that has the turn, whatever they are, make it give the turn back. -/
theorem exists_released (t : Task σ α) (c : Client σ) (H : t.Orderly c.renewing) (p : Pool σ α)
    (hlt : i < p.tasks.length) : ∃ ms q, (∀ m ∈ ms, ∃ r, m = .reply i r) ∧
      (p.resume i t c).run? ms = some q ∧ q.client.renewing = false ∧
      ∀ j, i ≠ j → q.tasks[j]? = p.tasks[j]? := by
  induction t generalizing c p with
  | done a =>
    exact ⟨[], _, nofun, rfl, H, fun j hj => resume_tasks_of_ne p _ c hj⟩
  | act change next ih =>
    obtain ⟨hchange, hnext⟩ | ⟨_, hchange, hnext⟩ := H
    · exact ih c (change c) ((hchange c).symm ▸ hnext c) p hlt
    · exact ih c (change c) ((hchange c).symm ▸ hnext c) p hlt
  | dispatch call onDrop next ih =>
    cases hc : c.renewing with
    | false => exact ⟨[], _, nofun, rfl, hc, fun j hj => resume_tasks_of_ne p _ c hj⟩
    | true =>
      let p' := p.resume i (.dispatch call onDrop next) c
      have hlt' : i < p'.tasks.length := by simpa [p', resume] using hlt
      obtain ⟨ms, q, hms, hrun, hreleased, hothers⟩ :=
        ih (.error .timedOut) c (H.2 _) p' hlt'
      refine ⟨.reply i (.error .timedOut) :: ms, q, ?_, ?_, hreleased, fun j hj => ?_⟩
      · exact List.forall_mem_cons.2 ⟨⟨_, rfl⟩, hms⟩
      · rw [run?, resume_dispatch hlt]
        exact hrun
      · exact (hothers j hj).trans (resume_tasks_of_ne p _ c hj)
  | acquire onDrop next ih =>
    exact ⟨[], _, nofun, rfl, H.1, fun j hj => resume_tasks_of_ne p _ c hj⟩

/-- Somebody has the turn, or soon nobody: then whoever waits for it is still there. -/
theorem Orderly.exists_idle (H : p.Orderly) {onDrop : Client σ → Client σ} {next : Task σ α}
    (hi : p.tasks[i]? = some (.acquire onDrop next)) :
    ∃ ms q, (∀ m ∈ ms, m.IsProgress ∧ m.IsOrderly) ∧ p.run? ms = some q ∧
      q.client.renewing = false ∧ q.tasks[i]? = some (.acquire onDrop next) := by
  -- the one who has the turn does not wait for it, so the replies go to another task
  cases hc : p.client.renewing with
  | false => exact ⟨[], p, nofun, rfl, hc, hi⟩
  | true =>
    obtain ⟨k, t, hk, ht⟩ := Turns.exists_holder (hc ▸ H.turns)
    have hki : k ≠ i := by
      rintro rfl
      cases hk.symm.trans hi
      cases ht.1
    obtain ⟨ms, q, hms, hrun, hreleased, hothers⟩ :=
      exists_released t p.client (hc.symm ▸ ht) p (List.getElem?_eq_some_iff.1 hk).1
    rw [resume_self hk (H.settled t (List.mem_of_getElem? hk))] at hrun
    refine ⟨ms, q, fun m hm => ?_, hrun, hreleased, (hothers i hki).trans hi⟩
    obtain ⟨r, rfl⟩ := hms m hm
    exact ⟨trivial, trivial⟩

theorem Orderly.exists_end (t : Task σ α) (c : Client σ) (p : Pool σ α) (hlt : i < p.tasks.length)
    (H : (p.resume i t c).Orderly) : ∃ ms q a, (∀ m ∈ ms, m.IsProgress) ∧
      (p.resume i t c).run? ms = some q ∧ q.tasks[i]? = some (.done a) := by
  induction t generalizing c p with
  | done a => exact ⟨[], _, a, nofun, rfl, getElem?_resume hlt _ c⟩
  | act change next ih => exact ih c (change c) p hlt H
  | dispatch call onDrop next ih =>
    let p' := p.resume i (.dispatch call onDrop next) c
    have hlt' : i < p'.tasks.length := by simpa [p', resume] using hlt
    have hmove : p'.move? (.reply i (.error .timedOut)) =
        some (p'.resume i (next (.error .timedOut)) c) := resume_dispatch hlt call onDrop next c _
    have hreply : (Move.reply i (.error .timedOut) : Move σ α).IsOrderly := trivial
    obtain ⟨ms, q, a, hms, hrun, hend⟩ :=
      ih (.error .timedOut) c p' hlt' (H.move hreply hmove)
    refine ⟨.reply i (.error .timedOut) :: ms, q, a, ?_, ?_, hend⟩
    · exact List.forall_mem_cons.2 ⟨trivial, hms⟩
    · rw [run?, hmove]
      exact hrun
  | acquire onDrop next ih =>
    obtain ⟨ms₁, q₁, hms₁, hrun₁, hidle, hi⟩ := H.exists_idle (getElem?_resume hlt _ c)
    have hlt₁ : i < q₁.tasks.length := (List.getElem?_eq_some_iff.1 hi).1
    have hmove : q₁.move? (.enter i) = some (q₁.resume i next { q₁.client with renewing := true }) := by
      simp only [move?, hi, hidle, Bool.false_eq_true, if_false]
    have H₁ : q₁.Orderly := H.run (fun m hm => (hms₁ m hm).2) hrun₁
    have henter : (Move.enter i : Move σ α).IsOrderly := trivial
    obtain ⟨ms₂, q, a, hms₂, hrun₂, hend⟩ := ih _ q₁ hlt₁ (H₁.move henter hmove)
    refine ⟨ms₁ ++ .enter i :: ms₂, q, a, fun m hm => ?_, ?_, hend⟩
    · rcases List.mem_append.1 hm with hm | hm
      · exact (hms₁ m hm).1
      · rcases List.mem_cons.1 hm with rfl | hm
        · trivial
        · exact hms₂ m hm
    · rw [run?_append hrun₁, run?, hmove]
      exact hrun₂

/-- Replies and turns bring any one of the tasks to its end. -/
theorem Orderly.ends (H : p.Orderly) {t : Task σ α} (hi : p.tasks[i]? = some t) :
    ∃ ms q a, (∀ m ∈ ms, m.IsProgress) ∧ p.run? ms = some q ∧ q.tasks[i]? = some (.done a) := by
  have hself := resume_self hi (H.settled t (List.mem_of_getElem? hi))
  have hlt := (List.getElem?_eq_some_iff.1 hi).1
  obtain ⟨ms, q, a, hms, hrun, hend⟩ := exists_end t p.client p hlt (hself.symm ▸ H)
  exact ⟨ms, q, a, hms, hself ▸ hrun, hend⟩

end Pool

/-! ## Operations -/

variable [Medium σ]

namespace Client

theorem renewing_storeUser (u : User) (c : Client σ) : (storeUser u c).2.renewing = c.renewing := by
  obtain ⟨_, h⟩ | ⟨_, _, _, h⟩ | ⟨_, _, _, _, h⟩ := storeUser_cases u c <;> rw [h] <;> rfl

theorem renewing_adoptLogin (u : User) (t : TokenPair) (c : Client σ) :
    (adoptLogin u t c).2.renewing = c.renewing := by
  obtain ⟨_, _, h⟩ | ⟨_, _, _, h⟩ := adoptLogin_cases u t c <;> rw [h] <;> rfl

theorem renewing_updateUser (w : UserUpdate) (c : Client σ) :
    (updateUser w c).2.renewing = c.renewing := by
  rw [updateUser]
  split
  · exact renewing_storeUser _ c
  · rfl

theorem renewing_settleRenewal (sent : String) (a : Answer) (c : Client σ) :
    (settleRenewal sent a c).2.renewing = c.renewing := by
  obtain ⟨_, _, _, _, _, _, _, h⟩ | ⟨_, _, _, _, _, h⟩ | ⟨_, _, _, _, _, h⟩ | ⟨_, _, h⟩ :=
    settleRenewal_cases sent a c <;> rw [h] <;> rfl

theorem renewing_withoutRefreshToken (c : Client σ) :
    c.withoutRefreshToken.renewing = c.renewing := by
  rw [withoutRefreshToken]
  split <;> rfl

end Client

open SessionKeeper.Task

theorem orderly_renew (refused : Option String) : (renew refused : Task σ _).Orderly false := by
  refine ⟨rfl, fun _ => rfl, .inl ⟨fun _ => rfl, fun c => ?_⟩⟩
  have hdone : ∀ x : Except ApiError String,
      (Task.guarded Client.released (.done x) : Task σ _).Orderly true :=
    fun _ => .inr ⟨rfl, fun _ => rfl, fun _ => rfl⟩
  dsimp only [Task.bind]
  split
  · exact hdone _
  · exact hdone _
  · refine .inl ⟨fun _ => rfl, fun c => ?_⟩
    dsimp only [Task.bind]
    split
    · exact .inl ⟨Client.renewing_withoutRefreshToken, fun _ => hdone _⟩
    · refine ⟨fun c => (Bool.and_false _).symm, fun r => ?_⟩
      cases r with
      | error fault => exact hdone _
      | ok a => exact .inl ⟨Client.renewing_settleRenewal _ a, fun _ => hdone _⟩

omit [Medium σ] in
theorem orderly_dispatchOnce (r : Request) : (dispatchOnce r : Task σ _).Orderly false :=
  .read fun _ => (Orderly.ask _).bind fun _ => rfl

theorem orderly_send (r : Request) : (send r : Task σ _).Orderly false := by
  refine (orderly_dispatchOnce r).bind ?_
  rintro ⟨token, reply⟩
  cases reply with
  | error fault => rfl
  | ok answer =>
    simp only
    split
    · rfl
    · refine (orderly_renew token).bind fun renewed => ?_
      cases renewed with
      | ok _ => exact (orderly_dispatchOnce r.retried).bind fun _ => rfl
      | error e => rfl

theorem orderly_fetch (dec : Json.Decoder α) (r : Request) :
    (fetch dec r : Task σ _).Orderly false :=
  (orderly_send r).bind fun o => by cases o <;> rfl

theorem orderly_execute (r : Request) : (execute r : Task σ _).Orderly false :=
  (orderly_send r).bind fun o => by cases o <;> rfl

omit [Medium σ] in
theorem orderly_failWith (f : AuthFailure) :
    (failWith f : Task σ (Except AuthFailure α)).Orderly false :=
  (Orderly.modify fun _ => rfl).bind fun _ => rfl

theorem orderly_adopt (u : User) (t : TokenPair) : (adopt u t : Task σ _).Orderly false := by
  refine (Orderly.update (Client.renewing_adoptLogin u t)).bind fun adopted => ?_
  cases adopted with
  | ok _ => rfl
  | error e => exact orderly_failWith _

theorem orderly_adoptProfile (u : User) : (adoptProfile u : Task σ _).Orderly false := by
  refine (Orderly.update (Client.renewing_storeUser u)).bind fun stored => ?_
  cases stored with
  | some _ => rfl
  | none => exact orderly_failWith _

theorem orderly_login (username password : String) :
    (login username password : Task σ _).Orderly false := by
  refine .tracked ((orderly_fetch _ _).bind fun answer => ?_)
  cases answer with
  | error e => exact orderly_failWith _
  | ok answer =>
    refine (orderly_adopt _ _).bind fun adopted => ?_
    cases adopted with
    | error f => rfl
    | ok _ =>
      refine (orderly_fetch _ _).bind fun profile => ?_
      cases profile with
      | error _ => exact .read fun _ => rfl
      | ok profile =>
        exact (Orderly.update (Client.renewing_storeUser profile)).bind fun _ => .read fun _ => rfl

theorem orderly_register (fields : RegisterRequest) : (register fields : Task σ _).Orderly false := by
  refine .tracked ((orderly_fetch _ _).bind fun answer => ?_)
  cases answer with
  | error e => exact orderly_failWith _
  | ok answer =>
    refine (orderly_adopt _ _).bind fun adopted => ?_
    cases adopted <;> rfl

theorem orderly_logout : (logout : Task σ _).Orderly false :=
  .tracked (.guarded (fun _ => rfl) (.read fun _ => (orderly_execute _).bind fun _ => rfl))

theorem orderly_refreshProfile : (refreshProfile : Task σ _).Orderly false := by
  refine .tracked ((orderly_fetch _ _).bind fun profile => ?_)
  cases profile with
  | ok profile => exact orderly_adoptProfile profile
  | error e => exact orderly_failWith _

theorem orderly_updateProfile (w : UserUpdate) : (updateProfile w : Task σ _).Orderly false := by
  refine .tracked ((orderly_fetch _ _).bind fun profile => ?_)
  cases profile with
  | ok profile => exact orderly_adoptProfile profile
  | error e => exact orderly_failWith _

theorem orderly_resendVerification : (resendVerification : Task σ _).Orderly false :=
  (orderly_fetch _ _).bind fun o => by cases o <;> rfl

omit [Medium σ] in
theorem orderly_recoveryFailure (e : RecoveryError) :
    (Recovery.failWith e : Task σ (Except RecoveryError α)).Orderly false :=
  (Orderly.modify fun _ => rfl).bind fun _ => rfl

theorem orderly_submitRequest (username email : String) :
    (Recovery.submitRequest username email : Task σ _).Orderly false := by
  refine .read fun c => ?_
  split
  · refine (Orderly.modify fun _ => rfl).bind fun _ => (orderly_fetch _ _).bind fun o => ?_
    cases o with
    | ok notice => exact (Orderly.modify fun _ => rfl).bind fun _ => rfl
    | error e => exact orderly_recoveryFailure _
  · rfl

theorem orderly_submitCode (code : String) :
    (Recovery.submitCode code : Task σ _).Orderly false := by
  refine .read fun c => ?_
  split
  · simp only
    generalize Recovery.normalizeCode code = code
    split
    · exact orderly_recoveryFailure _
    · refine (Orderly.modify fun _ => rfl).bind fun _ => (orderly_execute _).bind fun o => ?_
      cases o with
      | ok _ => exact (Orderly.modify fun _ => rfl).bind fun _ => rfl
      | error e => exact orderly_recoveryFailure _
  · rfl

theorem orderly_submitPassword (new confirmation : String) :
    (Recovery.submitPassword new confirmation : Task σ _).Orderly false := by
  refine .read fun c => ?_
  split
  · split
    · exact orderly_recoveryFailure _
    · split
      · exact orderly_recoveryFailure _
      · refine (Orderly.modify fun _ => rfl).bind fun _ => (orderly_fetch _ _).bind fun o => ?_
        cases o with
        | ok notice => exact (Orderly.modify fun _ => rfl).bind fun _ => rfl
        | error e => exact orderly_recoveryFailure _
  · rfl

theorem Operation.orderly (op : Operation) : (op.task : Task σ Unit).Orderly false := by
  cases op with
  | login username password => exact (orderly_login username password).map
  | register fields => exact (orderly_register fields).map
  | logout => exact orderly_logout.map
  | updateUser w => exact (Orderly.update (Client.renewing_updateUser w)).map
  | refreshProfile => exact orderly_refreshProfile.map
  | updateProfile w => exact (orderly_updateProfile w).map
  | resendVerification => exact orderly_resendVerification.map
  | send r => exact (orderly_send r).map
  | renew refused => exact (orderly_renew refused).map
  | beginRecovery | leaveRecovery => exact (Orderly.modify fun _ => rfl).map
  | submitRequest username email => exact (orderly_submitRequest username email).map
  | submitCode code => exact (orderly_submitCode code).map
  | submitPassword new confirmation => exact (orderly_submitPassword new confirmation).map

end SessionKeeper
