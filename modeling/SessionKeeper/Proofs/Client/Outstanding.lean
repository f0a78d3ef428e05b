import SessionKeeper.Proofs.Access.Guards
import SessionKeeper.Proofs.Client.Changes
import SessionKeeper.Proofs.Client.Course

/-!
# Outstanding operations

Signing in and out and the profile operations raise a counter when they begin and lower it when they
end or are dropped. At each wait of a run that counter is the number of those which are still under way
(`Pool.run?_outstanding`), whichever of them overlap, fail or are dropped on the way, so it is positive
whenever one of them lowers it. The session is loading just while the counter is positive, and then no
page redirects.
-/

namespace SessionKeeper

variable {σ α β : Type}

/-- What can happen next to the operations on a client. -/
inductive Event where
  | start (op : Operation)
  | reply (i : Nat) (r : Reply)
  | enter (i : Nat)
  | cancel (i : Nat)

/-- The move of the pool in which the event consists. -/
def Event.move [Medium σ] : Event → Move σ Unit
  | .start op => .start op.task
  | .reply i r => .reply i r
  | .enter i => .enter i
  | .cancel i => .cancel i

/-- The operations that have a task, in the order of their tasks, after an event. -/
def Event.enroll (ops : List Operation) : Event → List Operation
  | .start op => ops ++ [op]
  | .reply _ _ | .enter _ => ops
  | .cancel i => ops.eraseIdx i

/-- The operations that have a task after a run, in the order of their tasks. -/
def roster (es : List Event) : List Operation := es.foldl Event.enroll []

/-- The operation counts as outstanding as long as this task of it has not ended. -/
def Operation.isPending (op : Operation) (t : Task σ Unit) : Bool :=
  op.isTracked && t.value?.isNone

/-- How many of the operations are outstanding. -/
def outstanding (ops : List Operation) (ts : List (Task σ Unit)) : Nat :=
  (ops.zip ts).countP fun x => x.1.isPending x.2

/-- Nothing is under way. -/
structure Client.AtRest (c : Client σ) : Prop where
  pending : c.board.pending = 0
  loading : c.session.isLoading = false
  renewing : c.renewing = false

theorem Client.AtRest.connect (s : Store σ) : (Client.connect s).AtRest where
  pending := rfl
  loading := by
    change (Client.hydrate s).isLoading = false
    rw [Client.hydrate]
    split <;> rfl
  renewing := rfl

/-- The session is loading just while the counter is positive. -/
def Client.IsExact (c : Client σ) : Prop := c.session.isLoading = decide (0 < c.board.pending)

/-! ## Lists side by side -/

theorem zip_perm_eraseIdx {as : List α} {bs : List β} {i : Nat} {a : α} {b : β}
    (ha : as[i]? = some a) (hb : bs[i]? = some b) :
    (as.zip bs).Perm ((a, b) :: (as.eraseIdx i).zip (bs.eraseIdx i)) := by
  induction i generalizing as bs with
  | zero =>
    cases as with
    | nil => cases ha
    | cons a' as =>
      cases bs with
      | nil => cases hb
      | cons b' bs =>
        cases ha
        cases hb
        exact .refl _
  | succ i ih =>
    cases as with
    | nil => cases ha
    | cons a' as =>
      cases bs with
      | nil => cases hb
      | cons b' bs => exact ((ih ha hb).cons (a', b')).trans (.swap _ _ _)

section

variable {ops : List Operation} {ts : List (Task σ Unit)} {i : Nat} {op : Operation}
  {t : Task σ Unit}

theorem outstanding_eraseIdx (hop : ops[i]? = some op) (ht : ts[i]? = some t) :
    outstanding ops ts =
      outstanding (ops.eraseIdx i) (ts.eraseIdx i) + (op.isPending t).toNat := by
  rw [outstanding, (zip_perm_eraseIdx hop ht).countP_eq, List.countP_cons, outstanding]
  cases op.isPending t <;> rfl

theorem outstanding_set (hop : ops[i]? = some op) (ht : ts[i]? = some t) (u : Task σ Unit) :
    outstanding ops (ts.set i u) =
      outstanding (ops.eraseIdx i) (ts.eraseIdx i) + (op.isPending u).toNat := by
  have hu : (ts.set i u)[i]? = some u :=
    List.getElem?_set_self (List.getElem?_eq_some_iff.1 ht).1
  rw [outstanding_eraseIdx hop hu, List.eraseIdx_set_eq]

theorem outstanding_concat (h : ops.length = ts.length) (op : Operation) (t : Task σ Unit) :
    outstanding (ops ++ [op]) (ts ++ [t]) = outstanding ops ts + (op.isPending t).toNat := by
  rw [outstanding, List.zip_append h, List.countP_append]
  change _ + List.countP _ [(op, t)] = _
  rw [List.countP_singleton, outstanding]
  cases op.isPending t <;> rfl

end

variable [Medium σ]

/-! ## What is left of an operation -/

/-- The changes that operations are made of leave the counter and the flag alone. -/
theorem Client.Step.outstanding_eq {x : Option (Arrival σ)} {c d : Client σ} (H : Step x c d) :
    (d.board.pending, d.session.isLoading) = (c.board.pending, c.session.isLoading) := by
  have hstore : ∀ u (c : Client σ), ((storeUser u c).2.board.pending,
      (storeUser u c).2.session.isLoading) = (c.board.pending, c.session.isLoading) := by
    intro u c
    obtain ⟨_, h⟩ | ⟨_, _, _, h⟩ | ⟨_, _, _, _, h⟩ := storeUser_cases u c <;> rw [h] <;> rfl
  cases H with
  | look | turn | setError | recovery | leave | signOut => rfl
  | @adoptLogin _ _ _ u t =>
    obtain ⟨_, _, h⟩ | ⟨_, _, _, h⟩ := adoptLogin_cases u t c <;> rw [h] <;> rfl
  | @storeProfile _ _ _ u => exact hstore u c
  | updateUser w =>
    rw [Client.updateUser]
    split
    · exact hstore _ c
    · rfl
  | settleRenewal sent a =>
    obtain ⟨_, _, _, _, _, _, _, h⟩ | ⟨_, _, _, _, _, h⟩ | ⟨_, _, _, _, _, h⟩ | ⟨_, _, h⟩ :=
      settleRenewal_cases sent a c <;> rw [h] <;> rfl
  | withoutRefreshToken =>
    rw [Client.withoutRefreshToken]
    split <;> rfl

theorem Operation.pending_cleanup (op : Operation) (c : Client σ) :
    ((op.cleanup c).board.pending, (op.cleanup c).session.isLoading) =
      (c.board.pending, c.session.isLoading) := by
  cases op <;> rfl

/-- What is left of an outstanding operation of whose body `t` is left. -/
def Task.counted (t : Task σ α) : Task σ Unit := discard (t.guarded (·.post Board.finish))

omit [Medium σ] in
theorem Task.Context.counted : Task.Context (Task.counted : Task σ α → Task σ Unit) :=
  (Task.Context.id.guarded (·.post Board.finish)).bind _

/-- A part of the operation, with which it goes on at the client `c` after the reply `x`. -/
inductive Operation.Part (op : Operation) (x : Option (Arrival σ)) (c : Client σ) :
    Task σ Unit → Prop where
  | tracked {α : Type} {t : Task σ α} (h : op.isTracked = true)
    (H : t.Stepwise Client.Step op.cleanup x c fun _ _ _ => True) : Part op x c t.counted
  | untracked {t : Task σ Unit} (h : op.isTracked = false)
    (H : t.Stepwise Client.Step id x c fun _ _ _ => True) : Part op x c t

/-- The task has come to its end, or waits to go on with the operation. -/
def Operation.Rest (op : Operation) (t : Task σ Unit) : Prop :=
  t = .done () ∨ t.IsWaiting ∧ ∀ x c, op.Part x c t

omit [Medium σ] in
theorem Client.IsExact.congr {c d : Client σ} (hc : c.IsExact)
    (h : (d.board.pending, d.session.isLoading) = (c.board.pending, c.session.isLoading)) :
    d.IsExact := by
  obtain ⟨hpending, hloading⟩ := Prod.mk.inj h
  rw [Client.IsExact, hpending, hloading]
  exact hc

namespace Operation

variable {op : Operation} {x : Option (Arrival σ)} {c : Client σ}

/-- The operation goes on to `t` and leaves the client `d`; a tracked one that has ended is gone from
the counter, which was `n`. -/
structure Leaves (op : Operation) (n : Nat) (t : Task σ Unit) (d : Client σ) : Prop where
  rest : op.Rest t
  exact : d.IsExact
  pending : d.board.pending + op.isTracked.toNat = n + (op.isPending t).toNat

omit [Medium σ] in
theorem isPending_waiting {t : Task σ Unit} (ht : t.IsWaiting) : op.isPending t = op.isTracked := by
  cases t with
  | done | act => cases ht
  | dispatch | acquire => exact Bool.and_true _

omit [Medium σ] in
theorem isPending_done (op : Operation) : op.isPending (.done () : Task σ Unit) = false :=
  Bool.and_false _

theorem Part.settle {t : Task σ Unit} (H : op.Part x c t) (hc : c.IsExact)
    (hpos : op.isTracked = true → 0 < c.board.pending) :
    op.Leaves c.board.pending (t.settle c).1 (t.settle c).2 := by
  cases H with
  | @tracked α u h H =>
    have hpending := H.settle_eq fun _ _ _ h => Client.Step.outstanding_eq h
    have hproceeds := H.proceeds
    have hend := u.settle_waiting_or_done c
    rw [Task.Context.counted.settle u c]
    generalize u.settle c = v at hpending hproceeds hend
    obtain ⟨v, d⟩ := v
    have hd : d.board.pending = c.board.pending := congrArg Prod.fst hpending
    obtain hwait | ⟨a, rfl⟩ := hend
    · have hcounted := hwait.context Task.Context.counted
      rw [hcounted.settle]
      refine ⟨.inr ⟨hcounted, fun x c => .tracked h (hproceeds x c)⟩, hc.congr hpending, ?_⟩
      rw [isPending_waiting hcounted, hd]
    · -- the counter is lowered here, by the guard around the body
      have hsettle : (Task.done a).counted.settle d = (.done (), d.post Board.finish) := rfl
      rw [hsettle]
      refine ⟨.inl rfl, rfl, ?_⟩
      change d.board.pending - 1 + _ = _
      rw [isPending_done, h, hd]
      exact Nat.sub_add_cancel (hpos h)
  | untracked h H =>
    have hpending := H.settle_eq fun _ _ _ h => Client.Step.outstanding_eq h
    have hproceeds := H.proceeds
    have hend := t.settle_waiting_or_done c
    generalize t.settle c = v at hpending hproceeds hend
    obtain ⟨v, d⟩ := v
    have hd : d.board.pending = c.board.pending := congrArg Prod.fst hpending
    have hnone : op.isPending v = false := by rw [isPending, h, Bool.false_and]
    refine ⟨?_, hc.congr hpending, ?_⟩
    · obtain hwait | ⟨a, rfl⟩ := hend
      · exact .inr ⟨hwait, fun x c => .untracked h (hproceeds x c)⟩
      · exact .inl rfl
    · rw [h, hnone, hd]

theorem Part.reply {call : Call} {onDrop : Client σ → Client σ} {next : Reply → Task σ Unit}
    (H : op.Part x c (.dispatch call onDrop next)) (d : Client σ) (r : Reply) :
    op.Part (some (call, d, r)) d (next r) := by
  generalize ht : Task.dispatch call onDrop next = t at H
  cases H with
  | @tracked α u h H =>
    cases u with
    | dispatch _ _ next' =>
      cases ht
      exact .tracked h (H.2 d r)
    | done | act | acquire => cases ht
  | untracked h H =>
    subst ht
    exact .untracked h (H.2 d r)

theorem Part.enter {onDrop : Client σ → Client σ} {next : Task σ Unit}
    (H : op.Part x c (.acquire onDrop next)) (d : Client σ) :
    op.Part none { d with renewing := true } next := by
  generalize ht : Task.acquire onDrop next = t at H
  cases H with
  | @tracked α u h H =>
    cases u with
    | acquire _ next' =>
      cases ht
      exact .tracked h (H.2 d)
    | done | act | dispatch => cases ht
  | untracked h H =>
    subst ht
    exact .untracked h (H.2 d)

/-- A tracked operation that is dropped is cleaned up, and then it is no longer outstanding. -/
theorem Part.drop_eq {t : Task σ Unit} (H : op.Part x c t) (htracked : op.isTracked = true)
    (ht : t.IsWaiting) (d : Client σ) :
    ∃ b, t.drop d = (op.cleanup { d with renewing := b }).post Board.finish := by
  cases H with
  | @tracked α u h H =>
    cases u with
    | done | act => cases ht
    | dispatch _ onDrop _ | acquire onDrop _ =>
      obtain ⟨b, hb⟩ := H.1 d
      exact ⟨b, congrArg (Client.post · Board.finish) hb⟩
  | untracked h => cases h ▸ htracked

/-- A part that is dropped at a wait is gone from the counter, if it was in it. -/
theorem Part.drop {t : Task σ Unit} (H : op.Part x c t) (ht : t.IsWaiting) {d : Client σ}
    (hd : d.IsExact) (hpos : op.isTracked = true → 0 < d.board.pending) :
    (t.drop d).IsExact ∧ (t.drop d).board.pending + op.isTracked.toNat = d.board.pending := by
  cases h : op.isTracked with
  | true =>
    obtain ⟨b, hb⟩ := H.drop_eq h ht d
    have hpending : (op.cleanup { d with renewing := b }).board.pending = d.board.pending :=
      congrArg Prod.fst (op.pending_cleanup { d with renewing := b })
    rw [hb]
    refine ⟨rfl, ?_⟩
    change (op.cleanup { d with renewing := b }).board.pending - 1 + _ = _
    rw [hpending]
    exact Nat.sub_add_cancel (hpos h)
  | false =>
    cases H with
    | tracked htracked => cases h ▸ htracked
    | untracked _ H =>
      have hdrop : ∃ b, t.drop d = { d with renewing := b } := by
        cases t with
        | done | act => cases ht
        | dispatch _ onDrop _ | acquire onDrop _ => exact H.1 d
      obtain ⟨b, hb⟩ := hdrop
      rw [hb]
      exact ⟨hd, rfl⟩

/-- An operation that starts is in the counter from then on, if it is tracked. -/
theorem settle_task (op : Operation) (hc : c.IsExact) :
    op.Rest (op.task.settle c).1 ∧ (op.task.settle c).2.IsExact ∧
      (op.task.settle c).2.board.pending =
        c.board.pending + (op.isPending (op.task.settle c).1).toNat := by
  cases h : op.isTracked with
  | true =>
    obtain ⟨α, t, htask, b, rfl, hb⟩ := Operation.isOutstanding (σ := σ) h
    have hpart : op.Part none (c.post Board.begin) b.counted := .tracked h (hb none _)
    have hsettle : op.task.settle c = b.counted.settle (c.post Board.begin) := by rw [htask]; rfl
    rw [hsettle]
    obtain ⟨hrest, hexact, hpending⟩ := hpart.settle rfl fun _ => Nat.succ_pos _
    refine ⟨hrest, hexact, ?_⟩
    rw [h] at hpending
    change _ + 1 = c.board.pending + 1 + _ at hpending
    omega
  | false =>
    have hpart : op.Part none c op.task := .untracked h (Operation.proceeds h none c)
    obtain ⟨hrest, hexact, hpending⟩ := hpart.settle hc fun htracked => by cases h ▸ htracked
    rw [h] at hpending
    exact ⟨hrest, hexact, hpending⟩

end Operation

/-! ## Runs -/

theorem Event.isOperation (e : Event) : (e.move : Move σ Unit).IsOperation := by
  cases e with
  | start op => exact ⟨op, rfl⟩
  | reply | enter | cancel => trivial

theorem Event.upholds {P : Premise σ} {I : Client σ → Prop} (hkept : Client.Kept P I) (e : Event) :
    (e.move : Move σ Unit).Upholds P I := by
  cases e with
  | start op => exact op.upholds hkept
  | reply | enter | cancel => trivial

/-- The tasks of the pool are what is left of the operations, and its board counts those that are
outstanding. -/
structure Pool.Working (p : Pool σ Unit) (ops : List Operation) : Prop where
  length : ops.length = p.tasks.length
  rest : ∀ y ∈ ops.zip p.tasks, y.1.Rest y.2
  exact : p.client.IsExact
  pending : p.client.board.pending = outstanding ops p.tasks

namespace Pool

variable {p q : Pool σ Unit} {ops : List Operation} {i : Nat}

theorem Working.alone {c : Client σ} (hc : c.AtRest) : (⟨c, []⟩ : Pool σ Unit).Working [] where
  length := rfl
  rest _ h := nomatch h
  exact := by rw [Client.IsExact, hc.loading, hc.pending]; rfl
  pending := hc.pending

theorem Working.operation (H : p.Working ops) {t : Task σ Unit} (ht : p.tasks[i]? = some t) :
    ∃ op, ops[i]? = some op ∧ op.Rest t := by
  have hlt : i < ops.length := H.length ▸ (List.getElem?_eq_some_iff.1 ht).1
  have hop : ops[i]? = some ops[i] := List.getElem?_eq_getElem hlt
  have hmem : (ops[i], t) ∈ ops.zip p.tasks :=
    List.mem_iff_getElem?.2 ⟨i, List.getElem?_zip_eq_some.2 ⟨hop, ht⟩⟩
  exact ⟨ops[i], hop, H.rest _ hmem⟩

theorem Working.others (H : p.Working ops) {op : Operation} {t : Task σ Unit}
    (hop : ops[i]? = some op) (ht : p.tasks[i]? = some t) :
    ∀ y ∈ (ops.eraseIdx i).zip (p.tasks.eraseIdx i), y.1.Rest y.2 := by
  intro y hy
  exact H.rest y ((zip_perm_eraseIdx hop ht).mem_iff.2 (List.mem_cons_of_mem _ hy))

theorem Working.pending_pos (H : p.Working ops) {op : Operation} {t : Task σ Unit}
    (hop : ops[i]? = some op) (ht : p.tasks[i]? = some t) (hwait : t.IsWaiting)
    (htracked : op.isTracked = true) : 0 < p.client.board.pending := by
  rw [H.pending, outstanding_eraseIdx hop ht, Operation.isPending_waiting hwait, htracked]
  exact Nat.succ_pos _

theorem Working.resume (H : p.Working ops) {op : Operation} {t u : Task σ Unit} {c : Client σ}
    {x : Option (Arrival σ)} (hop : ops[i]? = some op) (ht : p.tasks[i]? = some t)
    (hwait : t.IsWaiting) (hboard : c.board = p.client.board) (hu : op.Part x c u) :
    (p.resume i u c).Working ops := by
  have hexact : c.IsExact := H.exact.congr (by rw [Client.session, Client.session, hboard])
  obtain ⟨hrest, hexact', hpending⟩ := hu.settle hexact fun htracked => by
    rw [hboard]
    exact H.pending_pos hop ht hwait htracked
  have hset : (p.tasks.set i (u.settle c).1)[i]? = some (u.settle c).1 :=
    List.getElem?_set_self (List.getElem?_eq_some_iff.1 ht).1
  refine ⟨by rw [H.length]; exact List.length_set.symm, fun y hy => ?_, hexact', ?_⟩
  · have hy := (zip_perm_eraseIdx hop hset).mem_iff.1 hy
    rw [List.eraseIdx_set_eq] at hy
    obtain rfl | hy := List.mem_cons.1 hy
    · exact hrest
    · exact H.others hop ht y hy
  · change (u.settle c).2.board.pending = outstanding ops (p.tasks.set i (u.settle c).1)
    have hbefore := H.pending
    rw [outstanding_eraseIdx hop ht, Operation.isPending_waiting hwait] at hbefore
    rw [outstanding_set hop ht]
    rw [hboard] at hpending
    omega

theorem Working.move (H : p.Working ops) {e : Event} (h : p.move? e.move = some q) :
    q.Working (e.enroll ops) := by
  -- one task settles or is dropped, and only its own operation is affected
  rcases move?_cases h with ⟨t, he, rfl⟩ | ⟨i, r, call, onDrop, next, he, hget, rfl⟩ |
    ⟨i, onDrop, next, he, hget, _, rfl⟩ | ⟨i, t, he, hget, rfl⟩
  · cases e with
    | reply | enter | cancel => cases he
    | start op =>
      cases he
      obtain ⟨hrest, hexact, hpending⟩ := op.settle_task H.exact
      refine ⟨?_, fun y hy => ?_, hexact, ?_⟩
      · rw [Event.enroll, List.length_append, List.length_append, H.length]
        rfl
      · rw [Event.enroll, List.zip_append H.length] at hy
        obtain hy | hy := List.mem_append.1 hy
        · exact H.rest y hy
        · rw [List.mem_singleton.1 hy]
          exact hrest
      · rw [Event.enroll, outstanding_concat H.length, ← H.pending]
        exact hpending
  · cases e with
    | start | enter | cancel => cases he
    | reply =>
      cases he
      obtain ⟨op, hop, hdone | ⟨hwait, hpart⟩⟩ := H.operation hget
      · cases hdone
      · exact H.resume hop hget hwait rfl ((hpart none p.client).reply p.client r)
  · cases e with
    | start | reply | cancel => cases he
    | enter =>
      cases he
      obtain ⟨op, hop, hdone | ⟨hwait, hpart⟩⟩ := H.operation hget
      · cases hdone
      · exact H.resume hop hget hwait rfl ((hpart none p.client).enter p.client)
  · cases e with
    | start | reply | enter => cases he
    | cancel =>
      cases he
      obtain ⟨op, hop, rfl | ⟨hwait, hpart⟩⟩ := H.operation hget
      · rw [Event.move, move?, hget] at h
        cases h
      · obtain ⟨hexact, hpending⟩ := (hpart none p.client).drop hwait H.exact
          fun htracked => H.pending_pos hop hget hwait htracked
        refine ⟨?_, H.others hop hget, hexact, ?_⟩
        · rw [Event.enroll, List.length_eraseIdx, List.length_eraseIdx, H.length]
        · have hbefore := H.pending
          rw [outstanding_eraseIdx hop hget, Operation.isPending_waiting hwait] at hbefore
          exact Nat.add_right_cancel (hpending.trans hbefore)

/-- What the indivisible changes keep, all operations that are under way uphold. -/
theorem Working.upheld {P : Premise σ} {I : Client σ → Prop} (H : p.Working ops)
    (hkept : Client.Kept P I) (hc : I p.client) : p.Upheld P I := by
  refine ⟨hc, fun t ht => ?_⟩
  obtain ⟨i, hi⟩ := List.mem_iff_getElem?.1 ht
  obtain ⟨op, _, rfl | ⟨_, hpart⟩⟩ := H.operation hi
  · exact ⟨id, fun c b hc _ => hkept.turn c b hc, fun _ hc => hc⟩
  · cases h : op.isTracked with
    | true =>
      refine ⟨_, hkept.dropped op, fun c hc => ?_⟩
      cases hpart none c with
      | tracked _ hu =>
        refine .map (.guarded (fun _ h => h.comp _) ((hkept.ensures hu hc).mono ?_))
        intro _ c' hc' _
        exact hkept.finish c' hc'.1
      | untracked hfree => cases h ▸ hfree
    | false =>
      refine ⟨id, fun c b hc _ => hkept.turn c b hc, fun c hc => ?_⟩
      cases hpart none c with
      | tracked htracked => cases h ▸ htracked
      | untracked _ hu => exact (hkept.ensures hu hc).mono fun _ _ h => h.1

theorem Working.run (H : p.Working ops) {es : List Event}
    (h : p.run? (es.map Event.move) = some q) : q.Working (es.foldl Event.enroll ops) := by
  induction es generalizing p ops with
  | nil => cases h; exact H
  | cons e es ih =>
    obtain ⟨p', hp, hrun⟩ := Option.bind_eq_some_iff.1 h
    exact ih (H.move hp) hrun

/-- Only the others are outstanding after the last event of an operation. -/
theorem Ends.outstanding_eq {e : Event} {op : Operation} (H : Ends p q i e.move)
    (h : p.move? e.move = some q) (hop : ops[i]? = some op) :
    outstanding (e.enroll ops) q.tasks = outstanding (ops.eraseIdx i) (p.tasks.eraseIdx i) := by
  obtain ⟨t, ht, _⟩ := H.1
  obtain ⟨hcancel, htasks⟩ | ⟨⟨x, hprogress⟩, a, htasks⟩ := H.tasks_eq h
  · cases e with
    | start | reply | enter => cases hcancel
    | cancel =>
      cases hcancel
      rw [htasks]
      rfl
  · have henroll : e.enroll ops = ops := by
      cases e with
      | start | cancel => cases x <;> cases hprogress
      | reply | enter => rfl
    rw [htasks, henroll, outstanding_set hop ht, Operation.isPending_done]
    rfl

end Pool

/-- The board shows which of the operations are outstanding. -/
structure Pool.ShowsOutstanding (p : Pool σ Unit) (ops : List Operation) : Prop where
  length : ops.length = p.tasks.length
  pending : p.client.board.pending = outstanding ops p.tasks
  /-- The session is loading just while a tracked operation has begun and not ended. -/
  loading : p.client.session.isLoading = true ↔
    ∃ y ∈ ops.zip p.tasks, y.1.isTracked = true ∧ y.2.value? = none
  /-- Who ends next, or is dropped, finds the counter positive and lowers it by one. -/
  ending : ∀ (e : Event) q i op, p.move? e.move = some q → Ends p q i e.move → ops[i]? = some op →
    op.isTracked = true → p.client.board.pending = q.client.board.pending + 1
  waiting : p.client.session.isLoading = true → ∀ path, Decision.ofPath p.client.session path =
    if Access.ofPath path = .everyone then .allow else .pending

/-- At every wait of every run of operations from a client at rest, the board shows which of them are
outstanding. -/
theorem Pool.run?_outstanding {c : Client σ} (hc : c.AtRest) {es : List Event} {p : Pool σ Unit}
    (hrun : Pool.run? ⟨c, []⟩ (es.map Event.move) = some p) : p.ShowsOutstanding (roster es) := by
  have H : p.Working (roster es) := (Working.alone hc).run hrun
  refine ⟨H.length, H.pending, ?_, ?_, fun h path => Decision.ofPath_loading h path⟩
  · rw [H.exact, H.pending, decide_eq_true_iff, outstanding, List.countP_pos_iff]
    simp only [Operation.isPending, Bool.and_eq_true, Option.isNone_iff_eq_none]
  · intro e q i op hmove hends hop htracked
    obtain ⟨t, ht, hwait⟩ := hends.1
    rw [(H.move hmove).pending, hends.outstanding_eq hmove hop, H.pending,
      outstanding_eraseIdx hop ht, Operation.isPending_waiting hwait, htracked]
    rfl

/-- The profile is asked for twice, a login fails, and a logout is dropped, with which one of the profile
requests fails. The other one is left, and a request that does not count. -/
theorem Pool.run?_outstanding_overlap :
    let es := Store.withLogin .empty default ⟨"A1", "R1"⟩
    let c : Client Memory := .connect ⟨es, .ofEntries es⟩
    let events : List Event :=
      [.start .refreshProfile, .start (.login "bob" "secret"), .start .refreshProfile,
        .start (.send (.get "/courses/")), .start .logout, .reply 0 (.ok ⟨401, ""⟩),
        .reply 1 (.error .timedOut), .cancel 4, .enter 0]
    c.AtRest ∧ ∃ p, Pool.run? ⟨c, []⟩ (events.map Event.move) = some p ∧
      p.client.board.pending = 1 ∧ p.ShowsOutstanding (roster events) := by
  intro es c events
  have hrun : (Pool.run? ⟨c, []⟩ (events.map Event.move)).any
      (·.client.board.pending == 1) = true := by decide +kernel
  obtain ⟨p, hp, hpending⟩ := (Option.any_eq_true _ _).1 hrun
  exact ⟨.connect _, p, hp, beq_iff_eq.1 hpending, run?_outstanding (.connect _) hp⟩

end SessionKeeper
