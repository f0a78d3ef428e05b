import SessionKeeper.Proofs.Client.Alone

/-!
# The phases of the session

One operation after the other, the phase of the session changes as `Operation.Allows` says
(`run?_phases`): an operation that starts in an anonymous session authenticates, and only a login or a
registration ends with a user then. A session that ends while an operation is outstanding is
authenticating until that operation ends, and nobody is signed in before that.
-/

namespace SessionKeeper

variable {σ α : Type} {s₀ : Session} {op : Operation} {c d : Client σ}

variable [Medium σ]

/-- What an operation does when it is dropped. -/
def Operation.abort (op : Operation) : Client σ → Client σ :=
  if op.isTracked then (·.post Board.finish) ∘ op.cleanup else id

/-- With nobody else about, this is left of the operation, of which nothing is outstanding in the
end. -/
abbrev Operation.Remains (op : Operation) (s₀ : Session) (t : Task σ Unit) (c : Client σ) : Prop :=
  t.Plays op s₀ op.abort c fun _ d => d.Steady s₀ 0

namespace Operation

/-- A tracked operation that has begun. -/
theorem remains_begun (h : op.isTracked = true) {t : Task σ α}
    (H : t.PlaysOnceBegun op s₀ op.cleanup) (hc : c.Steady s₀ 0) :
    ∃ u : Task σ Unit, (discard t).settle c = u.settle (c.post Board.begin) ∧
      op.Remains s₀ u (c.post Board.begin) := by
  obtain ⟨b, rfl, hb⟩ := H
  have hload : op.load = 1 := by rw [load, h]; rfl
  refine ⟨b.counted, rfl, .map ?_⟩
  have hbegun : (c.post Board.begin).Steady s₀ op.load := hload.symm ▸ hc.begin
  refine .guarded (fun onDrop hdrop => ?_) ((hb _ hbegun hc.isFresh_begin).mono fun _ d hd => ?_)
  · rw [abort, if_pos h]
    exact hdrop.comp _
  · rw [hload] at hd
    exact ⟨hd.publishes_finish h, hd.finish⟩

/-- An operation that starts when nothing is outstanding begins, if it is tracked, and remains. -/
theorem starts (op : Operation) (hc : c.Steady s₀ 0) :
    ∃ (u : Task σ Unit) (d : Client σ), op.task.settle c = u.settle d ∧
      op.Publishes true (c.trail s₀) (d.trail s₀) ∧ op.Remains s₀ u d := by
  have htracked : ∀ {α : Type} {t : Task σ α}, op.isTracked = true →
      t.PlaysOnceBegun op s₀ op.cleanup → ∃ (u : Task σ Unit) (d : Client σ),
        (discard t).settle c = u.settle d ∧ op.Publishes true (c.trail s₀) (d.trail s₀) ∧
          op.Remains s₀ u d := fun h H =>
    have ⟨u, hu, hremains⟩ := remains_begun h H hc
    ⟨u, _, hu, hc.publishes_begin h, hremains⟩
  cases op with
  | login username password => exact htracked rfl (plays_login username password)
  | register fields => exact htracked rfl (plays_register fields)
  | logout => exact htracked rfl plays_logout
  | refreshProfile => exact htracked rfl (plays_adoptFetched _ (.get Endpoint.profile) _)
  | updateProfile w =>
    exact htracked rfl (plays_adoptFetched _ ((Request.put Endpoint.profile).sending w) _)
  | updateUser w =>
    have hleads : (Operation.updateUser w).Leads s₀ c (Client.updateUser w c).2 := hc.updateUser w
    exact ⟨_, c, rfl, .refl _, .map (.update hleads.publishes hleads.steady)⟩
  | resendVerification =>
    refine ⟨_, c, rfl, .refl _, .map (.bind ((plays_fetch hc _ _).mono fun o d hd => ?_))⟩
    cases o <;> exact .pure hd.steady
  | send r => exact ⟨_, c, rfl, .refl _, .map ((plays_send hc r).mono fun _ _ hd => hd.steady)⟩
  | renew refused =>
    exact ⟨_, c, rfl, .refl _, .map ((plays_renew hc refused).mono fun _ _ hd => hd.steady)⟩
  | beginRecovery =>
    have hleads : Operation.beginRecovery.Leads s₀ c c.beginRecovery := hc.leads_of_rest rfl rfl
    exact ⟨_, c, rfl, .refl _, .modify hleads.publishes hleads.steady⟩
  | leaveRecovery =>
    have hleads : Operation.leaveRecovery.Leads s₀ c c.leaveRecovery := hc.leads_of_rest rfl rfl
    exact ⟨_, c, rfl, .refl _, .modify hleads.publishes hleads.steady⟩
  | submitRequest username email =>
    exact ⟨_, c, rfl, .refl _, .map (plays_submitRequest hc username email)⟩
  | submitCode code => exact ⟨_, c, rfl, .refl _, .map (plays_submitCode hc code)⟩
  | submitPassword new confirmation =>
    exact ⟨_, c, rfl, .refl _, .map (plays_submitPassword hc new confirmation)⟩

/-- What is left of an operation goes on to a wait or to its end. -/
theorem Remains.settle {t : Task σ Unit} (H : op.Remains s₀ t c) :
    op.Publishes false (c.trail s₀) ((t.settle c).2.trail s₀) ∧
      ((t.settle c).1.IsWaiting ∧ op.Remains s₀ (t.settle c).1 (t.settle c).2 ∨
        (t.settle c).1 = .done () ∧ (t.settle c).2.Steady s₀ 0) := by
  obtain ⟨hpublishes, hrest⟩ := Task.Solo.settle H (fun _ => .refl _) .trans
  refine ⟨hpublishes, ?_⟩
  obtain hwait | ⟨_, hdone⟩ := t.settle_waiting_or_done c
  · exact .inl ⟨hwait, hrest⟩
  · rw [hdone] at hrest ⊢
    exact .inr ⟨rfl, hrest⟩

/-- An operation that is dropped publishes what it may, and nothing of it is outstanding. -/
theorem Remains.drop {t : Task σ Unit} (H : op.Remains s₀ t c) (ht : t.IsWaiting) :
    op.Publishes false (c.trail s₀) ((t.drop c).trail s₀) ∧ (t.drop c).Steady s₀ 0 := by
  obtain ⟨hc, b, hdrop⟩ := Task.Solo.drop H ht
  have hturn := hc.turn b
  rw [hdrop, abort]
  cases h : op.isTracked with
  | false =>
    have hload : op.load = 0 := by rw [load, h]; rfl
    exact ⟨.refl _, hload ▸ hturn⟩
  | true =>
    have hload : op.load = 1 := by rw [load, h]; rfl
    have hcleanup : op.Leads s₀ { c with renewing := b } (op.cleanup { c with renewing := b }) := by
      cases op with
      | logout => exact hturn.signOut
      | login | register | refreshProfile | updateProfile =>
        exact hturn.leads_of_board hturn.agrees rfl
      | updateUser | resendVerification | send | renew | beginRecovery | leaveRecovery
      | submitRequest | submitCode | submitPassword => cases h
    have hend : (op.cleanup { c with renewing := b }).Steady s₀ 1 := hload ▸ hcleanup.steady
    exact ⟨hcleanup.publishes.trans (hend.publishes_finish h), hend.finish⟩

end Operation

/-! ## One operation after the other -/

/-- The event is the start of an operation. -/
def Event.isStart : Event → Bool
  | .start _ => true
  | _ => false

/-- The operation that the event lets start, go on or be dropped, with those that have a task. -/
def Event.operation? (ops : List Operation) : Event → Option Operation
  | .start op => some op
  | .reply i _ | .enter i | .cancel i => ops[i]?

omit [Medium σ] in
theorem Task.IsWaiting.value?_eq_none {t : Task σ α} (ht : t.IsWaiting) : t.value? = none := by
  cases t with
  | done | act => cases ht
  | dispatch | acquire => rfl

namespace Pool

variable {p q : Pool σ Unit} {ops : List Operation} {i : Nat}

/-- The tasks have ended. -/
def AllEnded (ts : List (Task σ Unit)) : Prop := ∀ t ∈ ts, t.value?.isSome = true

/-- At most one of the operations is under way, and it finds itself alone. -/
inductive Serial (s₀ : Session) (p : Pool σ Unit) (ops : List Operation) : Prop where
  | idle (hlength : ops.length = p.tasks.length) (hended : AllEnded p.tasks)
    (H : p.client.Steady s₀ 0)
  | busy (hlength : ops.length = p.tasks.length) {i : Nat} {op : Operation} {t : Task σ Unit}
    (hop : ops[i]? = some op) (ht : p.tasks[i]? = some t) (hwait : t.IsWaiting)
    (H : op.Remains s₀ t p.client) (hended : AllEnded (p.tasks.eraseIdx i))

theorem Serial.length (H : p.Serial s₀ ops) : ops.length = p.tasks.length := by
  cases H <;> assumption

theorem Serial.alone {t : Task σ Unit} (H : p.Serial s₀ ops) (ht : p.tasks[i]? = some t)
    (hopen : t.value? = none) : ∃ op, ops[i]? = some op ∧ t.IsWaiting ∧
      op.Remains s₀ t p.client ∧ AllEnded (p.tasks.eraseIdx i) := by
  cases H with
  | idle _ hended _ =>
    have := hended t (List.mem_of_getElem? ht)
    rw [hopen] at this
    cases this
  | @busy _ k op u hop hu hwait H hended =>
    obtain rfl | hne := Decidable.eq_or_ne i k
    · cases ht.symm.trans hu
      exact ⟨op, hop, hwait, H, hended⟩
    · have := hended t (List.mem_eraseIdx_iff_getElem?.2 ⟨i, hne, ht⟩)
      rw [hopen] at this
      cases this

theorem Serial.steady (H : p.Serial s₀ ops) (hended : AllEnded p.tasks) : p.client.Steady s₀ 0 := by
  cases H with
  | idle _ _ H => exact H
  | busy _ _ ht hwait =>
    have := hended _ (List.mem_of_getElem? ht)
    rw [hwait.value?_eq_none] at this
    cases this

theorem Serial.of_settle {ts : List (Task σ Unit)} {u : Task σ Unit} {c : Client σ} {op : Operation}
    (hlength : ops.length = ts.length) (hop : ops[i]? = some op)
    (ht : ts[i]? = some (u.settle c).1) (hended : AllEnded (ts.eraseIdx i))
    (H : op.Remains s₀ u c) : Serial s₀ ⟨(u.settle c).2, ts⟩ ops := by
  obtain ⟨_, ⟨hwait, hrest⟩ | ⟨hdone, hsteady⟩⟩ := H.settle
  · exact .busy hlength hop ht hwait hrest hended
  · refine .idle hlength (fun t hmem => ?_) hsteady
    obtain ⟨k, hk⟩ := List.mem_iff_getElem?.1 hmem
    obtain rfl | hne := Decidable.eq_or_ne k i
    · cases hk.symm.trans ht
      rw [hdone]
      rfl
    · exact hended t (List.mem_eraseIdx_iff_getElem?.2 ⟨k, hne, hk⟩)

/-- Where all have ended, an operation starts. -/
theorem Serial.start (H : p.Serial s₀ ops) (hended : AllEnded p.tasks) (op : Operation) :
    Serial s₀ ⟨(op.task.settle p.client).2, p.tasks ++ [(op.task.settle p.client).1]⟩ (ops ++ [op]) ∧
      op.Publishes true (p.client.trail s₀) ((op.task.settle p.client).2.trail s₀) := by
  obtain ⟨u, d, hu, hbegin, hrest⟩ := op.starts (H.steady hended)
  rw [hu]
  refine ⟨.of_settle ?_ ?_ List.getElem?_concat_length ?_ hrest,
    hbegin.trans (hrest.settle.1.starting true)⟩
  · rw [List.length_append, List.length_append, H.length]
    rfl
  · rw [← H.length]
    exact List.getElem?_concat_length
  · rw [List.eraseIdx_append_of_length_le (Nat.le_refl _), Nat.sub_self]
    exact (List.append_nil p.tasks).symm ▸ hended

/-- The operation that has waited goes on. -/
theorem Serial.resume (H : p.Serial s₀ ops) {t u : Task σ Unit} {op : Operation} {c : Client σ}
    (hop : ops[i]? = some op) (ht : p.tasks[i]? = some t) (hended : AllEnded (p.tasks.eraseIdx i))
    (hu : op.Remains s₀ u c) : (p.resume i u c).Serial s₀ ops ∧
      op.Publishes false (c.trail s₀) ((p.resume i u c).client.trail s₀) := by
  have hi : i < p.tasks.length := (List.getElem?_eq_some_iff.1 ht).1
  refine ⟨.of_settle ?_ hop (List.getElem?_set_self hi) ?_ hu, hu.settle.1⟩
  · rw [H.length, List.length_set]
  · rw [List.eraseIdx_set_eq]
    exact hended

/-- The event publishes what its operation may. -/
def PublishesAt (s₀ : Session) (p : Pool σ Unit) (ops : List Operation) (e : Event)
    (q : Pool σ Unit) : Prop :=
  ∃ op, e.operation? ops = some op ∧
    op.Publishes e.isStart (p.client.trail s₀) (q.client.trail s₀)

theorem Serial.move (H : p.Serial s₀ ops) {e : Event} (h : p.move? e.move = some q)
    (hidle : e.isStart = true → AllEnded p.tasks) :
    q.Serial s₀ (e.enroll ops) ∧ PublishesAt s₀ p ops e q := by
  rcases move?_cases h with ⟨t, he, rfl⟩ | ⟨i, r, call, onDrop, next, he, hget, rfl⟩ |
    ⟨i, onDrop, next, he, hget, _, rfl⟩ | ⟨i, t, he, hget, rfl⟩
  · cases e with
    | reply | enter | cancel => cases he
    | start op =>
      cases he
      obtain ⟨hserial, hpublishes⟩ := H.start (hidle rfl) op
      exact ⟨hserial, op, rfl, hpublishes⟩
  · cases e with
    | start | enter | cancel => cases he
    | reply =>
      cases he
      obtain ⟨op, hop, _, ⟨_, _, hnext⟩, hended⟩ := H.alone hget rfl
      obtain ⟨hserial, hpublishes⟩ := H.resume hop hget hended (hnext r)
      exact ⟨hserial, op, hop, hpublishes⟩
  · cases e with
    | start | reply | cancel => cases he
    | enter =>
      cases he
      obtain ⟨op, hop, _, ⟨_, _, hnext⟩, hended⟩ := H.alone hget rfl
      obtain ⟨hserial, hpublishes⟩ := H.resume hop hget hended hnext
      exact ⟨hserial, op, hop, hpublishes⟩
  · cases e with
    | start | reply | enter => cases he
    | cancel =>
      cases he
      have hopen : t.value? = none := by
        cases t with
        | done a => rw [Event.move, move?, hget] at h; cases h
        | act | dispatch | acquire => rfl
      obtain ⟨op, hop, hwait, hrest, hended⟩ := H.alone hget hopen
      obtain ⟨hpublishes, hsteady⟩ := hrest.drop hwait
      refine ⟨.idle ?_ hended hsteady, op, hop, hpublishes⟩
      rw [Event.enroll, List.length_eraseIdx, List.length_eraseIdx, H.length]

/-- In the course of the events, no operation starts while another is under way. -/
def isSequential (p : Pool σ Unit) : List Event → Bool
  | [] => true
  | e :: es =>
    (!e.isStart || p.tasks.all (·.value?.isSome)) && (p.move? e.move).all (·.isSequential es)

theorem isSequential_cons {e : Event} (h : p.move? e.move = some q) {es : List Event}
    (hseq : p.isSequential (e :: es) = true) :
    (e.isStart = true → AllEnded p.tasks) ∧ q.isSequential es = true := by
  rw [isSequential, h, Bool.and_eq_true, Bool.or_eq_true, Bool.not_eq_true', List.all_eq_true] at hseq
  refine ⟨fun hstart => hseq.1.resolve_left ?_, hseq.2⟩
  rw [hstart]
  nofun

/-- One operation after the other, each event publishes what its operation may. -/
theorem Serial.run (H : p.Serial s₀ ops) {es : List Event} {e : Event} {p' : Pool σ Unit}
    (hrun : p.run? (es.map Event.move) = some p') (hmove : p'.move? e.move = some q)
    (hseq : p.isSequential (es ++ [e]) = true) : PublishesAt s₀ p' (es.foldl Event.enroll ops) e q := by
  induction es generalizing p ops with
  | nil =>
    cases hrun
    exact (H.move hmove (isSequential_cons hmove hseq).1).2
  | cons e' es ih =>
    obtain ⟨q', hq, hrun⟩ := Option.bind_eq_some_iff.1 hrun
    obtain ⟨hidle, hseq⟩ := isSequential_cons hq hseq
    exact ih (H.move hq hidle).1 hrun hseq

end Pool

/-- One operation after the other, from any medium that opens: what each event publishes, its
operation may publish. -/
theorem run?_phases {m m' : σ} {s : Store σ} (hopen : Store.openOn m = (.ok s, m'))
    {es : List Event} {e : Event} {p q : Pool σ Unit}
    (hrun : Pool.run? ⟨.connect s, []⟩ (es.map Event.move) = some p)
    (hmove : p.move? e.move = some q)
    (hseq : Pool.isSequential ⟨.connect s, []⟩ (es ++ [e]) = true) :
    ∃ op, e.operation? (roster es) = some op ∧ op.Publishes e.isStart
      (p.client.trail (Client.hydrate s)) (q.client.trail (Client.hydrate s)) := by
  have hsteady : (Client.connect s).Steady (Client.hydrate s) 0 := {
    agrees := .connect (.openOn hopen)
    pending := rfl
    loading := (Client.AtRest.connect s).loading
    latest := ⟨[], rfl⟩ }
  exact Pool.Serial.run (.idle rfl (fun _ h => absurd h List.not_mem_nil) hsteady) hrun hmove hseq

/-- A login, and then a logout of which the renewal fails: the session has ended before the logout
does. -/
theorem run?_phases_expired_logout :
    let s : Store Memory := ⟨.empty, .ofEntries .empty⟩
    let es : List Event :=
      [.start (.login "alice" "secret"),
        .reply 0 (.ok ⟨200, "\x7b\"user\":\x7b\"id\":1,\"role\":\"student\"\x7d," ++
          "\"tokens\":\x7b\"access\":\"A1\",\"refresh\":\"R1\"\x7d\x7d"⟩),
        .reply 0 (.error .timedOut), .start .logout, .reply 1 (.ok ⟨401, ""⟩), .enter 1]
    let e : Event := .reply 1 (.ok ⟨401, ""⟩)
    Store.openOn s.medium = (.ok s, s.medium) ∧
      Pool.isSequential ⟨.connect s, []⟩ (es ++ [e]) = true ∧
      ∃ p q, Pool.run? ⟨.connect s, []⟩ (es.map Event.move) = some p ∧ p.move? e.move = some q ∧
        ∃ op, e.operation? (roster es) = some op ∧ op.Publishes e.isStart
          (p.client.trail (Client.hydrate s)) (q.client.trail (Client.hydrate s)) := by
  intro s es e
  have hopen : Store.openOn s.medium = (.ok s, s.medium) := rfl
  have hseq : Pool.isSequential ⟨.connect s, []⟩ (es ++ [e]) = true := by decide +kernel
  have hrun : ((Pool.run? ⟨.connect s, []⟩ (es.map Event.move)).bind (·.move? e.move)).isSome =
      true := by decide +kernel
  obtain ⟨q, hq⟩ := Option.isSome_iff_exists.1 hrun
  obtain ⟨p, hp, hq⟩ := Option.bind_eq_some_iff.1 hq
  exact ⟨hopen, hseq, p, q, hp, hq, run?_phases hopen hp hq hseq⟩

/-- When a logout ends an authenticated session, the session is authenticating until the logout itself
ends. The next one makes the anonymous session authenticating: it is neither a login nor a
registration. -/
theorem run?_phases_logout :
    let s : Store Memory := ⟨.empty, .ofEntries .empty⟩
    let es : List Event :=
      [.start (.login "alice" "secret"),
        .reply 0 (.ok ⟨200, "\x7b\"user\":\x7b\"id\":1,\"role\":\"student\"\x7d," ++
          "\"tokens\":\x7b\"access\":\"A1\",\"refresh\":\"R1\"\x7d\x7d"⟩),
        .reply 0 (.error .timedOut), .start .logout]
    let goodbye : Event := .reply 1 (.ok ⟨200, ""⟩)
    let phases (p : Pool Memory Unit) := (p.client.trail (Client.hydrate s)).map Session.phase
    Store.openOn s.medium = (.ok s, s.medium) ∧
      Pool.isSequential ⟨.connect s, []⟩ (es ++ [goodbye, .start .logout]) = true ∧
      ∃ p q r, Pool.run? ⟨.connect s, []⟩ (es.map Event.move) = some p ∧
        p.move? goodbye.move = some q ∧ q.move? (Event.start .logout).move = some r ∧
        p.client.session.phase = .authenticated ∧
        phases q = .anonymous :: .authenticating :: phases p ∧
        phases r = .authenticating :: phases q := by
  intro s es goodbye phases
  have hseq : Pool.isSequential ⟨.connect s, []⟩ (es ++ [goodbye, .start .logout]) = true := by
    decide +kernel
  have hrun : (Pool.run? ⟨.connect s, []⟩ (es.map Event.move)).any (fun p =>
      (p.move? goodbye.move).any fun q => (q.move? (Event.start .logout).move).any fun r =>
        p.client.session.phase == .authenticated &&
          (phases q == .anonymous :: .authenticating :: phases p &&
            phases r == .authenticating :: phases q)) = true := by decide +kernel
  obtain ⟨p, hp, hrun⟩ := (Option.any_eq_true _ _).1 hrun
  obtain ⟨q, hq, hrun⟩ := (Option.any_eq_true _ _).1 hrun
  obtain ⟨r, hr, hrun⟩ := (Option.any_eq_true _ _).1 hrun
  simp only [Bool.and_eq_true, beq_iff_eq] at hrun
  exact ⟨rfl, hseq, p, q, r, hp, hq, hr, hrun⟩

end SessionKeeper
