import SessionKeeper.Proofs.Client.Outstanding
import SessionKeeper.Proofs.Client.Submissions
import SessionKeeper.Proofs.Client.TokenPairs

/-!
# Signing out

A logout sends one request, which may be sent again after a renewal, and then clears the store and the
published user, whatever came of the request; if it is dropped on the way it clears them then. So
nothing is left of the session when a logout is over, in whatever run and however it ends
(`Pool.run?_logout`).

The request names the refresh token that is to be invalidated, and keeps that name when it is sent
again. That is the stored one as long as the renewal in between does not change the refresh token
(`Pool.run?_logout_token`); if it does, the token that is asked to be invalidated is the one that was
replaced (`Pool.run?_logout_rotated`).
-/

namespace SessionKeeper

open Store

variable {σ α β : Type} [Medium σ]

/-- The request that has a refresh token invalidated. -/
def logoutRequest (token : Option String) : Request :=
  (Request.post Endpoint.logout).sending (LogoutRequest.mk token)

/-! ## The course of a logout -/

theorem farewell_eq : (farewell : Task σ Unit) =
    .act id fun c => (fun _ => ()) <$> send (logoutRequest c.store.refreshToken) := by
  refine congrArg (Task.act id) (funext fun c => ?_)
  change (fun _ => ()) <$> (execute (logoutRequest c.store.refreshToken) : Task σ _) = _
  rw [execute_eq, Functor.map_map]

theorem farewell_course {c d : Client σ} {ws : List (Wait σ)} {u : Task σ Unit}
    (H : farewell.Course c ws u d) :
    ∃ v, (send (logoutRequest c.store.refreshToken)).Course c ws v d ∧ u = (fun _ => ()) <$> v := by
  rw [farewell_eq] at H
  exact Task.Course.map_cases H

/-- A logout is under way with its request, or the request is over and everything has been cleared. -/
theorem logout_course {c d : Client σ} {ws : List (Wait σ)} {u : Task σ Unit}
    (H : logout.Course c ws u d) :
    (∃ v, farewell.Course (c.post Board.begin) ws v d ∧ v.IsWaiting ∧
      u = (v.guarded Client.signOut).guarded (·.post Board.finish)) ∨
    ∃ d', farewell.Course (c.post Board.begin) ws (.done ()) d' ∧ u = .done () ∧
      d = d'.signOut.post Board.finish := by
  obtain ⟨v, hv, hwait, rfl⟩ | ⟨a, d', hv, rfl, rfl⟩ := Task.Course.guarded_cases H
  · obtain ⟨w, hw, hwait', rfl⟩ | ⟨a, d', hw, rfl, rfl⟩ := Task.Course.guarded_cases hv
    · exact .inl ⟨w, hw, hwait', rfl⟩
    · cases hwait
  · obtain ⟨w, hw, hwait', h⟩ | ⟨b, d'', hw, h, rfl⟩ := Task.Course.guarded_cases hv
    · exact absurd h.symm (hwait'.guarded _).ne_done
    · exact .inr ⟨d'', hw, rfl, rfl⟩

/-- The calls are dispatches of the logout request, two at most, and at most one renewal call. -/
structure Logout.Calls (token : Option String) (calls : List (Call × Client σ)) : Prop where
  made : ∀ x ∈ calls, (∃ bearer, x.1 = (logoutRequest token).call bearer) ∨
    ∃ sent, x.1 = (Renewal.request sent).call none
  farewells : calls.countP (·.1.path == Endpoint.logout) ≤ 2
  renewals : calls.countP (·.1.path == Renewal.endpoint) ≤ 1

theorem logout_request {c d : Client σ} {ws : List (Wait σ)} {u : Task σ Unit}
    (H : logout.Course c ws u d) :
    ∃ v d', (send (logoutRequest c.store.refreshToken)).Course (c.post Board.begin) ws v d' ∧
      Task.calls ws u d = Task.calls ws v d' := by
  obtain ⟨v, hv, hwait, rfl⟩ | ⟨d', hd, rfl, rfl⟩ := logout_course H
  · have hguards : Task.Context fun t : Task σ Unit =>
        (t.guarded Client.signOut).guarded (·.post Board.finish) :=
      (Task.Context.id.guarded _).guarded _
    obtain ⟨v', hv', rfl⟩ := farewell_course hv
    exact ⟨v', d, hv', (Task.calls_context hguards hwait ws d).trans (Task.calls_map _ ws v' d)⟩
  · obtain ⟨v', hv', h⟩ := farewell_course hd
    refine ⟨v', d', hv', ?_⟩
    rw [← Task.calls_map (fun _ => ()) ws v' d', ← h]
    rfl

theorem logout_calls {c d : Client σ} {ws : List (Wait σ)} {u : Task σ Unit}
    (H : logout.Course c ws u d) : Logout.Calls c.store.refreshToken (Task.calls ws u d) := by
  obtain ⟨v, d', hv, hcalls⟩ := logout_request H
  obtain ⟨asked, again, hdispatched, _⟩ := hv.request.dispatched
  have hne : Renewal.endpoint ≠ Endpoint.logout := by decide
  obtain ⟨hfarewells, hrenewals⟩ := hdispatched.countP_le hne
  rw [hcalls]
  exact ⟨hdispatched.made, hfarewells, hrenewals⟩

/-! ## Its last step -/

theorem Event.getElem?_enroll {e : Event} {ops : List Operation} {op : Operation}
    {i j : Nat} (htrack : (e.move : Move σ Unit).track? i = some j) (hop : ops[i]? = some op) :
    (e.enroll ops)[j]? = some op := by
  cases e with
  | start op' =>
    cases htrack
    rw [Event.enroll, List.getElem?_append_left (List.getElem?_eq_some_iff.1 hop).1]
    exact hop
  | reply | enter =>
    cases htrack
    exact hop
  | cancel k =>
    obtain ⟨hne, h⟩ := Option.ite_none_left_eq_some.1 htrack
    cases h
    -- the list of operations loses the same place as the list of tasks
    rw [Event.enroll, List.getElem?_eraseIdx]
    grind

theorem Event.getElem?_foldl_enroll {es : List Event} {ops : List Operation}
    {op : Operation} {i j : Nat}
    (htrack : Move.trackAll? i (es.map (Event.move : Event → Move σ Unit)) = some j)
    (hop : ops[i]? = some op) : (es.foldl Event.enroll ops)[j]? = some op := by
  induction es generalizing ops i with
  | nil =>
    cases htrack
    exact hop
  | cons e es ih =>
    obtain ⟨k, hk, hes⟩ := Option.bind_eq_some_iff.1 htrack
    exact ih hes (Event.getElem?_enroll hk hop)

namespace Pool

variable {p p' q q' : Pool σ Unit} {j : Nat}

/-- A logout that is dropped clears the store at once. -/
theorem Working.logout_dropped {ops : List Operation} (H : q.Working ops)
    (hop : ops[j]? = some .logout) {t : Task σ Unit} (ht : q.tasks[j]? = some t)
    (hwait : t.IsWaiting) (hmove : q.move? (.cancel j) = some q') :
    ∃ b, q'.client = ({ q.client with renewing := b } : Client σ).signOut.post Board.finish := by
  obtain ⟨op, hop', hdone | ⟨_, hpart⟩⟩ := H.operation ht
  · rw [hdone] at hwait
    cases hwait
  · cases hop.symm.trans hop'
    obtain ⟨b, hb⟩ := (hpart none q.client).drop_eq rfl hwait q.client
    rcases move?_cases hmove with ⟨_, h, _⟩ | ⟨_, _, _, _, _, h, _⟩ | ⟨_, _, _, h, _⟩ |
      ⟨k, u, h, hu, rfl⟩
    · cases h
    · cases h
    · cases h
    · cases h
      cases hu.symm.trans ht
      exact ⟨b, hb⟩

/-- A logout that runs to its end clears the store when its request has come to an end. -/
theorem logout_ended {ms : List (Move σ Unit)} {x : Option Reply} {a : Unit}
    (hstart : p.move? (.start logout) = some p') (hrun : p'.run? ms = some q)
    (htrack : Move.trackAll? p.tasks.length ms = some j)
    (hmove : q.move? (.progress j x) = some q') (hdone : q'.tasks[j]? = some (.done a)) :
    ∃ d, farewell.Course (p.client.post Board.begin)
        (p'.history p.tasks.length p'.client (ms ++ [.progress j x])).1 (.done ()) d ∧
      q'.client = d.signOut.post Board.finish := by
  have hrun' : p'.run? (ms ++ [.progress j x]) = some q' := run?_concat hrun hmove
  have htrack' : Move.trackAll? p.tasks.length (ms ++ [.progress j x]) = some j := by
    rw [Move.trackAll?_append htrack, Move.trackAll?, List.foldlM_cons, track?_progress]
    rfl
  have hlast : (p'.history p.tasks.length p'.client (ms ++ [.progress j x])).2 = q'.client := by
    obtain ⟨w, hw⟩ := history_progress hmove (p'.history p.tasks.length p'.client ms).2
    rw [history_append hrun htrack, hw]
  -- the course from the start to the last event ends with the cleanup
  obtain ⟨v, hv, hcourse⟩ := start_course hstart hrun' htrack'
  rw [hlast] at hcourse
  cases hdone.symm.trans hv
  obtain ⟨w, _, hwait, h⟩ | ⟨d, hd, _, hclient⟩ := logout_course hcourse
  · exact absurd h.symm ((hwait.guarded _).guarded _).ne_done
  · exact ⟨d, hd, hclient⟩

end Pool

/-! ## What is left -/

namespace Medium.Undivided

variable {R : σ → Prop}

theorem save (hR : Undivided R) {es : Entries} {m m' : σ} {x : Except StoreError Unit} (hm : R m)
    (h : Medium.save es m = (x, m')) : R m' := by
  cases x with
  | ok _ => exact (hR.saved hm h).1
  | error e => exact (hR.refused hm h).1

theorem mutate (hR : Undivided R) {s : Store σ} (hs : R s.medium)
    (change : Entries → Option Entries) : R (s.mutate change).2.medium := by
  obtain ⟨_, h⟩ | ⟨_, _, _, hsave, h⟩ | ⟨_, _, _, _, hsave, h⟩ := mutate_cases s change
  · rw [h]
    exact hs
  · rw [h]
    exact hR.save hs hsave
  · rw [h]
    exact hR.save hs hsave

theorem clear (hR : Undivided R) {s : Store σ} (hs : R s.medium) : R s.clear.2.medium :=
  hR.save hs rfl

/-- Whatever an operation does, the medium stays in these states. -/
theorem stable (hR : Undivided R) : Client.Stable fun c : Client σ => R c.store.medium where
  turn _ _ hc := hc
  begin _ hc := hc
  finish _ hc := hc
  setError _ _ hc := hc
  adoptLogin c u t hc := by
    rw [Client.store_adoptLogin]
    have hm : R (c.store.mutate fun es => some (withLogin es u t)).2.medium := hR.mutate hc _
    exact hm
  storeUser c u hc := by
    rw [Client.store_storeUser]
    exact hR.mutate hc _
  settleRenewal c sent a hc := by
    obtain h | ⟨fresh, _, _, h⟩ | h := Client.store_settleRenewal sent a c
    · rw [h]
      exact hc
    · rw [h]
      exact hR.mutate hc _
    · rw [h]
      exact hR.mutate hc _
  withoutRefreshToken c hc := by
    rw [Client.withoutRefreshToken]
    split
    · exact hR.clear hc
    · exact hc
  signOut c hc := hR.clear hc
  recovery _ _ hc := hc
  visit _ _ hc := hc

end Medium.Undivided

theorem farewell_medium {R : σ → Prop} (hR : Medium.Undivided R) {c d : Client σ} {ws : List (Wait σ)}
    (H : farewell.Course (c.post Board.begin) ws (.done ()) d) (hc : R c.store.medium)
    (hws : ∀ w ∈ ws, R w.ended.store.medium) : R d.store.medium := by
  have hstep : farewell.Stepwise Client.Step id none (c.post Board.begin) fun _ _ _ => True :=
    stepwise_farewell
  have hkept : Client.Kept .any fun c : Client σ => R c.store.medium := hR.stable.kept
  exact hstep.of_course H hR.stable.turn
    (fun _ _ _ hstep hc => hkept.step hstep (fun _ _ => trivial) hc trivial) hc hws

theorem Event.isOrderly (e : Event) : (e.move : Move σ Unit).IsOrderly := by
  cases e with
  | start op => exact op.orderly
  | reply | enter | cancel => trivial

/-- What is left when a logout is over that cleared the store of the client `d`, while so many other
operations are outstanding. -/
structure Client.LoggedOut (d c : Client σ) (others : Nat) : Prop where
  cleared : c.store = d.store.clear.2
  entries : c.store.entries = .empty
  user : c.session.user = none
  pending : c.board.pending = others
  loading : c.session.isLoading = true ↔ 0 < others
  persisted : d.store.clear.1 = .ok () → Medium.load c.store.medium = .ok .empty

theorem Client.LoggedOut.of_signOut {R : σ → Prop} (hR : Medium.Undivided R) {c d d' : Client σ}
    (hd : R d.store.medium) (hc : c = d'.signOut.post Board.finish) (hstore : d'.store = d.store)
    (hexact : c.IsExact) : d.LoggedOut c c.board.pending where
  cleared := by
    rw [hc, ← hstore]
    rfl
  entries := by rw [hc]; rfl
  user := by rw [hc]; rfl
  pending := rfl
  loading := by rw [hexact, decide_eq_true_iff]
  persisted hsaved := by
    have hsave : Medium.save Dictionary.empty d.store.medium = (.ok (), c.store.medium) := by
      rw [hc]
      change _ = (_, d'.store.clear.2.medium)
      rw [hstore, ← hsaved]
      rfl
    exact (hR.saved hd hsave).2

namespace Pool

/-- Whatever became of a logout that is over, it cleared everything. -/
theorem logout_leaves {R : σ → Prop} (hR : Medium.Undivided R) {p p' q q' : Pool σ Unit} {j : Nat}
    {ops : List Operation} {during : List Event} {e : Event} (hp : p.Working ops)
    (hm : R p.client.store.medium) (hstart : p.move? (Event.start .logout).move = some p')
    (hduring : p'.run? (during.map Event.move) = some q)
    (htrack : Move.trackAll? p.tasks.length (during.map (Event.move : Event → Move σ Unit)) = some j)
    (hmove : q.move? e.move = some q') (hends : Ends q q' j e.move) :
    ∃ d, (e = .cancel j ∧ d = q.client ∨ farewell.Course (p.client.post Board.begin)
        (p'.history p.tasks.length p'.client ((during ++ [e]).map Event.move)).1 (.done ()) d) ∧
      d.LoggedOut q'.client (outstanding
        ((during.foldl Event.enroll (ops ++ [.logout])).eraseIdx j) (q.tasks.eraseIdx j)) := by
  have hkept : Client.Kept .any fun c : Client σ => R c.store.medium := hR.stable.kept
  have hp' : p'.Working (ops ++ [.logout]) := hp.move hstart
  have hq : q.Working (during.foldl Event.enroll (ops ++ [.logout])) := hp'.run hduring
  have hop : (during.foldl Event.enroll (ops ++ [.logout]))[j]? = some .logout := by
    refine Event.getElem?_foldl_enroll htrack ?_
    rw [← hp.length, List.getElem?_concat_length]
  have hupheld : p'.Upheld .any fun c => R c.store.medium :=
    (hp.upheld hkept hm).move (Event.upholds hkept (.start .logout)) (fun _ _ => trivial)
      (fun _ _ => trivial) hstart
  have hms : ∀ es : List Event, ∀ m ∈ es.map Event.move,
      (m : Move σ Unit).Upholds .any fun c => R c.store.medium :=
    fun es => List.forall_mem_map.2 fun e _ => e.upholds hkept
  -- only the others are left in the counter
  have hq' := hq.move hmove
  have hpending := hq'.pending.trans (hends.outstanding_eq hmove hop)
  obtain ⟨t, ht, hwait⟩ := hends.1
  rw [← hpending]
  obtain ⟨hcancel, _⟩ | ⟨⟨x, hprogress⟩, a, htasks⟩ := hends.tasks_eq hmove
  · have he : e = .cancel j := by
      cases e with
      | start | reply | enter => cases hcancel
      | cancel =>
        cases hcancel
        rfl
    rw [hcancel] at hmove
    obtain ⟨b, hclient⟩ := hq.logout_dropped hop ht hwait hmove
    have hclient' : R q.client.store.medium :=
      (hupheld.run (hms during) (fun _ _ => trivial) (fun _ _ => trivial) hduring).client
    exact ⟨q.client, .inl ⟨he, rfl⟩, .of_signOut hR hclient' hclient rfl hq'.exact⟩
  · have hdone : q'.tasks[j]? = some (.done a) := by
      rw [htasks]
      exact List.getElem?_set_self (List.getElem?_eq_some_iff.1 ht).1
    rw [hprogress] at hmove
    rw [Event.move, Operation.task_logout] at hstart
    obtain ⟨d, hd, hclient⟩ := logout_ended hstart hduring htrack hmove hdone
    rw [← hprogress, ← List.map_singleton, ← List.map_append] at hd
    have hrun : p'.run? ((during ++ [e]).map Event.move) = some q' := by
      rw [List.map_append, List.map_singleton, hprogress]
      exact run?_concat hduring hmove
    obtain ⟨hws, _⟩ := hupheld.history (hms (during ++ [e])) (fun _ _ => trivial)
      (fun _ _ => trivial) hrun hupheld.client p.tasks.length
    have hd' : R d.store.medium := farewell_medium hR hd hm fun w hw => (hws w hw).2
    exact ⟨d, .inr hd, .of_signOut hR hd' hclient rfl hq'.exact⟩

/-- A logout that was started at `p`, and after that the events `during` happened: it has made few
calls and can be brought to its end, and whichever event ends it or drops it, nothing is left of the
session then. The operations that have a task are `ops`, and the logout is the one at `j`. -/
structure SigningOut (p p' q : Pool σ Unit) (during : List Event) (ops : List Operation) (j : Nat) :
    Prop where
  waits : ∃ t, p'.tasks[p.tasks.length]? = some t ∧ t.IsWaiting
  calls : ∃ u, q.tasks[j]? = some u ∧ Logout.Calls p.client.store.refreshToken
    (Task.calls (p'.history p.tasks.length p'.client (during.map Event.move)).1 u
      (p'.history p.tasks.length p'.client (during.map Event.move)).2)
  ends : ∃ ms q', (∀ m ∈ ms, m.IsProgress) ∧ q.run? ms = some q' ∧ q'.tasks[j]? = some (.done ())
  leaves : ∀ e q', q.move? e.move = some q' → Ends q q' j e.move →
    ∃ d, (e = .cancel j ∧ d = q.client ∨ farewell.Course (p.client.post Board.begin)
        (p'.history p.tasks.length p'.client ((during ++ [e]).map Event.move)).1 (.done ()) d) ∧
      d.LoggedOut q'.client (outstanding (ops.eraseIdx j) (q.tasks.eraseIdx j))

/-- From a client at rest, a logout among any other operations clears everything when it is over. -/
theorem run?_logout {R : σ → Prop} (hR : Medium.Undivided R) {c : Client σ} (hc : c.AtRest)
    (hm : R c.store.medium) {before during : List Event} {p p' q : Pool σ Unit} {j : Nat}
    (hbefore : Pool.run? ⟨c, []⟩ (before.map Event.move) = some p)
    (hstart : p.move? (Event.start .logout).move = some p')
    (hduring : p'.run? (during.map Event.move) = some q)
    (htrack : Move.trackAll? p.tasks.length (during.map (Event.move : Event → Move σ Unit)) = some j) :
    p.SigningOut p' q during (roster (before ++ .start .logout :: during)) j := by
  obtain ⟨u, hu, hcourse⟩ := start_course hstart hduring htrack
  refine ⟨?_, ⟨u, hu, ?_⟩, ?_, ?_⟩
  · cases hstart
    exact ⟨_, List.getElem?_concat_length, trivial⟩
  · rw [Operation.task_logout] at hcourse
    exact logout_calls hcourse
  · have hq : q.Orderly := by
      have halone : (⟨c, []⟩ : Pool σ Unit).Orderly := .alone hc.renewing
      have hp : p.Orderly := halone.run (List.forall_mem_map.2 fun e _ => e.isOrderly) hbefore
      exact (hp.move (Event.isOrderly (.start .logout)) hstart).run
        (List.forall_mem_map.2 fun e _ => e.isOrderly) hduring
    obtain ⟨ms, q', a, hms, hrun, hend⟩ := hq.ends hu
    exact ⟨ms, q', hms, hrun, hend⟩
  · have hm' : R p.client.store.medium :=
      run?_stable hR.stable hm (List.forall_mem_map.2 fun e _ => e.isOperation) hbefore
    have hroster : roster (before ++ .start .logout :: during) =
        during.foldl Event.enroll (roster before ++ [.logout]) := by
      rw [roster, List.foldl_append]
      rfl
    rw [hroster]
    intro e q' hmove hends
    exact logout_leaves hR ((Working.alone hc).run hbefore) hm' hstart hduring htrack hmove hends

/-- A logout whose token is renewed, and then an operation before it is dropped, so that it moves up. It
ends when its request times out for the second time; the store cannot be saved then. -/
theorem run?_logout_unsaved :
    let es := withLogin .empty default ⟨"A1", "R1"⟩
    let c : Client Memory := .connect ⟨es, ⟨es, 0, fun n => n == 1, false⟩⟩
    let before : List Event := [.start .refreshProfile]
    let during : List Event := [.reply 1 (.ok ⟨401, ""⟩), .enter 1,
      .reply 1 (.ok ⟨200, "\x7b\"access\":\"A2\",\"refresh\":\"R2\"\x7d"⟩), .cancel 0]
    Medium.Undivided (fun m : Memory => m.loadFails = false) ∧ c.AtRest ∧
      c.store.medium.loadFails = false ∧
      Move.trackAll? 1 (during.map (Event.move : Event → Move Memory Unit)) = some 0 ∧
      ∃ p p' q, Pool.run? ⟨c, []⟩ (before.map Event.move) = some p ∧ p.tasks.length = 1 ∧
        p.move? (Event.start .logout).move = some p' ∧ p'.run? (during.map Event.move) = some q ∧
        p.SigningOut p' q during (roster (before ++ .start .logout :: during)) 0 ∧
        ∃ q', q.move? (Event.reply 0 (.error .timedOut)).move = some q' ∧
          q'.tasks[0]?.bind Task.value? = some () := by
  intro es c before during
  have hR := Memory.reliable.undivided
  have hc : c.AtRest := .connect _
  have hrun : ((Pool.run? ⟨c, []⟩ (before.map Event.move)).any fun p => p.tasks.length == 1 &&
      (p.move? (Event.start .logout).move).any fun p' => (p'.run? (during.map Event.move)).any
        fun q => (q.move? (Event.reply 0 (.error .timedOut)).move).any
          fun q' => q'.tasks[0]?.bind Task.value? == some ()) = true := by decide +kernel
  obtain ⟨p, hp, hrun⟩ := (Option.any_eq_true _ _).1 hrun
  obtain ⟨hlength, hrun⟩ := Bool.and_eq_true_iff.1 hrun
  obtain ⟨p', hp', hrun⟩ := (Option.any_eq_true _ _).1 hrun
  obtain ⟨q, hq, hrun⟩ := (Option.any_eq_true _ _).1 hrun
  obtain ⟨q', hq', hend⟩ := (Option.any_eq_true _ _).1 hrun
  have hlength := beq_iff_eq.1 hlength
  have htrack : Move.trackAll? p.tasks.length
      (during.map (Event.move : Event → Move Memory Unit)) = some 0 := by rw [hlength]; rfl
  exact ⟨hR, hc, rfl, rfl, p, p', q, hp, hlength, hp', hq,
    run?_logout hR hc rfl hp hp' hq htrack, q', hq', beq_iff_eq.1 hend⟩

end Pool

/-! ## The token that it names -/

/-- No renewal that was answered during the waits changed the refresh token. -/
def KeepsRefreshToken (ws : List (Wait σ)) : Prop :=
  ∀ sent began ended a fresh,
    .reply ((Renewal.request sent).call none) began ended (.ok a) ∈ ws → a.isSuccess = true →
    a.decode RefreshAnswer.decoder = .ok fresh → fresh.refresh.getD sent = sent

omit [Medium σ] in
theorem KeepsRefreshToken.mono {ws ws' : List (Wait σ)} (H : KeepsRefreshToken ws')
    (h : ws ⊆ ws') : KeepsRefreshToken ws :=
  fun sent began ended a fresh hw => H sent began ended a fresh (h hw)

section

variable {c d : Client σ} {ws : List (Wait σ)}

/-- Who has the access token renewed alone finds the old refresh token in the store afterwards, unless
the renewal changed it. -/
theorem Renewal.Stands.refreshToken_eq {refused : Option String} {token : String}
    (H : Stands refused c ws (.done (.ok token)) d) (hws : Undisturbed ws)
    (hkept : KeepsRefreshToken ws) : d.store.refreshToken = c.store.refreshToken := by
  generalize hu : (.done (.ok token) : Task σ (Except ApiError String)) = u at H
  cases H with
  | queued | gone | lacking | calling => cases hu
  | reuse =>
    have hended := hws _ List.mem_cons_self
    exact congrArg (·.store.refreshToken) hended
  | @answered c' c'' sent x hsent =>
    obtain ⟨hturn, hrest⟩ := List.forall_mem_cons.1 hws
    have hreply := hrest _ (List.mem_singleton.2 rfl)
    obtain rfl : c' = c := hturn
    obtain rfl : c'' = { c' with renewing := true } := hreply
    have hx := Task.done.inj hu
    -- the renewed pair is stored in the place of the one that the call was made with
    cases x with
    | error fault => cases hx
    | ok a =>
      change (Client.settleRenewal sent a { c' with renewing := true }).2.store.refreshToken = _
      change _ = (Client.settleRenewal sent a { c' with renewing := true }).1 at hx
      obtain ⟨fresh, m, hsuccess, hdec, _, h⟩ := Client.settleRenewal_ok hx.symm
      have hsame := hkept sent _ _ a fresh (List.mem_cons_of_mem _ List.mem_cons_self) hsuccess hdec
      have hsent' : c'.store.entries.get? refreshKey = some sent := hsent
      rw [h]
      change (withTokens c'.store.entries fresh.access fresh.refresh).get? refreshKey = _
      rw [get?_refresh_withTokens, hsent', Option.or_some, hsame, hsent]

/-- A request that is sent alone finds the same refresh token at each dispatch. -/
theorem Request.Resends.refreshToken_eq {r : Request} (H : r.Resends c ws d) (hws : Undisturbed ws)
    (hkept : KeepsRefreshToken ws) : d.store.refreshToken = c.store.refreshToken := by
  obtain ⟨c', a, ws₁, ws₂, token, rfl, H⟩ := H
  obtain ⟨hfirst, hrest⟩ := List.forall_mem_cons.1 hws
  obtain rfl : c' = c := hfirst
  have hsub : ws₁ ⊆ .reply (r.callAt c') c' c' (.ok a) :: (ws₁ ++ ws₂) :=
    fun w hw => List.mem_cons_of_mem _ (List.mem_append_left _ hw)
  exact H.renewal.refreshToken_eq (List.forall_mem_append.1 hrest).1 (hkept.mono hsub)

end

namespace Pool

/-- When nothing else goes on and no renewal changes the refresh token, each dispatch of the logout
request names the one that is stored at that moment. -/
theorem run?_logout_token {p p' q : Pool σ Unit} {ms : List (Move σ Unit)}
    (hstart : p.move? (Event.start .logout).move = some p')
    (hms : ∀ m ∈ ms, ∃ x, m = .progress p.tasks.length x) (hrun : p'.run? ms = some q)
    (hkept : KeepsRefreshToken (p'.history p.tasks.length p'.client ms).1) :
    ∃ u, q.tasks[p.tasks.length]? = some u ∧
      ∀ x ∈ Task.calls (p'.history p.tasks.length p'.client ms).1 u q.client,
        x.1.path = Endpoint.logout →
          x.1.body = some (Payload.body (LogoutRequest.mk x.2.store.refreshToken)) := by
  have hprogress : ∀ m ∈ ms, m.IsProgress := by
    intro m hm
    obtain ⟨x, rfl⟩ := hms m hm
    cases x <;> trivial
  obtain ⟨hws, hlast⟩ := history_undisturbed hms hrun
  obtain ⟨u, hu, hcourse⟩ := start_course hstart hrun (Move.trackAll?_of_isProgress hprogress)
  rw [hlast, Operation.task_logout] at hcourse
  obtain ⟨v, d, hv, hcalls⟩ := logout_request hcourse
  obtain ⟨asked, again, hdispatched, hagain⟩ := hv.request.dispatched
  refine ⟨u, hu, ?_⟩
  rw [hcalls, hdispatched.calls_eq]
  refine List.forall_mem_cons.2 ⟨fun _ => rfl, ?_⟩
  refine List.forall_mem_append.2 ⟨fun x hx hpath => ?_, fun x hx _ => ?_⟩
  · have hne : Renewal.endpoint ≠ Endpoint.logout := by decide
    exact absurd ((hdispatched.path_asked x hx).symm.trans hpath) hne
  · rw [hdispatched.again_eq x hx, (hagain x hx).refreshToken_eq hws hkept]
    rfl

/-- A logout whose access token alone is renewed, so that its request goes out twice. -/
theorem run?_logout_token_renewed :
    let es := withLogin .empty default ⟨"A1", "R1"⟩
    let p : Pool Memory Unit := ⟨.connect ⟨es, .ofEntries es⟩, []⟩
    let ms : List (Move Memory Unit) := [.progress 0 (some (.ok ⟨401, ""⟩)), .progress 0 none,
      .progress 0 (some (.ok ⟨200, "\x7b\"access\":\"A2\"\x7d"⟩))]
    p.tasks.length = 0 ∧ (∀ m ∈ ms, ∃ x, m = .progress 0 x) ∧
      ∃ p' q, p.move? (Event.start .logout).move = some p' ∧ p'.run? ms = some q ∧
        KeepsRefreshToken (p'.history 0 p'.client ms).1 ∧
        ∃ u, q.tasks[0]? = some u ∧
          ∀ x ∈ Task.calls (p'.history 0 p'.client ms).1 u q.client, x.1.path = Endpoint.logout →
            x.1.body = some (Payload.body (LogoutRequest.mk x.2.store.refreshToken)) := by
  intro es p ms
  have hms : ∀ m ∈ ms, ∃ x, m = .progress 0 x := by
    simp only [ms, List.forall_mem_cons]
    exact ⟨⟨_, rfl⟩, ⟨_, rfl⟩, ⟨_, rfl⟩, nofun⟩
  have hrun : ((p.move? (Event.start .logout).move).any fun p' => (p'.run? ms).isSome &&
      (p'.history 0 p'.client ms).1.all fun w =>
        ((w.exchange?.bind (·.2.toOption)).bind fun a =>
          (a.decode RefreshAnswer.decoder).toOption).all fun fresh => fresh.refresh == none) =
      true := by
    decide +kernel
  obtain ⟨p', hp', hrun⟩ := (Option.any_eq_true _ _).1 hrun
  obtain ⟨hrun, hanswers⟩ := Bool.and_eq_true_iff.1 hrun
  obtain ⟨q, hq⟩ := Option.isSome_iff_exists.1 hrun
  have hkept : KeepsRefreshToken (p'.history 0 p'.client ms).1 := by
    intro sent began ended a fresh hw _ hdec
    have hnone := List.all_eq_true.1 hanswers _ hw
    simp only [Wait.exchange?, hdec, Except.toOption, Option.bind_some, Option.all_some,
      beq_iff_eq] at hnone
    rw [hnone]
    rfl
  exact ⟨rfl, hms, p', q, hp', hq, hkept, run?_logout_token hp' hms hq hkept⟩

/-- The renewal that the logout makes changes the refresh token, and the logout request is sent again
with the old one in its body. -/
theorem run?_logout_rotated :
    let es := withLogin .empty default ⟨"A1", "R1"⟩
    let p : Pool Memory Unit := ⟨.connect ⟨es, .ofEntries es⟩, []⟩
    let ms : List (Move Memory Unit) := [.progress 0 (some (.ok ⟨401, ""⟩)), .progress 0 none,
      .progress 0 (some (.ok ⟨200, "\x7b\"access\":\"A2\",\"refresh\":\"R2\"\x7d"⟩))]
    p.client.session.isAuthenticated = true ∧ p.tasks.length = 0 ∧
      ∃ p' q u, p.move? (Event.start .logout).move = some p' ∧ p'.run? ms = some q ∧
        q.tasks[0]? = some u ∧
        ∃ x ∈ Task.calls (p'.history 0 p'.client ms).1 u q.client,
          x.1.path = Endpoint.logout ∧ x.2.store.refreshToken = some "R2" ∧
            x.1.body ≠ some (Payload.body (LogoutRequest.mk x.2.store.refreshToken)) := by
  intro es p ms
  have hbody : ∀ body : Option Json, body.map Json.compact = some "\x7b\"refresh_token\":\"R1\"\x7d" →
      body ≠ some (Payload.body (LogoutRequest.mk (some "R2"))) := by
    rintro _ h rfl
    exact absurd h (by decide +kernel)
  have hrun : ((p.move? (Event.start .logout).move).any fun p' => (p'.run? ms).any fun q =>
      q.tasks[0]?.any fun u => (Task.calls (p'.history 0 p'.client ms).1 u q.client).any fun x =>
        x.1.path == Endpoint.logout && x.2.store.refreshToken == some "R2" &&
          x.1.body.map Json.compact == some "\x7b\"refresh_token\":\"R1\"\x7d") = true := by
    decide +kernel
  obtain ⟨p', hp', hrun⟩ := (Option.any_eq_true _ _).1 hrun
  obtain ⟨q, hq, hrun⟩ := (Option.any_eq_true _ _).1 hrun
  obtain ⟨u, hu, hrun⟩ := (Option.any_eq_true _ _).1 hrun
  obtain ⟨x, hx, hcall⟩ := List.any_eq_true.1 hrun
  simp only [Bool.and_eq_true, beq_iff_eq] at hcall
  obtain ⟨⟨hpath, htoken⟩, htext⟩ := hcall
  have hsigned : p.client.session.isAuthenticated = true := by decide +kernel
  refine ⟨hsigned, rfl, p', q, u, hp', hq, hu, x, hx, hpath, htoken, ?_⟩
  rw [htoken]
  exact hbody _ htext

end Pool

end SessionKeeper
