import SessionKeeper.Proofs.Client.Interception
import SessionKeeper.Proofs.Client.Outstanding
import SessionKeeper.Proofs.Client.TokenPairs

/-!
# Under whose login a request is sent again

A renewal takes any stored token other than the refused one for a renewed one, and a request that is
sent again carries the token that is stored then. So a request stays within the login session under
which it was sent first as long as nobody else signs in before its renewal has its turn
(`Pool.run?_resending`). Who signs in later does no harm: what a renewal call brings is stored only in
the place of the refresh token that it was made with. Who signs in before does: the request goes out
again under their login (`Pool.run?_resent_as_another`).
-/

namespace SessionKeeper

open Store

variable {σ α : Type}

namespace Log

variable {L : Log σ} {T : TokenPair → Prop} {s : Store σ}

/-- The tokens that are stored, if any are, are a pair of a session that began with tokens in `T`. -/
def From (L : Log σ) (T : TokenPair → Prop) (s : Store σ) : Prop :=
  (s.accessToken = none ∧ s.refreshToken = none) ∨ ∃ t p, T t ∧ L.Renewed t p ∧ s.Holds p

/-- The call carries a token of the session that began with the tokens `t`. -/
def Under (L : Log σ) (t : TokenPair) (call : Call) : Prop :=
  ∃ p, L.Renewed t p ∧ call.bearer = some p.access

theorem From.of_empty (h : s.entries = .empty) : L.From T s := by
  refine .inl ⟨?_, ?_⟩
  · rw [Store.accessToken, h]
    rfl
  · rw [Store.refreshToken, h]
    rfl

/-- A run begins with the tokens of a session. -/
theorem From.of_start (hs : Whole L.start.entries) : L.From (fun t => ∃ u, L.Begins t u) L.start := by
  obtain hempty | Hs := hs
  · exact .of_empty hempty
  · obtain ⟨u, hu⟩ := Hs.decodes
    obtain ⟨access, haccess⟩ := Hs.get?_access
    obtain ⟨refresh, hrefresh⟩ := Hs.get?_refresh
    have hholds : L.start.Holds ⟨access, refresh⟩ := ⟨haccess, hrefresh⟩
    exact .inr ⟨_, _, ⟨u, .stored hholds hu⟩, .first, hholds⟩

theorem From.of_access (H : L.From T s) {token : String} (h : s.accessToken = some token) :
    ∃ t p, T t ∧ L.Renewed t p ∧ s.Holds p := by
  obtain ⟨hnone, _⟩ | H := H
  · cases hnone.symm.trans h
  · exact H

theorem From.of_refresh (H : L.From T s) {token : String} (h : s.refreshToken = some token) :
    ∃ t p, T t ∧ L.Renewed t p ∧ s.Holds p := by
  obtain ⟨_, hnone⟩ | H := H
  · cases hnone.symm.trans h
  · exact H

end Log

/-- The change stores a login, with other tokens than those that were stored. -/
def Client.Adopts [Medium σ] (c d : Client σ) : Prop :=
  ∃ u t, ¬ c.store.Holds t ∧ adoptLogin u t c = (.ok (), d)

variable [Medium σ]

theorem Client.Adopts.history_ne {c d : Client σ} (H : c.Adopts d) :
    d.board.history.length ≠ c.board.history.length := by
  obtain ⟨u, t, _, hadopt⟩ := H
  obtain ⟨m, _, h⟩ | ⟨e, m, _, h⟩ := adoptLogin_cases u t c
  · cases hadopt.symm.trans h
    exact Nat.succ_ne_self _
  · cases hadopt.symm.trans h

/-! ## What the tokens of a session become -/

namespace Log

variable {L : Log σ} {T : TokenPair → Prop} {c : Client σ}

theorem From.adoptLogin (H : L.From T c.store) {u : User} {t : TokenPair}
    (ht : ¬ c.store.Holds t → (Client.adoptLogin u t c).1 = .ok () → T t) :
    L.From T (Client.adoptLogin u t c).2.store := by
  obtain ⟨m, _, h⟩ | ⟨e, m, _, h⟩ := Client.adoptLogin_cases u t c
  · have hholds : (⟨withLogin c.store.entries u t, m⟩ : Store σ).Holds t := holds_withLogin.2 rfl
    rw [h]
    -- tokens that are stored already do not begin another session
    by_cases hsame : c.store.Holds t
    · obtain ⟨t', p, hT, hrenewed, hp⟩ := H.of_access hsame.1
      cases p
      cases t
      cases hsame.1.symm.trans hp.1
      cases hsame.2.symm.trans hp.2
      exact .inr ⟨t', _, hT, hrenewed, hholds⟩
    · exact .inr ⟨t, t, ht hsame (congrArg Prod.fst h), .first, hholds⟩
  · rw [h]
    exact H

theorem From.storeUser (H : L.From T c.store) (u : User) :
    L.From T (Client.storeUser u c).2.store := by
  obtain ⟨_, h⟩ | ⟨m, _, _, h⟩ | ⟨e, m, _, _, h⟩ := Client.storeUser_cases u c
  · rw [h]
    exact H
  · rw [h]
    obtain ⟨haccess, hrefresh⟩ | ⟨t, p, hT, hrenewed, hp⟩ := H
    · refine .inl ⟨?_, ?_⟩
      · rw [← haccess]
        simp [Client.holding, Client.post, Store.accessToken, Dictionary.get?_insert, userKey, accessKey]
      · rw [← hrefresh]
        simp [Client.holding, Client.post, Store.refreshToken, Dictionary.get?_insert, userKey, refreshKey]
    · exact .inr ⟨t, p, hT, hrenewed, holds_withUser.2 hp⟩
  · rw [h]
    exact H

theorem From.settleRenewal (H : L.From T c.store) {sent : String} {a : Answer}
    (hcame : L.came ((Renewal.request sent).call none) a) :
    L.From T (Client.settleRenewal sent a c).2.store := by
  obtain ⟨fresh, m, hsuccess, hdec, _, hsent, _, h⟩ | ⟨m, _, _, _, _, h⟩ | ⟨_, _, _, _, _, h⟩ |
    ⟨_, _, h⟩ := Client.settleRenewal_cases sent a c
  · -- the call was made with the token that is stored, so what it brings continues that session
    have hrefresh : c.store.refreshToken = some sent := by
      simpa [holdsRefresh, Store.refreshToken] using hsent
    obtain ⟨t, p, hT, hrenewed, hp⟩ := H.of_refresh hrefresh
    obtain rfl : p.refresh = sent := Option.some.inj (hp.2.symm.trans hrefresh)
    rw [h]
    exact .inr ⟨t, _, hT, hrenewed.again hcame hsuccess hdec, (holds_withTokens hrefresh).2 rfl⟩
  · rw [h]
    exact .of_empty rfl
  · rw [h]
    exact H
  · rw [h]
    exact H

/-- The stored tokens stay in sessions that began with tokens in `T`, if a sign-in that is stored brings
such tokens. -/
theorem From.kept {P : Premise σ}
    (hcame : ∀ call c a, P.reply call c (.ok a) → L.came call a)
    (hT : ∀ call c a u t, P.reply call c (.ok a) → a.SignsIn call u t →
      P.change c (Client.adoptLogin u t c).2 → ¬ c.store.Holds t →
      (Client.adoptLogin u t c).1 = .ok () → T t) :
    Client.Kept P fun c => L.From T c.store where
  turn _ _ H := H
  begin _ H := H
  finish _ H := H
  setError _ _ H := H
  recovery _ _ H := H
  visit _ _ H := H
  adoptLogin c call a u t H hr ha hchange := H.adoptLogin (hT call c a u t hr ha hchange)
  storeProfile c _ _ u H _ _ _ := H.storeUser u
  updateUser c w H _ := by
    rw [Client.updateUser]
    split
    · exact H.storeUser _
    · exact H
  settleRenewal c sent a H hr _ := H.settleRenewal (hcame _ c a hr)
  withoutRefreshToken c H _ _ := by
    rw [Client.withoutRefreshToken]
    split
    · exact .of_empty rfl
    · exact H
  signOut _ _ _ := .of_empty rfl
  dropSignOut _ _ _ _ := .of_empty rfl

end Log

/-! ## The second dispatch -/

/-- A request stays in the session that its renewal finds stored when it has its turn. -/
theorem Request.Resends.under {L : Log σ} {t : TokenPair} {r : Request} {c d : Client σ}
    {ws : List (Wait σ)} (H : r.Resends c ws d)
    (hturn : ∀ began ended, .turn began ended ∈ ws → L.From (· = t) ended.store)
    (hcame : ∀ call began ended a, .reply call began ended (.ok a) ∈ ws → L.came call a) :
    L.Under t (r.callAt d) := by
  obtain ⟨c', a, ws₁, ws₂, token, rfl, H⟩ := H
  have hsub : ∀ w ∈ ws₁, w ∈ .reply (r.callAt c) c c' (.ok a) :: (ws₁ ++ ws₂) :=
    fun w hw => List.mem_cons_of_mem _ (List.mem_append_left _ hw)
  have H := H.renewal
  generalize hu : (.done (.ok token) : Task σ (Except ApiError String)) = u at H
  cases H with
  | queued | gone | lacking | calling => cases hu
  | @reuse _ token' hplan =>
    -- a token that another request had renewed is taken as it is stored
    have hfrom := hturn _ _ (hsub _ List.mem_cons_self)
    obtain ⟨t', p, rfl, hrenewed, hp⟩ := hfrom.of_access (Renewal.stored_of_plan hplan)
    exact ⟨p, hrenewed, hp.1⟩
  | @answered c₁ c₂ sent x hsent =>
    have hfrom := hturn _ _ (hsub _ List.mem_cons_self)
    obtain ⟨t', p, rfl, hrenewed, hp⟩ := hfrom.of_refresh hsent
    obtain rfl : p.refresh = sent := Option.some.inj (hp.2.symm.trans hsent)
    cases x with
    | error fault => cases hu
    | ok answer =>
      have hx := (Task.done.inj hu).symm
      obtain ⟨fresh, m, hsuccess, hdec, _, h⟩ := Client.settleRenewal_ok hx
      have hanswer := hcame _ _ _ _ (hsub _ (List.mem_cons_of_mem _ List.mem_cons_self))
      refine ⟨_, hrenewed.again hanswer hsuccess hdec, ?_⟩
      change (Client.settleRenewal p.refresh answer c₂).2.store.accessToken = _
      rw [h]
      exact get?_access_withTokens _ _ _

/-! ## Runs -/

/-- A request whose first dispatch was at the client `c` was sent with a token of a session, if with any,
and is sent again with one of the same session. -/
structure Log.KeepsSession (L : Log σ) (c : Client σ) (again : List (Call × Client σ)) : Prop where
  first : c.store.accessToken ≠ none → ∃ t u p, L.Begins t u ∧ L.Renewed t p ∧ c.store.Holds p
  again : ∀ t p, L.Renewed t p → c.store.Holds p → ∀ x ∈ again, L.Under t x.1

/-- A request is out for the first time at once, wherever it comes from. -/
theorem Task.Context.settle_send {K : Task σ (Except ApiError Answer) → Task σ α} (hK : Context K)
    (r : Request) (c : Client σ) : (K (send r)).settle c = (K ((send r).settle c).1, c) := by
  have hwait : ((send r).settle c).1.IsWaiting := trivial
  rw [hK.settle]
  exact (hwait.context hK).settle c

namespace Pool

theorem settle_of_start {p p' : Pool σ α} {K : Task σ (Except ApiError Answer) → Task σ α}
    (hK : Task.Context K) {r : Request} (hstart : p.move? (.start (K (send r))) = some p') :
    p'.tasks[p.tasks.length]? = some ((K (send r)).settle p'.client).1 := by
  have hclient : ((K (send r)).settle p.client).2 = p.client :=
    congrArg Prod.snd (hK.settle_send r p.client)
  cases hstart
  rw [hclient]
  exact List.getElem?_concat_length

theorem run?_send_course {p q : Pool σ α} {K : Task σ (Except ApiError Answer) → Task σ α}
    (hK : Task.Context K) {r : Request} {ms : List (Move σ α)} {i j : Nat}
    (hout : p.tasks[i]? = some ((K (send r)).settle p.client).1) (hrun : p.run? ms = some q)
    (htrack : Move.trackAll? i ms = some j) :
    ∃ u, q.tasks[j]? = some u ∧
      (K (send r)).Course p.client (p.history i p.client ms).1 u (p.history i p.client ms).2 := by
  have hsettle := hK.settle_send r p.client
  have hend := (K (send r)).settle_waiting_or_done p.client
  obtain ⟨u, hu, hcourse⟩ := run?_history hrun htrack hout hend p.client
  -- the first dispatch is reached without a change of the client
  refine ⟨u, hu, Task.Course.settle_iff.1 ?_⟩
  rw [hsettle] at hcourse ⊢
  exact hcourse

/-- The tokens of a run are those of sessions, and stay those of one while nobody signs in. -/
theorem history_from {m m' : σ} {s : Store σ} (hopen : openOn m = (.ok s, m'))
    {L : Log σ} (hstart : L.start = s) {before waiting : List Event} {p q : Pool σ Unit} {i : Nat}
    (hbefore : Pool.run? ⟨.connect s, []⟩ (before.map Event.move) = some p)
    (hwaiting : p.run? (waiting.map Event.move) = some q)
    (hnobody : ∀ x ∈ p.changes (waiting.map Event.move), ¬ x.1.Adopts x.2)
    (hcame : ∀ call c a, (call, c, .ok a) ∈
      Pool.replies ⟨.connect s, []⟩ ((before ++ waiting).map Event.move) → L.came call a) :
    L.From (fun t => ∃ u, L.Begins t u) p.client.store ∧
      ∀ t, L.From (· = t) p.client.store →
        ∀ w ∈ (p.history i p.client (waiting.map Event.move)).1, L.From (· = t) w.ended.store := by
  have hreplies := replies_append hbefore (waiting.map Event.move)
  rw [← List.map_append] at hreplies
  refine ⟨?_, fun t hfrom w hw => ?_⟩
  -- before, whoever signs in begins a session; during the wait nobody does
  · have hkept : Client.Kept L.arrivals fun c => L.From (fun t => ∃ u, L.Begins t u) c.store :=
      Log.From.kept (fun _ _ a hr => hr a rfl)
        fun call c a u t hr ha _ _ _ => ⟨u, .signedIn (hr a rfl) ha⟩
    have hc : L.From (fun t => ∃ u, L.Begins t u) (Client.connect s).store := by
      change L.From _ s
      rw [← hstart]
      exact .of_start (hstart ▸ Whole.openOn hopen)
    refine run?_kept hkept hc (List.forall_mem_map.2 fun e _ => e.isOperation) ?_
      (fun _ _ => trivial) hbefore
    rintro ⟨call, c, r⟩ hx a rfl
    exact hcame call c a (by rw [hreplies]; exact List.mem_append_left _ hx)
  · have hkept : Client.Kept ⟨fun call _ r => ∀ a, r = .ok a → L.came call a, fun c d => ¬ c.Adopts d⟩
        fun c => L.From (· = t) c.store :=
      Log.From.kept (fun _ _ a hr => hr a rfl) fun call c a u t' _ _ hchange hnew hok =>
        absurd ⟨u, t', hnew, Prod.ext hok rfl⟩ hchange
    have hp : p.Working (roster before) := (Working.alone (.connect s)).run hbefore
    have hupheld := hp.upheld hkept hfrom
    have harrived : ∀ x ∈ p.replies (waiting.map Event.move), ∀ a, x.2.2 = .ok a → L.came x.1 a := by
      rintro ⟨call, c, r⟩ hx a rfl
      exact hcame call c a (by rw [hreplies]; exact List.mem_append_right _ hx)
    obtain ⟨hws, _⟩ := hupheld.history (List.forall_mem_map.2 fun e _ => e.upholds hkept) harrived
      hnobody hwaiting hfrom i
    exact (hws w hw).2

/-- A request is out for the first time, wherever it comes from. While it waits for the answer and its
renewal for its turn, anything may happen but that somebody signs in; from then on anything. -/
theorem run?_resending {m m' : σ} {s : Store σ} (hopen : openOn m = (.ok s, m'))
    {before waiting after : List Event} {p q q' : Pool σ Unit} {i j k : Nat} {r : Request}
    {K : Task σ (Except ApiError Answer) → Task σ Unit} (hK : Task.Context K)
    (hbefore : Pool.run? ⟨.connect s, []⟩ (before.map Event.move) = some p)
    (hout : p.tasks[i]? = some ((K (send r)).settle p.client).1)
    (hwaiting : p.run? (waiting.map Event.move) = some q)
    (hj : Move.trackAll? i (waiting.map (Event.move : Event → Move σ Unit)) = some j)
    (hnobody : ∀ x ∈ p.changes (waiting.map Event.move), ¬ x.1.Adopts x.2)
    (hafter : q.run? (after.map Event.move) = some q')
    (hk : Move.trackAll? j (after.map (Event.move : Event → Move σ Unit)) = some k)
    (hturn : ∀ began ended, .turn began ended ∉
      (q.history j (p.history i p.client (waiting.map Event.move)).2 (after.map Event.move)).1) :
    ∃ u v ws d asked again, q'.tasks[k]? = some u ∧
      Task.Course.Within K (send r) p.client
        (p.history i p.client ((waiting ++ after).map Event.move)).1 u
        (p.history i p.client ((waiting ++ after).map Event.move)).2 v ws d ∧
      r.Dispatched p.client ws v d asked again ∧
      (Log.ofRun s ((before ++ waiting ++ after).map Event.move)).KeepsSession p.client again := by
  have hrun : p.run? ((waiting ++ after).map Event.move) = some q' := by
    rw [List.map_append, run?_append hwaiting]
    exact hafter
  have htrack : Move.trackAll? i ((waiting ++ after).map (Event.move : Event → Move σ Unit)) = some k := by
    rw [List.map_append, Move.trackAll?_append hj]
    exact hk
  obtain ⟨u, hu, hcourse⟩ := run?_send_course hK hout hrun htrack
  obtain ⟨v, ws, d, hwithin⟩ := Task.Course.context_cases hK hcourse
  obtain ⟨asked, again, hdispatched, hagain⟩ := hwithin.course.request.dispatched
  -- what came to the request, and to all others up to the turn, came in this run
  have hreplies : Pool.replies ⟨.connect s, []⟩ ((before ++ waiting ++ after).map Event.move) =
      Pool.replies ⟨.connect s, []⟩ ((before ++ waiting).map Event.move) ++
        q.replies (after.map Event.move) := by
    have hq : Pool.run? ⟨.connect s, []⟩ ((before ++ waiting).map Event.move) = some q := by
      rw [List.map_append, run?_append hbefore]
      exact hwaiting
    rw [List.map_append, replies_append hq]
  have hreplies' : Pool.replies ⟨.connect s, []⟩ ((before ++ waiting ++ after).map Event.move) =
      Pool.replies ⟨.connect s, []⟩ (before.map Event.move) ++
        p.replies ((waiting ++ after).map Event.move) := by
    rw [List.append_assoc, List.map_append, replies_append hbefore]
  obtain ⟨hfirst, hwaits⟩ := history_from (i := i) hopen rfl hbefore hwaiting hnobody
    (L := Log.ofRun s ((before ++ waiting ++ after).map Event.move))
    fun call c a hx => ⟨c, by rw [hreplies]; exact List.mem_append_left _ hx⟩
  refine ⟨u, v, ws, d, asked, again, hu, hwithin, hdispatched, ?_, ?_⟩
  · intro hsome
    obtain ⟨token, htoken⟩ := Option.ne_none_iff_exists'.1 hsome
    obtain ⟨t, pair, ⟨u, hbegins⟩, hrenewed, hpair⟩ := hfirst.of_access htoken
    exact ⟨t, u, pair, hbegins, hrenewed, hpair⟩
  · intro t pair hrenewed hpair x hx
    rw [hdispatched.again_eq x hx]
    refine (hagain x hx).under (fun began ended hw => ?_) fun call began ended a hw => ?_
    · have hw := hwithin.waits_subset hw
      rw [List.map_append, history_append hwaiting hj] at hw
      obtain hw | hw := List.mem_append.1 hw
      · exact hwaits t (.inr ⟨t, pair, rfl, hrenewed, hpair⟩) _ hw
      · exact absurd hw (hturn began ended)
    · refine ⟨ended, ?_⟩
      rw [hreplies']
      exact List.mem_append_right _ (history_replies (hwithin.waits_subset hw))

/-- Two requests are refused, and the first one has the token renewed for both. When the second one is out
again, another user signs in. -/
theorem run?_resending_shared :
    let es := withLogin .empty default ⟨"A1", "R1"⟩
    let s : Store Memory := ⟨es, .ofEntries es⟩
    let K : Task Memory (Except ApiError Answer) → Task Memory Unit := fun t => discard t
    let r : Request := .get "/courses/"
    let before : List Event := [.start (.send (.get "/grades/")), .start (.send r)]
    let waiting : List Event := [.reply 0 (.ok ⟨401, ""⟩), .reply 1 (.ok ⟨401, ""⟩), .enter 0,
      .reply 0 (.ok ⟨200, "\x7b\"access\":\"A2\",\"refresh\":\"R2\"\x7d"⟩), .enter 1]
    let after : List Event := [.start (.login "bob" "secret"),
      .reply 2 (.ok ⟨200, "\x7b\"user\":\x7b\"id\":2,\"role\":\"faculty\"\x7d," ++
        "\"tokens\":\x7b\"access\":\"A3\",\"refresh\":\"R3\"\x7d\x7d"⟩)]
    openOn s.medium = (.ok s, s.medium) ∧ Task.Context K ∧
      Move.trackAll? 1 (waiting.map (Event.move : Event → Move Memory Unit)) = some 1 ∧
      Move.trackAll? 1 (after.map (Event.move : Event → Move Memory Unit)) = some 1 ∧
      ∃ p q q', Pool.run? ⟨.connect s, []⟩ (before.map Event.move) = some p ∧
        p.tasks[1]? = some ((K (send r)).settle p.client).1 ∧
        p.run? (waiting.map Event.move) = some q ∧
        (∀ x ∈ p.changes (waiting.map Event.move), ¬ x.1.Adopts x.2) ∧
        q.run? (after.map Event.move) = some q' ∧
        (∀ began ended, .turn began ended ∉
          (q.history 1 (p.history 1 p.client (waiting.map Event.move)).2 (after.map Event.move)).1) ∧
        (q'.callAt? 1).bind Call.bearer = some "A2" ∧
        ∃ u v ws d asked again, q'.tasks[1]? = some u ∧
          Task.Course.Within K (send r) p.client
            (p.history 1 p.client ((waiting ++ after).map Event.move)).1 u
            (p.history 1 p.client ((waiting ++ after).map Event.move)).2 v ws d ∧
          r.Dispatched p.client ws v d asked again ∧
          (Log.ofRun s ((before ++ waiting ++ after).map Event.move)).KeepsSession p.client again := by
  intro es s K r before waiting after
  have hes : Whole es := .inr (Whole.withLogin (.inl rfl) _ _)
  have hopen : openOn s.medium = (.ok s, s.medium) := openOn_eq rfl hes.filterKeys hes
  have hK : Task.Context K := Task.Context.id.bind _
  have hrun : ((Pool.run? ⟨.connect s, []⟩ [(Event.start (.send (.get "/grades/"))).move]).any
      fun p₀ => p₀.tasks.length == 1 && (p₀.move? (Event.start (.send r)).move).any fun p =>
        (p.run? (waiting.map Event.move)).any fun q =>
          ((q.run? (after.map Event.move)).any fun q' =>
            (q'.callAt? 1).bind Call.bearer == some "A2") &&
          ((p.changes (waiting.map Event.move)).all fun x =>
            x.2.board.history.length == x.1.board.history.length) &&
          (q.history 1 (p.history 1 p.client (waiting.map Event.move)).2
            (after.map Event.move)).1.all fun w => w.made?.isSome) = true := by
    decide +kernel
  obtain ⟨p₀, hp₀, hrun⟩ := (Option.any_eq_true _ _).1 hrun
  obtain ⟨hlength, hrun⟩ := Bool.and_eq_true_iff.1 hrun
  obtain ⟨p, hp, hrun⟩ := (Option.any_eq_true _ _).1 hrun
  obtain ⟨q, hq, hrun⟩ := (Option.any_eq_true _ _).1 hrun
  simp only [Bool.and_eq_true, List.all_eq_true, beq_iff_eq] at hrun
  obtain ⟨⟨hafter, hquiet⟩, hwaits⟩ := hrun
  obtain ⟨q', hq', hagain⟩ := (Option.any_eq_true _ _).1 hafter
  have hbefore : Pool.run? ⟨.connect s, []⟩ (before.map Event.move) = some p :=
    run?_concat hp₀ hp
  have hout : p.tasks[1]? = some ((K (send r)).settle p.client).1 := by
    rw [← beq_iff_eq.1 hlength]
    exact settle_of_start hK hp
  have hnobody : ∀ x ∈ p.changes (waiting.map Event.move), ¬ x.1.Adopts x.2 :=
    fun x hx hadopts => hadopts.history_ne (hquiet x hx)
  have hturn : ∀ began ended, .turn began ended ∉
      (q.history 1 (p.history 1 p.client (waiting.map Event.move)).2 (after.map Event.move)).1 :=
    fun began ended hw => nomatch hwaits _ hw
  exact ⟨hopen, hK, rfl, rfl, p, q, q', hbefore, hout, hq, hnobody, hq', hturn, beq_iff_eq.1 hagain,
    run?_resending hopen hK hbefore hout hq rfl hnobody hq' rfl hturn⟩

/-- A user's request is out when another user signs in. It is refused, and goes out again with the token of
the other user. -/
theorem run?_resent_as_another :
    let es := withLogin .empty default ⟨"A1", "R1"⟩
    let s : Store Memory := ⟨es, .ofEntries es⟩
    let events : List Event := [.start (.send (.get "/courses/")), .start (.login "bob" "secret"),
      .reply 1 (.ok ⟨200, "\x7b\"user\":\x7b\"id\":2,\"role\":\"faculty\"\x7d," ++
        "\"tokens\":\x7b\"access\":\"A2\",\"refresh\":\"R2\"\x7d\x7d"⟩),
      .reply 1 (.ok ⟨500, ""⟩), .reply 0 (.ok ⟨401, ""⟩), .enter 0]
    let L := Log.ofRun s (events.map Event.move)
    openOn s.medium = (.ok s, s.medium) ∧
      (Pool.run? ⟨.connect s, []⟩ (events.map Event.move)).isSome = true ∧
      ∃ first second, callsOf 0 (Pool.calls ⟨.connect s, []⟩ (events.map Event.move)) = [first, second] ∧
        first.path = "/courses/" ∧ second.path = "/courses/" ∧ second.bearer = some "A2" ∧
        (∃ t u, L.Begins t u ∧ L.Under t first) ∧ ∀ t, L.Under t first → ¬ L.Under t second := by
  intro es s events L
  have hes : Whole es := .inr (Whole.withLogin (.inl rfl) _ _)
  have hopen : openOn s.medium = (.ok s, s.medium) := openOn_eq rfl hes.filterKeys hes
  have hrun : (Pool.run? ⟨.connect s, []⟩ (events.map Event.move)).isSome = true := by decide +kernel
  have hcalls : (callsOf 0 (Pool.calls ⟨.connect s, []⟩ (events.map Event.move))).map
      (fun call => (call.path, call.bearer)) =
        [("/courses/", some "A1"), ("/courses/", some "A2")] := by decide +kernel
  -- nothing is renewed, so the tokens of a session are those that it began with
  have hpaths : ∀ x ∈ Pool.replies ⟨.connect s, []⟩ (events.map Event.move),
      x.1.path ≠ Renewal.endpoint := by decide +kernel
  have hfirst : ∀ {t p}, L.Renewed t p → p = t := by
    intro t p hp
    cases hp with
    | first => rfl
    | again _ hcame =>
      obtain ⟨c, hx⟩ := hcame
      exact absurd rfl (hpaths _ hx)
  have hstored : ∃ u, L.Begins ⟨"A1", "R1"⟩ u := by
    obtain ⟨u, hu⟩ := (Whole.withLogin (.inl rfl) default ⟨"A1", "R1"⟩ : SignedIn es).decodes
    exact ⟨u, .stored (holds_withLogin.2 rfl) hu⟩
  obtain ⟨first, rest, hlist, hone, hrest⟩ := List.map_eq_cons_iff.1 hcalls
  obtain ⟨second, rest, rfl, htwo, hnil⟩ := List.map_eq_cons_iff.1 hrest
  obtain rfl := List.map_eq_nil_iff.1 hnil
  obtain ⟨hpath, hbearer⟩ := Prod.mk.inj hone
  obtain ⟨hpath', hbearer'⟩ := Prod.mk.inj htwo
  obtain ⟨u, hbegins⟩ := hstored
  refine ⟨hopen, hrun, first, second, hlist, hpath, hpath', hbearer',
    ⟨_, u, hbegins, _, .first, hbearer⟩, ?_⟩
  rintro t ⟨p, hp, haccess⟩ ⟨p', hp', haccess'⟩
  obtain rfl := hfirst hp
  obtain rfl := hfirst hp'
  have hsame : some "A1" = some "A2" := hbearer.symm.trans (haccess.trans (haccess'.symm.trans hbearer'))
  exact absurd hsame (by decide)

end Pool

end SessionKeeper
