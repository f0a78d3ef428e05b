import SessionKeeper.Proofs.Client.Changes
import SessionKeeper.Proofs.Client.Operations

/-!
# Session and store agree

The published user and the stored user are one at every wait of every run of operations
(`run?_agrees`), although they are kept in two places and no change of both can be saved for
certain: a change that cannot be saved is not published, and one that must happen regardless, the
end of a session, empties the store in memory first.
-/

namespace SessionKeeper

open Store

variable {σ : Type} [Medium σ]

namespace Client

/-- The published user is the stored one, and the stored entries come together. -/
structure Agrees (c : Client σ) : Prop where
  whole : Whole c.store.entries
  user_eq : c.session.user = c.store.user

omit [Medium σ] in
theorem Agrees.connect {s : Store σ} (H : Whole s.entries) : (connect s).Agrees := by
  refine ⟨H, ?_⟩
  obtain h | H := H
  · simp [Client.connect, hydrate, session, Board.start, Store.user, accessToken, h,
      Session.anonymous]
  · obtain ⟨u, hu⟩ := H.decodes
    obtain ⟨access, ha⟩ := H.get?_access
    simp [Client.connect, hydrate, session, Board.start, Store.user, accessToken, hu, ha,
      Session.authenticated]

omit [Medium σ] in
/-- Nobody is signed in, here and there. -/
theorem Agrees.of_empty {c : Client σ} (hs : c.store.entries = .empty)
    (hu : c.session.user = none) : c.Agrees :=
  ⟨.inl hs, by simp [hu, Store.user, hs]⟩

omit [Medium σ] in
/-- A change of the board that leaves the user alone. -/
theorem Agrees.post {c : Client σ} (H : c.Agrees) {f : Board → Board}
    (hf : (f c.board).current.user = c.board.current.user) : (c.post f).Agrees :=
  ⟨H.whole, hf.trans H.user_eq⟩

theorem Agrees.adoptLogin {c : Client σ} (H : c.Agrees) (u : User) (t : TokenPair) :
    (Client.adoptLogin u t c).2.Agrees := by
  obtain ⟨m, _, h⟩ | ⟨e, m, _, h⟩ := adoptLogin_cases u t c
  · rw [h]
    refine ⟨.inr (H.whole.withLogin u t), ?_⟩
    simp [holding, Client.post, session, Board.setUser, Board.publish, Store.user,
      User.ofText?_text]
  · rw [h]; exact ⟨H.whole, H.user_eq⟩

theorem Agrees.storeUser {c : Client σ} (H : c.Agrees) (u : User) :
    (Client.storeUser u c).2.Agrees := by
  obtain ⟨_, h⟩ | ⟨m, hc, _, h⟩ | ⟨e, m, _, _, h⟩ := storeUser_cases u c
  · rw [h]; exact H
  · rw [h]
    refine ⟨.inr ((H.whole.isComplete_iff.1 hc).withUser u), ?_⟩
    simp [holding, Client.post, session, Board.setUser, Board.publish, Store.user,
      User.ofText?_text]
  · rw [h]; exact ⟨H.whole, H.user_eq⟩

theorem Agrees.settleRenewal {c : Client σ} (H : c.Agrees) (sent : String) (a : Answer) :
    (Client.settleRenewal sent a c).2.Agrees := by
  obtain ⟨fresh, m, _, _, hc, _, _, h⟩ | ⟨m, _, _, _, _, h⟩ | ⟨_, _, m, _, _, h⟩ | ⟨_, _, h⟩ :=
    settleRenewal_cases sent a c
  · rw [h]
    refine ⟨.inr ((H.whole.isComplete_iff.1 hc).withTokens _ _), ?_⟩
    have := H.user_eq
    simpa [holding, Store.user, session] using this
  · rw [h]; exact .of_empty rfl rfl
  · rw [h]; exact ⟨H.whole, H.user_eq⟩
  · rw [h]; exact H

theorem Agrees.stable : Stable (Agrees : Client σ → Prop) where
  turn _ _ H := ⟨H.whole, H.user_eq⟩
  begin _ H := H.post rfl
  finish _ H := H.post rfl
  setError _ _ H := H.post rfl
  adoptLogin _ u t H := H.adoptLogin u t
  storeUser _ u H := H.storeUser u
  settleRenewal _ sent a H := H.settleRenewal sent a
  withoutRefreshToken c H := by
    rw [Client.withoutRefreshToken]
    split
    · exact .of_empty rfl rfl
    · exact H
  signOut _ _ := .of_empty rfl rfl
  recovery _ _ H := ⟨H.whole, H.user_eq⟩
  visit _ _ H := ⟨H.whole, H.user_eq⟩

/-- Who has no refresh token stored is not signed in. -/
theorem Agrees.withoutRefreshToken_eq {c : Client σ} (H : c.Agrees)
    (hnone : c.store.refreshToken = none) : c.withoutRefreshToken = c := by
  have hanonymous : c.session.isAuthenticated = false := by
    obtain h | Hs := H.whole
    · rw [Session.isAuthenticated, H.user_eq, Store.user, h]; rfl
    · obtain ⟨t, ht⟩ := Hs.get?_refresh
      cases ht.symm.trans hnone
  rw [withoutRefreshToken, hanonymous]
  rfl

omit [Medium σ] in
/-- Who is signed in has all three entries, and nobody else has. -/
theorem Agrees.isAuthenticated_iff {c : Client σ} (H : c.Agrees) :
    c.session.isAuthenticated = true ↔ ∀ k ∈ keys, c.store.entries.contains k = true := by
  rw [Session.isAuthenticated, H.user_eq]
  obtain h | Hs := H.whole
  · refine iff_of_false (by simp [Store.user, h]) fun hall => ?_
    have := hall userKey (by simp [keys])
    simp [h, Dictionary.contains] at this
  · obtain ⟨u, hu⟩ := Hs.decodes
    exact iff_of_true (by simp [Store.user, hu]) fun k hk => (Hs.contains_iff k).2 hk

end Client

/-! ## Further properties of the store -/

variable {P : Premise σ} {J : Store σ → Prop}

/-- Within the premise, the property is kept by each change that a client makes to its store while
session and store agree. -/
structure Store.Kept (P : Premise σ) (J : Store σ → Prop) : Prop where
  adoptLogin : ∀ c call a u t, c.Agrees → J c.store → P.reply call c (.ok a) →
    a.SignsIn call u t → J (Client.adoptLogin u t c).2.store
  storeProfile : ∀ c call a u, c.Agrees → J c.store → P.reply call c (.ok a) →
    a.ShowsProfile call u → J (Client.storeUser u c).2.store
  updateUser : ∀ c u w, c.Agrees → J c.store → c.store.user = some u →
    J (Client.storeUser (u.merge w) c).2.store
  settleRenewal : ∀ c sent a, c.Agrees → J c.store →
    P.reply ((Renewal.request sent).call none) c (.ok a) →
    J (Client.settleRenewal sent a c).2.store
  clear : ∀ c d, c.Agrees → J c.store → d.store = c.store.clear.2 → P.change c d → J d.store

theorem Store.Kept.client (H : Store.Kept P J) :
    Client.Kept P fun c => c.Agrees ∧ J c.store where
  turn c b hc := ⟨Client.Agrees.stable.turn c b hc.1, hc.2⟩
  begin c hc := ⟨Client.Agrees.stable.begin c hc.1, hc.2⟩
  finish c hc := ⟨Client.Agrees.stable.finish c hc.1, hc.2⟩
  setError c m hc := ⟨Client.Agrees.stable.setError c m hc.1, hc.2⟩
  recovery c r hc := ⟨Client.Agrees.stable.recovery c r hc.1, hc.2⟩
  visit c r hc := ⟨Client.Agrees.stable.visit c r hc.1, hc.2⟩
  adoptLogin c call a u t hc hr ha _ :=
    ⟨hc.1.adoptLogin u t, H.adoptLogin c call a u t hc.1 hc.2 hr ha⟩
  storeProfile c call a u hc hr ha _ :=
    ⟨hc.1.storeUser u, H.storeProfile c call a u hc.1 hc.2 hr ha⟩
  updateUser c w hc _ := by
    rw [Client.updateUser]
    split
    next u hu =>
      exact ⟨hc.1.storeUser _, H.updateUser c u w hc.1 hc.2 (hc.1.user_eq.symm.trans hu)⟩
    next => exact hc
  settleRenewal c sent a hc hr _ :=
    ⟨hc.1.settleRenewal sent a, H.settleRenewal c sent a hc.1 hc.2 hr⟩
  withoutRefreshToken c hc hnone _ := by
    rw [hc.1.withoutRefreshToken_eq hnone]
    exact hc
  signOut c hc hchange :=
    ⟨Client.Agrees.stable.signOut c hc.1, H.clear c _ hc.1 hc.2 rfl hchange⟩
  dropSignOut c b hc hchange :=
    have hagrees : Client.Kept P (Client.Agrees : Client σ → Prop) := Client.Agrees.stable.kept
    ⟨hagrees.dropSignOut c b hc.1 hchange, H.clear c _ hc.1 hc.2 rfl hchange⟩

/-- From any medium that opens, at every wait of every run of operations, the published user is the
stored one, and the session is authenticated just when the user and both tokens are stored. -/
theorem run?_agrees {m m' : σ} {s : Store σ} (hopen : openOn m = (.ok s, m'))
    {ms : List (Move σ Unit)} (hms : ∀ mv ∈ ms, mv.IsOperation) {p : Pool σ Unit}
    (hrun : Pool.run? ⟨.connect s, []⟩ ms = some p) :
    p.client.session.user = p.client.store.user ∧
      (p.client.session.isAuthenticated = true ↔
        ∀ k ∈ keys, p.client.store.entries.contains k = true) :=
  have H := Pool.run?_stable Client.Agrees.stable (.connect (.openOn hopen)) hms hrun
  ⟨H.user_eq, H.isAuthenticated_iff⟩

/-- A login whose profile request is refused, and a logout that is dropped while the login renews
the token. -/
theorem run?_agrees_dropped_logout :
    let s : Store Memory := ⟨.empty, .ofEntries .empty⟩
    let ms : List (Move Memory Unit) :=
      [.start (Operation.login "alice" "secret").task,
        .reply 0 (.ok ⟨200, "\x7b\"user\":\x7b\"id\":1,\"role\":\"student\"\x7d," ++
          "\"tokens\":\x7b\"access\":\"A1\",\"refresh\":\"R1\"\x7d\x7d"⟩),
        .start Operation.logout.task, .reply 0 (.ok ⟨401, ""⟩), .enter 0, .cancel 1,
        .reply 0 (.error .timedOut)]
    openOn s.medium = (.ok s, s.medium) ∧ (∀ mv ∈ ms, mv.IsOperation) ∧
      ∃ p, Pool.run? ⟨.connect s, []⟩ ms = some p ∧
        p.client.session.user = p.client.store.user ∧
        (p.client.session.isAuthenticated = true ↔
          ∀ k ∈ keys, p.client.store.entries.contains k = true) := by
  intro s ms
  have hopen : openOn s.medium = (.ok s, s.medium) := rfl
  have hms : ∀ mv ∈ ms, mv.IsOperation := by
    simp only [ms, List.forall_mem_cons]
    exact ⟨⟨_, rfl⟩, trivial, ⟨_, rfl⟩, trivial, trivial, trivial, trivial, nofun⟩
  have hrun : (Pool.run? ⟨.connect s, []⟩ ms).isSome = true := by decide +kernel
  obtain ⟨p, hp⟩ := Option.isSome_iff_exists.1 hrun
  exact ⟨hopen, hms, p, hp, run?_agrees hopen hms hp⟩

end SessionKeeper
