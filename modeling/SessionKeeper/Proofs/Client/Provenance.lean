import SessionKeeper.Proofs.Client.Agreement

/-!
# Whose user is stored

A login session is the pair of tokens that a sign-in answer delivers, or that is stored when a run
begins, with every pair that renewals make of it (`Log.Renewed`). Its users are the one it began with,
those of profile answers to calls with one of its tokens, and local updates of these (`Log.UserOf`).

The change that stores a profile checks that somebody is signed in, not that it is whom the profile
was asked for. So the stored user is one of the stored session as long as each profile answer finds
the session stored under which it was asked for (`run?_owned`); an answer that comes later is stored
all the same (`run?_stale_profile`).
-/

namespace SessionKeeper

open Store

variable {σ : Type}

/-- That pair of tokens is stored. -/
def Store.Holds (s : Store σ) (p : TokenPair) : Prop :=
  s.accessToken = some p.access ∧ s.refreshToken = some p.refresh

namespace Store

variable {es : Entries} {m m' : σ} {p : TokenPair}

theorem not_holds_empty : ¬ (⟨.empty, m⟩ : Store σ).Holds p := fun h => nomatch h.1

theorem holds_withLogin {u : User} {t : TokenPair} :
    (⟨withLogin es u t, m⟩ : Store σ).Holds p ↔ p = t := by
  cases p; cases t
  simp [Holds, accessToken, refreshToken, withLogin, Dictionary.get?_insert, accessKey, refreshKey,
    eq_comm]

theorem holds_withUser {text : String} :
    (⟨es.insert userKey text, m⟩ : Store σ).Holds p ↔ (⟨es, m'⟩ : Store σ).Holds p := by
  simp [Holds, accessToken, refreshToken, Dictionary.get?_insert, userKey, accessKey, refreshKey]

theorem holds_withTokens {access sent : String} {rotated : Option String}
    (hsent : es.get? refreshKey = some sent) :
    (⟨withTokens es access rotated, m⟩ : Store σ).Holds p ↔ p = ⟨access, rotated.getD sent⟩ := by
  obtain ⟨a, r⟩ := p
  have hsent : es.get? "refreshToken" = some sent := hsent
  have hlookups : (⟨withTokens es access rotated, m⟩ : Store σ).Holds ⟨a, r⟩ ↔
      access = a ∧ rotated.getD sent = r := by
    cases rotated <;>
      simp [Holds, accessToken, refreshToken, withTokens, Dictionary.get?_insert, hsent, accessKey,
        refreshKey]
  rw [hlookups, TokenPair.mk.injEq]
  exact and_congr eq_comm eq_comm

end Store

/-- What is known of a run: the store that it began with, and which answers came to which calls. -/
structure Log (σ : Type) where
  start : Store σ
  came : Call → Answer → Prop

namespace Log

variable {L : Log σ}

/-- A session begins with these tokens, which are that user's. -/
inductive Begins (L : Log σ) : TokenPair → User → Prop where
  | stored {t : TokenPair} {u : User} : L.start.Holds t → L.start.user = some u → L.Begins t u
  | signedIn {call : Call} {a : Answer} {t : TokenPair} {u : User} :
    L.came call a → a.SignsIn call u t → L.Begins t u

/-- The pair is what renewals made of the pair `t`. -/
inductive Renewed (L : Log σ) (t : TokenPair) : TokenPair → Prop where
  | first : L.Renewed t t
  | again {p : TokenPair} {a : Answer} {fresh : RefreshAnswer} :
    L.Renewed t p → L.came ((Renewal.request p.refresh).call none) a → a.isSuccess = true →
    a.decode RefreshAnswer.decoder = .ok fresh →
    L.Renewed t ⟨fresh.access, fresh.refresh.getD p.refresh⟩

/-- The user is one of the session that began with the tokens `t`. -/
inductive UserOf (L : Log σ) (t : TokenPair) : User → Prop where
  | first {u : User} : L.Begins t u → L.UserOf t u
  | shown {call : Call} {a : Answer} {u : User} {p : TokenPair} :
    L.came call a → a.ShowsProfile call u → L.Renewed t p → call.bearer = some p.access →
    L.UserOf t u
  | merged {u : User} (w : UserUpdate) : L.UserOf t u → L.UserOf t (u.merge w)

/-- Whatever tokens are stored are those of a session that the stored user is one of. -/
def Owned (L : Log σ) (s : Store σ) : Prop :=
  ∀ p, s.Holds p → ∃ t, (∃ u, L.Begins t u) ∧ L.Renewed t p ∧ ∃ u, s.user = some u ∧ L.UserOf t u

/-- The call was made with a token of the session that is stored, if one is. -/
def Current (L : Log σ) (call : Call) (s : Store σ) : Prop :=
  ∀ t p, (∃ u, L.Begins t u) → L.Renewed t p → s.Holds p →
    ∃ q, L.Renewed t q ∧ call.bearer = some q.access

/-- The answers come as the log says, and profiles while the session that they were asked for under is
stored. -/
def premise (L : Log σ) : Premise σ where
  reply call c r := ∀ a, r = .ok a →
    L.came call a ∧ ∀ u, a.ShowsProfile call u → L.Current call c.store
  change _ _ := True

/-- A call with the token that is stored is one of the stored session. -/
theorem Current.of_bearer {call : Call} {s : Store σ} (h : call.bearer = s.accessToken) :
    L.Current call s :=
  fun _ p _ hp hholds => ⟨p, hp, h.trans hholds.1⟩

/-- What a run begins with is the user and the tokens of one session. -/
theorem Owned.of_start (hs : Whole L.start.entries) : L.Owned L.start := by
  intro p hp
  obtain hempty | Hs := hs
  · rw [Store.Holds, accessToken, hempty] at hp
    cases hp.1
  · obtain ⟨u, hu⟩ := Hs.decodes
    have hbegins : L.Begins p u := .stored hp hu
    exact ⟨p, ⟨u, hbegins⟩, .first, u, hu, .first hbegins⟩

variable [Medium σ] {c : Client σ}

theorem Owned.adoptLogin (H : L.Owned c.store) {u : User} {t : TokenPair} (h : L.Begins t u) :
    L.Owned (Client.adoptLogin u t c).2.store := by
  obtain ⟨m, _, hadopt⟩ | ⟨e, m, _, hadopt⟩ := Client.adoptLogin_cases u t c
  · rw [hadopt]
    intro p hp
    obtain rfl := holds_withLogin.1 hp
    have huser : (⟨withLogin c.store.entries u p, m⟩ : Store σ).user = some u := by
      rw [Store.user, get?_user_withLogin, Option.bind_some, User.ofText?_text]
    exact ⟨p, ⟨u, h⟩, .first, u, huser, .first h⟩
  · rw [hadopt]
    exact H

/-- The user may be stored in the place of one of the stored session. -/
theorem Owned.storeUser (H : L.Owned c.store) {u : User}
    (hu : ∀ t p, (∃ v, L.Begins t v) → L.Renewed t p → c.store.Holds p →
      (∃ v, c.store.user = some v ∧ L.UserOf t v) → L.UserOf t u) :
    L.Owned (Client.storeUser u c).2.store := by
  obtain ⟨_, hstore⟩ | ⟨m, _, _, hstore⟩ | ⟨e, m, _, _, hstore⟩ := Client.storeUser_cases u c
  · rw [hstore]
    exact H
  · rw [hstore]
    intro p hp
    have hp : c.store.Holds p := holds_withUser.1 hp
    obtain ⟨t, hbegins, hrenewed, hof⟩ := H p hp
    have huser : (⟨c.store.entries.insert userKey u.text, m⟩ : Store σ).user = some u := by
      rw [Store.user, get?_user_withUser, Option.bind_some, User.ofText?_text]
    exact ⟨t, hbegins, hrenewed, u, huser, hu t p hbegins hrenewed hp hof⟩
  · rw [hstore]
    exact H

theorem Owned.settleRenewal (H : L.Owned c.store) (hs : Whole c.store.entries) {sent : String}
    {a : Answer} (hcame : L.came ((Renewal.request sent).call none) a) :
    L.Owned (Client.settleRenewal sent a c).2.store := by
  obtain ⟨fresh, m, hsuccess, hdec, hcomplete, hsent, _, h⟩ | ⟨m, _, _, _, _, h⟩ |
    ⟨_, e, m, _, _, h⟩ | ⟨_, _, h⟩ := Client.settleRenewal_cases sent a c
  · rw [h]
    intro p hp
    have hsent : c.store.entries.get? refreshKey = some sent := by
      simpa [holdsRefresh] using hsent
    obtain ⟨access, haccess⟩ := (hs.isComplete_iff.1 hcomplete).get?_access
    obtain ⟨t, hbegins, hrenewed, u, hu, hof⟩ := H ⟨access, sent⟩ ⟨haccess, hsent⟩
    obtain rfl := (holds_withTokens hsent).1 hp
    refine ⟨t, hbegins, hrenewed.again hcame hsuccess hdec, u, ?_, hof⟩
    rw [← hu]
    simp [Store.user, Client.holding]
  · rw [h]
    intro p hp
    exact absurd hp not_holds_empty
  · rw [h]
    exact H
  · rw [h]
    exact H

theorem Owned.kept (L : Log σ) : Store.Kept L.premise L.Owned where
  adoptLogin c call a u t _ H hr ha := H.adoptLogin (.signedIn (hr a rfl).1 ha)
  storeProfile c call a u _ H hr ha := by
    obtain ⟨hcame, hcurrent⟩ := hr a rfl
    refine H.storeUser fun t p hbegins hrenewed hp _ => ?_
    obtain ⟨q, hq, hbearer⟩ := hcurrent u ha t p hbegins hrenewed hp
    exact .shown hcame ha hq hbearer
  updateUser c u w _ H hu := by
    refine H.storeUser fun t p _ _ _ hof => ?_
    obtain ⟨v, hv, hof⟩ := hof
    obtain rfl := Option.some.inj (hu.symm.trans hv)
    exact .merged w hof
  settleRenewal c sent a hc H hr := H.settleRenewal hc.whole (hr a rfl).1
  clear c d _ _ hd _ := by
    rw [hd]
    intro p hp
    exact absurd hp not_holds_empty

/-- The log of a run of operations over an opened store. -/
def ofRun (s : Store σ) (ms : List (Move σ Unit)) : Log σ where
  start := s
  came call a := ∃ c, (call, c, .ok a) ∈ Pool.replies ⟨.connect s, []⟩ ms

end Log

/-- From any medium that opens, at every wait of every run of operations, the published user is the
stored one and, if no profile answer came while a session was stored that its call was not made
under, one of the session whose tokens are stored. -/
theorem run?_owned {m m' : σ} {s : Store σ} [Medium σ] (hopen : openOn m = (.ok s, m'))
    {ms : List (Move σ Unit)} (hms : ∀ mv ∈ ms, mv.IsOperation)
    (hcurrent : ∀ call c a u, (call, c, .ok a) ∈ Pool.replies ⟨.connect s, []⟩ ms →
      a.ShowsProfile call u → (Log.ofRun s ms).Current call c.store)
    {p : Pool σ Unit} (hrun : Pool.run? ⟨.connect s, []⟩ ms = some p) :
    p.client.session.user = p.client.store.user ∧ (Log.ofRun s ms).Owned p.client.store := by
  have hs : Whole s.entries := .openOn hopen
  have hstart : (Client.connect s).Agrees ∧ (Log.ofRun s ms).Owned (Client.connect s).store :=
    ⟨.connect hs, Log.Owned.of_start hs⟩
  obtain ⟨hagrees, howned⟩ :=
    Pool.run?_kept (Log.Owned.kept _).client hstart hms
      (fun x hx a ha => ⟨⟨x.2.1, ha ▸ hx⟩, fun u hu => hcurrent _ _ a u (ha ▸ hx) hu⟩)
      (fun _ _ => trivial) hrun
  exact ⟨hagrees.user_eq, howned⟩

/-- A profile is asked for with a refused token and shown after the renewal, then changed locally. -/
theorem run?_owned_renewed_profile :
    let es := withLogin .empty default ⟨"A1", "R1"⟩
    let s : Store Memory := ⟨es, .ofEntries es⟩
    let ms : List (Move Memory Unit) :=
      [.start (Operation.refreshProfile).task, .reply 0 (.ok ⟨401, ""⟩), .enter 0,
        .reply 0 (.ok ⟨200, "\x7b\"access\":\"A2\"\x7d"⟩),
        .reply 0 (.ok ⟨200, "\x7b\"user\":\x7b\"id\":1,\"role\":\"student\"\x7d\x7d"⟩),
        .start (Operation.updateUser { UserUpdate.none with username := some "alice" }).task]
    openOn s.medium = (.ok s, s.medium) ∧ (∀ mv ∈ ms, mv.IsOperation) ∧
      (∀ call c a u, (call, c, .ok a) ∈ Pool.replies ⟨.connect s, []⟩ ms →
        a.ShowsProfile call u → (Log.ofRun s ms).Current call c.store) ∧
      ∃ p, Pool.run? ⟨.connect s, []⟩ ms = some p ∧
        p.client.session.user = p.client.store.user ∧
          (Log.ofRun s ms).Owned p.client.store := by
  intro es s ms
  have hes : Whole es := .inr (Whole.withLogin (.inl rfl) _ _)
  have hopen : openOn s.medium = (.ok s, s.medium) := openOn_eq rfl hes.filterKeys hes
  have hms : ∀ mv ∈ ms, mv.IsOperation := by
    simp only [ms, List.forall_mem_cons]
    exact ⟨⟨_, rfl⟩, trivial, trivial, trivial, trivial, ⟨_, rfl⟩, nofun⟩
  have hcurrent : ∀ call c a u, (call, c, .ok a) ∈ Pool.replies ⟨.connect s, []⟩ ms →
      a.ShowsProfile call u → (Log.ofRun s ms).Current call c.store := by
    -- each profile call carries the token that its answer finds stored, the refused one too
    have hbearers : ∀ x ∈ Pool.replies ⟨.connect s, []⟩ ms,
        x.1.path = Endpoint.profile → x.1.bearer = x.2.1.store.accessToken := by decide +kernel
    intro call c a u hx hshows
    exact .of_bearer (hbearers _ hx hshows.2.1)
  have hrun : (Pool.run? ⟨.connect s, []⟩ ms).isSome = true := by decide +kernel
  obtain ⟨p, hp⟩ := Option.isSome_iff_exists.1 hrun
  exact ⟨hopen, hms, hcurrent, p, hp, run?_owned hopen hms hcurrent hp⟩

/-- The profile of a user is asked for, another user signs in, and then the answer comes: it is
stored beside the tokens of the other session, and published. -/
theorem run?_stale_profile :
    let alice : User := { (default : User) with id := 1 }
    let es := withLogin .empty alice ⟨"A1", "R1"⟩
    let s : Store Memory := ⟨es, .ofEntries es⟩
    let ms : List (Move Memory Unit) :=
      [.start (Operation.refreshProfile).task, .start (Operation.login "bob" "secret").task,
        .reply 1 (.ok ⟨200, "\x7b\"user\":\x7b\"id\":2,\"role\":\"faculty\"\x7d," ++
          "\"tokens\":\x7b\"access\":\"A2\",\"refresh\":\"R2\"\x7d\x7d"⟩),
        .reply 1 (.ok ⟨500, ""⟩),
        .reply 0 (.ok ⟨200, "\x7b\"user\":\x7b\"id\":1,\"role\":\"faculty\"\x7d\x7d"⟩)]
    openOn s.medium = (.ok s, s.medium) ∧ (∀ mv ∈ ms, mv.IsOperation) ∧
      ∃ p, Pool.run? ⟨.connect s, []⟩ ms = some p ∧ p.client.store.Holds ⟨"A2", "R2"⟩ ∧
        p.client.session.user = some alice ∧ p.client.store.user = some alice ∧
        ¬ (Log.ofRun s ms).Owned p.client.store := by
  intro alice es s ms
  have hes : Whole es := .inr (Whole.withLogin (.inl rfl) _ _)
  have hopen : openOn s.medium = (.ok s, s.medium) := openOn_eq rfl hes.filterKeys hes
  have hms : ∀ mv ∈ ms, mv.IsOperation := by
    simp only [ms, List.forall_mem_cons]
    exact ⟨⟨_, rfl⟩, ⟨_, rfl⟩, trivial, trivial, trivial, nofun⟩
  have hrun : (Pool.run? ⟨.connect s, []⟩ ms).any (fun p =>
      p.client.store.accessToken == some "A2" && p.client.store.refreshToken == some "R2" &&
        p.client.session.user == some alice && p.client.store.user == some alice) = true := by
    decide +kernel
  obtain ⟨p, hp, hend⟩ := (Option.any_eq_true _ _).1 hrun
  simp only [Bool.and_eq_true, beq_iff_eq] at hend
  obtain ⟨⟨⟨haccess, hrefresh⟩, hpublished⟩, hstored⟩ := hend
  refine ⟨hopen, hms, p, hp, ⟨haccess, hrefresh⟩, hpublished, hstored, fun howned => ?_⟩
  -- the one sign-in is that of the other user, and the one profile was asked for with the old token
  have hreplies : ∀ x ∈ Pool.replies ⟨.connect s, []⟩ ms,
      x.1.path ≠ Renewal.endpoint ∧ x.1.path ≠ Endpoint.registration ∧
        (x.1.path = Endpoint.profile → x.2.2.toOption.all (·.isSuccess) = true →
          x.1.bearer = some "A1") ∧
        (x.1.path = Endpoint.login → x.2.2.toOption.all (fun a =>
          (a.decode LoginAnswer.decoder).toOption.all (·.user.id == 2)) = true) := by
    decide +kernel
  obtain ⟨t, _, hrenewed, u, hu, hof⟩ := howned ⟨"A2", "R2"⟩ ⟨haccess, hrefresh⟩
  have hfirst : ∀ {t q}, (Log.ofRun s ms).Renewed t q → q = t := by
    intro t q hq
    cases hq with
    | first => rfl
    | again _ hcame =>
      obtain ⟨c, hx⟩ := hcame
      exact absurd rfl (hreplies _ hx).1
  obtain rfl := hfirst hrenewed
  have hid : u.id = 2 := by
    clear hu
    induction hof with
    | first hbegins =>
      cases hbegins with
      | stored hholds _ =>
        have hne : s.accessToken ≠ some "A2" := by decide +kernel
        exact absurd hholds.1 hne
      | signedIn hcame hsigns =>
        obtain ⟨c, hx⟩ := hcame
        obtain ⟨_, ⟨hpath, hdec⟩ | ⟨hpath, _⟩⟩ := hsigns
        · have := (hreplies _ hx).2.2.2 hpath
          simpa [Except.toOption, hdec] using this
        · exact absurd hpath (hreplies _ hx).2.1
    | shown hcame hshows hq hbearer =>
      obtain ⟨c, hx⟩ := hcame
      obtain rfl := hfirst hq
      have := (hreplies _ hx).2.2.1 hshows.2.1 (by simp [Except.toOption, hshows.1])
      rw [hbearer] at this
      exact absurd (Option.some.inj this) (by decide)
    | merged w _ ih => exact ih
  rw [hstored] at hu
  obtain rfl := Option.some.inj hu
  exact absurd hid (by decide)

end SessionKeeper
