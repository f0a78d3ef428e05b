import SessionKeeper.Proofs.Client.Interception
import SessionKeeper.Proofs.Client.Provenance

/-!
# What a successful login leaves

A login stores and publishes its user and then asks for the full profile, and it succeeds whatever
comes of that. As long as nobody else does anything, one thing only can undo the login before it
returns: the profile call is refused, and so is the refresh token, upon which the renewal ends the
session (`Rejected`). In every other case the user returned is the one published and stored
(`Pool.run?_login_signedIn`).
-/

namespace SessionKeeper

open Store

variable {σ α : Type} [Medium σ]

/-- The last waits of a course: the client `c` sends a request, its token is refused, and the refresh
token is rejected and cleared. -/
inductive Rejected (r : Request) : List (Wait σ) → Prop where
  | intro {c : Client σ} {ws : List (Wait σ)} {a a' : Answer} {sent : String} {m : σ}
    (h : a.status = 401) (hsent : c.store.refreshToken = some sent) (h' : a'.isRejection = true)
    (hsave : Medium.save .empty c.store.medium = (.ok (), m)) :
    Rejected r (ws ++ [.reply (r.callAt c) c c (.ok a), .turn c c,
      .reply ((Renewal.request sent).call none) { c with renewing := true }
        { c with renewing := true } (.ok a')])

theorem Rejected.append {r : Request} {ws : List (Wait σ)} (H : Rejected r ws)
    (ws' : List (Wait σ)) : Rejected r (ws' ++ ws) := by
  cases H with
  | intro h hsent h' hsave =>
    rw [← List.append_assoc]
    exact .intro h hsent h' hsave

omit [Medium σ] in
theorem undisturbed_append {ws ws' : List (Wait σ)} :
    Undisturbed (ws ++ ws') ↔ Undisturbed ws ∧ Undisturbed ws' := List.forall_mem_append

namespace Client

/-- The user is published and stored, beside a pair of tokens. -/
structure SignedInAs (c : Client σ) (u : User) : Prop where
  published : c.session.user = some u
  stored : c.store.user = some u
  tokens : ∃ t, c.store.Holds t

omit [Medium σ] in
theorem Agrees.signedInAs {c : Client σ} (H : c.Agrees) {u : User} (hu : c.session.user = some u) :
    c.SignedInAs u := by
  have hstored : c.store.user = some u := H.user_eq.symm.trans hu
  obtain hempty | hs := H.whole
  · rw [Store.user, hempty] at hstored
    cases hstored
  · obtain ⟨access, haccess⟩ := hs.get?_access
    obtain ⟨refresh, hrefresh⟩ := hs.get?_refresh
    exact ⟨hu, hstored, ⟨access, refresh⟩, haccess, hrefresh⟩

/-- A session has ended: nothing is stored, nobody is published, and the login page was asked for. -/
structure SessionEnded (c : Client σ) : Prop where
  entries : c.store.entries = .empty
  user : c.session.user = none
  visits : c.visits.head? = some (.login none)

theorem signedIn_storeUser {c : Client σ} (H : SignedIn c.store.entries) (u : User) :
    SignedIn (storeUser u c).2.store.entries := by
  obtain ⟨_, h⟩ | ⟨m, _, _, h⟩ | ⟨e, m, _, _, h⟩ := storeUser_cases u c
  · rw [h]
    exact H
  · rw [h]
    exact H.withUser u
  · rw [h]
    exact H

/-- The answer to a renewal call leaves a signed-in user signed in, unless it rejects the refresh
token and that can be saved. -/
theorem signedIn_settleRenewal {c : Client σ} (H : SignedIn c.store.entries) (sent : String)
    (a : Answer) :
    SignedIn (settleRenewal sent a c).2.store.entries ∨
      (a.isRejection = true ∧ (∃ m, Medium.save .empty c.store.medium = (.ok (), m)) ∧
        (settleRenewal sent a c).1 = .error .sessionExpired ∧
        SessionEnded (settleRenewal sent a c).2) := by
  obtain ⟨fresh, m, _, _, _, _, _, h⟩ | ⟨m, _, hreject, _, hsave, h⟩ | ⟨_, e, m, _, _, h⟩ |
    ⟨e, _, h⟩ := settleRenewal_cases sent a c
  · rw [h]
    exact .inl (H.withTokens _ _)
  · rw [h]
    exact .inr ⟨hreject, ⟨m, hsave⟩, rfl, rfl, rfl, rfl⟩
  · rw [h]
    exact .inl H
  · rw [h]
    exact .inl H

end Client

/-- A renewal that nobody disturbs leaves a signed-in user signed in, or ends the session. -/
theorem Renewal.Stands.signedIn {refused : Option String} {c d : Client σ} {ws : List (Wait σ)}
    {x : Except ApiError String} (H : Renewal.Stands refused c ws (.done x) d)
    (hws : Undisturbed ws) (hs : SignedIn c.store.entries) :
    SignedIn d.store.entries ∨ (x = .error .sessionExpired ∧ d.SessionEnded ∧
      ∃ sent a m, c.store.refreshToken = some sent ∧ a.isRejection = true ∧
        Medium.save .empty c.store.medium = (.ok (), m) ∧
        ws = [.turn c c, .reply ((Renewal.request sent).call none) { c with renewing := true }
          { c with renewing := true } (.ok a)]) := by
  generalize hu : (.done x : Task σ (Except ApiError String)) = u at H
  -- undisturbed waits end with the client that they began with, so all cases are about one client
  cases H with
  | queued => cases hu
  | reuse | gone =>
    obtain rfl : d = c := hws _ List.mem_cons_self
    exact .inl hs
  | @lacking c' h =>
    obtain rfl : c' = c := hws _ List.mem_cons_self
    obtain ⟨token, htoken⟩ := hs.get?_refresh
    cases htoken.symm.trans h
  | calling => cases hu
  | @answered c' c'' sent y hsent =>
    obtain ⟨hc', hc''⟩ := List.forall_mem_cons.1 hws
    obtain rfl : c' = c := hc'
    obtain rfl : c'' = { c' with renewing := true } := hc'' _ List.mem_cons_self
    cases hu
    cases y with
    | error fault => exact .inl hs
    | ok a =>
      obtain hsigned | ⟨hreject, ⟨m, hsave⟩, hx, hended⟩ :=
        Client.signedIn_settleRenewal (c := { c' with renewing := true }) hs sent a
      · exact .inl hsigned
      · exact .inr ⟨hx, ⟨hended.entries, hended.user, hended.visits⟩, sent, a, m, hsent, hreject,
          hsave, rfl⟩

/-- A request that nobody disturbs leaves a signed-in user signed in, or fails with the session. -/
theorem Request.Stands.signedIn {r : Request} {c d : Client σ} {ws : List (Wait σ)}
    {x : Except ApiError Answer} (H : r.Stands c ws (.done x) d) (hws : Undisturbed ws)
    (hs : SignedIn c.store.entries) :
    SignedIn d.store.entries ∨ ((∃ e, x = .error e) ∧ d.SessionEnded ∧ Rejected r ws) := by
  generalize hu : (.done x : Task σ (Except ApiError Answer)) = u at H
  cases H with
  | out | resent => cases hu
  | answered =>
    obtain rfl : d = c := hws _ List.mem_cons_self
    exact .inl hs
  | renewing _ _ hv => exact absurd hu.symm (hv.bind _).ne_done
  | @refused c' _ a ws e h H =>
    obtain ⟨hc, hrest⟩ := List.forall_mem_cons.1 hws
    obtain rfl : c' = c := hc
    cases hu
    obtain hsigned | ⟨hx, hended, sent, a', m, hsent, hreject, hsave, rfl⟩ :=
      H.renewal.signedIn hrest hs
    · exact .inl hsigned
    · cases hx
      have hfailed : (if ApiError.isTransient .sessionExpired then .error .sessionExpired
          else a.outcome) = .error (.ofAnswer 401 a.body) := IsRefused.outcome_eq h
      have hrejected : Rejected r ([] ++ _) := .intro h.1 hsent hreject hsave
      exact .inr ⟨⟨_, hfailed⟩, hended, hrejected⟩
  | @resentAnswered c' d' _ a ws token y h H =>
    obtain ⟨hc, hrest⟩ := List.forall_mem_cons.1 hws
    obtain rfl : c' = c := hc
    obtain ⟨hrenewal, hlast⟩ := undisturbed_append.1 hrest
    obtain rfl : d = d' := hlast _ List.mem_cons_self
    obtain hsigned | ⟨hx, _⟩ := H.renewal.signedIn hrenewal hs
    · exact .inl hsigned
    · cases hx

theorem fetch_signedIn {dec : Json.Decoder α} {r : Request} {c d : Client σ} {ws : List (Wait σ)}
    {o : Except ApiError α} (H : (fetch dec r).Course c ws (.done o) d) (hws : Undisturbed ws)
    (hs : SignedIn c.store.entries) :
    SignedIn d.store.entries ∨ ((∃ e, o = .error e) ∧ d.SessionEnded ∧ Rejected r ws) := by
  obtain ⟨x, hstands, rfl⟩ := H.fetch
  refine (hstands.signedIn hws hs).imp_right ?_
  rintro ⟨⟨e, rfl⟩, hended, hrejected⟩
  exact ⟨⟨e, rfl⟩, hended, hrejected⟩

/-- The session that a login began was over before the login was: its profile call was rejected. -/
structure LoginUndone (ws : List (Wait σ)) (u : User) (c : Client σ) : Prop where
  ended : c.SessionEnded
  rejected : Rejected (.get Endpoint.profile) ws
  answered : ∃ call e a t, .reply call e e (.ok a) ∈ ws ∧ a.SignsIn call u t

/-- The credentials of a sign-in could not be saved. -/
def AuthFailure.unstored (e : StoreError) : AuthFailure :=
  .ofMessage ("Could not store credentials: " ++ e.message)

namespace Client

/-- The client with the message of a failure on its board. -/
def failing (c : Client σ) (f : AuthFailure) : Client σ := c.post (·.setError f.error)

/-- The client with a login that is stored and published. -/
def adopting (c : Client σ) (u : User) (t : TokenPair) (m : σ) : Client σ :=
  (c.holding (withLogin c.store.entries u t) m).post (·.setUser (some u))

end Client

/-- An adoption waits for nothing: the login is stored and published, or its failure is on the board. -/
theorem Task.Course.adopt {c d : Client σ} {u : User} {t : TokenPair} {ws : List (Wait σ)}
    {x : Except AuthFailure Unit} (H : (SessionKeeper.adopt u t).Course c ws (.done x) d) :
    ws = [] ∧ ((∃ m, Medium.save (withLogin c.store.entries u t) c.store.medium = (.ok (), m) ∧
        x = .ok () ∧ d = c.adopting u t m) ∨
      ∃ e m, Medium.save (withLogin c.store.entries u t) c.store.medium = (.error e, m) ∧
        x = .error (.unstored e) ∧ d = (c.holding c.store.entries m).failing (.unstored e)) := by
  rw [SessionKeeper.adopt, Task.Course.update] at H
  obtain ⟨m, hsave, h⟩ | ⟨e, m, hsave, h⟩ := Client.adoptLogin_cases u t c
  · rw [h] at H
    obtain ⟨rfl, hresult, rfl⟩ := H
    cases hresult
    exact ⟨rfl, .inl ⟨m, hsave, rfl, rfl⟩⟩
  · rw [h] at H
    obtain ⟨rfl, hresult, rfl⟩ := H
    cases hresult
    exact ⟨rfl, .inr ⟨e, m, hsave, rfl, rfl⟩⟩

theorem adopt_signedIn {c d : Client σ} (H : c.Agrees) {u : User} {t : TokenPair}
    {ws : List (Wait σ)} (hadopt : (adopt u t).Course c ws (.done (.ok ())) d) :
    SignedIn d.store.entries := by
  obtain ⟨_, ⟨m, _, _, rfl⟩ | ⟨e, m, _, h, _⟩⟩ := hadopt.adopt
  · exact H.whole.withLogin u t
  · cases h

/-- What a login does with the answer to its profile call. -/
def Client.showProfile (c : Client σ) : Except ApiError User → Client σ
  | .ok u => (storeUser u c).2
  | .error _ => c

/-- A login that succeeds has adopted an answer and then asked for the profile. -/
theorem login_course {username password : String} {c d : Client σ} {ws : List (Wait σ)} {u : User}
    (H : (login username password).Course c ws (.done (.ok u)) d) :
    ∃ answer ws₁ ws₂ ws₃ c₁ c₂ c₃ profile, ws = ws₁ ++ (ws₂ ++ ws₃) ∧
      (fetch LoginAnswer.decoder
        ((Request.post Endpoint.login).sending (LoginRequest.mk username password))).Course
        (c.post Board.begin) ws₁ (.done (.ok answer)) c₁ ∧
      (adopt answer.user answer.tokens).Course c₁ ws₂ (.done (.ok ())) c₂ ∧
      fetchProfile.Course c₂ ws₃ (.done profile) c₃ ∧
      d = (c₃.showProfile profile).post Board.finish ∧
      u = (c₃.showProfile profile).session.user.getD answer.user := by
  obtain ⟨d', hbody, rfl⟩ := H.guarded_done
  obtain ⟨o, ws₁, ws', c₁, rfl, hfetch, hafter⟩ := hbody.bind_done
  cases o with
  | error e =>
    obtain ⟨_, h, _⟩ := hafter
    cases h
  | ok answer =>
    obtain ⟨adopted, ws₂, ws'', c₂, rfl, hadopt, hrest⟩ := hafter.bind_done
    cases adopted with
    | error f =>
      obtain ⟨_, h, _⟩ := hrest
      cases h
    | ok _ =>
      obtain ⟨profile, ws₃, ws₄, c₃, rfl, hprofile, hlast⟩ := hrest.bind_done
      cases profile with
      | ok v =>
        obtain ⟨rfl, h, rfl⟩ := hlast
        cases h
        rw [List.append_nil]
        exact ⟨answer, ws₁, ws₂, ws₃, c₁, c₂, c₃, .ok v, rfl, hfetch, hadopt, hprofile, rfl, rfl⟩
      | error e =>
        obtain ⟨rfl, h, rfl⟩ := hlast
        cases h
        rw [List.append_nil]
        exact ⟨answer, ws₁, ws₂, ws₃, c₁, c₂, d', .error e, rfl, hfetch, hadopt, hprofile, rfl, rfl⟩

/-- What a fetch that nobody disturbs decodes is an answer that came to it. -/
theorem fetch_agrees {dec : Json.Decoder α} {r : Request} {c d : Client σ} {ws : List (Wait σ)}
    {v : α} (H : (fetch dec r).Course c ws (.done (.ok v)) d) (hws : Undisturbed ws)
    (hc : c.Agrees) :
    d.Agrees ∧ ∃ a bearer, a.decode dec = .ok v ∧ a.isSuccess = true ∧
      ∃ e, .reply (r.call bearer) e e (.ok a) ∈ ws := by
  -- the premise is that replies are those among the waits
  let P : Premise σ := ⟨fun call c r => ∃ e, .reply call e c r ∈ ws, fun _ _ => True⟩
  have hkept : Client.Kept P Client.Agrees := Client.Agrees.stable.kept
  obtain ⟨hd, hdelivered⟩ := (hkept.ensures_fetch dec r hc).of_course H hws
    (fun call c d r h => ⟨c, h⟩) fun _ _ => trivial
  obtain ⟨a, hdec, hsuccess, bearer, e, he⟩ := hdelivered v rfl
  obtain rfl : d = e := hws _ he
  exact ⟨hd, a, bearer, hdec, hsuccess, d, he⟩

/-- What a login that nobody disturbs leaves when it succeeds. -/
theorem login_leaves {username password : String} {c d : Client σ} {ws : List (Wait σ)} {u : User}
    (H : (login username password).Course c ws (.done (.ok u)) d) (hws : Undisturbed ws)
    (hc : c.Agrees) :
    d.SignedInAs u ∨ LoginUndone ws u d := by
  have hkept : Client.Kept .any (Client.Agrees : Client σ → Prop) := Client.Agrees.stable.kept
  have hd : d.Agrees :=
    (hkept.ensures_login username password hc).of_course H hws (fun _ _ _ _ _ => trivial)
      fun _ _ => trivial
  obtain ⟨answer, ws₁, ws₂, ws₃, c₁, c₂, c₃, profile, rfl, hfetch, hadopt, hprofile, rfl, hu⟩ :=
    login_course H
  -- from the adoption on the user is signed in, up to the end or to the rejection
  obtain ⟨hws₁, hrest⟩ := undisturbed_append.1 hws
  obtain ⟨_, hws₃⟩ := undisturbed_append.1 hrest
  obtain ⟨hc₁, a, bearer, hdec, hsuccess, e, ha⟩ :=
    fetch_agrees hfetch hws₁ (Client.Agrees.stable.begin c hc)
  have hs₂ : SignedIn c₂.store.entries := adopt_signedIn hc₁ hadopt
  have hend : SignedIn (c₃.showProfile profile).store.entries ∨
      ((c₃.showProfile profile).SessionEnded ∧ Rejected (.get Endpoint.profile) ws₃) := by
    obtain hs₃ | ⟨⟨e, rfl⟩, hended, hrejected⟩ := fetch_signedIn hprofile hws₃ hs₂
    · cases profile with
      | ok v => exact .inl (Client.signedIn_storeUser hs₃ v)
      | error e => exact .inl hs₃
    · exact .inr ⟨hended, hrejected⟩
  obtain hs | ⟨hended, hrejected⟩ := hend
  · obtain ⟨v, hv⟩ := hs.decodes
    have hpublished : (c₃.showProfile profile).session.user = some v := hd.user_eq.trans hv
    rw [hpublished] at hu
    cases hu
    exact .inl (hd.signedInAs hpublished)
  · rw [hended.user] at hu
    cases hu
    refine .inr ⟨⟨hended.entries, hended.user, hended.visits⟩, ?_, ?_⟩
    · rw [← List.append_assoc]
      exact hrejected.append _
    · exact ⟨_, e, a, answer.tokens, List.mem_append_left _ ha, hsuccess, .inl ⟨rfl, hdec⟩⟩

omit [Medium σ] in
theorem Task.done_ok_of_value? {ε : Type} {t : Task σ (Except ε α)}
    (h : t.value?.any (·.isOk) = true) : ∃ a, t = .done (.ok a) := by
  cases t with
  | act | dispatch | acquire => cases h
  | done x =>
    cases x with
    | error e => cases h
    | ok a => exact ⟨a, rfl⟩

/-- From any medium that opens, after every run of operations, a login goes on while all other tasks
rest: if it succeeds, its user is published and stored with a pair of tokens, or the profile call and
then the refresh token were rejected, the session is over, and the user is that of the sign-in
answer. -/
theorem Pool.run?_login_signedIn {m m' : σ} {s : Store σ} (hopen : openOn m = (.ok s, m'))
    {ms : List (Move σ Unit)} (hms : ∀ mv ∈ ms, mv.IsOperation) {p : Pool σ Unit}
    (hrun : Pool.run? ⟨.connect s, []⟩ ms = some p) {username password : String}
    {others : List (Task σ (Except AuthFailure User))} {q q' : Pool σ (Except AuthFailure User)}
    (hstart : Pool.move? ⟨p.client, others⟩ (.start (login username password)) = some q)
    {alone : List (Move σ (Except AuthFailure User))}
    (halone : ∀ mv ∈ alone, ∃ x, mv = .progress others.length x) (hrun' : q.run? alone = some q')
    {u : User} (hu : q'.tasks[others.length]? = some (.done (.ok u))) :
    q'.client.SignedInAs u ∨
      LoginUndone (q.history others.length q.client alone).1 u q'.client := by
  have hagrees : p.client.Agrees :=
    Pool.run?_stable Client.Agrees.stable (.connect (.openOn hopen)) hms hrun
  have htrack : Move.trackAll? others.length alone = some others.length := by
    refine Move.trackAll?_of_isProgress fun mv hmv => ?_
    obtain ⟨x, rfl⟩ := halone mv hmv
    cases x <;> trivial
  obtain ⟨v, hv, hcourse⟩ := start_course hstart hrun' htrack
  obtain ⟨hws, hlast⟩ := history_undisturbed halone hrun'
  obtain rfl := Option.some.inj (hv.symm.trans hu)
  rw [hlast] at hcourse
  exact login_leaves hcourse hws hagrees

/-- A login renews its token for the profile. -/
theorem Pool.run?_login_signedIn_renewed :
    let s : Store Memory := ⟨.empty, .ofEntries .empty⟩
    let p : Pool Memory Unit := ⟨.connect s, []⟩
    let start : Move Memory (Except AuthFailure User) := .start (login "alice" "secret")
    let alone : List (Move Memory (Except AuthFailure User)) :=
      [.reply 0 (.ok ⟨200, "\x7b\"user\":\x7b\"id\":1,\"role\":\"student\"\x7d," ++
          "\"tokens\":\x7b\"access\":\"A1\",\"refresh\":\"R1\"\x7d\x7d"⟩),
        .reply 0 (.ok ⟨401, ""⟩), .enter 0, .reply 0 (.ok ⟨200, "\x7b\"access\":\"A2\"\x7d"⟩),
        .reply 0 (.ok ⟨200, "\x7b\"user\":\x7b\"id\":1,\"role\":\"faculty\"\x7d\x7d"⟩)]
    openOn s.medium = (.ok s, s.medium) ∧ Pool.run? p [] = some p ∧
      (∀ mv ∈ alone, ∃ x, mv = .progress 0 x) ∧
      ∃ q q' u, Pool.move? ⟨p.client, []⟩ start = some q ∧ q.run? alone = some q' ∧
        q'.tasks[0]? = some (.done (.ok u)) ∧
        (q'.client.SignedInAs u ∨ LoginUndone (q.history 0 q.client alone).1 u q'.client) := by
  intro s p start alone
  have hopen : openOn s.medium = (.ok s, s.medium) := rfl
  have halone : ∀ mv ∈ alone, ∃ x, mv = .progress 0 x := by
    simp only [alone, List.forall_mem_cons]
    exact ⟨⟨some _, rfl⟩, ⟨some _, rfl⟩, ⟨none, rfl⟩, ⟨some _, rfl⟩, ⟨some _, rfl⟩, nofun⟩
  have hms : ∀ mv ∈ ([] : List (Move Memory Unit)), mv.IsOperation := nofun
  have hends : ((Pool.run? ⟨p.client, []⟩ (start :: alone)).bind (·.tasks[0]?)).any
      (·.value?.any (·.isOk)) = true := by decide +kernel
  obtain ⟨t, ht, hvalue⟩ := (Option.any_eq_true _ _).1 hends
  obtain ⟨q', hq', hget⟩ := Option.bind_eq_some_iff.1 ht
  obtain ⟨q, hstart, hrun⟩ := Option.bind_eq_some_iff.1 hq'
  obtain ⟨u, rfl⟩ := Task.done_ok_of_value? hvalue
  exact ⟨hopen, rfl, halone, q, q', u, hstart, hrun, hget,
    run?_login_signedIn hopen hms rfl hstart halone hrun hget⟩

/-- The profile call of a login is refused, and then the refresh token: the login succeeds, and nobody
is signed in. -/
theorem Pool.run?_login_rejected :
    let s : Store Memory := ⟨.empty, .ofEntries .empty⟩
    let ms : List (Move Memory (Except AuthFailure User)) :=
      [.start (login "alice" "secret"),
        .reply 0 (.ok ⟨200, "\x7b\"user\":\x7b\"id\":1,\"role\":\"student\"\x7d," ++
          "\"tokens\":\x7b\"access\":\"A1\",\"refresh\":\"R1\"\x7d\x7d"⟩),
        .reply 0 (.ok ⟨401, ""⟩), .enter 0, .reply 0 (.ok ⟨401, ""⟩)]
    openOn s.medium = (.ok s, s.medium) ∧
      ∃ q u, Pool.run? ⟨.connect s, []⟩ ms = some q ∧ q.tasks[0]? = some (.done (.ok u)) ∧
        q.client.session.user = none ∧ q.client.store.user = none ∧
        q.client.store.accessToken = none ∧ q.client.store.refreshToken = none := by
  intro s ms
  have hends : (Pool.run? ⟨.connect s, []⟩ ms).any (fun q =>
      q.tasks[0]?.any (·.value?.any (·.isOk)) && q.client.session.user.isNone &&
        q.client.store.user.isNone && q.client.store.accessToken.isNone &&
        q.client.store.refreshToken.isNone) = true := by decide +kernel
  obtain ⟨q, hrun, hend⟩ := (Option.any_eq_true _ _).1 hends
  simp only [Bool.and_eq_true, Option.isNone_iff_eq_none] at hend
  obtain ⟨⟨⟨⟨hvalue, hpublished⟩, hstored⟩, haccess⟩, hrefresh⟩ := hend
  obtain ⟨t, hget, hvalue⟩ := (Option.any_eq_true _ _).1 hvalue
  obtain ⟨u, rfl⟩ := Task.done_ok_of_value? hvalue
  exact ⟨rfl, q, u, hrun, hget, hpublished, hstored, haccess, hrefresh⟩

end SessionKeeper
