import SessionKeeper.Proofs.Client.Scripted

/-!
# How an operation on the account ends

The operations that sign in and those that keep the profile up to date each send one request, and each
can fail in several ways, before and after the backend has accepted it. Their courses are taken apart
here, from the end of the request on: `SignIn.Ends` and `ProfileOperation.Ends` have one case for each way
out, with the client that it leaves.
-/

namespace SessionKeeper

open Store

variable {σ α β : Type} [Medium σ] {c d : Client σ} {ws : List (Wait σ)}

/-! ## The parts of an operation -/

/-- A profile could not be stored. -/
def AuthFailure.notSignedIn : AuthFailure := .ofMessage "Not signed in"

theorem Client.Agrees.adopting (H : c.Agrees) {u : User} {t : TokenPair} {m : σ}
    (hsave : Medium.save (withLogin c.store.entries u t) c.store.medium = (.ok (), m)) :
    (c.adopting u t m).Agrees := by
  obtain ⟨m', hsave', h⟩ | ⟨e, m', hsave', _⟩ := Client.adoptLogin_cases u t c
  · cases hsave.symm.trans hsave'
    have hadopted : (Client.adoptLogin u t c).2.Agrees := H.adoptLogin u t
    rwa [h] at hadopted
  · cases hsave.symm.trans hsave'

namespace Task.Course

/-- What follows an adoption finds the login stored and published, or its failure on the board. -/
theorem adopt_bind {u : User} {t : TokenPair} {k : Except AuthFailure Unit → Task σ β} {b : β}
    (H : (SessionKeeper.adopt u t >>= k).Course c ws (.done b) d) :
    (∃ m, Medium.save (withLogin c.store.entries u t) c.store.medium = (.ok (), m) ∧
      (k (.ok ())).Course (c.adopting u t m) ws (.done b) d) ∨
    ∃ e m, Medium.save (withLogin c.store.entries u t) c.store.medium = (.error e, m) ∧
      (k (.error (.unstored e))).Course ((c.holding c.store.entries m).failing (.unstored e)) ws
        (.done b) d := by
  obtain ⟨adopted, ws₁, ws₂, c₁, rfl, hadopt, hafter⟩ := H.bind_done
  obtain ⟨rfl, ⟨m, hsave, rfl, rfl⟩ | ⟨e, m, hsave, rfl, rfl⟩⟩ := hadopt.adopt
  · exact .inl ⟨m, hsave, hafter⟩
  · exact .inr ⟨e, m, hsave, hafter⟩

/-- A profile is stored and published, or the operation fails with what was stored before. -/
theorem adoptProfile {u : User} {o : Except AuthFailure User}
    (H : (SessionKeeper.adoptProfile u).Course c ws (.done o) d) :
    ws = [] ∧ ((∃ m, isComplete c.store.entries = true ∧ o = .ok u ∧
        d = (c.holding (c.store.entries.insert userKey u.text) m).post (·.setUser (some u))) ∨
      ∃ m, o = .error .notSignedIn ∧ d = (c.holding c.store.entries m).failing .notSignedIn) := by
  rw [SessionKeeper.adoptProfile, Task.Course.update] at H
  obtain ⟨_, h⟩ | ⟨m, hcomplete, _, h⟩ | ⟨e, m, _, _, h⟩ := Client.storeUser_cases u c
  · rw [h] at H
    obtain ⟨rfl, hresult, rfl⟩ := H
    cases hresult
    exact ⟨rfl, .inr ⟨c.store.medium, rfl, rfl⟩⟩
  · rw [h] at H
    obtain ⟨rfl, hresult, rfl⟩ := H
    cases hresult
    exact ⟨rfl, .inl ⟨m, hcomplete, rfl, rfl⟩⟩
  · rw [h] at H
    obtain ⟨rfl, hresult, rfl⟩ := H
    cases hresult
    exact ⟨rfl, .inr ⟨m, rfl, rfl⟩⟩

end Task.Course

/-! ## Signing in -/

/-- The operations that sign in, with what they return. -/
inductive SignIn : Type → Type where
  | login (username password : String) : SignIn User
  | register (fields : RegisterRequest) : SignIn Registration

namespace SignIn

def task : SignIn α → Task σ (Except AuthFailure α)
  | .login username password => SessionKeeper.login username password
  | .register fields => SessionKeeper.register fields

def request : SignIn α → Request
  | .login username password =>
    (Request.post Endpoint.login).sending (LoginRequest.mk username password)
  | .register fields => (Request.post Endpoint.registration).sending fields

/-- The message of a failure that the backend does not explain. -/
def fallback : SignIn α → String
  | .login .. => "Login failed"
  | .register _ => "Registration failed. Please try again."

/-- The user and the tokens of an answer. -/
def decode : SignIn α → Answer → Except ApiError (User × TokenPair)
  | .login .., a => (a.decode LoginAnswer.decoder).map fun v => (v.user, v.tokens)
  | .register _, a => (a.decode RegisterAnswer.decoder).map fun v => (v.user, v.tokens)

def user : SignIn α → α → User
  | .login .., u => u
  | .register _, r => r.user

/-- A login goes on after it is adopted. -/
def IsLogin : SignIn α → Prop
  | .login .. => True
  | .register _ => False

/-- How a sign-in ends that is outstanding at the client `c`. -/
inductive Ends (op : SignIn α) (c : Client σ) (ws : List (Wait σ)) :
    Except AuthFailure α → Client σ → Prop where
  /-- No answer was had that decodes. -/
  | refused {d : Client σ} {x : Except ApiError Answer} {e : ApiError}
    (H : op.request.Stands c ws (.done x) d) (hx : x.bind op.decode = .error e) :
    Ends op c ws (.error (.ofApi e op.fallback)) (d.failing (.ofApi e op.fallback))
  | unsaved {d : Client σ} {x : Except ApiError Answer} {u : User} {t : TokenPair} {e : StoreError}
    {m : σ} (H : op.request.Stands c ws (.done x) d) (hx : x.bind op.decode = .ok (u, t))
    (hsave : Medium.save (withLogin d.store.entries u t) d.store.medium = (.error e, m)) :
    Ends op c ws (.error (.unstored e)) ((d.holding d.store.entries m).failing (.unstored e))
  | adopted {ws₁ ws₂ : List (Wait σ)} {c₁ d : Client σ} {x : Except ApiError Answer} {u : User}
    {t : TokenPair} {m : σ} {a : α} (hws : ws = ws₁ ++ ws₂)
    (H : op.request.Stands c ws₁ (.done x) c₁)
    (hsave : Medium.save (withLogin c₁.store.entries u t) c₁.store.medium = (.ok (), m))
    (hnotices : c₁.SameNotices d)
    (hshown : op.IsLogin ∨ op.user a = u ∧ d = c₁.adopting u t m) : Ends op c ws (.ok a) d

end SignIn

theorem Client.sameNotices_storeUser (c : Client σ) (u : User) :
    c.SameNotices (storeUser u c).2 := by
  obtain ⟨_, h⟩ | ⟨m, _, _, h⟩ | ⟨e, m, _, _, h⟩ := storeUser_cases u c
  all_goals
    rw [h]
    exact ⟨rfl, rfl⟩

/-- A sign-in sends its request, adopts what the answer grants, and goes on if that could be saved. -/
theorem SignIn.Ends.of_course {op : SignIn α} {dec : Json.Decoder β} (granted : β → User × TokenPair)
    {k : Except ApiError β → Task σ (Except AuthFailure α)}
    {k' : β → Except AuthFailure Unit → Task σ (Except AuthFailure α)} {o : Except AuthFailure α}
    (hdecode : ∀ a, op.decode a = (a.decode dec).map granted)
    (hfail : ∀ e, k (.error e) = fail e op.fallback)
    (hadopt : ∀ v, k (.ok v) = adopt (granted v).1 (granted v).2 >>= k' v)
    (hunsaved : ∀ v f, k' v (.error f) = pure (.error f))
    (H : (fetch dec op.request >>= k).Course c ws (.done o) d)
    (hnext : ∀ v c₁ ws₁ ws₂ x m, ws = ws₁ ++ ws₂ → op.request.Stands c ws₁ (.done x) c₁ →
      Medium.save (withLogin c₁.store.entries (granted v).1 (granted v).2) c₁.store.medium =
        (.ok (), m) →
      (k' v (.ok ())).Course (c₁.adopting (granted v).1 (granted v).2 m) ws₂ (.done o) d →
      ∃ a, o = .ok a ∧ c₁.SameNotices d ∧
        (op.IsLogin ∨ op.user a = (granted v).1 ∧ d = c₁.adopting (granted v).1 (granted v).2 m)) :
    op.Ends c ws o d := by
  obtain ⟨x, ws₁, ws₂, c₁, rfl, hstands, hafter⟩ := H.fetch_bind
  -- the fetch decodes all of the answer, and the operation only what is granted
  have hx' : x.bind op.decode = (x.bind (·.decode dec)).map granted := by
    cases x with
    | error e => rfl
    | ok a => exact hdecode a
  cases hx : x.bind (·.decode dec) with
  | error e =>
    rw [hx] at hafter hx'
    rw [hfail] at hafter
    obtain ⟨rfl, h, rfl⟩ := hafter
    cases h
    rw [List.append_nil]
    exact .refused hstands hx'
  | ok v =>
    rw [hx] at hafter hx'
    rw [hadopt] at hafter
    obtain ⟨m, hsave, hrest⟩ | ⟨e, m, hsave, hrest⟩ := hafter.adopt_bind
    · obtain ⟨a, rfl, hnotices, hshown⟩ := hnext v c₁ ws₁ ws₂ x m rfl hstands hsave hrest
      exact .adopted rfl hstands hsave hnotices hshown
    · rw [hunsaved] at hrest
      obtain ⟨rfl, h, rfl⟩ := hrest
      cases h
      rw [List.append_nil]
      exact .unsaved hstands hx' hsave

theorem login_ends {username password : String} {o : Except AuthFailure User} (hc : c.Agrees)
    (hws : Undisturbed ws) (H : (login username password).Course c ws (.done o) d) :
    ∃ d', (SignIn.login username password).Ends (c.post Board.begin) ws o d' ∧
      d = d'.post Board.finish := by
  obtain ⟨d', hbody, rfl⟩ := H.guarded_done
  refine ⟨d', .of_course (fun v => (v.user, v.tokens)) (fun _ => rfl) (fun _ => rfl) (fun _ => rfl)
    (fun _ _ => rfl) hbody ?_, rfl⟩
  rintro v c₁ ws₁ ws₂ x m rfl hstands hsave hrest
  -- the profile call begins at a client that agrees, so it puts nothing on the board
  change (fetch profileDecoder (.get Endpoint.profile) >>= _).Course _ _ _ _ at hrest
  obtain ⟨y, ws₃, ws₄, c₂, rfl, hprofile, hlast⟩ := hrest.fetch_bind
  obtain ⟨hws₁, hws₂⟩ := undisturbed_append.1 hws
  have hbegun : (c.post Board.begin).Agrees := Client.Agrees.stable.begin c hc
  have hc₁ : c₁.Agrees := (hstands.leaves hws₁ hbegun).1.agrees hbegun
  obtain ⟨_, hnotices⟩ := hprofile.leaves (undisturbed_append.1 hws₂).1 (hc₁.adopting hsave)
  cases hy : y.bind (·.decode profileDecoder) with
  | error e =>
    rw [hy] at hlast
    obtain ⟨rfl, h, rfl⟩ := hlast
    cases h
    exact ⟨_, rfl, ⟨hnotices.pending, hnotices.error⟩, .inl trivial⟩
  | ok u =>
    rw [hy] at hlast
    obtain ⟨rfl, h, rfl⟩ := hlast
    cases h
    have hstored := Client.sameNotices_storeUser c₂ u
    exact ⟨_, rfl, ⟨hstored.pending.trans hnotices.pending, hstored.error.trans hnotices.error⟩,
      .inl trivial⟩

theorem register_ends {fields : RegisterRequest} {o : Except AuthFailure Registration}
    (H : (register fields).Course c ws (.done o) d) :
    ∃ d', (SignIn.register fields).Ends (c.post Board.begin) ws o d' ∧ d = d'.post Board.finish := by
  obtain ⟨d', hbody, rfl⟩ := H.guarded_done
  refine ⟨d', .of_course (fun v => (v.user, v.tokens)) (fun _ => rfl) (fun _ => rfl) (fun _ => rfl)
    (fun _ _ => rfl) hbody ?_, rfl⟩
  rintro v c₁ ws₁ ws₂ x m rfl hstands hsave hrest
  obtain ⟨rfl, h, rfl⟩ := hrest
  cases h
  exact ⟨_, rfl, ⟨rfl, rfl⟩, .inr ⟨rfl, rfl⟩⟩

theorem SignIn.ends (op : SignIn α) {o : Except AuthFailure α} (hc : c.Agrees)
    (hws : Undisturbed ws) (H : op.task.Course c ws (.done o) d) :
    ∃ d', op.Ends (c.post Board.begin) ws o d' ∧ d = d'.post Board.finish := by
  cases op with
  | login username password => exact login_ends hc hws H
  | register fields => exact register_ends H

/-! ## Keeping the profile -/

/-- The operations that keep the profile up to date. -/
inductive ProfileOperation where
  | refresh
  | update (w : UserUpdate)

namespace ProfileOperation

def task : ProfileOperation → Task σ (Except AuthFailure User)
  | .refresh => refreshProfile
  | .update w => updateProfile w

def request : ProfileOperation → Request
  | .refresh => .get Endpoint.profile
  | .update w => (Request.put Endpoint.profile).sending w

def fallback : ProfileOperation → String
  | .refresh => "Could not load profile"
  | .update _ => "Profile update failed"

/-- How an operation on the profile ends that is outstanding at the client `c`. -/
inductive Ends (op : ProfileOperation) (c : Client σ) (ws : List (Wait σ)) :
    Except AuthFailure User → Client σ → Prop where
  | refused {d : Client σ} {x : Except ApiError Answer} {e : ApiError}
    (H : op.request.Stands c ws (.done x) d) (hx : x.bind (·.decode profileDecoder) = .error e) :
    Ends op c ws (.error (.ofApi e op.fallback)) (d.failing (.ofApi e op.fallback))
  | unstored {d : Client σ} {x : Except ApiError Answer} {m : σ}
    (H : op.request.Stands c ws (.done x) d) :
    Ends op c ws (.error .notSignedIn) ((d.holding d.store.entries m).failing .notSignedIn)
  | adopted {d : Client σ} {x : Except ApiError Answer} {u : User} {m : σ}
    (H : op.request.Stands c ws (.done x) d) (hcomplete : isComplete d.store.entries = true) :
    Ends op c ws (.ok u)
      ((d.holding (d.store.entries.insert userKey u.text) m).post (·.setUser (some u)))

/-- Both operations do the same with the answer to their request. -/
theorem task_eq (op : ProfileOperation) :
    (op.task : Task σ _) = Task.tracked (fetch profileDecoder op.request >>= fun
      | .ok profile => adoptProfile profile
      | .error e => fail e op.fallback) := by
  cases op <;> rfl

theorem ends (op : ProfileOperation) {o : Except AuthFailure User}
    (H : op.task.Course c ws (.done o) d) :
    ∃ d', op.Ends (c.post Board.begin) ws o d' ∧ d = d'.post Board.finish := by
  rw [task_eq] at H
  obtain ⟨d', hbody, rfl⟩ := H.guarded_done
  obtain ⟨x, ws₁, ws₂, c₁, rfl, hstands, hafter⟩ := hbody.fetch_bind
  refine ⟨d', ?_, rfl⟩
  cases hx : x.bind (·.decode profileDecoder) with
  | error e =>
    rw [hx] at hafter
    obtain ⟨rfl, h, rfl⟩ := hafter
    cases h
    rw [List.append_nil]
    exact .refused hstands hx
  | ok u =>
    rw [hx] at hafter
    obtain ⟨rfl, ⟨m, hcomplete, rfl, rfl⟩ | ⟨m, rfl, rfl⟩⟩ := Task.Course.adoptProfile hafter
    · rw [List.append_nil]
      exact .adopted hstands hcomplete
    · rw [List.append_nil]
      exact .unstored hstands

end ProfileOperation

end SessionKeeper
