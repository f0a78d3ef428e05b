import SessionKeeper.Client.Operation
import SessionKeeper.Client.Recovery
import SessionKeeper.Proofs.Client.Steps

/-!
# What the operations keep

`Operation` lists what a program can start on a client. All operations are made of a few indivisible
changes; what those keep within a premise (`Client.Kept`) is upheld by every operation
(`Operation.upholds`), so it holds throughout every run of operations within the premise
(`Pool.run?_kept`). Where the change follows from an answer, the answer is at hand: it has just
arrived, and the client is as it found it. Changes that keep something whatever comes
(`Client.Stable`) need no premise (`Pool.run?_stable`).
-/

namespace SessionKeeper

variable {σ α : Type} [Medium σ]

/-- Something that a program can start on a client. -/
inductive Operation where
  | login (username password : String)
  | register (fields : RegisterRequest)
  | logout
  | updateUser (w : UserUpdate)
  | refreshProfile
  | updateProfile (w : UserUpdate)
  | resendVerification
  | send (r : Request)
  | renew (refused : Option String)
  | beginRecovery
  | leaveRecovery
  | submitRequest (username email : String)
  | submitCode (code : String)
  | submitPassword (new confirmation : String)

/-- What an operation ends with. -/
inductive Outcome where
  | user (r : Except AuthFailure User)
  | registration (r : Except AuthFailure Registration)
  | updated (u : Option User)
  | notice (r : Except AuthFailure String)
  | answer (r : Except ApiError Answer)
  | token (r : Except ApiError String)
  | recoveryNotice (r : Except RecoveryError String)
  | confirmed (r : Except RecoveryError Unit)
  /-- It cannot fail, and has nothing to tell. -/
  | unit

/-- What an operation does, and how what comes of it is told. -/
def Operation.body : Operation → (α : Type) × Task σ α × (α → Outcome)
  | .login username password => ⟨_, SessionKeeper.login username password, .user⟩
  | .register fields => ⟨_, SessionKeeper.register fields, .registration⟩
  | .logout => ⟨_, SessionKeeper.logout, fun _ => .unit⟩
  | .updateUser w => ⟨_, Task.update (Client.updateUser w), .updated⟩
  | .refreshProfile => ⟨_, SessionKeeper.refreshProfile, .user⟩
  | .updateProfile w => ⟨_, SessionKeeper.updateProfile w, .user⟩
  | .resendVerification => ⟨_, SessionKeeper.resendVerification, .notice⟩
  | .send r => ⟨_, SessionKeeper.send r, .answer⟩
  | .renew refused => ⟨_, SessionKeeper.renew refused, .token⟩
  | .beginRecovery => ⟨_, Task.modify Client.beginRecovery, fun _ => .unit⟩
  | .leaveRecovery => ⟨_, Task.modify Client.leaveRecovery, fun _ => .unit⟩
  | .submitRequest username email => ⟨_, Recovery.submitRequest username email, .recoveryNotice⟩
  | .submitCode code => ⟨_, Recovery.submitCode code, .confirmed⟩
  | .submitPassword new confirmation =>
    ⟨_, Recovery.submitPassword new confirmation, .recoveryNotice⟩

/-- The task of an operation; what it ends with is left aside. -/
def Operation.task (op : Operation) : Task σ Unit := discard op.body.2.1

/-- The task of an operation, with what it ends with. -/
def Operation.ending (op : Operation) : Task σ Outcome := op.body.2.2 <$> op.body.2.1

theorem Operation.task_logout : (Operation.logout.task : Task σ Unit) = SessionKeeper.logout :=
  Task.bind_done _

/-- The session shows the operation as outstanding while it runs. -/
def Operation.isTracked : Operation → Bool
  | .login _ _ | .register _ | .logout | .refreshProfile | .updateProfile _ => true
  | _ => false

/-- What the operation does when it is dropped, before it ceases to be outstanding. -/
def Operation.cleanup : Operation → Client σ → Client σ
  | .logout => Client.signOut
  | _ => id

/-- A move in which at most an operation starts. -/
def Move.IsOperation : Move σ Unit → Prop
  | .start t => ∃ op : Operation, t = op.task
  | _ => True

/-- The answer to the call signs that user in with those tokens. -/
def Answer.SignsIn (call : Call) (a : Answer) (u : User) (t : TokenPair) : Prop :=
  a.isSuccess = true ∧
    (call.path = Endpoint.login ∧ a.decode LoginAnswer.decoder = .ok ⟨u, t⟩ ∨
      call.path = Endpoint.registration ∧
        ∃ notice, a.decode RegisterAnswer.decoder = .ok ⟨u, t, notice⟩)

/-- The answer to the call shows the profile of that user. -/
def Answer.ShowsProfile (call : Call) (a : Answer) (u : User) : Prop :=
  a.isSuccess = true ∧ call.path = Endpoint.profile ∧ a.decode profileDecoder = .ok u

/-- A change that operations are made of. What is done upon an answer is done at once: the client is
as the answer found it. -/
inductive Client.Step : Option (Arrival σ) → Client σ → Client σ → Prop where
  | look {x : Option (Arrival σ)} {c : Client σ} : Step x c c
  | turn {x : Option (Arrival σ)} {c : Client σ} (b : Bool) : Step x c { c with renewing := b }
  | setError {x : Option (Arrival σ)} {c : Client σ} (m : String) :
    Step x c (c.post (·.setError m))
  | recovery {x : Option (Arrival σ)} {c : Client σ} (r : Recovery) :
    Step x c { c with recovery := r }
  /-- The recovery has ended, and a page is asked for. -/
  | leave {x : Option (Arrival σ)} {c : Client σ} (r : Recovery) (route : Route) :
    Step x c (({ c with recovery := r } : Client σ).visit route)
  | adoptLogin {call : Call} {c : Client σ} {a : Answer} {u : User} {t : TokenPair}
    (h : a.SignsIn call u t) : Step (some (call, c, .ok a)) c (Client.adoptLogin u t c).2
  | storeProfile {call : Call} {c : Client σ} {a : Answer} {u : User}
    (h : a.ShowsProfile call u) : Step (some (call, c, .ok a)) c (Client.storeUser u c).2
  | updateUser {x : Option (Arrival σ)} {c : Client σ} (w : UserUpdate) :
    Step x c (Client.updateUser w c).2
  | settleRenewal {c : Client σ} (sent : String) (a : Answer) :
    Step (some ((Renewal.request sent).call none, c, .ok a)) c (Client.settleRenewal sent a c).2
  | withoutRefreshToken {x : Option (Arrival σ)} {c : Client σ} (h : c.store.refreshToken = none) :
    Step x c c.withoutRefreshToken
  | signOut {x : Option (Arrival σ)} {c : Client σ} : Step x c c.signOut

/-! ## The changes of each operation -/

section

open SessionKeeper.Task

variable {x : Option (Arrival σ)} {c : Client σ} {g : Client σ → Client σ}

theorem stepwise_renewNow : renewNow.Stepwise Client.Step id x c fun _ _ _ => True := by
  refine .read .look ?_
  split
  next hnone => exact .update (.withoutRefreshToken hnone) trivial
  next token _ =>
    refine .bind (.ask fun c' r => ?_)
    cases r with
    | error fault => exact .pure trivial
    | ok answer => exact .update (.settleRenewal token answer) trivial

theorem stepwise_renew (refused : Option String) :
    (renew refused).Stepwise Client.Step id x c fun _ _ _ => True := by
  refine .exclusive (fun _ _ => .turn false) fun c' => .read .look ?_
  split
  · exact .pure trivial
  · exact .pure trivial
  · exact stepwise_renewNow

/-- The answer is a success, and has just come for a dispatch of the request. -/
def Request.Delivers (r : Request) (x : Option (Arrival σ)) (c : Client σ) (a : Answer) : Prop :=
  a.isSuccess = true ∧ ∃ bearer, x = some (r.call bearer, c, .ok a)

theorem stepwise_dispatchOnce (r : Request) :
    (dispatchOnce r).Stepwise Client.Step id x c fun o x' c' =>
      ∃ bearer, x' = some (r.call bearer, c', o.2) :=
  .read .look (.bind (.ask fun _ _ => .pure ⟨_, rfl⟩))

omit [Medium σ] in
theorem Request.Delivers.of_outcome {r : Request} {o : Reply} {a : Answer}
    (hx : ∃ bearer, x = some (r.call bearer, c, o)) (h : o.outcome = .ok a) : r.Delivers x c a := by
  cases o with
  | error fault => cases h
  | ok answer =>
    rw [Reply.outcome, Answer.outcome] at h
    split at h
    next hsuccess => cases h; exact ⟨hsuccess, hx⟩
    next => cases h

theorem stepwise_send (r : Request) :
    (send r).Stepwise Client.Step id x c fun o x' c' => ∀ a, o = .ok a → r.Delivers x' c' a := by
  refine .bind ((stepwise_dispatchOnce r).mono ?_)
  rintro ⟨token, reply⟩ x' c' hx'
  cases reply with
  | error fault => exact .pure nofun
  | ok answer =>
    simp only
    split
    · exact .pure fun a h => .of_outcome hx' h
    next hrefused =>
      refine .bind ((stepwise_renew token).mono fun renewed x'' c'' _ => ?_)
      cases renewed with
      | ok _ =>
        refine .bind ((stepwise_dispatchOnce r.retried).mono ?_)
        rintro ⟨_, reply⟩ y d hy
        exact .pure fun a h => .of_outcome hy h
      | error e =>
        refine .pure fun a h => ?_
        -- the refusal itself is no success
        have h401 : answer.status = 401 ∧ r.isRetry = false := by simpa using hrefused
        split at h
        · cases h
        · simp [Answer.outcome, Answer.isSuccess, h401.1] at h

theorem stepwise_fetch (dec : Json.Decoder α) (r : Request) :
    (fetch dec r).Stepwise Client.Step id x c fun o x' c' =>
      ∀ v, o = .ok v → ∃ a, a.decode dec = .ok v ∧ r.Delivers x' c' a := by
  refine .bind ((stepwise_send r).mono fun o x' c' ho => ?_)
  cases o with
  | ok answer => exact .pure fun v h => ⟨answer, h, ho answer rfl⟩
  | error e => exact .pure nofun

theorem stepwise_execute (r : Request) :
    (execute r).Stepwise Client.Step id x c fun _ _ _ => True := by
  refine .bind ((stepwise_send r).mono fun o _ _ _ => ?_)
  cases o <;> exact .pure trivial

theorem stepwise_failWith (f : AuthFailure) :
    (failWith f : Task σ (Except AuthFailure α)).Stepwise Client.Step g x c fun _ _ _ => True :=
  .bind (.modify (.setError f.error) (.pure trivial))

theorem stepwise_adopt {u : User} {t : TokenPair}
    (h : Client.Step x c (Client.adoptLogin u t c).2) :
    (adopt u t).Stepwise Client.Step g x c fun _ _ _ => True := by
  refine .bind (.update h ?_)
  cases (Client.adoptLogin u t c).1 with
  | ok _ => exact .pure trivial
  | error e => exact stepwise_failWith _

theorem stepwise_adoptProfile {u : User} (h : Client.Step x c (Client.storeUser u c).2) :
    (adoptProfile u).Stepwise Client.Step g x c fun _ _ _ => True := by
  refine .bind (.update h ?_)
  cases (Client.storeUser u c).1 with
  | some _ => exact .pure trivial
  | none => exact stepwise_failWith _

/-- The task is outstanding from its beginning to its end, and otherwise makes no changes but those
that operations are made of. -/
def Task.IsOutstanding (g : Client σ → Client σ) (t : Task σ α) : Prop :=
  ∃ b : Task σ α, t = b.tracked ∧ b.Proceeds Client.Step g

theorem login_isOutstanding (username password : String) :
    (login username password : Task σ _).IsOutstanding id := by
  refine ⟨_, rfl, fun x c => .bind ((stepwise_fetch _ _).mono fun o x' c' ho => ?_)⟩
  cases o with
  | error e => exact stepwise_failWith _
  | ok answer =>
    obtain ⟨a, hdec, hsuccess, bearer, rfl⟩ := ho answer rfl
    refine .bind ((stepwise_adopt (.adoptLogin ⟨hsuccess, .inl ⟨rfl, hdec⟩⟩)).mono ?_)
    intro adopted y d _
    cases adopted with
    | error f => exact .pure trivial
    | ok _ =>
      refine .bind ((stepwise_fetch _ _).mono fun profile y' d' hprofile => ?_)
      cases profile with
      | error _ => exact .read .look (.pure trivial)
      | ok profile =>
        obtain ⟨a, hdec, hsuccess, bearer, rfl⟩ := hprofile profile rfl
        exact .bind (.update (.storeProfile ⟨hsuccess, rfl, hdec⟩) (.read .look (.pure trivial)))

theorem register_isOutstanding (fields : RegisterRequest) :
    (register fields : Task σ _).IsOutstanding id := by
  refine ⟨_, rfl, fun x c => .bind ((stepwise_fetch _ _).mono fun o x' c' ho => ?_)⟩
  cases o with
  | error e => exact stepwise_failWith _
  | ok answer =>
    obtain ⟨a, hdec, hsuccess, bearer, rfl⟩ := ho answer rfl
    refine .bind ((stepwise_adopt (.adoptLogin ⟨hsuccess, .inr ⟨rfl, _, hdec⟩⟩)).mono ?_)
    intro adopted y d _
    cases adopted <;> exact .pure trivial

/-- What a logout does before it clears the store. -/
def farewell : Task σ Unit := do
  let token := (← Task.read).store.refreshToken
  let _ ← execute ((Request.post Endpoint.logout).sending (LogoutRequest.mk token))
  return ()

theorem stepwise_farewell : farewell.Stepwise Client.Step id x c fun _ _ _ => True :=
  .read .look (.bind ((stepwise_execute _).mono fun _ _ _ _ => .pure trivial))

theorem logout_isOutstanding : (logout : Task σ _).IsOutstanding Client.signOut :=
  ⟨farewell.guarded Client.signOut, rfl, fun _ _ =>
    .guarded (fun _ h => h.comp Client.signOut) (fun _ _ => .signOut) stepwise_farewell⟩

/-- The profile that a request brings is adopted. -/
theorem adoptFetched_isOutstanding (r : Request) (hpath : r.path = Endpoint.profile)
    (fallback : String) :
    (Task.tracked do
      match ← fetch profileDecoder r with
      | .ok profile => adoptProfile profile
      | .error e => fail e fallback : Task σ (Except AuthFailure User)).IsOutstanding id := by
  refine ⟨_, rfl, fun x c => .bind ((stepwise_fetch _ _).mono fun o x' c' ho => ?_)⟩
  cases o with
  | error e => exact stepwise_failWith _
  | ok profile =>
    obtain ⟨a, hdec, hsuccess, bearer, rfl⟩ := ho profile rfl
    exact stepwise_adoptProfile (.storeProfile ⟨hsuccess, hpath, hdec⟩)

theorem stepwise_resendVerification :
    resendVerification.Stepwise Client.Step id x c fun _ _ _ => True := by
  refine .bind ((stepwise_fetch _ _).mono fun o _ _ _ => ?_)
  cases o <;> exact .pure trivial

theorem stepwise_recoveryFailure (e : RecoveryError) :
    (Recovery.failWith e : Task σ (Except RecoveryError α)).Stepwise Client.Step g x c
      fun _ _ _ => True :=
  .bind (.modify (.recovery _) (.pure trivial))

theorem stepwise_submitRequest (username email : String) :
    (Recovery.submitRequest username email).Stepwise Client.Step id x c fun _ _ _ => True := by
  refine .read .look ?_
  split
  · refine .bind (.modify (.recovery _) (.bind ((stepwise_fetch _ _).mono fun o _ _ _ => ?_)))
    cases o with
    | ok notice => exact .bind (.modify (.recovery _) (.pure trivial))
    | error e => exact stepwise_recoveryFailure _
  · exact .pure trivial

theorem stepwise_submitCode (code : String) :
    (Recovery.submitCode code).Stepwise Client.Step id x c fun _ _ _ => True := by
  refine .read .look ?_
  split
  · simp only
    generalize Recovery.normalizeCode code = code
    split
    · exact stepwise_recoveryFailure _
    · refine .bind (.modify (.recovery _) (.bind ((stepwise_execute _).mono fun o _ _ _ => ?_)))
      cases o with
      | ok _ => exact .bind (.modify (.recovery _) (.pure trivial))
      | error e => exact stepwise_recoveryFailure _
  · exact .pure trivial

theorem stepwise_submitPassword (new confirmation : String) :
    (Recovery.submitPassword new confirmation).Stepwise Client.Step id x c fun _ _ _ => True := by
  refine .read .look ?_
  split
  · split
    · exact stepwise_recoveryFailure _
    · split
      · exact stepwise_recoveryFailure _
      · refine .bind (.modify (.recovery _) (.bind ((stepwise_fetch _ _).mono fun o _ _ _ => ?_)))
        cases o with
        | ok notice => exact .bind (.modify (.leave _ _) (.pure trivial))
        | error e => exact stepwise_recoveryFailure _
  · exact .pure trivial

end

/-- A tracked operation is outstanding from its beginning to its end. -/
theorem Operation.isOutstanding {op : Operation} (h : op.isTracked = true) :
    ∃ (α : Type) (t : Task σ α), op.task = discard t ∧ t.IsOutstanding op.cleanup := by
  cases op with
  | login username password => exact ⟨_, _, rfl, login_isOutstanding username password⟩
  | register fields => exact ⟨_, _, rfl, register_isOutstanding fields⟩
  | logout => exact ⟨_, _, rfl, logout_isOutstanding⟩
  | refreshProfile =>
    exact ⟨_, _, rfl, adoptFetched_isOutstanding (.get Endpoint.profile) rfl _⟩
  | updateProfile w =>
    exact ⟨_, _, rfl, adoptFetched_isOutstanding ((Request.put Endpoint.profile).sending w) rfl _⟩
  | updateUser | resendVerification | send | renew | beginRecovery | leaveRecovery | submitRequest
  | submitCode | submitPassword => cases h

/-- Any other operation is never outstanding. -/
theorem Operation.proceeds {op : Operation} (h : op.isTracked = false) :
    (op.task : Task σ Unit).Proceeds Client.Step id := by
  intro x c
  cases op with
  | updateUser w => exact .map (.update (.updateUser w) trivial)
  | resendVerification => exact .map stepwise_resendVerification
  | send r => exact .map ((stepwise_send r).mono fun _ _ _ _ => trivial)
  | renew refused => exact .map (stepwise_renew refused)
  | beginRecovery | leaveRecovery => exact .modify (.recovery _) trivial
  | submitRequest username email => exact .map (stepwise_submitRequest username email)
  | submitCode code => exact .map (stepwise_submitCode code)
  | submitPassword new confirmation => exact .map (stepwise_submitPassword new confirmation)
  | login | register | logout | refreshProfile | updateProfile => cases h

/-! ## Within a premise -/

/-- Within the premise, the invariant is kept by each indivisible change that operations are made
of. -/
structure Client.Kept (P : Premise σ) (I : Client σ → Prop) : Prop where
  turn : IgnoresTurn I
  begin : ∀ c, I c → I (c.post Board.begin)
  finish : ∀ c, I c → I (c.post Board.finish)
  setError : ∀ c m, I c → I (c.post (·.setError m))
  recovery : ∀ c r, I c → I { c with recovery := r }
  visit : ∀ c r, I c → I (c.visit r)
  adoptLogin : ∀ c call a u t, I c → P.reply call c (.ok a) → a.SignsIn call u t →
    P.change c (Client.adoptLogin u t c).2 → I (Client.adoptLogin u t c).2
  storeProfile : ∀ c call a u, I c → P.reply call c (.ok a) → a.ShowsProfile call u →
    P.change c (Client.storeUser u c).2 → I (Client.storeUser u c).2
  updateUser : ∀ c w, I c → P.change c (Client.updateUser w c).2 → I (Client.updateUser w c).2
  settleRenewal : ∀ c sent a, I c → P.reply ((Renewal.request sent).call none) c (.ok a) →
    P.change c (Client.settleRenewal sent a c).2 → I (Client.settleRenewal sent a c).2
  withoutRefreshToken : ∀ c, I c → c.store.refreshToken = none →
    P.change c c.withoutRefreshToken → I c.withoutRefreshToken
  signOut : ∀ c, I c → P.change c c.signOut → I c.signOut
  dropSignOut : Task.Cleanup P I ((·.post Board.finish) ∘ Client.signOut)

variable {P : Premise σ} {I : Client σ → Prop}

namespace Client.Kept

open SessionKeeper.Task

variable {c : Client σ} {g : Client σ → Client σ}

theorem step (H : Kept P I) {x : Option (Arrival σ)} {d : Client σ} (hstep : Step x c d)
    (hx : P.Admits x) (hc : I c) (hchange : P.change c d) : I d := by
  cases hstep with
  | look => exact hc
  | turn b => exact H.turn c b hc
  | setError m => exact H.setError c m hc
  | recovery r => exact H.recovery c r hc
  | leave r route => exact H.visit _ route (H.recovery c r hc)
  | adoptLogin h => exact H.adoptLogin c _ _ _ _ hc (hx _ rfl) h hchange
  | storeProfile h => exact H.storeProfile c _ _ _ hc (hx _ rfl) h hchange
  | updateUser w => exact H.updateUser c w hc hchange
  | settleRenewal sent a => exact H.settleRenewal c sent a hc (hx _ rfl) hchange
  | withoutRefreshToken hnone => exact H.withoutRefreshToken c hc hnone hchange
  | signOut => exact H.signOut c hc hchange

theorem ensures (H : Kept P I) {t : Task σ α} {Q : α → Option (Arrival σ) → Client σ → Prop}
    (ht : t.Stepwise Step g none c Q) (hc : I c) :
    t.Ensures P I g c fun a c' => I c' ∧ ∃ x, P.Admits x ∧ Q a x c' :=
  ht.ensures H.turn (fun _ _ _ hstep hx hc hchange => H.step hstep hx hc hchange) .none hc

/-- The answer is a success, and has just come for a dispatch of the request. -/
def Delivered (P : Premise σ) (r : Request) (c : Client σ) (a : Answer) : Prop :=
  a.isSuccess = true ∧ ∃ bearer, P.reply (r.call bearer) c (.ok a)

theorem ensures_fetch (H : Kept P I) (dec : Json.Decoder α) (r : Request) (hc : I c) :
    (fetch dec r).Ensures P I id c fun o c' =>
      I c' ∧ ∀ v, o = .ok v → ∃ a, a.decode dec = .ok v ∧ Delivered P r c' a := by
  refine (H.ensures (stepwise_fetch dec r) hc).mono ?_
  rintro o c' ⟨hc', x, hx, ho⟩
  refine ⟨hc', fun v h => ?_⟩
  obtain ⟨a, hdec, hsuccess, bearer, rfl⟩ := ho v h
  exact ⟨a, hdec, hsuccess, bearer, hx _ rfl⟩

theorem ensures_outstanding (H : Kept P I) {t : Task σ α} (ht : t.IsOutstanding g) (hc : I c) :
    t.Ensures P I ((·.post Board.finish) ∘ g) c fun _ => I := by
  obtain ⟨b, rfl, hb⟩ := ht
  exact .tracked ((H.ensures (hb none _) (H.begin c hc)).mono fun _ c' h => H.finish c' h.1)

theorem ensures_login (H : Kept P I) (username password : String) (hc : I c) :
    (login username password).Ensures P I ((·.post Board.finish) ∘ id) c fun _ => I :=
  H.ensures_outstanding (login_isOutstanding username password) hc

theorem dropped (H : Kept P I) (op : Operation) :
    Task.Cleanup P I ((·.post Board.finish) ∘ op.cleanup) := by
  cases op with
  | logout => exact H.dropSignOut
  | _ => exact fun c b hc _ => H.finish _ (H.turn c b hc)

end Client.Kept

/-- What the indivisible changes keep, every operation upholds. -/
theorem Operation.upholds (H : Client.Kept P I) (op : Operation) :
    (op.task : Task σ Unit).Upholds P I := by
  cases h : op.isTracked with
  | true =>
    obtain ⟨α, t, htask, ht⟩ := Operation.isOutstanding (σ := σ) h
    rw [htask]
    exact ⟨_, H.dropped op, fun c hc => .map (H.ensures_outstanding ht hc)⟩
  | false =>
    exact ⟨id, fun c b hc _ => H.turn c b hc,
      fun c hc => (H.ensures (Operation.proceeds h none c) hc).mono fun _ _ h => h.1⟩

/-- What the indivisible changes keep within a premise holds after every run of operations within it
from a client alone. -/
theorem Pool.run?_kept (H : Client.Kept P I) {c : Client σ} (hc : I c) {ms : List (Move σ Unit)}
    (hms : ∀ m ∈ ms, m.IsOperation)
    (hreplies : ∀ x ∈ Pool.replies ⟨c, []⟩ ms, P.reply x.1 x.2.1 x.2.2)
    (hchanges : ∀ x ∈ Pool.changes ⟨c, []⟩ ms, P.change x.1 x.2) {p : Pool σ Unit}
    (h : Pool.run? ⟨c, []⟩ ms = some p) : I p.client := by
  have hstart : (⟨c, []⟩ : Pool σ Unit).Upheld P I := ⟨hc, nofun⟩
  refine (hstart.run (fun m hm => ?_) hreplies hchanges h).client
  cases m with
  | start t =>
    obtain ⟨op, rfl⟩ := hms _ hm
    exact op.upholds H
  | reply | enter | cancel => trivial

/-! ## Without a premise -/

/-- The property is kept by each indivisible change that operations are made of, whatever comes. -/
structure Client.Stable (I : Client σ → Prop) : Prop where
  turn : IgnoresTurn I
  begin : ∀ c, I c → I (c.post Board.begin)
  finish : ∀ c, I c → I (c.post Board.finish)
  setError : ∀ c m, I c → I (c.post (·.setError m))
  adoptLogin : ∀ c u t, I c → I (Client.adoptLogin u t c).2
  storeUser : ∀ c u, I c → I (Client.storeUser u c).2
  settleRenewal : ∀ c sent a, I c → I (Client.settleRenewal sent a c).2
  withoutRefreshToken : ∀ c, I c → I c.withoutRefreshToken
  signOut : ∀ c, I c → I c.signOut
  recovery : ∀ c r, I c → I { c with recovery := r }
  visit : ∀ c r, I c → I (c.visit r)

theorem Client.Stable.kept (H : Client.Stable I) : Client.Kept P I where
  turn := H.turn
  begin := H.begin
  finish := H.finish
  setError := H.setError
  recovery := H.recovery
  visit := H.visit
  adoptLogin c _ _ u t hc _ _ _ := H.adoptLogin c u t hc
  storeProfile c _ _ u hc _ _ _ := H.storeUser c u hc
  updateUser c w hc _ := by
    rw [Client.updateUser]
    split
    · exact H.storeUser c _ hc
    · exact hc
  settleRenewal c sent a hc _ _ := H.settleRenewal c sent a hc
  withoutRefreshToken c hc _ _ := H.withoutRefreshToken c hc
  signOut c hc _ := H.signOut c hc
  dropSignOut c b hc _ := H.finish _ (H.signOut _ (H.turn c b hc))

/-- What the indivisible changes keep holds after every run of operations from a client alone. -/
theorem Pool.run?_stable (H : Client.Stable I) {c : Client σ} (hc : I c) {ms : List (Move σ Unit)}
    (hms : ∀ m ∈ ms, m.IsOperation) {p : Pool σ Unit} (h : Pool.run? ⟨c, []⟩ ms = some p) :
    I p.client :=
  have hkept : Client.Kept .any I := H.kept
  Pool.run?_kept hkept hc hms (fun _ _ => trivial) (fun _ _ => trivial) h

end SessionKeeper
