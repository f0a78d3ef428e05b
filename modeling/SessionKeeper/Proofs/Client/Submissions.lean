import SessionKeeper.Client.Recovery
import SessionKeeper.Proofs.Client.Interception

/-!
# Submissions of a password recovery

A submission is one request between two changes of the recovery. A request alone leaves the recovery
as it is, wherever it stands and also when it is dropped (`Request.Carried.spared`), so in the course of
a submission the recovery is moved on by its last change or not at all. What others do meanwhile makes
no difference as long as they leave the recovery to who drives it (`KeepRecovery`).
-/

namespace SessionKeeper

variable {σ α β : Type}

/-- Nobody else changed the recovery during the waits. -/
def KeepRecovery (ws : List (Wait σ)) : Prop := ∀ w ∈ ws, w.ended.recovery = w.began.recovery

theorem KeepRecovery.tail {w : Wait σ} {ws : List (Wait σ)} (H : KeepRecovery (w :: ws)) :
    KeepRecovery ws := fun w' h => H w' (List.mem_cons_of_mem w h)

/-- A task that began at the client `c` and stands at `u` now has left the recovery as it was, and will
if it is dropped. -/
structure Task.Spared (c : Client σ) (u : Task σ α) (d : Client σ) : Prop where
  recovery : d.recovery = c.recovery
  drop : ∀ d', (u.drop d').recovery = d'.recovery

namespace Task

theorem drop_bind {v : Task σ α} {f : α → Task σ β} (hv : v.IsWaiting) (d : Client σ) :
    (v >>= f).drop d = v.drop d := by
  cases v with
  | done | act => cases hv
  | dispatch | acquire => rfl

theorem drop_map (f : α → β) (v : Task σ α) (d : Client σ) : (f <$> v).drop d = v.drop d := by
  cases v <;> rfl

theorem calls_map (f : α → β) (ws : List (Wait σ)) (v : Task σ α) (d : Client σ) :
    calls ws (f <$> v) d = calls ws v d := by
  cases v <;> rfl

theorem Spared.bind {c d : Client σ} {v : Task σ α} (H : Spared c v d) (hv : v.IsWaiting)
    (f : α → Task σ β) : Spared c (v >>= f) d :=
  ⟨H.recovery, fun d' => (congrArg _ (drop_bind hv d')).trans (H.drop d')⟩

theorem Spared.map {c d : Client σ} {v : Task σ α} (H : Spared c v d) (f : α → β) :
    Spared c (f <$> v) d :=
  ⟨H.recovery, fun d' => (congrArg _ (drop_map f v d')).trans (H.drop d')⟩

end Task

/-! ## Requests -/

section

variable [Medium σ] {c d : Client σ} {ws : List (Wait σ)} {r : Request}

theorem Client.recovery_withoutRefreshToken (c : Client σ) :
    c.withoutRefreshToken.recovery = c.recovery := by
  rw [withoutRefreshToken]
  split <;> rfl

theorem Client.recovery_settleReply (sent : String) (x : Reply) (c : Client σ) :
    (c.settleReply sent x).2.recovery = c.recovery := by
  cases x with
  | error fault => rfl
  | ok a =>
    change (settleRenewal sent a c).2.recovery = c.recovery
    obtain ⟨_, _, _, _, _, _, _, h⟩ | ⟨_, _, _, _, _, h⟩ | ⟨_, _, _, _, _, h⟩ | ⟨_, _, h⟩ :=
      settleRenewal_cases sent a c <;> rw [h] <;> rfl

theorem Renewal.Stands.spared {refused : Option String} {u : Task σ (Except ApiError String)}
    (H : Stands refused c ws u d) (hws : KeepRecovery ws) : Task.Spared c u d := by
  cases H with
  | queued => exact ⟨rfl, fun _ => rfl⟩
  | reuse | gone | calling => exact ⟨hws _ List.mem_cons_self, fun _ => rfl⟩
  | lacking =>
    exact ⟨(Client.recovery_withoutRefreshToken _).trans (hws _ List.mem_cons_self), fun _ => rfl⟩
  | answered =>
    have hreply := hws.tail _ List.mem_cons_self
    exact ⟨(Client.recovery_settleReply _ _ _).trans (hreply.trans (hws _ List.mem_cons_self)),
      fun _ => rfl⟩

theorem Request.Stands.spared {u : Task σ (Except ApiError Answer)} (H : r.Stands c ws u d)
    (hws : KeepRecovery ws) : Task.Spared c u d := by
  cases H with
  | out => exact ⟨rfl, fun _ => rfl⟩
  | answered => exact ⟨hws _ List.mem_cons_self, fun _ => rfl⟩
  | renewing _ H hv =>
    have hrenewal := H.renewal.spared hws.tail
    exact ⟨hrenewal.recovery.trans (hws _ List.mem_cons_self), (hrenewal.bind hv _).drop⟩
  | refused _ H | resent _ H =>
    have hrenewal := H.renewal.spared hws.tail
    exact ⟨hrenewal.recovery.trans (hws _ List.mem_cons_self), fun _ => rfl⟩
  | resentAnswered _ H =>
    obtain ⟨hrenew, hlast⟩ := List.forall_mem_append.1 hws.tail
    have hrenewal := H.renewal.spared hrenew
    have hresent := hlast _ (List.mem_singleton.2 rfl)
    exact ⟨hresent.trans (hrenewal.recovery.trans (hws _ List.mem_cons_self)), fun _ => rfl⟩

/-- In the course of a task that sends a request, the recovery was left alone, only the request and
renewals were dispatched, and a good end follows from a success of the request. -/
structure Request.Carried (r : Request) (c : Client σ) (ws : List (Wait σ))
    (u : Task σ (Except ApiError α)) (d : Client σ) : Prop where
  spared : KeepRecovery ws → Task.Spared c u d
  calls : ∀ x ∈ Task.calls ws u d,
    (∃ bearer, x.1 = r.call bearer) ∨ x.1.path = Renewal.endpoint
  answered : ∀ b, u = .done (.ok b) → ∃ bearer began ended a,
    .reply (r.call bearer) began ended (.ok a) ∈ ws ∧ a.isSuccess = true

theorem Reply.eq_of_outcome {x : Reply} {a : Answer} (h : x.outcome = .ok a) :
    x = .ok a ∧ a.isSuccess = true := by
  cases x with
  | error fault => cases h
  | ok a' =>
    rw [Reply.outcome, Answer.outcome] at h
    split at h
    next hsuccess =>
      cases h
      exact ⟨rfl, hsuccess⟩
    next => cases h

theorem Request.carried {u : Task σ (Except ApiError Answer)} (H : (send r).Course c ws u d) :
    r.Carried c ws u d where
  spared := H.request.spared
  calls := by
    obtain ⟨asked, again, hdispatched, _⟩ := H.request.dispatched
    intro x hx
    obtain h | ⟨sent, h⟩ := hdispatched.made x hx
    · exact .inl h
    · exact .inr (h ▸ rfl)
  answered := by
    rintro a rfl
    generalize hx : (.ok a : Except ApiError Answer) = x at H
    cases H.request.comesTo with
    | answered _ hws =>
      obtain ⟨rfl, hsuccess⟩ := Reply.eq_of_outcome hx.symm
      exact ⟨_, _, _, a, by rw [hws]; exact List.mem_cons_self, hsuccess⟩
    | passing | refused => cases hx
    | resent _ hws =>
      obtain ⟨rfl, hsuccess⟩ := Reply.eq_of_outcome hx.symm
      exact ⟨_, _, _, a, List.mem_of_getLast? hws, hsuccess⟩

omit [Medium σ] in
theorem Request.Carried.map {v : Task σ (Except ApiError α)} (H : r.Carried c ws v d)
    {f : Except ApiError α → Except ApiError β} (hf : ∀ e b, f (.error e) ≠ .ok b) :
    r.Carried c ws (f <$> v) d where
  spared hws := (H.spared hws).map f
  calls := by
    rw [Task.calls_map]
    exact H.calls
  answered b hb := by
    cases v with
    | act | dispatch | acquire => cases hb
    | done x =>
      cases x with
      | error e => exact absurd (Task.done.inj hb) (hf e b)
      | ok a => exact H.answered a rfl

theorem fetch_eq (dec : Json.Decoder α) (r : Request) :
    (fetch dec r : Task σ _) = (·.bind (Answer.decode dec)) <$> send r := by
  refine congrArg _ (funext fun x => ?_)
  cases x <;> rfl

theorem execute_eq (r : Request) : (execute r : Task σ _) = (·.map fun _ => ()) <$> send r := by
  refine congrArg _ (funext fun x => ?_)
  cases x <;> rfl

theorem fetch_carried {dec : Json.Decoder α} {u : Task σ (Except ApiError α)}
    (H : (fetch dec r).Course c ws u d) : r.Carried c ws u d := by
  rw [fetch_eq] at H
  obtain ⟨v, hv, rfl⟩ := H.map_cases
  exact (Request.carried hv).map nofun

theorem execute_carried {u : Task σ (Except ApiError Unit)} (H : (execute r).Course c ws u d) :
    r.Carried c ws u d := by
  rw [execute_eq] at H
  obtain ⟨v, hv, rfl⟩ := H.map_cases
  exact (Request.carried hv).map nofun

end

/-! ## Submissions -/

namespace Recovery

/-- A submission that began at the step `s` is still there or has moved on, has dispatched such calls
and renewals, and leaves the recovery alone if it is dropped. -/
structure Submitted (s : RecoveryStep) (ws : List (Wait σ)) (u : Task σ β) (d : Client σ)
    (made : Call → Prop) (moved : Prop) : Prop where
  step : d.recovery.step = s ∨ moved
  drop : ∀ d', (u.drop d').recovery = d'.recovery
  calls : ∀ x ∈ Task.calls ws u d, made x.1 ∨ x.1.path = Renewal.endpoint

variable {c d : Client σ} {ws : List (Wait σ)} {made : Call → Prop} {moved : Prop}

theorem Submitted.silent (x : β) (hstep : d.recovery.step = c.recovery.step) :
    Submitted c.recovery.step [] (.done x) d made moved :=
  ⟨.inl hstep, fun _ => rfl, List.forall_mem_nil _⟩

theorem Submitted.mono {s : RecoveryStep} {u : Task σ β} {made' : Call → Prop} {moved' : Prop}
    (H : Submitted s ws u d made moved) (hmade : ∀ call, made call → made' call)
    (hmoved : moved → moved') : Submitted s ws u d made' moved' where
  step := H.step.imp_right hmoved
  drop := H.drop
  calls x hx := (H.calls x hx).imp_left (hmade x.1)

theorem Submitted.map {α : Type} {s : RecoveryStep} {v : Task σ α}
    (H : Submitted s ws v d made moved) (f : α → β) : Submitted s ws (f <$> v) d made moved where
  step := H.step
  drop d' := (congrArg _ (Task.drop_map f v d')).trans (H.drop d')
  calls := by
    rw [Task.calls_map]
    exact H.calls

/-- What a submission does when its request has ended. -/
def conclude (fallback : String) (advance : Client σ → Client σ) :
    Except ApiError α → Task σ (Except RecoveryError α)
  | .ok b => .act advance fun _ => .done (.ok b)
  | .error e => failWith (.ofApi e fallback)

theorem Submitted.of_carried {r : Request} {t : Task σ (Except ApiError α)}
    {k : Except ApiError α → Task σ (Except RecoveryError α)} {u : Task σ (Except RecoveryError α)}
    (fallback : String) (advance : Client σ → Client σ) (H : (t >>= k).Course c ws u d)
    (hws : KeepRecovery ws)
    (ht : ∀ {ws v d}, t.Course c ws v d → r.Carried c ws v d)
    (hk : ∀ x, k x = conclude fallback advance x) (hmade : ∀ bearer, made (r.call bearer))
    (hok : ∀ b c', u = .done (.ok b) → d = advance c' →
      (∃ bearer began ended a,
        .reply (r.call bearer) began ended (.ok a) ∈ ws ∧ a.isSuccess = true) → moved) :
    Submitted c.recovery.step ws u d made moved := by
  have hcalls : ∀ {ws v d}, t.Course c ws v d → ∀ x ∈ Task.calls ws v d,
      made x.1 ∨ x.1.path = Renewal.endpoint := fun hv x hx => by
    obtain ⟨bearer, h⟩ | h := (ht hv).calls x hx
    · exact .inl (h ▸ hmade bearer)
    · exact .inr h
  obtain ⟨v, hv, hwait, rfl⟩ | ⟨x, ws₁, ws₂, c', rfl, hx, H⟩ := H.bind_cases
  · have hspared := (ht hv).spared hws
    refine ⟨.inl (congrArg Recovery.step hspared.recovery), (hspared.bind hwait k).drop, ?_⟩
    intro x hx
    exact hcalls hv x (Task.calls_context (Task.Context.id.bind k) hwait _ _ ▸ hx)
  · have hspared := (ht hx).spared (List.forall_mem_append.1 hws).1
    have hstep := congrArg Recovery.step hspared.recovery
    rw [hk] at H
    cases x with
    | error e =>
      obtain ⟨rfl, rfl, rfl⟩ := H
      rw [List.append_nil]
      exact ⟨.inl hstep, fun _ => rfl, hcalls hx⟩
    | ok b =>
      obtain ⟨rfl, rfl, rfl⟩ := H
      rw [List.append_nil] at hok ⊢
      exact ⟨.inr (hok b c' rfl rfl ((ht hx).answered b rfl)), fun _ => rfl, hcalls hx⟩

variable [Medium σ]

theorem submitRequest_course {username email : String} {u : Task σ (Except RecoveryError String)}
    (H : (submitRequest username email).Course c ws u d) (hws : KeepRecovery ws) :
    Submitted c.recovery.step ws u d (fun call => call.path = Endpoint.forgotPassword)
      (d.recovery.step = .verify (Text.trim username) ∧ ∃ notice, u = .done (.ok notice)) := by
  rw [submitRequest, Task.Course.read] at H
  split at H
  · refine Submitted.of_carried (c := c.showingError none) "Failed to send reset code"
      (·.atStep (.verify (Text.trim username))) H hws fetch_carried ?_ (fun _ => rfl) ?_
    · intro x
      cases x <;> rfl
    · rintro notice c' rfl rfl _
      exact ⟨rfl, notice, rfl⟩
  · obtain ⟨rfl, rfl, rfl⟩ := H
    exact .silent _ rfl

/-- The request that has a code confirmed. -/
def codeRequest (username code : String) : Request :=
  (Request.post Endpoint.verifyCode).sending (VerifyCodeRequest.mk username code)

theorem submitCode_course {code : String} {u : Task σ (Except RecoveryError Unit)}
    (H : (submitCode code).Course c ws u d) (hws : KeepRecovery ws) :
    Submitted c.recovery.step ws u d (fun call => call.path = Endpoint.verifyCode)
      (∃ username, c.recovery.step = .verify username ∧
        d.recovery.step = .reset username (normalizeCode code) ∧ normalizeCode code ≠ "" ∧
        ∃ bearer began ended a,
          .reply ((codeRequest username (normalizeCode code)).call bearer) began ended (.ok a) ∈ ws ∧
            a.isSuccess = true) := by
  rw [submitCode, Task.Course.read] at H
  split at H
  next username hstep =>
    simp only at H
    split at H
    next =>
      obtain ⟨rfl, rfl, rfl⟩ := H
      exact .silent _ rfl
    next hcode =>
      refine Submitted.of_carried (c := c.showingError none) "Invalid reset code"
        (·.atStep (.reset username (normalizeCode code))) H hws execute_carried ?_ (fun _ => rfl) ?_
      · intro x
        cases x <;> rfl
      · rintro _ c' rfl rfl hreply
        exact ⟨username, hstep, rfl, fun h => hcode (String.isEmpty_iff.2 h), hreply⟩
  next =>
    obtain ⟨rfl, rfl, rfl⟩ := H
    exact .silent _ rfl

/-- The request that sets a password. -/
def passwordRequest (username code new : String) : Request :=
  (Request.post Endpoint.resetPassword).sending (ResetPasswordRequest.mk username code new new)

theorem submitPassword_course {new repeated : String} {u : Task σ (Except RecoveryError String)}
    (H : (submitPassword new repeated).Course c ws u d) (hws : KeepRecovery ws) :
    Submitted c.recovery.step ws u d
      (fun call => repeated = new ∧ 6 ≤ new.length ∧ ∃ username code bearer,
        c.recovery.step = .reset username code ∧ call = (passwordRequest username code new).call bearer)
      (d.recovery.step = .idle) := by
  rw [submitPassword, Task.Course.read] at H
  split at H
  next username code hstep =>
    split at H
    next =>
      obtain ⟨rfl, rfl, rfl⟩ := H
      exact .silent _ rfl
    next hlength =>
      split at H
      next =>
        obtain ⟨rfl, rfl, rfl⟩ := H
        exact .silent _ rfl
      next hsame =>
        obtain rfl : new = repeated := Decidable.of_not_not hsame
        refine Submitted.of_carried (c := c.showingError none) "Failed to reset password"
          (fun c => (c.atStep .idle).visit (.login (some resetNotice))) H hws fetch_carried ?_ ?_ ?_
        · intro x
          cases x <;> rfl
        · exact fun bearer =>
            ⟨rfl, Nat.le_of_not_lt hlength, username, code, bearer, hstep, rfl⟩
        · rintro _ c' rfl rfl _
          rfl
  next =>
    obtain ⟨rfl, rfl, rfl⟩ := H
    exact .silent _ rfl

end Recovery

end SessionKeeper
