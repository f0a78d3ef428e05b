import SessionKeeper.Proofs.Client.RenamedClient

/-!
# Tasks in step

Two tasks are in step when they do the same to two clients of which one has its tokens renamed, make the
same calls but for the tokens, and stay in step whenever both get the same reply but for the tokens
(`Task.Twin`). Every operation is in step with itself, for it only passes tokens on and compares them.
-/

namespace SessionKeeper

variable {σ α β γ δ : Type} {ρ : String → String} {R : σ → σ → Prop}

/-! ## Two tasks in step -/

namespace Task

/-- Two tasks that do the same to clients whose tokens are renamed, make the same calls with the tokens
renamed, and go on in step after replies with the tokens renamed; their values are related by `A`. -/
inductive Twin (ρ : String → String) (R : σ → σ → Prop) (A : α → β → Prop) :
    Task σ α → Task σ β → Prop where
  | done {a : α} {b : β} (h : A a b) : Twin ρ R A (.done a) (.done b)
  | act {f f' : Client σ → Client σ} {next : Client σ → Task σ α} {next' : Client σ → Task σ β}
    (hf : ∀ c c', c.Renames ρ R c' → (f c).Renames ρ R (f' c'))
    (hnext : ∀ c c', c.Renames ρ R c' → Twin ρ R A (next c) (next' c')) :
    Twin ρ R A (.act f next) (.act f' next')
  | dispatch {call : Call} {f f' : Client σ → Client σ} {next : Reply → Task σ α}
    {next' : Reply → Task σ β} (hf : ∀ c c', c.Renames ρ R c' → (f c).Renames ρ R (f' c'))
    (hnext : ∀ r r', r.Renames ρ call.path r' → Twin ρ R A (next r) (next' r')) :
    Twin ρ R A (.dispatch call f next) (.dispatch (call.renamed ρ) f' next')
  | acquire {f f' : Client σ → Client σ} {next : Task σ α} {next' : Task σ β}
    (hf : ∀ c c', c.Renames ρ R c' → (f c).Renames ρ R (f' c')) (hnext : Twin ρ R A next next') :
    Twin ρ R A (.acquire f next) (.acquire f' next')

namespace Twin

variable {A : α → β → Prop} {B : γ → δ → Prop}

theorem pure {a : α} {b : β} (h : A a b) :
    Twin ρ R A (Pure.pure a : Task σ α) (Pure.pure b : Task σ β) := .done h

theorem bind {t : Task σ α} {t' : Task σ β} {f : α → Task σ γ} {f' : β → Task σ δ}
    (H : Twin ρ R A t t') (hf : ∀ a b, A a b → Twin ρ R B (f a) (f' b)) :
    Twin ρ R B (t >>= f) (t' >>= f') := by
  change Twin ρ R B (t.bind f) (t'.bind f')
  induction H with
  | done h => exact hf _ _ h
  | act hchange _ ih => exact .act hchange ih
  | dispatch hdrop _ ih => exact .dispatch hdrop ih
  | acquire hdrop _ ih => exact .acquire hdrop ih

theorem map {t : Task σ α} {t' : Task σ β} {f : α → γ} {f' : β → δ} (H : Twin ρ R A t t')
    (hf : ∀ a b, A a b → B (f a) (f' b)) : Twin ρ R B (f <$> t) (f' <$> t') :=
  H.bind fun a b h => .pure (hf a b h)

theorem read {f : Client σ → Task σ α} {f' : Client σ → Task σ β}
    (H : ∀ c c', c.Renames ρ R c' → Twin ρ R A (f c) (f' c')) :
    Twin ρ R A (Task.read >>= f) (Task.read >>= f') := .act (fun _ _ h => h) H

theorem update {f : Client σ → α × Client σ} {f' : Client σ → β × Client σ}
    (hf : ∀ c c', c.Renames ρ R c' → A (f c).1 (f' c').1 ∧ (f c).2.Renames ρ R (f' c').2) :
    Twin ρ R A (Task.update f) (Task.update f') :=
  .act (fun c c' h => (hf c c' h).2) fun c c' h => .done (hf c c' h).1

theorem ask (call : Call) :
    Twin ρ R (Reply.Renames ρ call.path) (Task.ask call : Task σ Reply)
      (Task.ask (call.renamed ρ)) :=
  .dispatch (fun _ _ h => h) fun _ _ h => .done h

theorem guarded {t : Task σ α} {t' : Task σ β} {g g' : Client σ → Client σ} (H : Twin ρ R A t t')
    (hg : ∀ c c', c.Renames ρ R c' → (g c).Renames ρ R (g' c')) :
    Twin ρ R A (t.guarded g) (t'.guarded g') := by
  induction H with
  | done h => exact .act hg fun _ _ _ => .done h
  | act hchange _ ih => exact .act hchange ih
  | dispatch hdrop _ ih => exact .dispatch (fun c c' h => hg _ _ (hdrop c c' h)) ih
  | acquire hdrop _ ih => exact .acquire (fun c c' h => hg _ _ (hdrop c c' h)) ih

theorem exclusive {t : Task σ α} {t' : Task σ β} (H : Twin ρ R A t t') :
    Twin ρ R A t.exclusive t'.exclusive :=
  .acquire (fun _ _ h => h) (H.guarded fun _ _ h => h.turn false)

theorem tracked {t : Task σ α} {t' : Task σ β} (H : Twin ρ R A t t') :
    Twin ρ R A t.tracked t'.tracked :=
  .act (fun _ _ h => h.post Board.begin) fun _ _ _ => H.guarded fun _ _ h => h.post Board.finish

theorem settle {t : Task σ α} {t' : Task σ β} (H : Twin ρ R A t t') {c c' : Client σ}
    (hc : c.Renames ρ R c') : Twin ρ R A (t.settle c).1 (t'.settle c').1 ∧
      (t.settle c).2.Renames ρ R (t'.settle c').2 := by
  induction H generalizing c c' with
  | done h => exact ⟨.done h, hc⟩
  | act hchange _ ih => exact ih c c' hc (hchange c c' hc)
  | dispatch hdrop hnext => exact ⟨.dispatch hdrop hnext, hc⟩
  | acquire hdrop hnext => exact ⟨.acquire hdrop hnext, hc⟩

theorem drop {t : Task σ α} {t' : Task σ β} (H : Twin ρ R A t t') {c c' : Client σ}
    (hc : c.Renames ρ R c') : (t.drop c).Renames ρ R (t'.drop c') := by
  cases H with
  | done | act => exact hc
  | dispatch hdrop _ | acquire hdrop _ => exact hdrop c c' hc

end Twin

/-- The two tasks are in step and end with the same value. -/
abbrev InStep (ρ : String → String) (R : σ → σ → Prop) (t t' : Task σ α) : Prop :=
  Twin ρ R (fun a b => b = a) t t'

namespace InStep

theorem bind {B : β → γ → Prop} {t t' : Task σ α} {f : α → Task σ β} {f' : α → Task σ γ}
    (H : InStep ρ R t t') (hf : ∀ a, Twin ρ R B (f a) (f' a)) :
    Twin ρ R B (t >>= f) (t' >>= f') := Twin.bind H fun a _ h => h ▸ hf a

theorem update {f f' : Client σ → α × Client σ}
    (hf : ∀ c c', c.Renames ρ R c' → (f' c').1 = (f c).1 ∧ (f c).2.Renames ρ R (f' c').2) :
    InStep ρ R (Task.update f) (Task.update f') := Twin.update hf

theorem modify {f f' : Client σ → Client σ}
    (hf : ∀ c c', c.Renames ρ R c' → (f c).Renames ρ R (f' c')) :
    InStep ρ R (Task.modify f) (Task.modify f') := .act hf fun _ _ _ => .done rfl

end InStep

end Task

/-! ## Requests in step -/

/-- What is planned, with the token renamed. -/
def Renewal.renamed (ρ : String → String) : Renewal → Renewal
  | .reuse token => .reuse (ρ token)
  | .gone => .gone
  | .due => .due

theorem Renewal.plan_renamed (hρ : ρ.Injective) (stored refused : Option String) :
    plan (stored.map ρ) (refused.map ρ) = (plan stored refused).renamed ρ := by
  cases stored with
  | none => cases refused <;> rfl
  | some token =>
    cases refused with
    | none => rfl
    | some refused =>
      simp only [plan, Option.map_some, hρ.eq_iff]
      split <;> rfl

/-- Two requests fail alike, or both succeed, with answers that issue tokens renamed. -/
inductive Answered (ρ : String → String) (path : String) :
    Except ApiError Answer → Except ApiError Answer → Prop where
  | ok {a a' : Answer} (hsuccess : a.isSuccess = true) (h : a.Renames ρ path a') :
    Answered ρ path (.ok a) (.ok a')
  | error (e : ApiError) : Answered ρ path (.error e) (.error e)

theorem Answer.Renames.outcome {path : String} {a a' : Answer} (H : a.Renames ρ path a') :
    Answered ρ path a.outcome a'.outcome := by
  rw [Answer.outcome, Answer.outcome, H.isSuccess_eq]
  cases h : a.isSuccess with
  | true => exact .ok h H
  | false =>
    obtain rfl := H.eq_of_failure h
    exact .error _

theorem Reply.Renames.outcome {path : String} {r r' : Reply} (H : r.Renames ρ path r') :
    Answered ρ path r.outcome r'.outcome := by
  cases H with
  | ok h => exact Answer.Renames.outcome h
  | error f => exact .error _

section

open SessionKeeper.Task

theorem twin_dispatchOnce (r : Request) :
    Twin ρ R (fun o o' => o'.1 = o.1.map ρ ∧ o.2.Renames ρ r.path o'.2)
      (dispatchOnce r : Task σ _) (dispatchOnce (r.renamed ρ)) := by
  refine .read fun c c' hc => ?_
  simp only [hc.store.accessToken_eq, ← Request.call_renamed]
  exact .bind (.ask (r.call c.store.accessToken)) fun _ _ h => .pure ⟨rfl, h⟩

variable [Medium σ] (hR : Medium.Mirrors ρ R) (hρ : ρ.Injective)

include hR hρ

theorem twin_renewNow : Twin ρ R (fun o o' => o' = o.map ρ) (renewNow : Task σ _) renewNow := by
  refine .read fun c c' hc => ?_
  rw [hc.store.refreshToken_eq]
  cases c.store.refreshToken with
  | none => exact .update fun c c' hc => ⟨rfl, hc.withoutRefreshToken hR⟩
  | some token =>
    refine .bind (.ask ((Renewal.request token).call none)) fun r r' hr => ?_
    cases hr with
    | error f => exact .pure rfl
    | ok ha => exact .update fun c c' hc => hc.settleRenewal hR hρ token ha

theorem twin_renew (refused : Option String) :
    Twin ρ R (fun o o' => o' = o.map ρ) (renew refused : Task σ _) (renew (refused.map ρ)) := by
  refine .exclusive (.read fun c c' hc => ?_)
  rw [hc.store.accessToken_eq, Renewal.plan_renamed hρ]
  cases Renewal.plan c.store.accessToken refused with
  | reuse token => exact .pure rfl
  | gone => exact .pure rfl
  | due => exact twin_renewNow hR hρ

theorem twin_send (r : Request) :
    Twin ρ R (Answered ρ r.path) (send r : Task σ _) (send (r.renamed ρ)) := by
  refine .bind (twin_dispatchOnce r) ?_
  rintro ⟨token, reply⟩ ⟨_, reply'⟩ ⟨rfl, hreply⟩
  cases hreply with
  | error f => exact .pure (.error _)
  | @ok a a' ha =>
    simp only [ha.status]
    change Twin ρ R (Answered ρ r.path) (if (a.status ≠ 401 || r.isRetry) = true then _ else _)
      (if (a.status ≠ 401 || r.isRetry) = true then _ else _)
    split
    · exact .pure ha.outcome
    · refine .bind (twin_renew hR hρ token) ?_
      rintro renewed _ rfl
      cases renewed with
      | ok _ =>
        refine .bind (twin_dispatchOnce r.retried) ?_
        rintro ⟨_, reply⟩ ⟨_, reply'⟩ ⟨rfl, hreply⟩
        exact .pure hreply.outcome
      | error e =>
        refine .pure ?_
        split
        · exact .error e
        · exact ha.outcome

/-- A request whose answer decodes to the renamed record. -/
theorem twin_fetch {dec : Json.Decoder α} {f : α → α} (r : Request)
    (hdec : ∀ a a', a.isSuccess = true → Answer.Renames ρ r.path a a' →
      a'.decode dec = (a.decode dec).map f) :
    Twin ρ R (fun o o' => o' = o.map f) (fetch dec r : Task σ _) (fetch dec (r.renamed ρ)) := by
  refine .bind (twin_send hR hρ r) fun o o' ho => ?_
  cases ho with
  | ok hsuccess h => exact .pure (hdec _ _ hsuccess h)
  | error e => exact .pure rfl

theorem twin_execute (r : Request) :
    InStep ρ R (execute r : Task σ _) (execute (r.renamed ρ)) := by
  refine Twin.bind (twin_send hR hρ r) fun o o' ho => ?_
  cases ho <;> exact .pure rfl

/-- A request without a token in its body, whose answer issues none. -/
theorem twin_fetch_plain (dec : Json.Decoder α) (r : Request)
    (hpath : r.path ∉ Endpoint.tokenBearing) :
    InStep ρ R (fetch dec r : Task σ _) (fetch dec r) := by
  have hid : Except.map (id : α → α) = (id : Except ApiError α → _) := Except.map_id
  have hdec : ∀ a a', a.isSuccess = true → Answer.Renames ρ r.path a a' →
      a'.decode dec = (a.decode dec).map id := fun a a' _ ha => by
    rw [ha.eq_of_path hpath, hid]
    rfl
  have H := twin_fetch hR hρ r hdec
  rwa [Request.renamed_eq (tokenMember?_eq_none hpath), hid] at H

theorem twin_execute_plain (r : Request) (hpath : r.path ∉ Endpoint.tokenBearing) :
    InStep ρ R (execute r : Task σ _) (execute r) := by
  have H := twin_execute hR hρ r
  rwa [Request.renamed_eq (tokenMember?_eq_none hpath)] at H

/-! ## Operations in step -/

omit [Medium σ] hR hρ in
theorem twin_failWith (f : AuthFailure) :
    InStep ρ R (failWith f : Task σ (Except AuthFailure α)) (failWith f) :=
  (InStep.modify fun _ _ hc => hc.post (·.setError f.error)).bind fun _ => .pure rfl

omit hρ in
theorem twin_adopt (u : User) (t : TokenPair) :
    InStep ρ R (adopt u t : Task σ _) (adopt u (t.renamed ρ)) := by
  refine (InStep.update fun c c' hc => hc.adoptLogin hR u t).bind fun r => ?_
  cases r with
  | ok _ => exact .pure rfl
  | error e => exact twin_failWith _

omit hρ in
theorem twin_adoptProfile (u : User) :
    InStep ρ R (adoptProfile u : Task σ _) (adoptProfile u) := by
  refine (InStep.update fun c c' hc => hc.storeUser hR u).bind fun r => ?_
  cases r with
  | some _ => exact .pure rfl
  | none => exact twin_failWith _

theorem twin_login (username password : String) :
    InStep ρ R (login username password : Task σ _) (login username password) := by
  refine .tracked (.bind (twin_fetch hR hρ _ fun a a' hs ha => ha.decode_login hs) ?_)
  rintro o _ rfl
  cases o with
  | error e => exact twin_failWith _
  | ok answer =>
    refine (twin_adopt hR answer.user answer.tokens).bind fun adopted => ?_
    cases adopted with
    | error f => exact .pure rfl
    | ok _ =>
      refine (twin_fetch_plain hR hρ profileDecoder (.get Endpoint.profile) (by decide)).bind
        fun profile => ?_
      cases profile with
      | error _ => exact .read fun c c' hc => .pure (by rw [hc.session_eq])
      | ok profile =>
        refine (InStep.update fun c c' hc => hc.storeUser hR profile).bind fun _ => ?_
        exact .read fun c c' hc => .pure (by rw [hc.session_eq])

theorem twin_register (fields : RegisterRequest) :
    InStep ρ R (register fields : Task σ _) (register fields) := by
  refine .tracked (.bind (twin_fetch hR hρ _ fun a a' hs ha => ha.decode_registration hs) ?_)
  rintro o _ rfl
  cases o with
  | error e => exact twin_failWith _
  | ok answer =>
    refine (twin_adopt hR answer.user answer.tokens).bind fun adopted => ?_
    cases adopted <;> exact .pure rfl

theorem twin_logout : InStep ρ R (logout : Task σ _) logout := by
  refine .tracked (.guarded (.read fun c c' hc => ?_) fun _ _ hc => hc.signOut hR)
  have H := twin_execute hR hρ
    ((Request.post Endpoint.logout).sending (LogoutRequest.mk c.store.refreshToken))
  rw [logout_renamed] at H
  rw [hc.store.refreshToken_eq]
  exact H.bind fun _ => .pure rfl

theorem twin_adoptFetched (r : Request) (hpath : r.path ∉ Endpoint.tokenBearing)
    (fallback : String) :
    InStep ρ R
      (Task.tracked do
        match ← fetch profileDecoder r with
        | .ok profile => adoptProfile profile
        | .error e => fail e fallback : Task σ (Except AuthFailure User))
      (Task.tracked do
        match ← fetch profileDecoder r with
        | .ok profile => adoptProfile profile
        | .error e => fail e fallback) := by
  refine .tracked ((twin_fetch_plain hR hρ profileDecoder r hpath).bind fun o => ?_)
  cases o with
  | ok profile => exact twin_adoptProfile hR profile
  | error e => exact twin_failWith _

theorem twin_resendVerification :
    InStep ρ R (resendVerification : Task σ _) resendVerification := by
  refine (twin_fetch_plain hR hρ messageDecoder (.post Endpoint.verification) (by decide)).bind
    fun o => ?_
  cases o <;> exact .pure rfl

omit [Medium σ] hR hρ in
theorem twin_recoveryFailure (e : RecoveryError) :
    InStep ρ R (Recovery.failWith e : Task σ (Except RecoveryError α)) (Recovery.failWith e) :=
  (InStep.modify fun _ _ hc => hc.showingError (some e.message)).bind fun _ => .pure rfl

theorem twin_submitRequest (username email : String) :
    InStep ρ R (Recovery.submitRequest username email : Task σ _)
      (Recovery.submitRequest username email) := by
  refine .read fun c c' hc => ?_
  rw [hc.recovery]
  split
  · refine (InStep.modify fun _ _ hc => hc.showingError none).bind fun _ => ?_
    have hpath : Endpoint.forgotPassword ∉ Endpoint.tokenBearing := by decide
    refine InStep.bind (twin_fetch_plain hR hρ _ _ hpath) fun o => ?_
    cases o with
    | ok notice => exact (InStep.modify fun _ _ hc => hc.atStep _).bind fun _ => .pure rfl
    | error e => exact twin_recoveryFailure _
  · exact .pure rfl

theorem twin_submitCode (code : String) :
    InStep ρ R (Recovery.submitCode code : Task σ _) (Recovery.submitCode code) := by
  refine .read fun c c' hc => ?_
  rw [hc.recovery]
  split
  · simp only
    generalize Recovery.normalizeCode code = code
    split
    · exact twin_recoveryFailure _
    · refine (InStep.modify fun _ _ hc => hc.showingError none).bind fun _ => ?_
      have hpath : Endpoint.verifyCode ∉ Endpoint.tokenBearing := by decide
      refine InStep.bind (twin_execute_plain hR hρ _ hpath) fun o => ?_
      cases o with
      | ok _ => exact (InStep.modify fun _ _ hc => hc.atStep _).bind fun _ => .pure rfl
      | error e => exact twin_recoveryFailure _
  · exact .pure rfl

theorem twin_submitPassword (new confirmation : String) :
    InStep ρ R (Recovery.submitPassword new confirmation : Task σ _)
      (Recovery.submitPassword new confirmation) := by
  refine .read fun c c' hc => ?_
  rw [hc.recovery]
  split
  · split
    · exact twin_recoveryFailure _
    · split
      · exact twin_recoveryFailure _
      · refine (InStep.modify fun _ _ hc => hc.showingError none).bind fun _ => ?_
        have hpath : Endpoint.resetPassword ∉ Endpoint.tokenBearing := by decide
        refine InStep.bind (twin_fetch_plain hR hρ _ _ hpath) fun o => ?_
        cases o with
        | ok notice =>
          exact (InStep.modify fun _ _ hc => (hc.atStep .idle).visit _).bind fun _ => .pure rfl
        | error e => exact twin_recoveryFailure _
  · exact .pure rfl

end

end SessionKeeper
