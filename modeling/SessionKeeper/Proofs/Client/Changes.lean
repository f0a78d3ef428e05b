import SessionKeeper.Client.Renewal
import SessionKeeper.Proofs.Credentials.CoPresence

/-!
# What one change can come to

For each indivisible change of the client that touches the store, all the ways it can end, each with
what was tried to be saved. Whether a save succeeds is up to the medium; a failed one leaves
everything but the medium as it was.
-/

namespace SessionKeeper.Client

open Store

variable {σ : Type} [Medium σ]

/-- The client with these entries, on a medium as a save left it. -/
def holding (c : Client σ) (es : Entries) (m : σ) : Client σ := { c with store := ⟨es, m⟩ }

theorem adoptLogin_cases (u : User) (t : TokenPair) (c : Client σ) :
    (∃ m, Medium.save (withLogin c.store.entries u t) c.store.medium = (.ok (), m) ∧
      adoptLogin u t c =
        (.ok (), (c.holding (withLogin c.store.entries u t) m).post (·.setUser (some u)))) ∨
    (∃ e m, Medium.save (withLogin c.store.entries u t) c.store.medium = (.error e, m) ∧
      adoptLogin u t c = (.error e, c.holding c.store.entries m)) := by
  obtain ⟨h, _⟩ | ⟨es, m, h, hs, hm⟩ | ⟨es, e, m, h, hs, hm⟩ :=
    mutate_cases c.store fun es => some (withLogin es u t)
  · cases h
  · cases h
    exact .inl ⟨m, hs, by simp only [adoptLogin, onStore, saveLogin, hm, Except.map]; rfl⟩
  · cases h
    exact .inr ⟨e, m, hs, by simp only [adoptLogin, onStore, saveLogin, hm, Except.map]; rfl⟩

theorem storeUser_cases (u : User) (c : Client σ) :
    (isComplete c.store.entries = false ∧ storeUser u c = (none, c)) ∨
    (∃ m, isComplete c.store.entries = true ∧
      Medium.save (c.store.entries.insert userKey u.text) c.store.medium = (.ok (), m) ∧
      storeUser u c =
        (some u, (c.holding (c.store.entries.insert userKey u.text) m).post
          (·.setUser (some u)))) ∨
    (∃ e m, isComplete c.store.entries = true ∧
      Medium.save (c.store.entries.insert userKey u.text) c.store.medium = (.error e, m) ∧
      storeUser u c = (none, c.holding c.store.entries m)) := by
  obtain ⟨h, hm⟩ | ⟨es, m, h, hs, hm⟩ | ⟨es, e, m, h, hs, hm⟩ :=
    mutate_cases c.store fun es => if isComplete es then some (es.insert userKey u.text) else none
  · refine .inl ⟨by split at h <;> simp_all, ?_⟩
    simp only [storeUser, onStore, Store.updateUser, hm]
  · split at h
    next hc =>
      cases h
      exact .inr (.inl ⟨m, hc, hs, by simp only [storeUser, onStore, Store.updateUser, hm]; rfl⟩)
    next => cases h
  · split at h
    next hc =>
      cases h
      exact .inr (.inr ⟨e, m, hc, hs, by simp only [storeUser, onStore, Store.updateUser, hm]; rfl⟩)
    next => cases h

/-- The answer to a renewal call replaces the tokens, or ends the session, or leaves the client as
it is but for a medium on which nothing could be saved. -/
theorem settleRenewal_cases (sent : String) (a : Answer) (c : Client σ) :
    (∃ fresh m, a.isSuccess = true ∧ a.decode RefreshAnswer.decoder = .ok fresh ∧
      isComplete c.store.entries = true ∧ holdsRefresh c.store.entries sent = true ∧
      Medium.save (withTokens c.store.entries fresh.access fresh.refresh) c.store.medium =
        (.ok (), m) ∧
      settleRenewal sent a c =
        (.ok fresh.access, c.holding (withTokens c.store.entries fresh.access fresh.refresh) m)) ∨
    (∃ m, a.isSuccess = false ∧ a.isRejection = true ∧ holdsRefresh c.store.entries sent = true ∧
      Medium.save .empty c.store.medium = (.ok (), m) ∧
      settleRenewal sent a c = (.error .sessionExpired, (c.holding .empty m).forgetSession)) ∨
    (∃ es e m, Medium.save es c.store.medium = (.error e, m) ∧
      (a.isSuccess = true ∧ (∃ fresh, a.decode RefreshAnswer.decoder = .ok fresh ∧
        es = withTokens c.store.entries fresh.access fresh.refresh) ∨
        a.isSuccess = false ∧ es = .empty) ∧
      settleRenewal sent a c = (.error (.store e.message), c.holding c.store.entries m)) ∨
    (∃ e, (isComplete c.store.entries = true → holdsRefresh c.store.entries sent = true →
        a.isSuccess = true ∧ a.decode RefreshAnswer.decoder = .error e ∨
        a.isSuccess = false ∧ a.isRejection = false) ∧
      settleRenewal sent a c = (.error e, c)) := by
  rw [settleRenewal]
  split
  next hsuccess =>
    split
    next e hdec => exact .inr (.inr (.inr ⟨e, fun _ _ => .inl ⟨hsuccess, hdec⟩, rfl⟩))
    next fresh hdec =>
      obtain ⟨h, hm⟩ | ⟨es, m, h, hs, hm⟩ | ⟨es, e, m, h, hs, hm⟩ :=
        mutate_cases c.store fun es =>
          if isComplete es && holdsRefresh es sent then
            some (withTokens es fresh.access fresh.refresh)
          else none
      · refine .inr (.inr (.inr ⟨.sessionExpired, fun hc hr => ?_, ?_⟩))
        · simp [hc, hr] at h
        · simp only [onStore, updateTokens, hm]
      · split at h
        next hc =>
          cases h
          rw [Bool.and_eq_true] at hc
          refine .inl ⟨fresh, m, hsuccess, hdec, hc.1, hc.2, hs, ?_⟩
          simp only [onStore, updateTokens, hm]; rfl
        next => cases h
      · split at h
        next hc =>
          cases h
          refine .inr (.inr (.inl ⟨_, e, m, hs, .inl ⟨hsuccess, fresh, hdec, rfl⟩, ?_⟩))
          simp only [onStore, updateTokens, hm]; rfl
        next => cases h
  next hsuccess =>
    have hsuccess : a.isSuccess = false := Bool.eq_false_iff.2 hsuccess
    split
    next hreject =>
      obtain ⟨h, hm⟩ | ⟨es, m, h, hs, hm⟩ | ⟨es, e, m, h, hs, hm⟩ :=
        mutate_cases c.store fun es => if holdsRefresh es sent then some .empty else none
      · refine .inr (.inr (.inr ⟨.sessionExpired, fun _ hr => ?_, ?_⟩))
        · simp [hr] at h
        · simp only [onStore, clearIfRefresh, hm]
      · split at h
        next hc =>
          cases h
          refine .inr (.inl ⟨m, hsuccess, hreject, hc, hs, ?_⟩)
          simp only [onStore, clearIfRefresh, hm]; rfl
        next => cases h
      · split at h
        next hc =>
          cases h
          refine .inr (.inr (.inl ⟨_, e, m, hs, .inr ⟨hsuccess, rfl⟩, ?_⟩))
          simp only [onStore, clearIfRefresh, hm]; rfl
        next => cases h
    next hreject =>
      exact .inr (.inr (.inr ⟨_, fun _ _ => .inr ⟨hsuccess, Bool.eq_false_iff.2 hreject⟩, rfl⟩))

/-- A renewal that ended well has replaced the tokens. -/
theorem settleRenewal_ok {sent token : String} {a : Answer} {c : Client σ}
    (h : (settleRenewal sent a c).1 = .ok token) :
    ∃ fresh m, a.isSuccess = true ∧ a.decode RefreshAnswer.decoder = .ok fresh ∧
      holdsRefresh c.store.entries sent = true ∧
      settleRenewal sent a c =
        (.ok fresh.access, c.holding (withTokens c.store.entries fresh.access fresh.refresh) m) := by
  obtain ⟨fresh, m, hsuccess, hdec, _, hsent, _, hs⟩ | ⟨_, _, _, _, _, hs⟩ | ⟨_, _, _, _, _, hs⟩ |
    ⟨_, _, hs⟩ := settleRenewal_cases sent a c
  · exact ⟨fresh, m, hsuccess, hdec, hsent, hs⟩
  · rw [hs] at h
    cases h
  · rw [hs] at h
    cases h
  · rw [hs] at h
    cases h

end SessionKeeper.Client
