import SessionKeeper.Proofs.Account.StoredForm
import SessionKeeper.Proofs.Dictionary
import SessionKeeper.Rehearsal.Storage

/-!
# The three entries come and go together

`SignedIn` says that entries are exactly a user that decodes and two tokens, `Whole` that they are
so or empty. Opening establishes `Whole` whatever the medium holds, and each change of a store keeps
it, saved or not; what a change does to the entries is `mutate_cases`.
-/

namespace SessionKeeper.Store

/-- The entries of a signed-in user, and no others. -/
structure SignedIn (es : Entries) : Prop where
  contains_iff : ∀ k, es.contains k = true ↔ k ∈ keys
  decodes : ∃ u, (es.get? userKey).bind User.ofText? = some u

/-- The entries are those of a signed-in user, or there are none. -/
def Whole (es : Entries) : Prop := es = .empty ∨ SignedIn es

theorem contains_insert (es : Entries) (k v k' : String) :
    (es.insert k v).contains k' = (decide (k' = k) || es.contains k') := by
  simp only [Dictionary.contains, Dictionary.get?_insert]
  by_cases h : k' = k <;> simp [h]

theorem SignedIn.isComplete (H : SignedIn es) : isComplete es = true := by
  obtain ⟨u, hu⟩ := H.decodes
  simp only [Store.isComplete, hu, Option.isSome_some, Bool.and_true, List.all_eq_true]
  exact fun k hk => (H.contains_iff k).2 hk

theorem Whole.isComplete_iff (H : Whole es) : isComplete es = true ↔ SignedIn es := by
  refine ⟨fun h => H.resolve_left ?_, SignedIn.isComplete⟩
  rintro rfl
  exact absurd h (by decide)

theorem SignedIn.get?_access (H : SignedIn es) : ∃ t, es.get? accessKey = some t :=
  Option.isSome_iff_exists.1 ((H.contains_iff _).2 (by simp [keys]))

theorem SignedIn.get?_refresh (H : SignedIn es) : ∃ t, es.get? refreshKey = some t :=
  Option.isSome_iff_exists.1 ((H.contains_iff _).2 (by simp [keys]))

/-! ## Look-ups in changed entries -/

@[simp] theorem get?_user_withLogin (es : Entries) (u : User) (t : TokenPair) :
    (withLogin es u t).get? userKey = some u.text := by
  simp [withLogin, Dictionary.get?_insert, userKey, accessKey, refreshKey]

@[simp] theorem get?_user_withTokens (es : Entries) (access : String) (rotated : Option String) :
    (withTokens es access rotated).get? userKey = es.get? userKey := by
  cases rotated <;> simp [withTokens, Dictionary.get?_insert, userKey, accessKey, refreshKey]

@[simp] theorem get?_access_withTokens (es : Entries) (access : String) (rotated : Option String) :
    (withTokens es access rotated).get? accessKey = some access := by
  cases rotated <;> simp [withTokens, Dictionary.get?_insert, accessKey, refreshKey]

@[simp] theorem get?_refresh_withTokens (es : Entries) (access : String)
    (rotated : Option String) :
    (withTokens es access rotated).get? refreshKey = rotated.or (es.get? refreshKey) := by
  cases rotated <;> simp [withTokens, Dictionary.get?_insert, accessKey, refreshKey]

@[simp] theorem get?_user_withUser (es : Entries) (u : User) :
    (es.insert userKey u.text).get? userKey = some u.text := by
  simp [Dictionary.get?_insert]

/-! ## Entries that come together -/

/-- Entries that are filtered and complete are those of a signed-in user. -/
theorem signedIn_filterKeys (es : Entries) (h : isComplete (es.filterKeys keys.contains) = true) :
    SignedIn (es.filterKeys keys.contains) := by
  simp only [isComplete, Bool.and_eq_true, List.all_eq_true] at h
  refine ⟨fun k => ⟨fun hk => ?_, h.1 k⟩, Option.isSome_iff_exists.1 h.2⟩
  simp only [Dictionary.contains, Dictionary.get?_filterKeys] at hk
  split at hk
  next hmem => simpa using hmem
  next => cases hk

theorem SignedIn.insert (H : SignedIn es) {k v : String} (hk : k ∈ keys)
    (hv : k = userKey → ∃ u, User.ofText? v = some u) : SignedIn (es.insert k v) := by
  refine ⟨fun k' => ?_, ?_⟩
  · rw [contains_insert, Bool.or_eq_true, H.contains_iff, decide_eq_true_iff]
    exact ⟨fun h => h.elim (· ▸ hk) id, .inr⟩
  · rw [Dictionary.get?_insert]
    split
    next h => exact hv h.symm
    next => exact H.decodes

theorem Whole.withLogin (H : Whole es) (u : User) (t : TokenPair) :
    SignedIn (withLogin es u t) := by
  refine ⟨fun k => ?_, u, by simp [User.ofText?_text]⟩
  simp only [Store.withLogin, contains_insert]
  obtain rfl | H := H
  · simp [Dictionary.contains, keys]; grind
  · have := H.contains_iff k
    simp [keys] at this ⊢; grind

theorem SignedIn.withTokens (H : SignedIn es) (access : String) (rotated : Option String) :
    SignedIn (withTokens es access rotated) := by
  have haccess : SignedIn (es.insert accessKey access) :=
    H.insert (by simp [keys]) (fun h => absurd h (by decide))
  cases rotated with
  | none => exact haccess
  | some r => exact haccess.insert (by simp [keys]) (fun h => absurd h (by decide))

theorem SignedIn.withUser (H : SignedIn es) (u : User) : SignedIn (es.insert userKey u.text) :=
  H.insert (by simp [keys]) fun _ => ⟨u, User.ofText?_text u⟩

/-- Entries that come together are not changed by leaving foreign keys aside. -/
theorem Whole.filterKeys {es : Entries} (H : Whole es) : es.filterKeys keys.contains = es := by
  refine Dictionary.ext_get? fun k => ?_
  rw [Dictionary.get?_filterKeys]
  split
  next => rfl
  next hk =>
    obtain rfl | Hs := H
    · rfl
    · have hcontains : es.contains k ≠ true := by
        rw [ne_eq, Hs.contains_iff, ← List.contains_iff_mem]
        exact hk
      cases hget : es.get? k with
      | none => rfl
      | some v => exact absurd (by rw [Dictionary.contains, hget]; rfl) hcontains

/-! ## Changes of a store -/

section
variable {σ : Type} [Medium σ] {s : Store σ}

/-- What can come of a change: there is none, it is saved and adopted, or it cannot be saved. -/
theorem mutate_cases (s : Store σ) (change : Entries → Option Entries) :
    (change s.entries = none ∧ s.mutate change = (.ok false, s)) ∨
    (∃ es m, change s.entries = some es ∧ Medium.save es s.medium = (.ok (), m) ∧
      s.mutate change = (.ok true, ⟨es, m⟩)) ∨
    (∃ es e m, change s.entries = some es ∧ Medium.save es s.medium = (.error e, m) ∧
      s.mutate change = (.error e, ⟨s.entries, m⟩)) := by
  rw [mutate]
  split
  next hc => exact .inl ⟨hc, rfl⟩
  next es hc =>
    split
    next m hs => exact .inr (.inl ⟨es, m, hc, hs, rfl⟩)
    next e m hs => exact .inr (.inr ⟨es, e, m, hc, hs, rfl⟩)

theorem Whole.mutate (H : Whole s.entries) {change : Entries → Option Entries}
    (hchange : ∀ es, change s.entries = some es → Whole es) :
    Whole (s.mutate change).2.entries := by
  obtain ⟨_, h⟩ | ⟨es, m, hc, _, h⟩ | ⟨_, _, _, _, _, h⟩ := mutate_cases s change
  · rw [h]; exact H
  · rw [h]; exact hchange es hc
  · rw [h]; exact H

theorem Whole.saveLogin (H : Whole s.entries) (u : User) (t : TokenPair) :
    Whole (s.saveLogin u t).2.entries := by
  have H' : Whole (s.mutate fun es => some (Store.withLogin es u t)).2.entries := by
    refine H.mutate fun es h => ?_
    cases h
    exact .inr (H.withLogin u t)
  exact H'

theorem Whole.updateTokens (H : Whole s.entries) (sent access : String) (rotated : Option String) :
    Whole (s.updateTokens sent access rotated).2.entries := by
  refine H.mutate fun es h => ?_
  split at h
  next hc =>
    cases h
    rw [Bool.and_eq_true] at hc
    exact .inr ((H.isComplete_iff.1 hc.1).withTokens access rotated)
  next => cases h

theorem Whole.clearIfRefresh (H : Whole s.entries) (rejected : String) :
    Whole (s.clearIfRefresh rejected).2.entries := by
  refine H.mutate fun es h => ?_
  split at h
  next => exact .inl (Option.some.inj h).symm
  next => cases h

theorem Whole.updateUser (H : Whole s.entries) (u : User) :
    Whole (s.updateUser u).2.entries := by
  refine H.mutate fun es h => ?_
  split at h
  next hc => cases h; exact .inr ((H.isComplete_iff.1 hc).withUser u)
  next => cases h

theorem Whole.openOn {m m' : σ} (h : Store.openOn m = (.ok s, m')) : Whole s.entries := by
  rw [Store.openOn] at h
  split at h
  · cases h
  next loaded _ =>
    simp only at h
    split at h
    next hc =>
      cases h
      rw [Bool.or_eq_true, Dictionary.isEmpty_iff] at hc
      exact hc.imp id (signedIn_filterKeys loaded)
    next =>
      split at h
      · cases h; exact .inl rfl
      · cases h

/-- A medium that holds entries that come together, and perhaps foreign keys, opens as it is. -/
theorem openOn_eq {m : σ} {loaded : Entries} (hload : Medium.load m = .ok loaded)
    (hkeys : loaded.filterKeys keys.contains = es) (H : Whole es) :
    openOn m = (.ok ⟨es, m⟩, m) := by
  have hconsistent : (es.isEmpty || isComplete es) = true := by
    obtain rfl | Hs := H
    · rfl
    · rw [Hs.isComplete, Bool.or_true]
  simp only [openOn, hload, hkeys, hconsistent, if_true]

open Rehearsal

theorem Whole.apply (H : Whole s.entries) (step : StoreStep) : Whole (step.apply s).2.entries := by
  cases step with
  | saveLogin u t => exact H.saveLogin u t
  | updateTokens sent access rotated => exact H.updateTokens sent access rotated
  | clearIfRefresh rejected => exact H.clearIfRefresh rejected
  | updateUser u => exact H.updateUser u
  | clear => exact .inl rfl
  | hydrate => exact H

/-- The store after steps, whatever came of each. -/
def after (s : Store σ) (steps : List StoreStep) : Store σ :=
  steps.foldl (fun s x => (x.apply s).2) s

theorem Whole.after (H : Whole s.entries) (steps : List StoreStep) :
    Whole (s.after steps).entries := by
  induction steps generalizing s with
  | nil => exact H
  | cons x xs ih => exact ih (H.apply x)

/-- What a store shows of entries that come and go together. -/
structure CoPresent (s : Store σ) : Prop where
  whole : s.entries = .empty ∨ SignedIn s.entries
  isConsistent : s.isConsistent = true
  decodes : ∀ text, s.entries.get? userKey = some text → ∃ u, s.user = some u
  together :
    (∃ u access refresh, s.user = some u ∧ s.accessToken = some access ∧
      s.refreshToken = some refresh) ∨
    (s.user = none ∧ s.accessToken = none ∧ s.refreshToken = none)

omit [Medium σ] in
theorem Whole.coPresent (H : Whole s.entries) : CoPresent s := by
  obtain h | H := H
  · refine ⟨.inl h, ?_, ?_, .inr ?_⟩
    · simp [isConsistent, h]
    · simp [h]
    · simp [user, accessToken, refreshToken, h]
  · obtain ⟨u, hu⟩ := H.decodes
    obtain ⟨access, ha⟩ := H.get?_access
    obtain ⟨refresh, hr⟩ := H.get?_refresh
    exact ⟨.inr H, by simp [isConsistent, H.isComplete], fun _ _ => ⟨u, hu⟩,
      .inl ⟨u, access, refresh, hu, ha, hr⟩⟩

/-- At every point after opening, the entries are none or exactly the three, of which the user
decodes; so a store is consistent, and its user and its tokens are all there or all absent. -/
theorem openOn_after_coPresent {m m' : σ} (hopen : openOn m = (.ok s, m'))
    (steps : List StoreStep) : CoPresent (s.after steps) :=
  ((Whole.openOn hopen).after steps).coPresent

/-- An access token alone, beside a foreign key: the store opens empty. Then a login is saved, its
renewed tokens cannot be, and the next user is. -/
theorem openOn_after_coPresent_repaired :
    let m : Memory :=
      ⟨.ofList [("accessToken", "A1"), ("theme", "dark")], 0, fun n => n == 2, false⟩
    openOn m = (.ok ⟨.empty, { m with entries := .empty, saves := 1 }⟩,
        { m with entries := .empty, saves := 1 }) ∧
      CoPresent (Store.after ⟨.empty, { m with entries := .empty, saves := 1 }⟩
        [.saveLogin default ⟨"A2", "R2"⟩, .updateTokens "R2" "A3" none, .updateUser default]) :=
  have hopen := by rfl
  ⟨hopen, openOn_after_coPresent hopen _⟩

end

end SessionKeeper.Store
