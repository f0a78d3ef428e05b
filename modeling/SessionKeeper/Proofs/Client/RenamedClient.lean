import SessionKeeper.Proofs.Client.Renaming

/-!
# Clients with their tokens renamed

Every indivisible change of the store and of the client, made where the tokens are renamed, has the same
result and leaves the same but for the tokens. Media are asked only to save alike what is alike.
-/

namespace SessionKeeper

variable {σ α : Type} {ρ : String → String} {R : σ → σ → Prop}

/-! ## Media -/

/-- Media that keep entries alike: what one keeps, the other keeps renamed, and the saves and loads of
both fail alike. -/
structure Medium.Mirrors [Medium σ] (ρ : String → String) (R : σ → σ → Prop) : Prop where
  load {m m' : σ} : R m m' → Medium.load m' = (Medium.load m).map (Store.renamed ρ)
  save {m m' : σ} (es : Entries) : R m m' →
    (Medium.save (Store.renamed ρ es) m').1 = (Medium.save es m).1 ∧
      R (Medium.save es m).2 (Medium.save (Store.renamed ρ es) m').2

/-- The memory with the tokens renamed, in which the same saves and loads fail. -/
def Memory.renamed (ρ : String → String) (m : Memory) : Memory :=
  { m with entries := Store.renamed ρ m.entries }

theorem Memory.mirrors : Medium.Mirrors ρ fun m m' : Memory => m' = m.renamed ρ where
  load {m m'} h := by
    subst h
    by_cases h : m.loadFails = true <;> simp [Medium.load, Memory.renamed, Except.map, h]
  save {m m'} es h := by
    subst h
    by_cases h : m.saveFails m.saves = true <;> simp [Medium.save, Memory.renamed, h]

/-! ## Stores and clients -/

/-- The second store holds the entries of the first with the tokens renamed, on a medium that keeps
them alike. -/
structure Store.Renames (ρ : String → String) (R : σ → σ → Prop) (s s' : Store σ) : Prop where
  entries : s'.entries = renamed ρ s.entries
  medium : R s.medium s'.medium

/-- The second client differs from the first in its tokens alone, which are renamed. -/
structure Client.Renames (ρ : String → String) (R : σ → σ → Prop) (c c' : Client σ) : Prop where
  store : c.store.Renames ρ R c'.store
  board : c'.board = c.board
  visits : c'.visits = c.visits
  renewing : c'.renewing = c.renewing
  recovery : c'.recovery = c.recovery

namespace Store.Renames

variable {s s' : Store σ}

theorem user_eq (H : s.Renames ρ R s') : s'.user = s.user := by
  rw [Store.user, H.entries, get?_user_renamed, Store.user]

theorem accessToken_eq (H : s.Renames ρ R s') : s'.accessToken = s.accessToken.map ρ := by
  rw [Store.accessToken, H.entries, get?_access_renamed, Store.accessToken]

theorem refreshToken_eq (H : s.Renames ρ R s') : s'.refreshToken = s.refreshToken.map ρ := by
  rw [Store.refreshToken, H.entries, get?_refresh_renamed, Store.refreshToken]

end Store.Renames

namespace Client.Renames

variable {c c' : Client σ}

theorem session_eq (H : c.Renames ρ R c') : c'.session = c.session := congrArg Board.current H.board

theorem connect {s s' : Store σ} (H : s.Renames ρ R s') :
    (Client.connect s).Renames ρ R (.connect s') := by
  refine ⟨H, ?_, rfl, rfl, rfl⟩
  change Board.start (Client.hydrate s') = Board.start (Client.hydrate s)
  rw [Client.hydrate, H.user_eq, H.accessToken_eq, Client.hydrate]
  cases s.user <;> cases s.accessToken <;> rfl

theorem turn (H : c.Renames ρ R c') (b : Bool) :
    ({ c with renewing := b } : Client σ).Renames ρ R { c' with renewing := b } :=
  ⟨H.store, H.board, H.visits, rfl, H.recovery⟩

theorem post (H : c.Renames ρ R c') (f : Board → Board) : (c.post f).Renames ρ R (c'.post f) :=
  ⟨H.store, congrArg f H.board, H.visits, H.renewing, H.recovery⟩

theorem visit (H : c.Renames ρ R c') (r : Route) : (c.visit r).Renames ρ R (c'.visit r) :=
  ⟨H.store, H.board, congrArg (r :: ·) H.visits, H.renewing, H.recovery⟩

theorem withStore (H : c.Renames ρ R c') {s s' : Store σ} (hs : s.Renames ρ R s') :
    ({ c with store := s } : Client σ).Renames ρ R { c' with store := s' } :=
  ⟨hs, H.board, H.visits, H.renewing, H.recovery⟩

/-- What is done to renamed stores alike has the same result, and leaves renamed clients. -/
theorem onStore (H : c.Renames ρ R c') (f f' : Store σ → α × Store σ)
    (hf : (f' c'.store).1 = (f c.store).1 ∧ (f c.store).2.Renames ρ R (f' c'.store).2) :
    ∃ r d d', c.onStore f = (r, d) ∧ c'.onStore f' = (r, d') ∧ d.Renames ρ R d' := by
  rw [Client.onStore, Client.onStore]
  generalize f c.store = x, f' c'.store = x' at hf
  obtain ⟨r, s⟩ := x
  obtain ⟨r', s'⟩ := x'
  obtain ⟨rfl, hs⟩ : r' = r ∧ s.Renames ρ R s' := hf
  exact ⟨r', _, _, rfl, rfl, H.withStore hs⟩

theorem withRecovery (H : c.Renames ρ R c') (f : Recovery → Recovery) :
    ({ c with recovery := f c.recovery } : Client σ).Renames ρ R
      { c' with recovery := f c'.recovery } :=
  ⟨H.store, H.board, H.visits, H.renewing, congrArg f H.recovery⟩

theorem showingError (H : c.Renames ρ R c') (m : Option String) :
    (c.showingError m).Renames ρ R (c'.showingError m) :=
  H.withRecovery fun r => { r with error := m }

theorem atStep (H : c.Renames ρ R c') (s : RecoveryStep) :
    (c.atStep s).Renames ρ R (c'.atStep s) := H.withRecovery fun r => { r with step := s }

theorem forgetSession (H : c.Renames ρ R c') : c.forgetSession.Renames ρ R c'.forgetSession :=
  (H.post Board.clear).visit (.login none)

end Client.Renames

/-! ## What can fail to be saved -/

variable [Medium σ] (hR : Medium.Mirrors ρ R)

include hR

namespace Store.Renames

variable {s s' : Store σ}

/-- A change that makes renamed entries of renamed ones. -/
theorem mutate (H : s.Renames ρ R s') (f f' : Entries → Option Entries)
    (hf : f' (renamed ρ s.entries) = (f s.entries).map (renamed ρ)) :
    (s'.mutate f').1 = (s.mutate f).1 ∧ (s.mutate f).2.Renames ρ R (s'.mutate f').2 := by
  rw [Store.mutate, Store.mutate, H.entries, hf]
  cases f s.entries with
  | none => exact ⟨rfl, H⟩
  | some es =>
    obtain ⟨hresult, hmedium⟩ := hR.save es H.medium
    simp only [Option.map_some]
    generalize Medium.save es s.medium = x, Medium.save (renamed ρ es) s'.medium = x' at hresult hmedium
    obtain ⟨r, m⟩ := x
    obtain ⟨r', m'⟩ := x'
    obtain rfl : r' = r := hresult
    cases r' <;> exact ⟨rfl, rfl, hmedium⟩

theorem saveLogin (H : s.Renames ρ R s') (u : User) (t : TokenPair) :
    (s'.saveLogin u (t.renamed ρ)).1 = (s.saveLogin u t).1 ∧
      (s.saveLogin u t).2.Renames ρ R (s'.saveLogin u (t.renamed ρ)).2 := by
  obtain ⟨hresult, hstore⟩ := H.mutate hR (fun es => some (withLogin es u t))
    (fun es => some (withLogin es u (t.renamed ρ))) (by rw [Option.map_some, renamed_withLogin])
  exact ⟨congrArg (Except.map fun _ => ()) hresult, hstore⟩

theorem updateUser (H : s.Renames ρ R s') (u : User) :
    (s'.updateUser u).1 = (s.updateUser u).1 ∧
      (s.updateUser u).2.Renames ρ R (s'.updateUser u).2 := by
  refine H.mutate hR _ _ ?_
  simp only [isComplete_renamed]
  split
  · rw [Option.map_some, renamed_withUser]
  · rfl

/-- The refresh token that was sent is compared with the stored one, and both are renamed. -/
theorem updateTokens (H : s.Renames ρ R s') (hρ : ρ.Injective)
    (sent access : String) (rotated : Option String) :
    (s'.updateTokens (ρ sent) (ρ access) (rotated.map ρ)).1 = (s.updateTokens sent access rotated).1 ∧
      (s.updateTokens sent access rotated).2.Renames ρ R
        (s'.updateTokens (ρ sent) (ρ access) (rotated.map ρ)).2 := by
  refine H.mutate hR _ _ ?_
  simp only [isComplete_renamed, holdsRefresh_renamed hρ]
  split
  · rw [Option.map_some, renamed_withTokens]
  · rfl

theorem clearIfRefresh (H : s.Renames ρ R s') (hρ : ρ.Injective)
    (rejected : String) :
    (s'.clearIfRefresh (ρ rejected)).1 = (s.clearIfRefresh rejected).1 ∧
      (s.clearIfRefresh rejected).2.Renames ρ R (s'.clearIfRefresh (ρ rejected)).2 := by
  refine H.mutate hR _ _ ?_
  simp only [holdsRefresh_renamed hρ]
  split <;> rfl

theorem clear (H : s.Renames ρ R s') :
    s.clear.2.Renames ρ R s'.clear.2 :=
  ⟨rfl, (hR.save .empty H.medium).2⟩

end Store.Renames

/-- What opens on one medium opens on the other, and what does not fails alike. -/
theorem Store.openOn_renames {m m' : σ} (hm : R m m') :
    match (openOn m).1 with
    | .ok s => ∃ s', (openOn m').1 = .ok s' ∧ s.Renames ρ R s'
    | .error e => (openOn m').1 = .error e := by
  have hload := hR.load hm
  rw [openOn, openOn]
  cases h : Medium.load m with
  | error e =>
    rw [h] at hload
    simp only [hload, Except.map]
  | ok loaded =>
    rw [h] at hload
    simp only [hload, Except.map, ← renamed_filterKeys, isEmpty_renamed, isComplete_renamed]
    by_cases hwhole : ((loaded.filterKeys keys.contains).isEmpty ||
        isComplete (loaded.filterKeys keys.contains)) = true
    · simp only [if_pos hwhole]
      exact ⟨_, rfl, rfl, hm⟩
    · simp only [if_neg hwhole]
      have hsave := hR.save .empty hm
      rw [renamed_empty] at hsave
      generalize Medium.save .empty m = x, Medium.save .empty m' = x' at hsave ⊢
      obtain ⟨r, m₁⟩ := x
      obtain ⟨r', m₁'⟩ := x'
      obtain ⟨rfl, hmedium⟩ : r' = r ∧ R m₁ m₁' := hsave
      cases r' with
      | ok _ => exact ⟨_, rfl, rfl, hmedium⟩
      | error e => rfl

namespace Client.Renames

variable {c c' : Client σ}

theorem endSession (H : c.Renames ρ R c') :
    c.endSession.Renames ρ R c'.endSession :=
  (H.withStore (H.store.clear hR)).forgetSession

theorem signOut (H : c.Renames ρ R c') : c.signOut.Renames ρ R c'.signOut :=
  (H.withStore (H.store.clear hR)).post Board.clear

theorem withoutRefreshToken (H : c.Renames ρ R c') :
    c.withoutRefreshToken.Renames ρ R c'.withoutRefreshToken := by
  rw [Client.withoutRefreshToken, Client.withoutRefreshToken, H.session_eq]
  split
  · exact H.endSession hR
  · exact H

theorem adoptLogin (H : c.Renames ρ R c') (u : User) (t : TokenPair) :
    (Client.adoptLogin u (t.renamed ρ) c').1 = (Client.adoptLogin u t c).1 ∧
      (Client.adoptLogin u t c).2.Renames ρ R (Client.adoptLogin u (t.renamed ρ) c').2 := by
  obtain ⟨r, d, d', hd, hd', hrenames⟩ :=
    H.onStore (·.saveLogin u t) (·.saveLogin u (t.renamed ρ)) (H.store.saveLogin hR u t)
  rw [Client.adoptLogin, Client.adoptLogin, hd, hd']
  cases r with
  | ok _ => exact ⟨rfl, hrenames.post (·.setUser (some u))⟩
  | error e => exact ⟨rfl, hrenames⟩

theorem storeUser (H : c.Renames ρ R c') (u : User) :
    (Client.storeUser u c').1 = (Client.storeUser u c).1 ∧
      (Client.storeUser u c).2.Renames ρ R (Client.storeUser u c').2 := by
  obtain ⟨r, d, d', hd, hd', hrenames⟩ :=
    H.onStore (·.updateUser u) (·.updateUser u) (H.store.updateUser hR u)
  rw [Client.storeUser, Client.storeUser, hd, hd']
  rcases r with _ | _ | _
  · exact ⟨rfl, hrenames⟩
  · exact ⟨rfl, hrenames⟩
  · exact ⟨rfl, hrenames.post (·.setUser (some u))⟩

theorem updateUser (H : c.Renames ρ R c') (w : UserUpdate) :
    (Client.updateUser w c').1 = (Client.updateUser w c).1 ∧
      (Client.updateUser w c).2.Renames ρ R (Client.updateUser w c').2 := by
  rw [Client.updateUser, Client.updateUser, H.session_eq]
  split
  · exact H.storeUser hR _
  · exact ⟨rfl, H⟩

theorem settleRenewal (H : c.Renames ρ R c') (hρ : ρ.Injective)
    (sent : String) {a a' : Answer} (ha : a.Renames ρ Renewal.endpoint a') :
    (Client.settleRenewal (ρ sent) a' c').1 = (Client.settleRenewal sent a c).1.map ρ ∧
      (Client.settleRenewal sent a c).2.Renames ρ R (Client.settleRenewal (ρ sent) a' c').2 := by
  rw [Client.settleRenewal, Client.settleRenewal, ha.isSuccess_eq]
  cases hsuccess : a.isSuccess with
  | true =>
    simp only [if_true, ha.decode_renewal hsuccess]
    cases a.decode RefreshAnswer.decoder with
    | error e => exact ⟨rfl, H⟩
    | ok fresh =>
      obtain ⟨r, d, d', hd, hd', hrenames⟩ :=
        H.onStore (·.updateTokens sent fresh.access fresh.refresh)
          (·.updateTokens (ρ sent) (ρ fresh.access) (fresh.refresh.map ρ))
          (H.store.updateTokens hR hρ sent fresh.access fresh.refresh)
      simp only [Except.map, hd, hd']
      rcases r with _ | _ | _ <;> exact ⟨rfl, hrenames⟩
  | false =>
    obtain rfl := ha.eq_of_failure hsuccess
    simp only [Bool.false_eq_true, if_false]
    split
    · obtain ⟨r, d, d', hd, hd', hrenames⟩ :=
        H.onStore (·.clearIfRefresh sent) (·.clearIfRefresh (ρ sent))
          (H.store.clearIfRefresh hR hρ sent)
      rw [hd, hd']
      rcases r with _ | _ | _
      · exact ⟨rfl, hrenames⟩
      · exact ⟨rfl, hrenames⟩
      · exact ⟨rfl, hrenames.forgetSession⟩
    · exact ⟨rfl, H⟩

end Client.Renames

end SessionKeeper
