import SessionKeeper.Proofs.Client.Agreement

/-!
# A restart changes nothing

The credentials are kept three times: on the medium, in memory and, as far as the user goes, on the
board. A store is `Persisted` when what its medium would load, but for foreign keys, is what it holds
in memory. Every change is saved before it is adopted, so all but one keep this, saved or not. The one
is a clearing: it empties the memory even if it cannot be saved (`Client.ClearFailed`). Until that
happens a process can stop at any wait and another one take its place (`run?_restarts`).
-/

namespace SessionKeeper

open Store

variable {σ : Type} [Medium σ] {R : σ → Prop}

/-! ## Media -/

/-- In the states `R` the medium keeps what is saved, and a save that fails changes nothing of what
it keeps. -/
structure Medium.Reliable (R : σ → Prop) : Prop where
  saved : ∀ {es m m'}, R m → Medium.save es m = (.ok (), m') → R m' ∧ Medium.load m' = .ok es
  refused : ∀ {es e m m'}, R m → Medium.save es m = (.error e, m') →
    R m' ∧ Medium.load m' = Medium.load m

theorem Memory.reliable : Medium.Reliable fun m : Memory => m.loadFails = false where
  saved := by
    intro es m m' hm h
    simp only [Medium.save] at h
    split at h
    · cases h
    · cases h
      exact ⟨hm, by simp [Medium.load, hm]⟩
  refused := by
    intro es e m m' hm h
    simp only [Medium.save] at h
    split at h
    · cases h
      exact ⟨hm, rfl⟩
    · cases h

/-- The change did to the store what a clearing does that cannot be saved, and there was something to
clear. -/
def Client.ClearFailed (c d : Client σ) : Prop :=
  c.store.isEmpty = false ∧ c.store.clear.1.isOk = false ∧ d.store = c.store.clear.2

/-! ## Stores -/

namespace Store

/-- What the medium would load, but for foreign keys, is what the store holds. -/
structure Persisted (R : σ → Prop) (s : Store σ) : Prop where
  whole : Whole s.entries
  reliable : R s.medium
  loads : ∃ es, Medium.load s.medium = .ok es ∧ es.filterKeys keys.contains = s.entries

/-- A store of saved entries. -/
theorem Persisted.of_saved (hR : Medium.Reliable R) {es : Entries} {m m' : σ} (hm : R m)
    (hes : Whole es) (h : Medium.save es m = (.ok (), m')) : Persisted R ⟨es, m'⟩ := by
  obtain ⟨hm', hload⟩ := hR.saved hm h
  exact ⟨hes, hm', es, hload, hes.filterKeys⟩

theorem Persisted.of_refused {s : Store σ} (H : s.Persisted R) (hR : Medium.Reliable R)
    {es : Entries} {e : StoreError} {m : σ} (h : Medium.save es s.medium = (.error e, m)) :
    Persisted R ⟨s.entries, m⟩ := by
  obtain ⟨hm, hload⟩ := hR.refused H.reliable h
  obtain ⟨es, hes, hkeys⟩ := H.loads
  exact ⟨H.whole, hm, es, hload.trans hes, hkeys⟩

theorem Persisted.openOn (hR : Medium.Reliable R) {m m' : σ} {s : Store σ} (hm : R m)
    (h : Store.openOn m = (.ok s, m')) : s.Persisted R := by
  have hwhole := Whole.openOn h
  rw [Store.openOn] at h
  split at h
  · cases h
  next loaded hload =>
    simp only at h
    split at h
    · cases h
      exact ⟨hwhole, hm, loaded, hload, rfl⟩
    · split at h
      next hsave => cases h; exact .of_saved hR hm hwhole hsave
      next => cases h

/-- A persisted store is opened again as it is, and nothing has to be repaired. -/
theorem Persisted.reopens {s : Store σ} (H : s.Persisted R) :
    Store.openOn s.medium = (.ok s, s.medium) := by
  obtain ⟨es, hload, hkeys⟩ := H.loads
  exact openOn_eq hload hkeys H.whole

/-! ## Changes -/

theorem Persisted.clear {c d : Client σ} (H : c.store.Persisted R) (hR : Medium.Reliable R)
    (hstore : d.store = c.store.clear.2) (hclear : ¬ Client.ClearFailed c d) :
    d.store.Persisted R := by
  cases hsave : Medium.save Dictionary.empty c.store.medium with
  | mk r m =>
    have hclearing : c.store.clear = (r, ⟨.empty, m⟩) := by rw [Store.clear, hsave]
    rw [hstore, hclearing]
    cases r with
    | ok _ => exact .of_saved hR H.reliable (.inl rfl) hsave
    | error e =>
      -- the store was empty already, so a medium that is left as it was is empty too
      have hnone : c.store.entries = .empty := by
        rw [← Dictionary.isEmpty_iff]
        refine Bool.of_not_eq_false fun hne => hclear ⟨hne, ?_, hstore⟩
        rw [hclearing]; rfl
      exact hnone ▸ H.of_refused hR hsave

theorem Persisted.storeUser {c : Client σ} (H : c.store.Persisted R) (hR : Medium.Reliable R)
    (u : User) : (Client.storeUser u c).2.store.Persisted R := by
  obtain ⟨_, h⟩ | ⟨m, hc, hsave, h⟩ | ⟨e, m, _, hsave, h⟩ := Client.storeUser_cases u c
  · rw [h]
    exact H
  · rw [h]
    have hs := H.whole.isComplete_iff.1 hc
    exact .of_saved hR H.reliable (.inr (hs.withUser u)) hsave
  · rw [h]
    exact H.of_refused hR hsave

/-- All changes but a failed clearing keep the store persisted. -/
theorem Persisted.kept (hR : Medium.Reliable R) :
    Store.Kept ⟨fun _ _ _ => True, fun c d => ¬ Client.ClearFailed c d⟩ (Persisted R) where
  adoptLogin c _ _ u t _ H _ _ := by
    obtain ⟨m, hsave, h⟩ | ⟨e, m, hsave, h⟩ := Client.adoptLogin_cases u t c
    · rw [h]
      exact .of_saved hR H.reliable (.inr (H.whole.withLogin u t)) hsave
    · rw [h]
      exact H.of_refused hR hsave
  storeProfile _ _ _ u _ H _ _ := H.storeUser hR u
  updateUser _ _ _ _ H _ := H.storeUser hR _
  settleRenewal c sent a _ H _ := by
    obtain ⟨fresh, m, _, _, hc, _, hsave, h⟩ | ⟨m, _, _, _, hsave, h⟩ | ⟨_, e, m, hsave, _, h⟩ |
      ⟨_, _, h⟩ := Client.settleRenewal_cases sent a c
    · rw [h]
      have hs := H.whole.isComplete_iff.1 hc
      exact .of_saved hR H.reliable (.inr (hs.withTokens _ _)) hsave
    · rw [h]
      exact .of_saved hR H.reliable (.inl rfl) hsave
    · rw [h]
      exact H.of_refused hR hsave
    · rw [h]
      exact H
  clear _ _ _ H hstore hclear := H.clear hR hstore hclear

end Store

/-- From any medium that opens, at every wait of every run of operations in which no clearing failed,
the medium opens again as it is, to the store that is live, and the session over it begins with the
live user. -/
theorem run?_restarts (hR : Medium.Reliable R) {m m' : σ} {s : Store σ} (hm : R m)
    (hopen : openOn m = (.ok s, m')) {ms : List (Move σ Unit)} (hms : ∀ mv ∈ ms, mv.IsOperation)
    (hclear : ∀ x ∈ Pool.changes ⟨.connect s, []⟩ ms, ¬ Client.ClearFailed x.1 x.2)
    {p : Pool σ Unit} (hrun : Pool.run? ⟨.connect s, []⟩ ms = some p) :
    openOn p.client.store.medium = (.ok p.client.store, p.client.store.medium) ∧
      (∃ loaded, Medium.load p.client.store.medium = .ok loaded ∧
        (loaded.filterKeys keys.contains = .empty ∨
          isComplete (loaded.filterKeys keys.contains) = true)) ∧
      (Client.connect p.client.store).session.user = p.client.session.user := by
  have hstart : (Client.connect s).Agrees ∧ (Client.connect s).store.Persisted R :=
    ⟨.connect (.openOn hopen), Store.Persisted.openOn hR hm hopen⟩
  obtain ⟨hagrees, H⟩ :=
    Pool.run?_kept (Store.Persisted.kept hR).client hstart hms (fun _ _ => trivial) hclear hrun
  obtain ⟨loaded, hload, hkeys⟩ := H.loads
  refine ⟨H.reopens, ⟨loaded, hload, ?_⟩, ?_⟩
  · rw [hkeys]
    exact H.whole.imp id SignedIn.isComplete
  · rw [(Client.Agrees.connect H.whole).user_eq, hagrees.user_eq]
    rfl

/-- Renewed tokens cannot be saved, on a medium that holds a foreign key too; then a login is under
way. -/
theorem run?_restarts_unsaved_renewal :
    let es := (withLogin .empty default ⟨"A1", "R1"⟩).insert "theme" "dark"
    let m : Memory := ⟨es, 0, fun n => n == 0, false⟩
    let s : Store Memory := ⟨es.filterKeys keys.contains, m⟩
    let ms : List (Move Memory Unit) :=
      [.start (Operation.refreshProfile).task, .reply 0 (.ok ⟨401, ""⟩), .enter 0,
        .reply 0 (.ok ⟨200, "\x7b\"access\":\"A2\"\x7d"⟩),
        .start (Operation.login "bob" "secret").task]
    Medium.Reliable (fun m : Memory => m.loadFails = false) ∧ m.loadFails = false ∧
      openOn m = (.ok s, m) ∧ (∀ mv ∈ ms, mv.IsOperation) ∧
      (∀ x ∈ Pool.changes ⟨.connect s, []⟩ ms, ¬ Client.ClearFailed x.1 x.2) ∧
      ∃ p, Pool.run? ⟨.connect s, []⟩ ms = some p ∧
        openOn p.client.store.medium = (.ok p.client.store, p.client.store.medium) ∧
        (∃ loaded, Medium.load p.client.store.medium = .ok loaded ∧
          (loaded.filterKeys keys.contains = .empty ∨
            isComplete (loaded.filterKeys keys.contains) = true)) ∧
        (Client.connect p.client.store).session.user = p.client.session.user := by
  intro es m s ms
  have hsigned : SignedIn (es.filterKeys keys.contains) :=
    signedIn_filterKeys es (by decide +kernel)
  have hload : Medium.load m = .ok es := rfl
  have hopen : openOn m = (.ok s, m) := openOn_eq hload rfl (.inr hsigned)
  have hms : ∀ mv ∈ ms, mv.IsOperation := by
    simp only [ms, List.forall_mem_cons]
    exact ⟨⟨_, rfl⟩, trivial, trivial, trivial, ⟨_, rfl⟩, nofun⟩
  have hclear : ∀ x ∈ Pool.changes ⟨.connect s, []⟩ ms, ¬ Client.ClearFailed x.1 x.2 := by
    -- whatever left entries in memory was no clearing
    have hleft : ∀ x ∈ Pool.changes ⟨.connect s, []⟩ ms, x.2.store.isEmpty = false := by
      decide +kernel
    rintro x hx ⟨_, _, hstore⟩
    have := hleft x hx
    rw [hstore] at this
    cases this
  have hrun : (Pool.run? ⟨.connect s, []⟩ ms).isSome = true := by decide +kernel
  obtain ⟨p, hp⟩ := Option.isSome_iff_exists.1 hrun
  exact ⟨Memory.reliable, rfl, hopen, hms, hclear, p, hp,
    run?_restarts Memory.reliable rfl hopen hms hclear hp⟩

end SessionKeeper
