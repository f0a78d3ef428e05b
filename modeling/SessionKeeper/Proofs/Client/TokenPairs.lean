import SessionKeeper.Proofs.Client.Provenance
import SessionKeeper.Proofs.Client.Restart

/-!
# Tokens that belong together

Sign-ins, renewals and the clearing of a session all write the two tokens, from different tasks and
some of them after a wait. Whatever the order, the tokens that are stored are a genuine pair
(`Log.Genuine`): one sign-in answer brought both, or they were stored together when the run began, or
a renewal answer brought the access token and the refresh token is the one that this answer changed it
to, or else the one that was sent for it. Saves may fail, so the medium can lag behind the memory; its
tokens are a genuine pair all the same (`run?_paired`), as long as a failed save leaves it with the
old entries or with the new ones (`Medium.Undivided`).
-/

namespace SessionKeeper

open Store

variable {σ : Type}

/-! ## Media -/

/-- In the states `R` the medium keeps what is saved, and a save that fails leaves it with what it
kept before or with what was to be saved. -/
structure Medium.Undivided [Medium σ] (R : σ → Prop) : Prop where
  saved : ∀ {es m m'}, R m → Medium.save es m = (.ok (), m') → R m' ∧ Medium.load m' = .ok es
  refused : ∀ {es e m m'}, R m → Medium.save es m = (.error e, m') →
    R m' ∧ (Medium.load m' = Medium.load m ∨ Medium.load m' = .ok es)

theorem Medium.Reliable.undivided [Medium σ] {R : σ → Prop} (H : Medium.Reliable R) :
    Medium.Undivided R where
  saved := H.saved
  refused hm hsave := (H.refused hm hsave).imp id .inl

/-! ## Changes of a client as changes of its store -/

namespace Client

variable [Medium σ]

theorem store_adoptLogin (u : User) (t : TokenPair) (c : Client σ) :
    (adoptLogin u t c).2.store = (c.store.saveLogin u t).2 := by
  rw [adoptLogin, onStore]
  cases h : c.store.saveLogin u t with
  | mk x s => cases x <;> rfl

theorem store_storeUser (u : User) (c : Client σ) :
    (storeUser u c).2.store = (c.store.updateUser u).2 := by
  rw [storeUser, onStore]
  cases h : c.store.updateUser u with
  | mk x s =>
    cases x with
    | error e => rfl
    | ok b => cases b <;> rfl

/-- The answer to a renewal call leaves the store as it is, or has its tokens stored, or clears it. -/
theorem store_settleRenewal (sent : String) (a : Answer) (c : Client σ) :
    (settleRenewal sent a c).2.store = c.store ∨
    (∃ fresh, a.isSuccess = true ∧ a.decode RefreshAnswer.decoder = .ok fresh ∧
      (settleRenewal sent a c).2.store =
        (c.store.updateTokens sent fresh.access fresh.refresh).2) ∨
    (settleRenewal sent a c).2.store = (c.store.clearIfRefresh sent).2 := by
  rw [settleRenewal]
  split
  next hsuccess =>
    split
    next => exact .inl rfl
    next fresh hdec =>
      refine .inr (.inl ⟨fresh, hsuccess, hdec, ?_⟩)
      rw [onStore]
      cases c.store.updateTokens sent fresh.access fresh.refresh with
      | mk x s =>
        cases x with
        | error e => rfl
        | ok b => cases b <;> rfl
  next =>
    split
    next =>
      refine .inr (.inr ?_)
      rw [onStore]
      cases c.store.clearIfRefresh sent with
      | mk x s =>
        cases x with
        | error e => rfl
        | ok b => cases b <;> rfl
    next => exact .inl rfl

end Client

/-! ## Genuine pairs -/

namespace Log

variable {L : Log σ}

/-- The tokens belong together. The refresh token of a renewed pair is the one that the answer brought
or, if it brought none, the one that was sent for it. -/
inductive Genuine (L : Log σ) : TokenPair → Prop where
  | stored {t : TokenPair} : L.start.Holds t → L.Genuine t
  | signedIn {call : Call} {a : Answer} {u : User} {t : TokenPair} :
    L.came call a → a.SignsIn call u t → L.Genuine t
  | renewed {sent : String} {a : Answer} {fresh : RefreshAnswer} :
    L.came ((Renewal.request sent).call none) a → a.isSuccess = true →
    a.decode RefreshAnswer.decoder = .ok fresh →
    L.Genuine ⟨fresh.access, fresh.refresh.getD sent⟩

/-- The entries hold a genuine pair of tokens, or no token. -/
def Paired (L : Log σ) (es : Entries) : Prop :=
  (es.get? accessKey = none ∧ es.get? refreshKey = none) ∨
    ∃ t, L.Genuine t ∧ es.get? accessKey = some t.access ∧ es.get? refreshKey = some t.refresh

theorem Paired.empty : L.Paired .empty := .inl ⟨rfl, rfl⟩

theorem Paired.withLogin {es : Entries} {u : User} {t : TokenPair} (h : L.Genuine t) :
    L.Paired (Store.withLogin es u t) := by
  refine .inr ⟨t, h, ?_⟩
  simp [Store.withLogin, Dictionary.get?_insert, accessKey, refreshKey]

theorem Paired.withUser {es : Entries} (H : L.Paired es) (text : String) :
    L.Paired (es.insert userKey text) := by
  have haccess : (es.insert userKey text).get? accessKey = es.get? accessKey := by
    simp [Dictionary.get?_insert, userKey, accessKey]
  have hrefresh : (es.insert userKey text).get? refreshKey = es.get? refreshKey := by
    simp [Dictionary.get?_insert, userKey, refreshKey]
  rw [Paired, haccess, hrefresh]
  exact H

theorem Paired.withTokens {es : Entries} {sent : String} {fresh : RefreshAnswer}
    (hsent : es.get? refreshKey = some sent) (h : L.Genuine ⟨fresh.access, fresh.refresh.getD sent⟩) :
    L.Paired (Store.withTokens es fresh.access fresh.refresh) := by
  refine .inr ⟨_, h, get?_access_withTokens _ _ _, ?_⟩
  rw [get?_refresh_withTokens, hsent, Option.or_some]

/-- Foreign keys make no difference. -/
theorem Paired.of_filterKeys {es : Entries} (H : L.Paired (es.filterKeys keys.contains)) :
    L.Paired es := by
  have hkeys : ∀ k ∈ keys, (es.filterKeys keys.contains).get? k = es.get? k := fun k hk => by
    rw [Dictionary.get?_filterKeys, if_pos (List.contains_iff_mem.2 hk)]
  rwa [Paired, hkeys accessKey (by simp [keys]), hkeys refreshKey (by simp [keys])] at H

/-- In memory and on the medium the tokens that are stored are a genuine pair. -/
structure PairedIn [Medium σ] (L : Log σ) (R : σ → Prop) (s : Store σ) : Prop where
  memory : L.Paired s.entries
  state : R s.medium
  medium : ∀ es, Medium.load s.medium = .ok es → L.Paired es

variable [Medium σ] {R : σ → Prop} {s : Store σ}

/-- Whatever comes of a save of paired entries, what the medium keeps then is paired. -/
theorem PairedIn.save (H : L.PairedIn R s) (hR : Medium.Undivided R) {es : Entries}
    (hes : L.Paired es) {x : Except StoreError Unit} {m : σ}
    (hsave : Medium.save es s.medium = (x, m)) {es' : Entries} (hes' : L.Paired es') :
    L.PairedIn R ⟨es', m⟩ := by
  cases x with
  | ok _ =>
    obtain ⟨hm, hload⟩ := hR.saved H.state hsave
    refine ⟨hes', hm, fun kept hkept => ?_⟩
    cases hload.symm.trans hkept
    exact hes
  | error e =>
    obtain ⟨hm, hload⟩ := hR.refused H.state hsave
    refine ⟨hes', hm, fun kept hkept => ?_⟩
    obtain hold | hnew := hload
    · exact H.medium kept (hold.symm.trans hkept)
    · cases hnew.symm.trans hkept
      exact hes

theorem PairedIn.mutate (H : L.PairedIn R s) (hR : Medium.Undivided R)
    {change : Entries → Option Entries} (hchange : ∀ es, change s.entries = some es → L.Paired es) :
    L.PairedIn R (s.mutate change).2 := by
  obtain ⟨_, h⟩ | ⟨es, m, hes, hsave, h⟩ | ⟨es, e, m, hes, hsave, h⟩ := mutate_cases s change
  · rw [h]
    exact H
  · rw [h]
    exact H.save hR (hchange es hes) hsave (hchange es hes)
  · rw [h]
    exact H.save hR (hchange es hes) hsave H.memory

theorem PairedIn.saveLogin (H : L.PairedIn R s) (hR : Medium.Undivided R) {t : TokenPair}
    (h : L.Genuine t) (u : User) : L.PairedIn R (s.saveLogin u t).2 := by
  have hmutate : L.PairedIn R (s.mutate fun es => some (Store.withLogin es u t)).2 := by
    refine H.mutate hR fun es hes => ?_
    cases hes
    exact .withLogin h
  exact hmutate

theorem PairedIn.updateUser (H : L.PairedIn R s) (hR : Medium.Undivided R) (u : User) :
    L.PairedIn R (s.updateUser u).2 := by
  refine H.mutate hR fun es hes => ?_
  obtain ⟨_, h⟩ := Option.ite_none_right_eq_some.1 hes
  cases h
  exact H.memory.withUser u.text

theorem PairedIn.updateTokens (H : L.PairedIn R s) (hR : Medium.Undivided R) {sent : String}
    {fresh : RefreshAnswer} (h : L.Genuine ⟨fresh.access, fresh.refresh.getD sent⟩) :
    L.PairedIn R (s.updateTokens sent fresh.access fresh.refresh).2 := by
  refine H.mutate hR fun es hes => ?_
  obtain ⟨hcond, hes⟩ := Option.ite_none_right_eq_some.1 hes
  cases hes
  -- the new access token joins the refresh token it was asked for with, because that is still stored
  have hsent : s.entries.get? refreshKey = some sent := by
    simpa [holdsRefresh] using (Bool.and_eq_true_iff.1 hcond).2
  exact .withTokens hsent h

theorem PairedIn.clearIfRefresh (H : L.PairedIn R s) (hR : Medium.Undivided R) (rejected : String) :
    L.PairedIn R (s.clearIfRefresh rejected).2 := by
  refine H.mutate hR fun es hes => ?_
  obtain ⟨_, h⟩ := Option.ite_none_right_eq_some.1 hes
  cases h
  exact .empty

theorem PairedIn.clear (H : L.PairedIn R s) (hR : Medium.Undivided R) :
    L.PairedIn R s.clear.2 := by
  rw [Store.clear]
  cases hsave : Medium.save Dictionary.empty s.medium with
  | mk x m => exact H.save hR .empty hsave .empty

/-- The answers come as the log says. -/
def arrivals (L : Log σ) : Premise σ where
  reply call _ r := ∀ a, r = .ok a → L.came call a
  change _ _ := True

theorem PairedIn.kept (L : Log σ) (hR : Medium.Undivided R) :
    Store.Kept L.arrivals (L.PairedIn R) where
  adoptLogin c call a u t _ H hr ha := by
    rw [Client.store_adoptLogin]
    exact H.saveLogin hR (.signedIn (hr a rfl) ha) u
  storeProfile c call a u _ H _ _ := by
    rw [Client.store_storeUser]
    exact H.updateUser hR u
  updateUser c u w _ H _ := by
    rw [Client.store_storeUser]
    exact H.updateUser hR _
  settleRenewal c sent a _ H hr := by
    obtain h | ⟨fresh, hsuccess, hdec, h⟩ | h := Client.store_settleRenewal sent a c
    · rw [h]
      exact H
    · rw [h]
      exact H.updateTokens hR (.renewed (hr a rfl) hsuccess hdec)
    · rw [h]
      exact H.clearIfRefresh hR sent
  clear c d _ H hd _ := by
    rw [hd]
    exact H.clear hR

/-- What a store opens with was stored together, and nothing else is on the medium. -/
theorem PairedIn.openOn (hR : Medium.Undivided R) {m m' : σ} (hm : R m)
    (hopen : Store.openOn m = (.ok s, m')) (hstart : L.start = s) : L.PairedIn R s := by
  have hpaired : L.Paired s.entries := by
    obtain hempty | Hs := Whole.openOn hopen
    · rw [hempty]
      exact .empty
    · obtain ⟨access, haccess⟩ := Hs.get?_access
      obtain ⟨refresh, hrefresh⟩ := Hs.get?_refresh
      exact .inr ⟨⟨access, refresh⟩, .stored (hstart ▸ ⟨haccess, hrefresh⟩), haccess, hrefresh⟩
  rw [Store.openOn] at hopen
  split at hopen
  · cases hopen
  next loaded hload =>
    simp only at hopen
    split at hopen
    · cases hopen
      refine ⟨hpaired, hm, fun es hes => ?_⟩
      cases hload.symm.trans hes
      exact hpaired.of_filterKeys
    · split at hopen
      next hsave =>
        cases hopen
        obtain ⟨hm', hcleared⟩ := hR.saved hm hsave
        refine ⟨hpaired, hm', fun es hes => ?_⟩
        cases hcleared.symm.trans hes
        exact .empty
      next => cases hopen

end Log

/-- From any medium that opens, at every wait of every run of operations, the two tokens in memory are
a genuine pair, or there are none, and so are the two tokens on the medium. -/
theorem run?_paired [Medium σ] {R : σ → Prop} (hR : Medium.Undivided R) {m m' : σ} {s : Store σ}
    (hm : R m) (hopen : openOn m = (.ok s, m')) {ms : List (Move σ Unit)}
    (hms : ∀ mv ∈ ms, mv.IsOperation) {p : Pool σ Unit}
    (hrun : Pool.run? ⟨.connect s, []⟩ ms = some p) :
    (Log.ofRun s ms).Paired p.client.store.entries ∧
      ∀ es, Medium.load p.client.store.medium = .ok es → (Log.ofRun s ms).Paired es := by
  have hstart : (Client.connect s).Agrees ∧ (Log.ofRun s ms).PairedIn R (Client.connect s).store :=
    ⟨.connect (.openOn hopen), Log.PairedIn.openOn hR hm hopen rfl⟩
  obtain ⟨_, H⟩ :=
    Pool.run?_kept (Log.PairedIn.kept _ hR).client hstart hms (fun x hx a ha => ⟨x.2.1, ha ▸ hx⟩)
      (fun _ _ => trivial) hrun
  exact ⟨H.memory, H.medium⟩

/-- Two renewals, of which the first cannot be saved and the second changes the refresh token; then
another user signs in while a logout is dropped that cannot be saved either. -/
theorem run?_paired_unsaved_renewal :
    let es := withLogin .empty default ⟨"A1", "R1"⟩
    let m : Memory := ⟨es, 0, fun n => n == 0 || n == 2, false⟩
    let s : Store Memory := ⟨es, m⟩
    let ms : List (Move Memory Unit) :=
      [.start (Operation.send (.get "/courses/")).task, .reply 0 (.ok ⟨401, ""⟩), .enter 0,
        .reply 0 (.ok ⟨200, "\x7b\"access\":\"A2\"\x7d"⟩),
        .start (Operation.renew (some "A1")).task, .enter 1,
        .reply 1 (.ok ⟨200, "\x7b\"access\":\"A3\",\"refresh\":\"R3\"\x7d"⟩),
        .start (Operation.login "bob" "secret").task, .start Operation.logout.task, .cancel 3,
        .reply 2 (.ok ⟨200, "\x7b\"user\":\x7b\"id\":2,\"role\":\"faculty\"\x7d," ++
          "\"tokens\":\x7b\"access\":\"A4\",\"refresh\":\"R4\"\x7d\x7d"⟩)]
    Medium.Undivided (fun m : Memory => m.loadFails = false) ∧ m.loadFails = false ∧
      openOn m = (.ok s, m) ∧ (∀ mv ∈ ms, mv.IsOperation) ∧
      ∃ p, Pool.run? ⟨.connect s, []⟩ ms = some p ∧
        (Log.ofRun s ms).Paired p.client.store.entries ∧
        ∀ es, Medium.load p.client.store.medium = .ok es → (Log.ofRun s ms).Paired es := by
  intro es m s ms
  have hR := Memory.reliable.undivided
  have hes : Whole es := .inr (Whole.withLogin (.inl rfl) _ _)
  have hopen : openOn m = (.ok s, m) := openOn_eq rfl hes.filterKeys hes
  have hms : ∀ mv ∈ ms, mv.IsOperation := by
    simp only [ms, List.forall_mem_cons]
    exact ⟨⟨_, rfl⟩, trivial, trivial, trivial, ⟨_, rfl⟩, trivial, trivial, ⟨_, rfl⟩, ⟨_, rfl⟩,
      trivial, trivial, nofun⟩
  have hrun : (Pool.run? ⟨.connect s, []⟩ ms).isSome = true := by decide +kernel
  obtain ⟨p, hp⟩ := Option.isSome_iff_exists.1 hrun
  exact ⟨hR, rfl, hopen, hms, p, hp, run?_paired hR rfl hopen hms hp⟩

end SessionKeeper
