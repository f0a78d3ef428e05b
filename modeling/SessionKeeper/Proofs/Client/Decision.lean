import SessionKeeper.Proofs.Client.Claimants

/-!
# The deciding reply

What the claimants of a token come to is decided by one reply to a renewal call, the first that
brings a new token which can be saved, or a rejection that can. One invariant holds before it
(`Undecided`) and one after it (`Decided`); each comes with what a step from stage to stage can then
be.
-/

namespace SessionKeeper

variable {σ : Type}

/-- What the claimants of a token come to. -/
inductive Verdict where
  | renewed (token : String)
  | rejected
deriving DecidableEq

/-- What a renewal ends with once the matter is decided. -/
def Verdict.award : Verdict → Except ApiError String
  | .renewed token => .ok token
  | .rejected => .error .sessionExpired

/-- The access token that is stored after a decision. -/
def Verdict.token? : Verdict → Option String
  | .renewed token => some token
  | .rejected => none

variable [Medium σ] {c c' : Client σ} {ss : List Stage} {stale : String}

/-- The medium would save these entries now. -/
def Client.saves (c : Client σ) (es : Entries) : Bool := (Medium.save es c.store.medium).1.isOk

/-- What the reply to a renewal call decides: an answer that brings another token than the refused
one does if that can be saved, a rejection does if the cleared store can be saved, and no other
reply does. -/
def Client.verdict? (c : Client σ) (stale : String) : Reply → Option Verdict
  | .error _ => none
  | .ok a =>
    if a.isSuccess then
      match a.decode RefreshAnswer.decoder with
      | .error _ => none
      | .ok fresh =>
        if fresh.access ≠ stale &&
            c.saves (Store.withTokens c.store.entries fresh.access fresh.refresh) then
          some (.renewed fresh.access)
        else none
    else if a.isRejection && c.saves .empty then some .rejected
    else none

/-- While the refresh token that was sent is stored, a reply either decides the matter or leaves the
refused token where it is. -/
theorem Client.settleReply_cases {sent : String} (haccess : c.store.accessToken = some stale)
    (hs : Store.SignedIn c.store.entries) (hsent : c.store.refreshToken = some sent) (x : Reply) :
    (∃ v, c.verdict? stale x = some v ∧ (c.settleReply sent x).1 = v.award ∧
      (c.settleReply sent x).2.store.accessToken = v.token? ∧ v.token? ≠ some stale) ∨
    (c.verdict? stale x = none ∧ (c.settleReply sent x).2.store.accessToken = some stale ∧
      Store.SignedIn (c.settleReply sent x).2.store.entries) := by
  cases x with
  | error fault => exact .inr ⟨rfl, haccess, hs⟩
  | ok a =>
    have hholds : Store.holdsRefresh c.store.entries sent = true := beq_iff_eq.2 hsent
    rw [settleReply, verdict?]
    obtain ⟨fresh, m, hsuccess, hdec, _, _, hsave, h⟩ | ⟨m, hsuccess, hreject, _, hsave, h⟩ |
      ⟨es, e, m, hsave, hcase, h⟩ | ⟨e, hcase, h⟩ := settleRenewal_cases sent a c
    · have hfresh := Store.get?_access_withTokens c.store.entries fresh.access fresh.refresh
      simp only [h, hsuccess, hdec, saves, hsave, Except.isOk, Except.toBool, if_true,
        Bool.and_true, decide_eq_true_eq]
      by_cases hne : fresh.access = stale
      · exact .inr ⟨if_neg (not_not_intro hne), hne ▸ hfresh, hs.withTokens _ _⟩
      · exact .inl ⟨.renewed fresh.access, if_pos hne, rfl, hfresh,
          fun h => hne (Option.some.inj h)⟩
    · simp only [h, hsuccess, hreject, saves, hsave]
      exact .inl ⟨.rejected, rfl, rfl, rfl, (Option.some_ne_none stale).symm⟩
    · refine .inr ?_
      rw [h]
      refine ⟨?_, haccess, hs⟩
      obtain ⟨hsuccess, fresh, hdec, rfl⟩ | ⟨hsuccess, rfl⟩ := hcase
      · simp [hsuccess, hdec, saves, hsave, Except.isOk, Except.toBool]
      · simp [hsuccess, saves, hsave, Except.isOk, Except.toBool]
    · refine .inr ?_
      rw [h]
      refine ⟨?_, haccess, hs⟩
      obtain ⟨hsuccess, hdec⟩ | ⟨hsuccess, hreject⟩ := hcase hs.isComplete hholds
      · simp [hsuccess, hdec]
      · simp [hsuccess, hreject]

/-! ## Before and after the decision -/

/-- Nothing is decided yet: the refused token is stored, and at most one claimant has its call out,
with the refresh token that is stored. -/
structure Undecided (stale : String) (c : Client σ) (ss : List Stage) : Prop where
  access : c.store.accessToken = some stale
  signedIn : Store.SignedIn c.store.entries
  turn : ∀ (i : Nat) j sent, ss[i]? = some (Stage.calling j sent) →
    c.renewing = true ∧ c.store.refreshToken = some sent
  single : ∀ (i i' : Nat) j j' sent sent', ss[i]? = some (Stage.calling j sent) →
    ss[i']? = some (Stage.calling j' sent') → i = i'

/-- The matter is decided: another token is stored than the refused one, or none, and nobody has a
call out. -/
structure Decided (stale : String) (v : Verdict) (c : Client σ) (ss : List Stage) : Prop where
  other : v.token? ≠ some stale
  access : c.store.accessToken = v.token?
  idle : c.renewing = false
  quiet : ∀ (i : Nat) j sent, ss[i]? ≠ some (Stage.calling j sent)

/-- What a claimant decides when it goes on from a stage. -/
def Stage.decides? (stale : String) (c : Client σ) : Stage → Option Reply → Option Verdict
  | .calling _ _, some r => c.verdict? stale r
  | _, _ => none

variable {s s' : Stage} {x : Option Reply} {i : Nat} {v : Verdict}

omit [Medium σ] in
/-- A claimant that has no call out takes the place of another one. -/
theorem Undecided.set (H : Undecided stale c ss) (hs' : ∀ j sent, s' ≠ .calling j sent) :
    Undecided stale c (ss.set i s') where
  access := H.access
  signedIn := H.signedIn
  turn k j sent hk := by
    obtain ⟨_, h⟩ | ⟨_, hk⟩ := Stage.getElem?_set_cases hk
    · exact absurd h.symm (hs' j sent)
    · exact H.turn k j sent hk
  single k k' j j' sent sent' hk hk' := by
    obtain ⟨_, h⟩ | ⟨_, hk⟩ := Stage.getElem?_set_cases hk
    · exact absurd h.symm (hs' j sent)
    · obtain ⟨_, h⟩ | ⟨_, hk'⟩ := Stage.getElem?_set_cases hk'
      · exact absurd h.symm (hs' j' sent')
      · exact H.single k k' j j' sent sent' hk hk'

/-- Before the decision, a step makes the decision, or leaves the matter undecided; then it makes a
renewal call if it is a turn, and only then. -/
theorem Undecided.step (H : Undecided stale c ss) (hi : ss[i]? = some s)
    (hstep : Stage.Step stale c s x s' c') :
    (∃ v j, s.decides? stale c x = some v ∧ Decided stale v c' (ss.set i s') ∧ x.isSome = true ∧
      s.job? = some j ∧ s' = j.next v.award) ∨
    (s.decides? stale c x = none ∧ Undecided stale c' (ss.set i s') ∧
      (s'.call? stale).any Call.isRenewal = x.isNone) := by
  have hplan : Renewal.plan c.store.accessToken (some stale) = .due := by
    rw [H.access]; exact if_pos rfl
  cases hstep with
  | answered h =>
    exact .inr ⟨rfl, H.set nofun, rfl⟩
  | refused h401 =>
    exact .inr ⟨rfl, H.set nofun, rfl⟩
  | resentAnswered =>
    exact .inr ⟨rfl, H.set nofun, rfl⟩
  | reuse _ h | gone _ h => rw [hplan] at h; cases h
  | lacking _ _ h =>
    obtain ⟨sent, hsent⟩ := H.signedIn.get?_refresh
    exact absurd (hsent.symm.trans h) nofun
  | call hidle _ hsent =>
    refine .inr ⟨rfl, ⟨H.access, H.signedIn, fun k j sent hk => ?_, ?_⟩, rfl⟩
    · obtain ⟨_, h⟩ | ⟨_, hk⟩ := Stage.getElem?_set_cases hk
      · cases h; exact ⟨rfl, hsent⟩
      · exact ⟨rfl, (H.turn k j sent hk).2⟩
    · -- nobody else has a call out, because the turn was free
      have hnone : ∀ (k : Nat) j sent, ss[k]? ≠ some (Stage.calling j sent) := fun k j sent hk =>
        Bool.false_ne_true (hidle.symm.trans (H.turn k j sent hk).1)
      intro k k' j j' sent sent' hk hk'
      obtain ⟨rfl, _⟩ | ⟨_, hk⟩ := Stage.getElem?_set_cases hk
      · obtain ⟨rfl, _⟩ | ⟨_, hk'⟩ := Stage.getElem?_set_cases hk'
        · rfl
        · exact absurd hk' (hnone k' j' sent')
      · exact absurd hk (hnone k j sent)
  | @renewed j sent r =>
    obtain ⟨_, hsent⟩ := H.turn i j sent hi
    -- the only call that was out is answered
    have hquiet : ∀ (k : Nat) j' sent' y,
        (ss.set i (j.next y))[k]? ≠ some (Stage.calling j' sent') := fun k j' sent' y hk => by
      obtain ⟨_, h⟩ | ⟨hne, hk⟩ := Stage.getElem?_set_cases hk
      · exact Stage.not_calling_next _ _ h.symm
      · exact hne (H.single k i _ _ _ _ hk hi)
    obtain ⟨v, hv, hx, haccess, hother⟩ | ⟨hv, haccess, hsigned⟩ :=
      Client.settleReply_cases H.access H.signedIn hsent r
    · refine .inl ⟨v, j, hv, ⟨hother, haccess, rfl, fun k j' sent' => hquiet k j' sent' _⟩, rfl,
        rfl, by rw [hx]⟩
    · refine .inr ⟨hv, ⟨haccess, hsigned, fun k j' sent' hk => absurd hk (hquiet k j' sent' _),
        fun k _ j' _ sent' _ hk => absurd hk (hquiet k j' sent' _)⟩, ?_⟩
      refine Bool.eq_false_iff.2 fun h => ?_
      obtain ⟨j', sent', h⟩ := (Stage.any_isRenewal stale _).1 h
      exact Stage.not_calling_next _ _ h

omit [Medium σ] in
theorem Decided.not_isRenewal (H : Decided stale v c ss) (hi : ss[i]? = some s) :
    ¬ (s.call? stale).any Call.isRenewal = true := fun h => by
  obtain ⟨j, sent, rfl⟩ := (Stage.any_isRenewal stale s).1 h
  exact H.quiet i j sent hi

/-- After the decision, a turn comes to what was decided, and a reply to no further call. -/
theorem Decided.step (H : Decided stale v c ss) (hi : ss[i]? = some s)
    (hstep : Stage.Step stale c s x s' c') :
    c' = c ∧ Decided stale v c (ss.set i s') ∧
      ((x = none ∧ ∃ j, s = .waiting j ∧ s' = j.next v.award) ∨
        (x.isSome = true ∧ s'.call? stale = none ∧ ∀ j, s ≠ .waiting j)) := by
  have hset : (∀ j sent, s' ≠ .calling j sent) → Decided stale v c (ss.set i s') := fun hs' =>
    ⟨H.other, H.access, H.idle, fun k j sent hk => by
      obtain ⟨_, h⟩ | ⟨_, hk⟩ := Stage.getElem?_set_cases hk
      · exact hs' j sent h.symm
      · exact H.quiet k j sent hk⟩
  have hdue : Renewal.plan c.store.accessToken (some stale) ≠ .due := by
    rw [H.access]
    cases v with
    | rejected => intro h; cases h
    | renewed token =>
      have hne : token ≠ stale := fun h => H.other (congrArg some h)
      simp [Verdict.token?, Renewal.plan, hne]
  cases hstep with
  | answered | refused | resentAnswered =>
    refine ⟨rfl, hset ?_, .inr ⟨rfl, rfl, ?_⟩⟩
    · intro j sent h; cases h
    · intro j h; cases h
  | @reuse j token _ h =>
    have hv : v.award = .ok token := by
      have := Renewal.stored_of_plan h
      rw [H.access] at this
      cases v with
      | rejected => cases this
      | renewed _ => cases this; rfl
    exact ⟨rfl, hset (Stage.not_calling_next · ·), .inl ⟨rfl, j, rfl, by rw [hv]⟩⟩
  | @gone j _ h =>
    have hv : v.award = .error .sessionExpired := by
      rw [H.access] at h
      cases v with
      | rejected => rfl
      | renewed token =>
        rw [Verdict.token?, Renewal.plan] at h
        split at h <;> cases h
    exact ⟨rfl, hset (Stage.not_calling_next · ·), .inl ⟨rfl, j, rfl, by rw [hv]⟩⟩
  | lacking _ h | call _ h => exact absurd h hdue
  | renewed => exact absurd hi (H.quiet _ _ _)

end SessionKeeper
