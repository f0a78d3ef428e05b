import SessionKeeper.Proofs.Client.Decision

/-!
# Single flight

However many claimants there are and in whatever order they go on, one renewal call is out at a
time, each turn calls until a reply decides the matter, and no turn does so after that
(`Pool.run?_singleFlight`). A run before the decision keeps `Undecided` (`Undecided.run`) and one
after it keeps `Decided` (`Decided.run`, and `Decided.run_at` for each claimant).
-/

namespace SessionKeeper

variable {σ α : Type}

/-! ## What is decided in a run -/

namespace Pool

variable [Medium σ]

/-- What a move decides: the reply to a renewal call may decide something. -/
def verdict? (p : Pool σ α) (stale : String) : Move σ α → Option (Nat × Verdict)
  | .reply i r => if p.isCalling i then (p.client.verdict? stale r).map (i, ·) else none
  | _ => none

/-- What is decided in a run, in order. -/
def verdicts (p : Pool σ α) (stale : String) : List (Move σ α) → List (Nat × Verdict)
  | [] => []
  | m :: ms =>
    match p.move? m with
    | none => []
    | some q => (p.verdict? stale m).toList ++ q.verdicts stale ms

end Pool

/-- How it goes on for claimants after a decision at the index `k`. The moves `late` begin with the
deciding reply, which finds the pool `q`, and end with the pool `p`; they are the last of all moves
`ms`. -/
structure Aftermath (ks : List Claimant) (k : Nat) (v : Verdict) (ms late : List (Move σ Award))
    (q p : Pool σ Award) : Prop where
  /-- Whoever waits for a turn can have it. -/
  free : p.client.renewing = false
  /-- Who asked for a token gets what was decided, without a call. -/
  seekers : ∀ i, ks[i]? = some .seeker →
    callsOf i (q.calls late) = [] ∧
      (i = k ∨ i ∈ Move.turns late → p.tasks[i]? = some (.done (.token v.award)))
  /-- A request whose first dispatch was refused is sent once more with the new token, or else ends
  with its refusal, without a call. -/
  senders : ∀ i r, ks[i]? = some (.sender r) →
    match v with
    | .renewed token =>
      callsOf i (q.calls late) =
        if i = k ∨ i ∈ Move.turns late then [r.retried.call (some token)] else []
    | .rejected =>
      callsOf i (q.calls late) = [] ∧
        (i = k ∨ i ∈ Move.turns late →
          ∃ a, .reply i (.ok a) ∈ ms ∧ a.status = 401 ∧
            p.tasks[i]? = some (.done (.delivery a.outcome)))

/-! ## Runs -/

variable [Medium σ] {c c' : Client σ} {ss : List Stage} {stale : String}

/-- The refusals that requests wait with have been replied to them. -/
def Refused (ms : List (Move σ Award)) (ss : List Stage) : Prop :=
  ∀ i s r a, ss[i]? = some s → s.job? = some (.resend r a) →
    a.status = 401 ∧ .reply i (.ok a) ∈ ms

/-- The claimant at an index took part in the renewal with that job, and got what was decided. -/
structure Served (stale : String) (v : Verdict) (ms : List (Move σ Award)) (i : Nat) (j : Job)
    (cs : List (Nat × Call)) (p : Pool σ Award) : Prop where
  refused : ∀ r a, j = .resend r a → a.status = 401 ∧ .reply i (.ok a) ∈ ms
  calls : callsOf i cs = ((j.next v.award).call? stale).toList
  ended : ∀ k x, j.next v.award = .closed k x → p.tasks[i]? = some (.done x)

/-- The claimant at an index is served if it takes part in the renewal, and makes no call otherwise.
-/
def ServedIf (part : Prop) (stale : String) (v : Verdict) (ms : List (Move σ Award)) (i : Nat)
    (k : Claimant) (cs : List (Nat × Call)) (p : Pool σ Award) : Prop :=
  (¬ part ∧ callsOf i cs = []) ∨ (part ∧ ∃ j, j.claimant = k ∧ Served stale v ms i j cs p)

omit [Medium σ] in
/-- Calls of other tasks make no difference. -/
theorem ServedIf.congr {part part' : Prop} {v : Verdict} {ms : List (Move σ Award)} {i : Nat}
    {k : Claimant} {cs cs' : List (Nat × Call)} {p : Pool σ Award}
    (H : ServedIf part stale v ms i k cs p) (hpart : part' ↔ part)
    (hcalls : callsOf i cs' = callsOf i cs) : ServedIf part' stale v ms i k cs' p := by
  rcases H with ⟨hnot, h⟩ | ⟨hdone, j, hj, h⟩
  · exact .inl ⟨fun h' => hnot (hpart.1 h'), hcalls.trans h⟩
  · exact .inr ⟨hpart.2 hdone, j, hj, h.refused, hcalls.trans h.calls, h.ended⟩

theorem Refused.step {ms : List (Move σ Award)} {s s' : Stage} {x : Option Reply} {i : Nat}
    (H : Refused ms ss) (hi : ss[i]? = some s) (hstep : Stage.Step stale c s x s' c')
    (hm : .progress i x ∈ ms) : Refused ms (ss.set i s') := by
  intro k t r a hk hjob
  obtain ⟨rfl, rfl⟩ | ⟨_, hk⟩ := Stage.getElem?_set_cases hk
  · cases hstep with
    | refused h401 => cases hjob; exact ⟨h401, hm⟩
    | call => exact H _ _ _ _ hi hjob
    | reuse | gone | lacking | renewed => rw [Job.job?_next] at hjob; cases hjob
    | answered | resentAnswered => cases hjob
  · exact H k t r a hk hjob

theorem Pool.verdict?_staged {s : Stage} {x : Option Reply} {i : Nat} (hi : ss[i]? = some s) :
    (staged stale c ss).verdict? stale (.progress i x) = (s.decides? stale c x).map (i, ·) := by
  cases x with
  | none => cases s <;> rfl
  | some r =>
    rw [Move.progress, verdict?, isCalling, callAt?_staged hi]
    cases s with
    | calling => rfl
    | out | resent => simp [Stage.call?, Call.isRenewal, Request.call, Stage.decides?]
    | waiting | closed => rfl

variable {ms all : List (Move σ Award)} {p : Pool σ Award} {v : Verdict}

/-- In a run before the decision the tasks that call are those that have their turn. -/
theorem Undecided.run (H : Undecided stale c ss) (hr : Refused all ss)
    (hms : ∀ m ∈ ms, m.IsProgress) (hall : ∀ m ∈ ms, m ∈ all)
    (hrun : (Pool.staged stale c ss).run? ms = some p)
    (hnone : (Pool.staged stale c ss).verdicts stale ms = []) :
    ∃ c' ss', p = .staged stale c' ss' ∧ Undecided stale c' ss' ∧ Refused all ss' ∧
      ss'.map Stage.claimant = ss.map Stage.claimant ∧
      renewers ((Pool.staged stale c ss).calls ms) = Move.turns ms := by
  induction ms generalizing c ss with
  | nil => cases hrun; exact ⟨c, ss, rfl, H, hr, rfl, rfl⟩
  | cons m ms ih =>
    rw [List.forall_mem_cons] at hms hall
    obtain ⟨q, hq, hrun⟩ := Option.bind_eq_some_iff.1 hrun
    obtain ⟨i, x, s, s', c', rfl, hi, hstep, rfl⟩ := Pool.move?_staged hms.1 hq
    rw [Pool.verdicts, hq, List.append_eq_nil_iff, Pool.verdict?_staged hi] at hnone
    obtain ⟨v, _, hv, _⟩ | ⟨_, H', hcall⟩ := H.step hi hstep
    · rw [hv] at hnone; exact absurd hnone.1 (by simp)
    · obtain ⟨c₁, ss₁, rfl, H₁, hr₁, hclaim, hcalls⟩ :=
        ih H' (hr.step hi hstep hall.1) hms.2 hall.2 hrun hnone.2
      refine ⟨c₁, ss₁, rfl, H₁, hr₁, hclaim.trans (hstep.map_claimant hi), ?_⟩
      rw [Pool.calls_staged hi hq, renewers_cons, hcall, hcalls, Move.turns_progress]

/-- In a run after the decision the client stays as it is and nobody makes a renewal call. -/
theorem Decided.run (H : Decided stale v c ss) (hms : ∀ m ∈ ms, m.IsProgress)
    (hrun : (Pool.staged stale c ss).run? ms = some p) :
    ∃ ss', p = .staged stale c ss' ∧ Decided stale v c ss' ∧
      renewers ((Pool.staged stale c ss).calls ms) = [] := by
  induction ms generalizing ss with
  | nil => cases hrun; exact ⟨ss, rfl, H, rfl⟩
  | cons m ms ih =>
    rw [List.forall_mem_cons] at hms
    obtain ⟨q, hq, hrest⟩ := Option.bind_eq_some_iff.1 hrun
    obtain ⟨i, x, s, s', c', rfl, hi, hstep, rfl⟩ := Pool.move?_staged hms.1 hq
    obtain ⟨rfl, H', _⟩ := H.step hi hstep
    obtain ⟨ss₁, rfl, H₁, hcalls⟩ := ih H' hms.2 hrest
    refine ⟨ss₁, rfl, H₁, ?_⟩
    have hcall := H'.not_isRenewal (List.getElem?_set_self (List.getElem?_eq_some_iff.1 hi).1)
    rw [Pool.calls_staged hi hq, renewers_cons, if_neg hcall, hcalls]; rfl

/-- In a run nothing is decided, or something is. -/
theorem Undecided.run_phase (H : Undecided stale c ss) (hms : ∀ m ∈ ms, m.IsProgress)
    (hrun : (Pool.staged stale c ss).run? ms = some p) :
    ∃ c' ss', p = .staged stale c' ss' ∧
      (Undecided stale c' ss' ∨ ∃ v, Decided stale v c' ss') := by
  induction ms generalizing c ss with
  | nil => cases hrun; exact ⟨c, ss, rfl, .inl H⟩
  | cons m ms ih =>
    rw [List.forall_mem_cons] at hms
    obtain ⟨q, hq, hrest⟩ := Option.bind_eq_some_iff.1 hrun
    obtain ⟨i, x, s, s', c', rfl, hi, hstep, rfl⟩ := Pool.move?_staged hms.1 hq
    obtain ⟨v, _, _, H', _⟩ | ⟨_, H', _⟩ := H.step hi hstep
    · obtain ⟨ss₁, rfl, H₁, _⟩ := H'.run hms.2 hrest
      exact ⟨c', ss₁, rfl, .inr ⟨v, H₁⟩⟩
    · exact ih H' hms.2 hrest

/-- A claimant that is past the renewal does nothing more but to take a last reply. -/
theorem Decided.run_past (H : Decided stale v c ss) (hms : ∀ m ∈ ms, m.IsProgress)
    (hrun : (Pool.staged stale c ss).run? ms = some p) {i : Nat} {s : Stage}
    (hi : ss[i]? = some s) (hpast : s.IsPast) :
    i ∉ Move.turns ms ∧ callsOf i ((Pool.staged stale c ss).calls ms) = [] ∧
      ∀ k y, s = .closed k y → p.tasks[i]? = some (.done y) := by
  induction ms generalizing ss s with
  | nil =>
    cases hrun
    refine ⟨nofun, rfl, fun k y h => ?_⟩
    rw [Pool.staged_tasks hi, h]; rfl
  | cons m ms ih =>
    rw [List.forall_mem_cons] at hms
    obtain ⟨q, hq, hrest⟩ := Option.bind_eq_some_iff.1 hrun
    obtain ⟨k, x, t, t', c', rfl, hk, hstep, rfl⟩ := Pool.move?_staged hms.1 hq
    obtain ⟨rfl, H', _⟩ := H.step hk hstep
    rw [Pool.calls_staged hk hq, Move.mem_turns_progress]
    by_cases hik : i = k
    · subst hik
      cases hi.symm.trans hk
      have hi' : (ss.set i t')[i]? = some t' :=
        List.getElem?_set_self (List.getElem?_eq_some_iff.1 hi).1
      obtain ⟨hx, hpast', hcall, hclosed⟩ := hstep.of_past hpast
      obtain ⟨hturns, hcalls, _⟩ := ih H' hms.2 hrest hi' hpast'
      refine ⟨fun h => ?_, ?_, fun k y h => absurd h (hclosed k y)⟩
      · rcases h with ⟨rfl, _⟩ | h
        · cases hx
        · exact hturns h
      · rw [callsOf_cons_self, hcall, hcalls]; rfl
    · have hi' : (ss.set k t')[i]? = some s := by rw [List.getElem?_set_ne (Ne.symm hik), hi]
      obtain ⟨hturns, hcalls, hended⟩ := ih H' hms.2 hrest hi' hpast
      refine ⟨fun h => ?_, by rw [callsOf_cons_of_ne (Ne.symm hik), hcalls], hended⟩
      rcases h with ⟨_, h⟩ | h
      · exact hik h
      · exact hturns h

/-- After the decision, a claimant that has its turn is served, and another one makes no call. -/
theorem Decided.run_at (H : Decided stale v c ss) (hr : Refused all ss)
    (hms : ∀ m ∈ ms, m.IsProgress) (hall : ∀ m ∈ ms, m ∈ all)
    (hrun : (Pool.staged stale c ss).run? ms = some p) {i : Nat} {s : Stage}
    (hi : ss[i]? = some s) :
    ServedIf (i ∈ Move.turns ms) stale v all i s.claimant
      ((Pool.staged stale c ss).calls ms) p := by
  induction ms generalizing ss s with
  | nil => cases hrun; exact .inl ⟨nofun, rfl⟩
  | cons m ms ih =>
    rw [List.forall_mem_cons] at hms hall
    obtain ⟨q, hq, hrest⟩ := Option.bind_eq_some_iff.1 hrun
    obtain ⟨k, x, t, t', c', rfl, hk, hstep, rfl⟩ := Pool.move?_staged hms.1 hq
    obtain ⟨rfl, H', hcase⟩ := H.step hk hstep
    have hr' := hr.step hk hstep hall.1
    rw [Pool.calls_staged hk hq]
    by_cases hik : i = k
    · subst hik
      cases hi.symm.trans hk
      have hi' : (ss.set i t')[i]? = some t' :=
        List.getElem?_set_self (List.getElem?_eq_some_iff.1 hi).1
      obtain ⟨rfl, j, rfl, rfl⟩ | ⟨hx, hcall, _⟩ := hcase
      · -- its turn: nothing that it does later counts
        obtain ⟨_, hpast, hended⟩ := H'.run_past hms.2 hrest hi' (Stage.isPast_next j v.award)
        refine .inr ⟨Move.mem_turns_progress.2 (.inl ⟨rfl, rfl⟩), j, rfl, fun r a hj => ?_, ?_,
          hended⟩
        · exact hr i _ r a hi (congrArg some hj)
        · rw [callsOf_cons_self, hpast, List.append_nil]
      · have hserved := ih H' hr' hms.2 hall.2 hrest hi'
        rw [hstep.claimant_eq] at hserved
        refine hserved.congr ?_ (by rw [callsOf_cons_self, hcall]; rfl)
        rw [Move.mem_turns_progress, or_iff_right]
        rintro ⟨rfl, _⟩; cases hx
    · have hi' : (ss.set k t')[i]? = some s := by rw [List.getElem?_set_ne (Ne.symm hik), hi]
      refine (ih H' hr' hms.2 hall.2 hrest hi').congr ?_ (callsOf_cons_of_ne (Ne.symm hik) _ _)
      rw [Move.mem_turns_progress, or_iff_right fun h => hik h.2]

/-- From the deciding reply on nobody makes a renewal call, and each claimant is served if it made
the call or has its turn. -/
theorem Undecided.run_decided (H : Undecided stale c ss) (hr : Refused all ss) {m : Move σ Award}
    (hms : ∀ m' ∈ m :: ms, m'.IsProgress) (hall : ∀ m' ∈ m :: ms, m' ∈ all)
    (hrun : (Pool.staged stale c ss).run? (m :: ms) = some p) {k : Nat}
    (hv : (Pool.staged stale c ss).verdict? stale m = some (k, v)) :
    (∃ c' ss', p = .staged stale c' ss' ∧ Decided stale v c' ss') ∧
      renewers ((Pool.staged stale c ss).calls (m :: ms)) = [] ∧
      ∀ (i : Nat) s, ss[i]? = some s →
        ServedIf (i = k ∨ i ∈ Move.turns (m :: ms)) stale v all i s.claimant
          ((Pool.staged stale c ss).calls (m :: ms)) p := by
  rw [List.forall_mem_cons] at hms hall
  obtain ⟨q, hq, hrest⟩ := Option.bind_eq_some_iff.1 hrun
  obtain ⟨k', x, t, t', c', rfl, hk, hstep, rfl⟩ := Pool.move?_staged hms.1 hq
  rw [Pool.verdict?_staged hk] at hv
  obtain ⟨v', hv', heq⟩ := Option.map_eq_some_iff.1 hv
  cases heq
  obtain ⟨v', j, hv, H', hx, hj, rfl⟩ | ⟨hnone, _⟩ := H.step hk hstep
  · cases hv.symm.trans hv'
    have hlt := (List.getElem?_eq_some_iff.1 hk).1
    have hk' : (ss.set k (j.next v.award))[k]? = some (j.next v.award) := List.getElem?_set_self hlt
    have hr' := hr.step hk hstep hall.1
    obtain ⟨ss', hp, hdecided, hcalls⟩ := H'.run hms.2 hrest
    rw [Pool.calls_staged hk hq]
    refine ⟨⟨c', ss', hp, hdecided⟩, ?_, fun i s hi => ?_⟩
    · rw [renewers_cons, if_neg (H'.not_isRenewal hk'), hcalls]; rfl
    · by_cases hik : i = k
      · -- the claimant whose call was answered is served at once
        subst hik
        cases hi.symm.trans hk
        obtain ⟨_, hpast, hended⟩ := H'.run_past hms.2 hrest hk' (Stage.isPast_next j v.award)
        refine .inr ⟨.inl rfl, j, Stage.claimant_of_job? hj, fun r a h => ?_, ?_, hended⟩
        · exact hr i t r a hk (hj.trans (congrArg some h))
        · rw [callsOf_cons_self, hpast, List.append_nil]
      · have hi' : (ss.set k (j.next v.award))[i]? = some s := by
          rw [List.getElem?_set_ne (Ne.symm hik), hi]
        have hserved := H'.run_at hr' hms.2 hall.2 hrest hi'
        refine hserved.congr ?_ (callsOf_cons_of_ne (Ne.symm hik) _ _)
        rw [Move.mem_turns_progress, or_iff_right hik, or_iff_right fun h => hik h.2]
  · rw [hnone] at hv'; cases hv'

omit [Medium σ] in
/-- What it means for the claimants that they are served. -/
theorem Aftermath.of_served (stale : String) {ks : List Claimant} {k : Nat}
    {late : List (Move σ Award)} {q : Pool σ Award} (hfree : p.client.renewing = false)
    (H : ∀ (i : Nat) claimant, ks[i]? = some claimant →
      ServedIf (i = k ∨ i ∈ Move.turns late) stale v all i claimant (q.calls late) p) :
    Aftermath ks k v all late q p where
  free := hfree
  seekers i hi := by
    obtain ⟨hturns, hcalls⟩ | ⟨hturns, j, hj, hserved⟩ := H i _ hi
    · exact ⟨hcalls, fun h => absurd h hturns⟩
    · cases j with
      | resend => cases hj
      | seek => exact ⟨hserved.calls, fun _ => hserved.ended _ _ rfl⟩
  senders i r hi := by
    obtain ⟨hturns, hcalls⟩ | ⟨hturns, j, hj, hserved⟩ := H i _ hi
    · cases v with
      | renewed token => simp only [if_neg hturns, hcalls]
      | rejected => exact ⟨hcalls, fun h => absurd h hturns⟩
    · cases j with
      | seek => cases hj
      | resend r' a =>
        cases hj
        cases v with
        | renewed token => simp only [if_pos hturns, hserved.calls]; rfl
        | rejected =>
          obtain ⟨h401, hm⟩ := hserved.refused r a rfl
          exact ⟨hserved.calls, fun _ => ⟨a, hm, h401, hserved.ended _ _ rfl⟩⟩

/-! ## All claimants from the start -/

omit [Medium σ] in
theorem Undecided.start (hstore : Store.Whole c.store.entries)
    (haccess : c.store.accessToken = some stale) (ks : List Claimant) :
    Undecided stale c (ks.map Claimant.first) := by
  have hnone (i : Nat) (j : Job) (sent : String) :
      (ks.map Claimant.first)[i]? ≠ some (.calling j sent) := fun h => by
    rw [List.getElem?_map, Option.map_eq_some_iff] at h
    obtain ⟨k, _, h⟩ := h
    cases k <;> cases h
  have hsigned : Store.SignedIn c.store.entries := hstore.resolve_left fun h => by
    rw [Store.accessToken, h] at haccess; cases haccess
  exact ⟨haccess, hsigned, fun i j sent h => absurd h (hnone i j sent),
    fun i _ j _ sent _ h => absurd h (hnone i j sent)⟩

omit [Medium σ] in
theorem Refused.start (ms : List (Move σ Award)) (ks : List Claimant) :
    Refused ms (ks.map Claimant.first) := by
  intro i s r a hi hjob
  rw [List.getElem?_map, Option.map_eq_some_iff] at hi
  obtain ⟨k, _, rfl⟩ := hi
  cases k <;> cases hjob

/-- Claimants start over a store that holds their token, and go on in any order, with any replies
and any saves. At most one renewal call is out at a time. Each turn makes one, until a reply decides
the matter; from then on no turn does, and each claimant gets what was decided, a request by being
sent once more with the new token or by ending with its refusal. -/
theorem Pool.run?_singleFlight (hstore : Store.Whole c.store.entries)
    (haccess : c.store.accessToken = some stale) {ks : List Claimant} {p₀ p : Pool σ Award}
    (hstart : Pool.run? ⟨c, []⟩ (ks.map fun k => .start (k.task stale)) = some p₀)
    (hms : ∀ m ∈ ms, m.IsProgress) (hrun : p₀.run? ms = some p) :
    (∀ i j, p.isCalling i = true → p.isCalling j = true → i = j) ∧
    (p₀.verdicts stale ms = [] → renewers (p₀.calls ms) = Move.turns ms) ∧
    ∀ before m after q k v, ms = before ++ m :: after → p₀.run? before = some q →
      p₀.verdicts stale before = [] → q.verdict? stale m = some (k, v) →
      renewers (p₀.calls ms) = Move.turns before ∧ Aftermath ks k v ms (m :: after) q p := by
  rw [run?_start haccess] at hstart
  cases hstart
  have H := Undecided.start hstore haccess ks
  refine ⟨fun i j hi hj => ?_, fun hnone => ?_, ?_⟩
  · obtain ⟨c', ss', rfl, H' | ⟨v, H'⟩⟩ := H.run_phase hms hrun
    · obtain ⟨_, _, hi⟩ := isCalling_staged.1 hi
      obtain ⟨_, _, hj⟩ := isCalling_staged.1 hj
      exact H'.single i j _ _ _ _ hi hj
    · obtain ⟨_, _, hi⟩ := isCalling_staged.1 hi
      exact absurd hi (H'.quiet i _ _)
  · obtain ⟨_, _, _, _, _, _, h⟩ := H.run (.start ms ks) hms (fun _ => id) hrun hnone
    exact h
  · rintro before m after q k v rfl hbefore hnone hv
    rw [List.forall_mem_append] at hms
    obtain ⟨c₁, ss₁, rfl, H₁, hr₁, hclaim, hcalls⟩ := H.run (.start _ ks) hms.1
      (fun m' hm' => List.mem_append_left _ hm') hbefore hnone
    rw [run?_append hbefore] at hrun
    obtain ⟨⟨c', ss', rfl, hdecided⟩, hlate, hserved⟩ :=
      H₁.run_decided hr₁ hms.2 (fun m' hm' => List.mem_append_right _ hm') hrun hv
    refine ⟨?_, .of_served stale hdecided.idle fun i claimant hi => ?_⟩
    · rw [calls_append hbefore, renewers_append, hcalls, hlate, List.append_nil]
    · have hstage : (ss₁.map Stage.claimant)[i]? = some claimant := by
        rw [hclaim, List.map_map, List.getElem?_map, hi]
        cases claimant <;> rfl
      rw [List.getElem?_map, Option.map_eq_some_iff] at hstage
      obtain ⟨s, hs, rfl⟩ := hstage
      exact hserved i s hs

/-- Of three claimants the first calls and hears of a failure of the server; the second gets a new
token, before the dispatch of the third is refused. -/
theorem Pool.run?_singleFlight_late_refusal :
    let es := Store.withLogin .empty default ⟨"A1", "R1"⟩
    let c : Client Memory := .connect ⟨es, .ofEntries es⟩
    let ks : List Claimant := [.seeker, .sender (.get "/a"), .sender (.get "/b")]
    let before : List (Move Memory Award) :=
      [.enter 0, .reply 1 (.ok ⟨401, ""⟩), .reply 0 (.ok ⟨500, ""⟩), .enter 1]
    let deciding : Move Memory Award := .reply 1 (.ok ⟨200, "\x7b\"access\":\"A2\"\x7d"⟩)
    let after : List (Move Memory Award) :=
      [.reply 2 (.ok ⟨401, ""⟩), .reply 1 (.ok ⟨200, ""⟩), .enter 2]
    let ms := before ++ deciding :: after
    ∃ p₀ q p, Pool.run? ⟨c, []⟩ (ks.map fun k => .start (k.task "A1")) = some p₀ ∧
      p₀.run? ms = some p ∧ p₀.run? before = some q ∧ p₀.verdicts "A1" before = [] ∧
      q.verdict? "A1" deciding = some (1, .renewed "A2") ∧
      (∀ i j, p.isCalling i = true → p.isCalling j = true → i = j) ∧
      renewers (p₀.calls ms) = [0, 1] ∧
      Aftermath ks 1 (.renewed "A2") ms (deciding :: after) q p := by
  intro es c ks before deciding after ms
  have hdecide : (Pool.run? ⟨c, []⟩ (ks.map fun k => .start (k.task "A1"))).any (fun p₀ =>
      (p₀.run? ms).isSome && (p₀.run? before).any fun q =>
        p₀.verdicts "A1" before = [] && q.verdict? "A1" deciding = some (1, .renewed "A2"))
      = true := by decide +kernel
  obtain ⟨p₀, hstart, h⟩ := (Option.any_eq_true _ _).1 hdecide
  rw [Bool.and_eq_true] at h
  obtain ⟨p, hrun⟩ := Option.isSome_iff_exists.1 h.1
  obtain ⟨q, hbefore, hq⟩ := (Option.any_eq_true _ _).1 h.2
  rw [Bool.and_eq_true, decide_eq_true_iff, decide_eq_true_iff] at hq
  have hms : ∀ m ∈ ms, m.IsProgress := by
    simp only [ms, before, deciding, after, List.forall_mem_append, List.forall_mem_cons]
    exact ⟨⟨trivial, trivial, trivial, trivial, nofun⟩, trivial, trivial, trivial, trivial, nofun⟩
  have hstore : Store.Whole c.store.entries :=
    .inr (Store.Whole.withLogin (.inl rfl) default ⟨"A1", "R1"⟩)
  obtain ⟨hsingle, _, haftermath⟩ := run?_singleFlight hstore rfl hstart hms hrun
  obtain ⟨hcalls, H⟩ := haftermath before deciding after q 1 _ rfl hbefore hq.1 hq.2
  exact ⟨p₀, q, p, hstart, hrun, hbefore, hq.1, hq.2, hsingle, hcalls, H⟩

end SessionKeeper
