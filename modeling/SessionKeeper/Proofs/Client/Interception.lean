import SessionKeeper.Proofs.Client.Claimants
import SessionKeeper.Proofs.Client.Liveness

/-!
# What a request comes to

A request whose token is refused renews the token and is sent once more. The course of a renewal has
at most two waits (`Renewal.Stands`) and that of a request at most four (`Request.Stands`), so a
request is dispatched at most twice, each time with the token that is stored at that moment, and at
most one token is asked for (`Request.Intercepted`). This holds in every run, whatever other tasks
do, and every request can come to its end (`Pool.send_intercepted`).
-/

namespace SessionKeeper

variable {σ α : Type}

/-- The failure says nothing about the credentials: it happened on the way, or is the server's. -/
inductive ApiError.Passing : ApiError → Prop where
  | network (reason : String) : Passing (.network reason)
  | timeout (reason : String) : Passing (.timeout reason)
  | http {status : Nat} (message : String) (body : ErrorBody) (h : 500 ≤ status) :
    Passing (.http status message body)

theorem ApiError.isTransient_iff (e : ApiError) : e.isTransient = true ↔ e.Passing := by
  constructor
  · intro h
    cases e with
    | network | timeout => constructor
    | http status message body => exact .http message body (of_decide_eq_true h)
    | config | parse | serialization | noRefreshToken | sessionExpired | store => cases h
  · intro h
    cases h with
    | network | timeout => rfl
    | http _ _ h => exact decide_eq_true h

variable [Medium σ]

/-! ## The course of a renewal -/

/-- Where a renewal that starts at the client `c` stands after waits of its own. -/
inductive Renewal.Stands (refused : Option String) (c : Client σ) :
    List (Wait σ) → Task σ (Except ApiError String) → Client σ → Prop where
  /-- Its turn has not come. -/
  | queued : Stands refused c [] (renew refused) c
  | reuse {c' : Client σ} {token : String}
    (hplan : Renewal.plan c'.store.accessToken refused = .reuse token) :
    Stands refused c [.turn c c'] (.done (.ok token)) c'
  | gone {c' : Client σ} (hplan : Renewal.plan c'.store.accessToken refused = .gone) :
    Stands refused c [.turn c c'] (.done (.error .sessionExpired)) c'
  /-- Nothing is stored to renew with. -/
  | lacking {c' : Client σ} (h : c'.store.refreshToken = none) :
    Stands refused c [.turn c c'] (.done (.error .noRefreshToken))
      ({ c' with renewing := true } : Client σ).withoutRefreshToken.released
  | calling {c' : Client σ} {sent : String} (h : c'.store.refreshToken = some sent) :
    Stands refused c [.turn c c'] (awaitRenewal sent) { c' with renewing := true }
  | answered {c' c'' : Client σ} {sent : String} {x : Reply}
    (h : c'.store.refreshToken = some sent) :
    Stands refused c
      [.turn c c',
        .reply ((Renewal.request sent).call none) { c' with renewing := true } c'' x]
      (.done (c''.settleReply sent x).1) (c''.settleReply sent x).2.released

namespace Task.Course

variable {c d : Client σ} {ws : List (Wait σ)}

theorem renewal {refused : Option String} {u : Task σ (Except ApiError String)}
    (H : (renew refused).Course c ws u d) : Renewal.Stands refused c ws u d := by
  rw [renew_eq] at H
  obtain ⟨rfl, rfl, rfl⟩ | ⟨c', ws', rfl, hidle, H⟩ := H
  · exact .queued
  · have hreleased := Client.released_begun hidle
    rw [← settle_iff, settle_turn] at H
    dsimp only at H
    cases hplan : Renewal.plan c'.store.accessToken refused with
    | reuse token =>
      rw [hplan] at H
      obtain ⟨rfl, rfl, rfl⟩ := H
      rw [hreleased]
      exact .reuse hplan
    | gone =>
      rw [hplan] at H
      obtain ⟨rfl, rfl, rfl⟩ := H
      rw [hreleased]
      exact .gone hplan
    | due =>
      rw [hplan] at H
      cases hsent : c'.store.refreshToken with
      | none =>
        simp only [hsent] at H
        obtain ⟨rfl, rfl, rfl⟩ := H
        exact .lacking hsent
      | some sent =>
        simp only [hsent] at H
        obtain ⟨rfl, rfl, rfl⟩ | ⟨c'', x, ws'', rfl, H⟩ := H
        · exact .calling hsent
        · rw [← settle_iff, settle_answered] at H
          obtain ⟨rfl, rfl, rfl⟩ := H
          exact .answered hsent

end Task.Course

/-! ## The course of a request -/

/-- The dispatch of a request with the token that the client has stored. -/
def Request.callAt (r : Request) (c : Client σ) : Call := r.call c.store.accessToken

omit [Medium σ] in
/-- What is sent again is the same request. -/
theorem Request.callAt_retried (r : Request) (c : Client σ) : r.retried.callAt c = r.callAt c := rfl

/-- The answer to the first dispatch refuses the token, so that the request renews it. -/
def Request.IsRefused (r : Request) (a : Answer) : Prop := a.status = 401 ∧ r.isRetry = false

/-- Where a request that starts at the client `c` stands after waits of its own. -/
inductive Request.Stands (r : Request) (c : Client σ) :
    List (Wait σ) → Task σ (Except ApiError Answer) → Client σ → Prop where
  /-- The first dispatch is out. -/
  | out {next : Reply → Task σ (Except ApiError Answer)} :
    Stands r c [] (.dispatch (r.callAt c) id next) c
  | answered {c' : Client σ} {x : Reply} (h : ∀ a, x = .ok a → ¬ r.IsRefused a) :
    Stands r c [.reply (r.callAt c) c c' x] (.done x.outcome) c'
  | renewing {c' d : Client σ} {a : Answer} {ws : List (Wait σ)}
    {v : Task σ (Except ApiError String)}
    {f : Except ApiError String → Task σ (Except ApiError Answer)} (h : r.IsRefused a)
    (H : (renew c.store.accessToken).Course c' ws v d) (hv : v.IsWaiting) :
    Stands r c (.reply (r.callAt c) c c' (.ok a) :: ws) (v >>= f) d
  /-- No token could be had. -/
  | refused {c' d : Client σ} {a : Answer} {ws : List (Wait σ)} {e : ApiError} (h : r.IsRefused a)
    (H : (renew c.store.accessToken).Course c' ws (.done (.error e)) d) :
    Stands r c (.reply (r.callAt c) c c' (.ok a) :: ws)
      (.done (if e.isTransient then .error e else a.outcome)) d
  /-- The second dispatch is out. -/
  | resent {c' d : Client σ} {a : Answer} {ws : List (Wait σ)} {token : String}
    {next : Reply → Task σ (Except ApiError Answer)} (h : r.IsRefused a)
    (H : (renew c.store.accessToken).Course c' ws (.done (.ok token)) d) :
    Stands r c (.reply (r.callAt c) c c' (.ok a) :: ws) (.dispatch (r.callAt d) id next) d
  | resentAnswered {c' d c'' : Client σ} {a : Answer} {ws : List (Wait σ)} {token : String}
    {x : Reply} (h : r.IsRefused a)
    (H : (renew c.store.accessToken).Course c' ws (.done (.ok token)) d) :
    Stands r c (.reply (r.callAt c) c c' (.ok a) :: (ws ++ [.reply (r.callAt d) d c'' x]))
      (.done x.outcome) c''

namespace Task.Course

variable {c d : Client σ} {ws : List (Wait σ)} {u : Task σ (Except ApiError Answer)}

omit [Medium σ] in
theorem dispatchOnce {r : Request}
    (H : (dispatchOnce r >>= fun x => pure x.2.outcome : Task σ _).Course c ws u d) :
    (ws = [] ∧ d = c ∧ ∃ next, u = .dispatch (r.callAt c) id next) ∨
      ∃ x, ws = [.reply (r.callAt c) c d x] ∧ u = .done x.outcome := by
  obtain ⟨rfl, rfl, rfl⟩ | ⟨c', x, ws', rfl, rfl, rfl, rfl⟩ := H
  · exact .inl ⟨rfl, rfl, _, rfl⟩
  · exact .inr ⟨x, rfl, rfl⟩

theorem request {r : Request} (H : (send r).Course c ws u d) : r.Stands c ws u d := by
  rw [send_eq] at H
  obtain ⟨rfl, rfl, rfl⟩ | ⟨c', x, ws', rfl, H⟩ := H
  · exact .out
  · change (sendAgain r c.store.accessToken x).Course c' ws' u d at H
    cases x with
    | error fault =>
      obtain ⟨rfl, rfl, rfl⟩ := H
      exact .answered nofun
    | ok a =>
      simp only [sendAgain] at H
      split at H
      next hcond =>
        obtain ⟨rfl, rfl, rfl⟩ := H
        refine .answered ?_
        rintro _ ⟨⟩ ⟨h401, hfirst⟩
        simp [h401, hfirst] at hcond
      next hcond =>
        have hrefused : r.IsRefused a := by simpa [Request.IsRefused] using hcond
        obtain ⟨v, hv, hwait, rfl⟩ | ⟨renewed, ws₁, ws₂, c₂, rfl, hrenew, H⟩ := bind_cases H
        · exact .renewing hrefused hv hwait
        · cases renewed with
          | error e =>
            obtain ⟨rfl, rfl, rfl⟩ := H
            rw [List.append_nil]
            exact .refused hrefused hrenew
          | ok token =>
            obtain ⟨rfl, rfl, next, rfl⟩ | ⟨x, rfl, rfl⟩ := dispatchOnce H
            · rw [List.append_nil, Request.callAt_retried]
              exact .resent hrefused hrenew
            · exact .resentAnswered hrefused hrenew

/-- A fetch is a request, and leaves what the request does. -/
theorem fetch {α : Type} {dec : Json.Decoder α} {r : Request} {o : Except ApiError α}
    (H : (SessionKeeper.fetch dec r).Course c ws (.done o) d) :
    ∃ x, r.Stands c ws (.done x) d ∧ o = x.bind (·.decode dec) := by
  obtain ⟨x, ws₁, ws₂, c', rfl, hsend, H⟩ := H.bind_done
  cases x with
  | ok answer =>
    obtain ⟨rfl, h, rfl⟩ := H
    cases h
    rw [List.append_nil]
    exact ⟨.ok answer, hsend.request, rfl⟩
  | error e =>
    obtain ⟨rfl, h, rfl⟩ := H
    cases h
    rw [List.append_nil]
    exact ⟨.error e, hsend.request, rfl⟩

/-- What follows a fetch begins where the request ends. -/
theorem fetch_bind {α β : Type} {dec : Json.Decoder α} {r : Request}
    {k : Except ApiError α → Task σ β} {b : β}
    (H : (SessionKeeper.fetch dec r >>= k).Course c ws (.done b) d) :
    ∃ x ws₁ ws₂ c₁, ws = ws₁ ++ ws₂ ∧ r.Stands c ws₁ (.done x) c₁ ∧
      (k (x.bind (·.decode dec))).Course c₁ ws₂ (.done b) d := by
  obtain ⟨fetched, ws₁, ws₂, c₁, rfl, hfetch, hafter⟩ := H.bind_done
  obtain ⟨x, hstands, rfl⟩ := hfetch.fetch
  exact ⟨x, ws₁, ws₂, c₁, rfl, hstands, hafter⟩

end Task.Course

/-! ## What both come to -/

/-- The first dispatch was answered with a refusal `a`, and the renewal that followed came to `x`. -/
def Request.Renews (r : Request) (c : Client σ) (ws : List (Wait σ)) (a : Answer)
    (x : Except ApiError String) : Prop :=
  r.IsRefused a ∧ ∃ c' ws₁ ws₂ d, ws = .reply (r.callAt c) c c' (.ok a) :: (ws₁ ++ ws₂) ∧
    (renew c.store.accessToken).Course c' ws₁ (.done x) d

/-- The calls of the course: the first dispatch, at most one renewal call, and at most one dispatch
more. -/
structure Request.Dispatched (r : Request) (c : Client σ) (ws : List (Wait σ))
    (u : Task σ (Except ApiError Answer)) (d : Client σ) (asked again : List (Call × Client σ)) :
    Prop where
  calls_eq : Task.calls ws u d = (r.callAt c, c) :: (asked ++ again)
  asked_length_le : asked.length ≤ 1
  asked_eq : ∀ x ∈ asked, ∃ sent, x.2.store.refreshToken = some sent ∧
    x.1 = (Renewal.request sent).call none
  again_length_le : again.length ≤ 1
  again_eq : ∀ x ∈ again, x.1 = r.callAt x.2
  again_iff : again ≠ [] ↔ ∃ a token, r.Renews c ws a (.ok token)
  retry : r.isRetry = true → asked = [] ∧ again = []

/-- What a request comes to: the outcome of its last dispatch, unless the token could not be renewed
for a reason that passes. -/
inductive Request.ComesTo (r : Request) (c : Client σ) (ws : List (Wait σ)) :
    Except ApiError Answer → Prop where
  | answered {c' : Client σ} {x : Reply} (h : ∀ a, x = .ok a → ¬ r.IsRefused a)
    (hws : ws = [.reply (r.callAt c) c c' x]) : ComesTo r c ws x.outcome
  | passing {a : Answer} {e : ApiError} (h : r.Renews c ws a (.error e)) (he : e.Passing) :
    ComesTo r c ws (.error e)
  | refused {a : Answer} {e : ApiError} (h : r.Renews c ws a (.error e)) (he : ¬ e.Passing) :
    ComesTo r c ws (.error (.ofAnswer 401 a.body))
  | resent {a : Answer} {token : String} {c' d : Client σ} {x : Reply}
    (h : r.Renews c ws a (.ok token)) (hws : ws.getLast? = some (.reply (r.callAt c') c' d x)) :
    ComesTo r c ws x.outcome

/-- The course of a request that starts at the client `c`. -/
structure Request.Intercepted (r : Request) (c : Client σ) (ws : List (Wait σ))
    (u : Task σ (Except ApiError Answer)) (d : Client σ) : Prop where
  dispatched : ∃ asked again, r.Dispatched c ws u d asked again
  length_le : ws.length ≤ 4
  comesTo : ∀ x, u = .done x → r.ComesTo c ws x

theorem Renewal.Stands.calls {refused : Option String} {c d : Client σ} {ws : List (Wait σ)}
    {u : Task σ (Except ApiError String)} (H : Stands refused c ws u d) :
    Task.calls ws u d = [] ∨ ∃ sent c', c'.store.refreshToken = some sent ∧
      Task.calls ws u d = [((Renewal.request sent).call none, c')] := by
  cases H with
  | queued | reuse | gone | lacking => exact .inl rfl
  | @calling c' sent h => exact .inr ⟨sent, { c' with renewing := true }, h, rfl⟩
  | @answered c' _ sent _ h => exact .inr ⟨sent, { c' with renewing := true }, h, rfl⟩

theorem Renewal.Stands.length_le {refused : Option String} {c d : Client σ} {ws : List (Wait σ)}
    {u : Task σ (Except ApiError String)} (H : Stands refused c ws u d) : ws.length ≤ 2 := by
  cases H <;> simp

namespace Request

variable {r : Request} {c c' d : Client σ} {a a' : Answer} {ws : List (Wait σ)}

theorem Renews.eq {x : Except ApiError String} {v : Task σ (Except ApiError String)}
    (H : r.Renews c (.reply (r.callAt c) c c' (.ok a) :: ws) a' x)
    (hv : (renew c.store.accessToken).Course c' ws v d) : v = .done x := by
  obtain ⟨_, c₁, ws₁, ws₂, d₁, h, hdone⟩ := H
  obtain ⟨hw, rfl⟩ := List.cons.inj h
  cases hw
  exact (hdone.done_append hv).2.1

theorem calls_of_renewal {v : Task σ (Except ApiError String)}
    (H : (renew c.store.accessToken).Course c' ws v d) :
    (Task.calls ws v d).length ≤ 1 ∧ ∀ x ∈ Task.calls ws v d,
      ∃ sent, x.2.store.refreshToken = some sent ∧ x.1 = (Renewal.request sent).call none := by
  obtain h | ⟨sent, c₁, hsent, h⟩ := H.renewal.calls
  · rw [h]
    exact ⟨Nat.zero_le 1, fun x hx => nomatch hx⟩
  · rw [h]
    exact ⟨Nat.le_refl 1, List.forall_mem_singleton.2 ⟨sent, hsent, rfl⟩⟩

omit [Medium σ] in
theorem IsRefused.not_isRetry (h : r.IsRefused a) : r.isRetry ≠ true := by
  rw [h.2]
  decide

omit [Medium σ] in
theorem IsRefused.outcome_eq (h : r.IsRefused a) : a.outcome = .error (.ofAnswer 401 a.body) := by
  rw [Answer.outcome, Answer.isSuccess, h.1]
  rfl

/-- The request goes out again at the client `d`: its token was refused, and a renewal has just ended
well. -/
def Resends (r : Request) (c : Client σ) (ws : List (Wait σ)) (d : Client σ) : Prop :=
  ∃ c' a ws₁ ws₂ token, ws = .reply (r.callAt c) c c' (.ok a) :: (ws₁ ++ ws₂) ∧
    (renew c.store.accessToken).Course c' ws₁ (.done (.ok token)) d

section

variable {u : Task σ (Except ApiError Answer)} {asked : List (Call × Client σ)}

theorem Dispatched.once (h : Task.calls ws u d = (r.callAt c, c) :: asked)
    (hlen : asked.length ≤ 1) (hasked : ∀ x ∈ asked, ∃ sent,
      x.2.store.refreshToken = some sent ∧ x.1 = (Renewal.request sent).call none)
    (hnone : ∀ a token, ¬ r.Renews c ws a (.ok token)) (hretry : r.isRetry = true → asked = []) :
    r.Dispatched c ws u d asked [] where
  calls_eq := by rw [h, List.append_nil]
  asked_length_le := hlen
  asked_eq := hasked
  again_length_le := Nat.zero_le 1
  again_eq := List.forall_mem_nil _
  again_iff := iff_of_false (fun h => h rfl) fun ⟨a, token, h⟩ => hnone a token h
  retry hr := ⟨hretry hr, rfl⟩

theorem Dispatched.twice {e : Client σ} {token : String}
    (h : Task.calls ws u d = (r.callAt c, c) :: (asked ++ [(r.callAt e, e)]))
    (hlen : asked.length ≤ 1) (hasked : ∀ x ∈ asked, ∃ sent,
      x.2.store.refreshToken = some sent ∧ x.1 = (Renewal.request sent).call none)
    (hrenews : r.Renews c ws a (.ok token)) :
    r.Dispatched c ws u d asked [(r.callAt e, e)] where
  calls_eq := h
  asked_length_le := hlen
  asked_eq := hasked
  again_length_le := Nat.le_refl 1
  again_eq := List.forall_mem_singleton.2 rfl
  again_iff := iff_of_true nofun ⟨a, token, hrenews⟩
  retry hr := absurd hr hrenews.1.not_isRetry

omit [Medium σ] in
theorem countP_path_eq_zero {calls : List (Call × Client σ)} {path path' : String}
    (h : ∀ x ∈ calls, x.1.path = path) (hne : path ≠ path') :
    calls.countP (·.1.path == path') = 0 :=
  List.countP_eq_zero.2 fun x hx heq => hne ((h x hx).symm.trans (beq_iff_eq.1 heq))

namespace Dispatched

variable {again : List (Call × Client σ)}

/-- Each call is a dispatch of the request, or a renewal call. -/
theorem made (H : r.Dispatched c ws u d asked again) : ∀ x ∈ Task.calls ws u d,
    (∃ bearer, x.1 = r.call bearer) ∨ ∃ sent, x.1 = (Renewal.request sent).call none := by
  rw [H.calls_eq, List.forall_mem_cons, List.forall_mem_append]
  refine ⟨.inl ⟨_, rfl⟩, fun x hx => ?_, fun x hx => .inl ⟨_, H.again_eq x hx⟩⟩
  obtain ⟨sent, _, h⟩ := H.asked_eq x hx
  exact .inr ⟨sent, h⟩

theorem path_asked (H : r.Dispatched c ws u d asked again) :
    ∀ x ∈ asked, x.1.path = Renewal.endpoint := by
  intro x hx
  obtain ⟨sent, _, h⟩ := H.asked_eq x hx
  exact congrArg Call.path h

theorem path_again (H : r.Dispatched c ws u d asked again) : ∀ x ∈ again, x.1.path = r.path :=
  fun x hx => congrArg Call.path (H.again_eq x hx)

/-- A request to another endpoint than that of renewals is dispatched at most twice, and the calls to
that one are at most one. -/
theorem countP_le (H : r.Dispatched c ws u d asked again) (hne : Renewal.endpoint ≠ r.path) :
    (Task.calls ws u d).countP (·.1.path == r.path) ≤ 2 ∧
      (Task.calls ws u d).countP (·.1.path == Renewal.endpoint) ≤ 1 := by
  have hagain := List.countP_le_length (p := fun x => x.1.path == r.path) (l := again)
  have hasked := List.countP_le_length (p := fun x => x.1.path == Renewal.endpoint) (l := asked)
  have hagain_length := H.again_length_le
  have hasked_length := H.asked_length_le
  have hfirst : ¬ ((r.callAt c).path == Renewal.endpoint) = true := fun h => hne (beq_iff_eq.1 h).symm
  simp only [H.calls_eq, List.countP_cons, List.countP_append, if_neg hfirst,
    countP_path_eq_zero H.path_asked hne, countP_path_eq_zero H.path_again hne.symm]
  constructor
  · split <;> omega
  · omega

end Dispatched

end

namespace Stands

variable {u : Task σ (Except ApiError Answer)}

theorem dispatched (H : r.Stands c ws u d) : ∃ asked again,
    r.Dispatched c ws u d asked again ∧ ∀ x ∈ again, r.Resends c ws x.2 := by
  cases H with
  | out =>
    refine ⟨[], [], .once rfl (Nat.zero_le 1) (List.forall_mem_nil _) ?_ fun _ => rfl,
      List.forall_mem_nil _⟩
    rintro a token ⟨_, _, _, _, _, h, _⟩
    cases h
  | answered hnot =>
    refine ⟨[], [], .once rfl (Nat.zero_le 1) (List.forall_mem_nil _) ?_ fun _ => rfl,
      List.forall_mem_nil _⟩
    rintro a token ⟨hrefused, _, _, _, _, h, _⟩
    obtain ⟨hw, _⟩ := List.cons.inj h
    cases hw
    exact hnot a rfl hrefused
  -- from the refusal on, all calls but a second dispatch are those of the renewal
  | @renewing c' _ a ws v f h H hv =>
    obtain ⟨hlen, hasked⟩ := calls_of_renewal H
    refine ⟨Task.calls ws v d, [], .once ?_ hlen hasked ?_ fun hr => absurd hr h.not_isRetry,
      List.forall_mem_nil _⟩
    · exact congrArg (_ :: ·) (Task.calls_context (Task.Context.id.bind _) hv ws d)
    · rintro a' token hrenews
      rw [hrenews.eq H] at hv
      exact hv
  | @refused c' _ a ws e h H =>
    obtain ⟨hlen, hasked⟩ := calls_of_renewal H
    refine ⟨_, [], .once rfl hlen hasked ?_ fun hr => absurd hr h.not_isRetry,
      List.forall_mem_nil _⟩
    rintro a' token hrenews
    cases hrenews.eq H
  | @resent c' _ a ws token next h H =>
    obtain ⟨hlen, hasked⟩ := calls_of_renewal H
    have hws : Wait.reply (r.callAt c) c c' (.ok a) :: ws =
        .reply (r.callAt c) c c' (.ok a) :: (ws ++ []) := by rw [List.append_nil]
    refine ⟨_, [(r.callAt d, d)], .twice ?_ hlen hasked ⟨h, c', ws, [], d, hws, H⟩, ?_⟩
    · simp [Task.calls, Wait.made?, Task.call?]
    · exact List.forall_mem_singleton.2 ⟨c', a, ws, [], token, hws, H⟩
  | @resentAnswered c' d' _ a ws token x h H =>
    obtain ⟨hlen, hasked⟩ := calls_of_renewal H
    refine ⟨_, [(r.callAt d', d')], .twice ?_ hlen hasked ⟨h, c', ws, _, d', rfl, H⟩, ?_⟩
    · simp [Task.calls, Wait.made?, Task.call?]
    · exact List.forall_mem_singleton.2 ⟨c', a, ws, _, token, rfl, H⟩

theorem length_le (H : r.Stands c ws u d) : ws.length ≤ 4 := by
  cases H with
  | out => exact Nat.zero_le 4
  | answered => exact Nat.le_of_ble_eq_true rfl
  | renewing _ H | refused _ H | resent _ H =>
    have hws := H.renewal.length_le
    rw [List.length_cons]
    omega
  | resentAnswered _ H =>
    have hws := H.renewal.length_le
    rw [List.length_cons, List.length_append, List.length_singleton]
    omega

theorem comesTo {x : Except ApiError Answer} (H : r.Stands c ws (.done x) d) :
    r.ComesTo c ws x := by
  generalize hu : (.done x : Task σ (Except ApiError Answer)) = u at H
  cases H with
  | out | resent => cases hu
  | renewing _ _ hv => exact absurd hu.symm (hv.bind _).ne_done
  | answered hnot =>
    cases hu
    exact .answered hnot rfl
  | @refused c' _ a ws e h H =>
    cases hu
    have hrenews : r.Renews c (.reply (r.callAt c) c c' (.ok a) :: ws) a (.error e) :=
      ⟨h, c', ws, [], d, by rw [List.append_nil], H⟩
    by_cases hpassing : e.isTransient = true
    · rw [if_pos hpassing]
      exact .passing hrenews (e.isTransient_iff.1 hpassing)
    · rw [if_neg hpassing, h.outcome_eq]
      exact .refused hrenews fun hp => hpassing (e.isTransient_iff.2 hp)
  | @resentAnswered c' d' _ a ws token x h H =>
    cases hu
    have hlast : (Wait.reply (r.callAt c) c c' (.ok a) ::
        (ws ++ [.reply (r.callAt d') d' d x])).getLast? = some (.reply (r.callAt d') d' d x) := by
      rw [List.getLast?_cons, List.getLast?_append]
      rfl
    have hrenews : r.Renews c
        (.reply (r.callAt c) c c' (.ok a) :: (ws ++ [.reply (r.callAt d') d' d x])) a (.ok token) :=
      ⟨h, c', ws, _, d', rfl, H⟩
    exact .resent hrenews hlast

theorem intercepted (H : r.Stands c ws u d) : r.Intercepted c ws u d where
  dispatched := by
    obtain ⟨asked, again, hdispatched, _⟩ := H.dispatched
    exact ⟨asked, again, hdispatched⟩
  length_le := H.length_le
  comesTo := by
    rintro x rfl
    exact H.comesTo

end Stands

end Request

/-- A request is sent among any orderly tasks: whatever they do and whichever of them are dropped,
what the request went through is intercepted as it should be, and replies and turns bring it to its
end. -/
theorem Pool.send_intercepted {p p' q : Pool σ α} (hp : p.Orderly)
    {f : Except ApiError Answer → α} {r : Request} {ms : List (Move σ α)} {j : Nat}
    (hstart : p.move? (.start (f <$> send r)) = some p') (hms : ∀ m ∈ ms, m.IsOrderly)
    (hrun : p'.run? ms = some q) (htrack : Move.trackAll? p.tasks.length ms = some j) :
    ∃ u : Task σ (Except ApiError Answer), q.tasks[j]? = some (f <$> u) ∧
      r.Intercepted p.client (p'.history p.tasks.length p'.client ms).1 u
        (p'.history p.tasks.length p'.client ms).2 ∧
      ∃ ms' q' x, (∀ m ∈ ms', m.IsProgress) ∧ q.run? ms' = some q' ∧
        q'.tasks[j]? = some (.done (f x)) := by
  obtain ⟨v, hj, hcourse⟩ := start_course hstart hrun htrack
  obtain ⟨u, hu, rfl⟩ := hcourse.map_cases
  refine ⟨u, hj, hu.request.intercepted, ?_⟩
  have horderly : (Move.start (f <$> send r) : Move σ α).IsOrderly := (orderly_send r).map
  have hq : q.Orderly := (hp.move horderly hstart).run hms hrun
  obtain ⟨ms', q', y, hms', hrun', hend⟩ := hq.ends hj
  -- what the end brings is a value of the request
  have hrun'' : p'.run? (ms ++ ms') = some q' := (run?_append hrun ms').trans hrun'
  have htrack' : Move.trackAll? p.tasks.length (ms ++ ms') = some j :=
    (Move.trackAll?_append htrack ms').trans (Move.trackAll?_of_isProgress hms')
  obtain ⟨v', hj', hcourse'⟩ := start_course hstart hrun'' htrack'
  obtain ⟨u', _, rfl⟩ := hcourse'.map_cases
  cases u' with
  | done x => exact ⟨ms', q', x, hms', hrun', hj'⟩
  | act | dispatch | acquire => cases hj'.symm.trans hend

/-- A logout is dropped while a request renews its token: the request moves up, and its renewal comes
too late. -/
theorem Pool.send_intercepted_dropped_logout :
    let es := Store.withLogin .empty default ⟨"A1", "R1"⟩
    let c : Client Memory := .connect ⟨es, .ofEntries es⟩
    let logout : Task Memory (Option (Except ApiError Answer)) :=
      (fun _ => none) <$> Operation.task .logout
    let r : Request := .get "/courses/"
    let p : Pool Memory (Option (Except ApiError Answer)) :=
      ⟨(logout.settle c).2, [(logout.settle c).1]⟩
    let ms : List (Move Memory (Option (Except ApiError Answer))) :=
      [.reply 1 (.ok ⟨401, ""⟩), .enter 1, .cancel 0,
        .reply 0 (.ok ⟨200, "\x7b\"access\":\"A2\"\x7d"⟩)]
    p.Orderly ∧ (∀ m ∈ ms, m.IsOrderly) ∧ Move.trackAll? p.tasks.length ms = some 0 ∧
      ∃ p' q, p.move? (.start (some <$> send r)) = some p' ∧ p'.run? ms = some q ∧
        ∃ u : Task Memory (Except ApiError Answer), q.tasks[0]? = some (some <$> u) ∧
          r.Intercepted p.client (p'.history p.tasks.length p'.client ms).1 u
            (p'.history p.tasks.length p'.client ms).2 ∧
          ∃ ms' q' x, (∀ m ∈ ms', m.IsProgress) ∧ q.run? ms' = some q' ∧
            q'.tasks[0]? = some (.done (some x)) := by
  intro es c logout r p ms
  have hlogout : (Move.start logout).IsOrderly := (Operation.orderly .logout).map
  have halone : (⟨c, []⟩ : Pool Memory (Option (Except ApiError Answer))).Orderly := .alone rfl
  have hp : p.Orderly := halone.move hlogout rfl
  have hms : ∀ m ∈ ms, m.IsOrderly := by
    simp only [ms, List.forall_mem_cons]
    exact ⟨trivial, trivial, trivial, trivial, nofun⟩
  have hrun : ((p.move? (.start (some <$> send r))).bind fun p' => p'.run? ms).isSome = true := by
    decide +kernel
  obtain ⟨q, hq⟩ := Option.isSome_iff_exists.1 hrun
  obtain ⟨p', hstart, hrun⟩ := Option.bind_eq_some_iff.1 hq
  exact ⟨hp, hms, rfl, p', q, hstart, hrun, send_intercepted hp hstart hms hrun rfl⟩

/-- A status beyond those of the server's failures passes too: the request comes to it, and not to the
refusal of its token. -/
theorem Pool.send_unknown_status :
    let es := Store.withLogin .empty default ⟨"A1", "R1"⟩
    let p : Pool Memory (Except ApiError Answer) := ⟨.connect ⟨es, .ofEntries es⟩, []⟩
    let ms : List (Move Memory (Except ApiError Answer)) :=
      [.start (send (.get "/courses/")), .reply 0 (.ok ⟨401, ""⟩), .enter 0,
        .reply 0 (.ok ⟨600, ""⟩)]
    ∃ q, p.run? ms = some q ∧
      q.tasks[0]?.bind Task.value? = some (.error (.ofAnswer 600 "")) ∧
      ApiError.ofAnswer 600 "" ≠ .ofAnswer 401 "" := by
  intro es p ms
  exact ⟨_, rfl, rfl, by decide⟩

end SessionKeeper
