import SessionKeeper.Proofs.Client.RenewalOutcome
import SessionKeeper.Proofs.Client.SignIn

/-!
# A task alone

With nothing else running a task gets its replies from a script, one after the other
(`Host.scripted`). An orderly task returns then, whatever the script says
(`Task.Orderly.run_scripted`), and its run is an undisturbed course (`Task.run_scripted`).

A request that runs alone may renew its token on the way, and this is all that it does to the client:
it leaves user, credentials and navigations as they were, but for the tokens that a renewal brought, or
the refresh token was rejected and the session has ended (`Client.Leaves`). Where nothing is stored
there is nothing to renew with, and the client stays as it is (`Request.Stands.anonymous`).
-/

namespace SessionKeeper

open Store

variable {σ α : Type}

/-- A call with its reply. -/
abbrev Exchange := Call × Reply

/-- A host that replies to the calls by a script and keeps them with their replies. -/
def Host.scripted (script : Nat → Reply) : Host σ (Client σ × List Exchange) where
  client := Prod.fst
  setClient c s := (c, s.2)
  reply call s := (some (script s.2.length), s.1, s.2 ++ [(call, script s.2.length)])

/-- The value that a run ended with. -/
def Ending.value? : Ending α → Option α
  | .value a => some a
  | .dropped | .stuck => none

/-- The calls of the waits, with their replies. -/
def exchanges (ws : List (Wait σ)) : List Exchange := ws.filterMap Wait.exchange?

theorem exchanges_append (ws ws' : List (Wait σ)) :
    exchanges (ws ++ ws') = exchanges ws ++ exchanges ws' := List.filterMap_append

namespace Task

variable {script : Nat → Reply}

/-- Alone, a task that keeps to the turn waits for nobody. -/
theorem Orderly.run_scripted {t : Task σ α} {held : Bool} (H : t.Orderly held) {c : Client σ}
    (hc : c.renewing = held) (log : List Exchange) :
    ∃ a d log', t.run (.scripted script) (c, log) = (.value a, d, log') ∧ d.renewing = false := by
  -- whether the task has the turn is whether the client is renewing, as nobody else can have it
  induction t generalizing held c log with
  | done a => exact ⟨a, c, log, rfl, hc.trans H⟩
  | act change next ih =>
    obtain ⟨hchange, hnext⟩ | ⟨_, hchange, hnext⟩ := H
    · exact ih c (hnext c) ((hchange c).trans hc) log
    · exact ih c (hnext c) (hchange c) log
  | dispatch call onDrop next ih => exact ih _ (H.2 _) hc _
  | acquire onDrop next ih =>
    obtain ⟨rfl, _, H⟩ := H
    have hidle : ((Host.scripted script).client (c, log)).renewing = false := hc
    rw [run]
    simp only [hidle, Bool.false_eq_true, if_false]
    exact ih H rfl log

/-- The run of a task alone is a course that nobody disturbs. -/
theorem run_scripted {t : Task σ α} {c d : Client σ} {log log' : List Exchange} {a : α}
    (h : t.run (.scripted script) (c, log) = (.value a, d, log')) :
    ∃ ws, t.Course c ws (.done a) d ∧ Undisturbed ws ∧ log' = log ++ exchanges ws := by
  induction t generalizing c log with
  | done b =>
    cases h
    exact ⟨[], ⟨rfl, rfl, rfl⟩, List.forall_mem_nil _, (List.append_nil _).symm⟩
  | act change next ih =>
    obtain ⟨ws, hcourse, hws, hlog⟩ := ih c h
    exact ⟨ws, hcourse, hws, hlog⟩
  | dispatch call onDrop next ih =>
    obtain ⟨ws, hcourse, hws, rfl⟩ := ih _ h
    refine ⟨.reply call c c (script log.length) :: ws, .inr ⟨c, _, ws, rfl, hcourse⟩,
      List.forall_mem_cons.2 ⟨rfl, hws⟩, ?_⟩
    rw [List.append_assoc]
    rfl
  | acquire onDrop next ih =>
    rw [run] at h
    split at h
    · cases h
    next hidle =>
      obtain ⟨ws, hcourse, hws, rfl⟩ := ih h
      exact ⟨.turn c c :: ws, .inr ⟨c, ws, rfl, Bool.eq_false_iff.2 hidle, hcourse⟩,
        List.forall_mem_cons.2 ⟨rfl, hws⟩, rfl⟩

end Task

/-! ## What a request leaves -/

namespace Client

variable {c c' d d' : Client σ} {log log' : List Exchange}

/-- The credentials, the published user and the navigations are the same. -/
structure Alike (c d : Client σ) : Prop where
  entries : d.store.entries = c.store.entries
  user : d.session.user = c.session.user
  visits : d.visits = c.visits

/-- The operations outstanding and the last error are the same. -/
structure SameNotices (c d : Client σ) : Prop where
  pending : d.board.pending = c.board.pending
  error : d.session.error = c.session.error

/-- An answer to a renewal call with the refresh token that `c` has stored. -/
def Trades (c : Client σ) (log : List Exchange) (a : Answer) : Prop :=
  ∃ sent, c.store.refreshToken = some sent ∧ ((Renewal.request sent).call none, .ok a) ∈ log

/-- What is left of the client `c` after these exchanges: its user, with the tokens that it had or those
that a renewal brought; or the refresh token was rejected, and the session has ended. -/
inductive Leaves (c : Client σ) (log : List Exchange) (d : Client σ) : Prop where
  | kept (user : d.session.user = c.session.user) (stored : d.store.user = c.store.user)
    (visits : d.visits = c.visits)
    (entries : d.store.entries = c.store.entries ∨ ∃ a fresh, c.Trades log a ∧ a.isSuccess = true ∧
      a.decode RefreshAnswer.decoder = .ok fresh ∧
      d.store.entries = withTokens c.store.entries fresh.access fresh.refresh)
  | ended {a : Answer} (trades : c.Trades log a) (rejected : a.isRejection = true)
    (ended : c.EndedIn d)

theorem Trades.mono {a : Answer} (H : c.Trades log a) (h : log ⊆ log') : c.Trades log' a := by
  obtain ⟨sent, hsent, hmem⟩ := H
  exact ⟨sent, hsent, h hmem⟩

theorem Alike.refreshToken (H : c.Alike d) : d.store.refreshToken = c.store.refreshToken :=
  congrArg (·.get? refreshKey) H.entries

theorem Alike.storedUser (H : c.Alike d) : d.store.user = c.store.user :=
  congrArg (fun es : Entries => (es.get? userKey).bind User.ofText?) H.entries

theorem Leaves.of_alike (H : c.Alike d) : c.Leaves log d :=
  .kept H.user H.storedUser H.visits (.inl H.entries)

theorem Leaves.mono (H : c.Leaves log d) (h : log ⊆ log') : c.Leaves log' d := by
  cases H with
  | kept user stored visits entries =>
    refine .kept user stored visits (entries.imp_right ?_)
    rintro ⟨a, fresh, htrades, hrest⟩
    exact ⟨a, fresh, htrades.mono h, hrest⟩
  | ended trades rejected ended => exact .ended (trades.mono h) rejected ended

/-- What comes before and after does not count, as long as it leaves the same alone. -/
theorem Leaves.congr (H : c.Leaves log d) (hc : c'.Alike c) (hd : d.Alike d') :
    c'.Leaves log d' := by
  have htrades : ∀ {a}, c.Trades log a → c'.Trades log a := fun ⟨sent, hsent, hmem⟩ =>
    ⟨sent, hc.refreshToken.symm.trans hsent, hmem⟩
  cases H with
  | kept user stored visits entries =>
    refine .kept (hd.user.trans (user.trans hc.user))
      (hd.storedUser.trans (stored.trans hc.storedUser)) (hd.visits.trans (visits.trans hc.visits)) ?_
    rw [hd.entries, ← hc.entries]
    exact entries.imp_right fun ⟨a, fresh, h, hrest⟩ => ⟨a, fresh, htrades h, hrest⟩
  | ended trades rejected ended =>
    exact .ended (htrades trades) rejected ⟨hd.entries.trans ended.entries,
      hd.user.trans ended.user, by rw [hd.visits, ended.visits, hc.visits]⟩

theorem Leaves.agrees (H : c.Leaves log d) (hc : c.Agrees) : d.Agrees := by
  cases H with
  | kept user stored visits entries =>
    refine ⟨?_, user.trans (hc.user_eq.trans stored.symm)⟩
    obtain h | ⟨a, fresh, ⟨sent, hsent, _⟩, _, _, h⟩ := entries
    · rw [h]
      exact hc.whole
    · rw [h]
      obtain hempty | hs := hc.whole
      · rw [refreshToken, hempty] at hsent
        cases hsent
      · exact .inr (hs.withTokens _ _)
  | ended _ _ ended => exact .of_empty ended.entries ended.user

variable [Medium σ]

/-- The answer to a renewal call brings tokens, or ends the session, or nothing comes of it. -/
theorem settleRenewal_leaves {sent : String} {a : Answer} (hsent : c.store.refreshToken = some sent)
    (hlog : ((Renewal.request sent).call none, .ok a) ∈ log) :
    c.Leaves log (settleRenewal sent a c).2 ∧ c.SameNotices (settleRenewal sent a c).2 := by
  have htrades : c.Trades log a := ⟨sent, hsent, hlog⟩
  obtain ⟨fresh, m, hsuccess, hdec, _, _, _, h⟩ | ⟨m, _, hreject, _, _, h⟩ | ⟨_, e, m, _, _, h⟩ |
    ⟨e, _, h⟩ := settleRenewal_cases sent a c
  · rw [h]
    have hstored : (withTokens c.store.entries fresh.access fresh.refresh).get? userKey =
        c.store.entries.get? userKey := get?_user_withTokens _ _ _
    exact ⟨.kept rfl (congrArg (Option.bind · User.ofText?) hstored) rfl
      (.inr ⟨a, fresh, htrades, hsuccess, hdec, rfl⟩), rfl, rfl⟩
  · rw [h]
    exact ⟨.ended htrades hreject ⟨rfl, rfl, rfl⟩, rfl, rfl⟩
  · rw [h]
    exact ⟨.of_alike ⟨rfl, rfl, rfl⟩, rfl, rfl⟩
  · rw [h]
    exact ⟨.of_alike ⟨rfl, rfl, rfl⟩, rfl, rfl⟩

end Client

variable [Medium σ] {c d : Client σ} {ws : List (Wait σ)}

theorem Renewal.Stands.leaves {refused : Option String} {x : Except ApiError String}
    (H : Renewal.Stands refused c ws (.done x) d) (hws : Undisturbed ws) (hc : c.Agrees) :
    c.Leaves (exchanges ws) d ∧ c.SameNotices d := by
  generalize hu : (.done x : Task σ (Except ApiError String)) = u at H
  cases H with
  | queued | calling => cases hu
  | reuse | gone =>
    obtain rfl : d = c := hws _ List.mem_cons_self
    exact ⟨.of_alike ⟨rfl, rfl, rfl⟩, rfl, rfl⟩
  | @lacking c' hnone =>
    obtain rfl : c' = c := hws _ List.mem_cons_self
    have hbegun : ({ c' with renewing := true } : Client σ).Agrees := ⟨hc.whole, hc.user_eq⟩
    rw [hbegun.withoutRefreshToken_eq hnone]
    exact ⟨.of_alike ⟨rfl, rfl, rfl⟩, rfl, rfl⟩
  | @answered c' c'' sent y hsent =>
    obtain ⟨hc', hc''⟩ := List.forall_mem_cons.1 hws
    obtain rfl : c' = c := hc'
    obtain rfl : c'' = { c' with renewing := true } := hc'' _ List.mem_cons_self
    cases y with
    | error fault => exact ⟨.of_alike ⟨rfl, rfl, rfl⟩, rfl, rfl⟩
    | ok a =>
      obtain ⟨hleaves, hnotices⟩ := Client.settleRenewal_leaves
        (c := { c' with renewing := true }) (a := a) hsent (List.mem_singleton_self _)
      exact ⟨hleaves.congr ⟨rfl, rfl, rfl⟩ ⟨rfl, rfl, rfl⟩, hnotices.pending, hnotices.error⟩

theorem Request.Stands.leaves {r : Request} {x : Except ApiError Answer}
    (H : r.Stands c ws (.done x) d) (hws : Undisturbed ws) (hc : c.Agrees) :
    c.Leaves (exchanges ws) d ∧ c.SameNotices d := by
  generalize hu : (.done x : Task σ (Except ApiError Answer)) = u at H
  cases H with
  | out | resent => cases hu
  | answered =>
    obtain rfl : d = c := hws _ List.mem_cons_self
    exact ⟨.of_alike ⟨rfl, rfl, rfl⟩, rfl, rfl⟩
  | renewing _ _ hv => exact absurd hu.symm (hv.bind _).ne_done
  | @refused c' _ a ws e h H =>
    obtain ⟨hfirst, hrest⟩ := List.forall_mem_cons.1 hws
    obtain rfl : c' = c := hfirst
    obtain ⟨hleaves, hnotices⟩ := H.renewal.leaves hrest hc
    exact ⟨hleaves.mono (List.subset_cons_self _ _), hnotices⟩
  | @resentAnswered c' d' _ a ws token y h H =>
    obtain ⟨hfirst, hrest⟩ := List.forall_mem_cons.1 hws
    obtain rfl : c' = c := hfirst
    obtain ⟨hrenewal, hlast⟩ := undisturbed_append.1 hrest
    obtain rfl : d = d' := hlast _ List.mem_cons_self
    obtain ⟨hleaves, hnotices⟩ := H.renewal.leaves hrenewal hc
    refine ⟨hleaves.mono fun x hx => List.mem_cons_of_mem _ ?_, hnotices⟩
    change x ∈ exchanges (ws ++ _)
    rw [exchanges_append]
    exact List.mem_append_left _ hx

/-! ## Where nothing is stored -/

namespace Client

/-- Nothing is stored, and nobody is published. -/
structure IsAnonymous (c : Client σ) : Prop where
  entries : c.store.entries = .empty
  user : c.session.user = none

omit [Medium σ] in
theorem IsAnonymous.agrees (H : c.IsAnonymous) : c.Agrees := .of_empty H.entries H.user

omit [Medium σ] in
theorem IsAnonymous.accessToken (H : c.IsAnonymous) : c.store.accessToken = none := by
  rw [Store.accessToken, H.entries]
  rfl

omit [Medium σ] in
theorem IsAnonymous.refreshToken (H : c.IsAnonymous) : c.store.refreshToken = none := by
  rw [Store.refreshToken, H.entries]
  rfl

end Client

/-- A renewal for nobody calls nobody. -/
theorem Renewal.Stands.anonymous {x : Except ApiError String}
    (H : Renewal.Stands none c ws (.done x) d) (hws : Undisturbed ws) (hc : c.IsAnonymous)
    (hidle : c.renewing = false) :
    x = .error .noRefreshToken ∧ exchanges ws = [] ∧ d = c := by
  have hdue : Renewal.plan c.store.accessToken none = .due := by rw [hc.accessToken]; rfl
  generalize hu : (.done x : Task σ (Except ApiError String)) = u at H
  cases H with
  | queued | calling => cases hu
  | reuse hplan | gone hplan =>
    obtain rfl : d = c := hws _ List.mem_cons_self
    cases hdue.symm.trans hplan
  | @lacking c' hnone =>
    cases hu
    obtain rfl : c' = c := hws _ List.mem_cons_self
    have hbegun : ({ c' with renewing := true } : Client σ).Agrees := ⟨hc.agrees.whole, hc.agrees.user_eq⟩
    rw [hbegun.withoutRefreshToken_eq hnone]
    exact ⟨rfl, rfl, Client.released_begun hidle⟩
  | @answered c' c'' sent y hsent =>
    obtain rfl : c' = c := hws _ List.mem_cons_self
    cases hc.refreshToken.symm.trans hsent

/-- A request of nobody is sent once, without a token, and comes to its reply, which may be that a token
is refused. -/
theorem Request.Stands.anonymous {r : Request} {x : Except ApiError Answer}
    (H : r.Stands c ws (.done x) d) (hws : Undisturbed ws) (hc : c.IsAnonymous)
    (hidle : c.renewing = false) :
    ∃ y, x = y.outcome ∧ exchanges ws = [(r.call none, y)] ∧ d = c := by
  have hcall : r.callAt c = r.call none := by rw [callAt, hc.accessToken]
  generalize hu : (.done x : Task σ (Except ApiError Answer)) = u at H
  cases H with
  | out | resent => cases hu
  | @answered _ y =>
    cases hu
    obtain rfl : d = c := hws _ List.mem_cons_self
    exact ⟨y, rfl, by rw [← hcall]; rfl, rfl⟩
  | renewing _ _ hv => exact absurd hu.symm (hv.bind _).ne_done
  | @refused c' _ a ws e h H =>
    cases hu
    obtain ⟨hfirst, hrest⟩ := List.forall_mem_cons.1 hws
    obtain rfl : c' = c := hfirst
    rw [hc.accessToken] at H
    obtain ⟨he, hnone, rfl⟩ := H.renewal.anonymous hrest hc hidle
    cases he
    exact ⟨.ok a, rfl, by rw [← hcall, ← hnone]; rfl, rfl⟩
  | @resentAnswered c' d' _ a ws token y h H =>
    obtain ⟨hfirst, hrest⟩ := List.forall_mem_cons.1 hws
    obtain rfl : c' = c := hfirst
    obtain ⟨hrenewal, _⟩ := undisturbed_append.1 hrest
    rw [hc.accessToken] at H
    obtain ⟨hx, _⟩ := H.renewal.anonymous hrenewal hc hidle
    cases hx

end SessionKeeper
