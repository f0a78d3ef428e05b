import SessionKeeper.Proofs.Client.Publications

/-!
# An operation alone

While nobody else is about, a task finds the client at the end of a wait as it was when the wait began.
`Task.Solo` walks through a task on that assumption, with what every change publishes. So a request that
ends well has published nothing, which is why a login that ends well signs in to a session that was
anonymous before it.
-/

namespace SessionKeeper

variable {σ α β : Type} {s₀ : Session} {op : Operation} {c d : Client σ}

/-! ## Alone -/

namespace Task

/-- From this client on, and with nobody else about, each change that the task makes is one of `S`, it
has the invariant whenever it waits, and the postcondition when it ends; dropped, it is cleaned up by
`g`. -/
def Solo (S : Client σ → Client σ → Prop) (I : Client σ → Prop) (g : Client σ → Client σ) :
    Task σ α → Client σ → (α → Client σ → Prop) → Prop
  | .done a, c, Q => Q a c
  | .act change next, c, Q => S c (change c) ∧ (next c).Solo S I g (change c) Q
  | .dispatch _ onDrop next, c, Q => I c ∧ CleansUp g onDrop ∧ ∀ r, (next r).Solo S I g c Q
  | .acquire onDrop next, c, Q =>
    I c ∧ CleansUp g onDrop ∧ next.Solo S I g { c with renewing := true } Q

namespace Solo

variable {S : Client σ → Client σ → Prop} {I : Client σ → Prop} {g : Client σ → Client σ}
  {Q Q' : α → Client σ → Prop}

theorem mono {t : Task σ α} (H : t.Solo S I g c Q) (hQ : ∀ a d, Q a d → Q' a d) :
    t.Solo S I g c Q' := by
  induction t generalizing c with
  | done a => exact hQ a c H
  | act change next ih => exact ⟨H.1, ih c H.2⟩
  | dispatch call onDrop next ih => exact ⟨H.1, H.2.1, fun r => ih r (H.2.2 r)⟩
  | acquire onDrop next ih => exact ⟨H.1, H.2.1, ih H.2.2⟩

theorem pure {a : α} (h : Q a c) : (Pure.pure a : Task σ α).Solo S I g c Q := h

theorem bind {t : Task σ α} {f : α → Task σ β} {R : β → Client σ → Prop}
    (H : t.Solo S I g c fun a d => (f a).Solo S I g d R) : (t >>= f).Solo S I g c R := by
  change (t.bind f).Solo S I g c R
  induction t generalizing c with
  | done a => exact H
  | act change next ih => exact ⟨H.1, ih c H.2⟩
  | dispatch call onDrop next ih => exact ⟨H.1, H.2.1, fun r => ih r (H.2.2 r)⟩
  | acquire onDrop next ih => exact ⟨H.1, H.2.1, ih H.2.2⟩

theorem map {t : Task σ α} {f : α → β} {R : β → Client σ → Prop}
    (H : t.Solo S I g c fun a d => R (f a) d) : (f <$> t).Solo S I g c R :=
  bind (H.mono fun _ _ h => h)

theorem read (hlook : S c c) {f : Client σ → Task σ α} (H : (f c).Solo S I g c Q) :
    (Task.read >>= f).Solo S I g c Q := ⟨hlook, H⟩

theorem update {f : Client σ → α × Client σ} (hf : S c (f c).2) (H : Q (f c).1 (f c).2) :
    (Task.update f).Solo S I g c Q := ⟨hf, H⟩

theorem modify {f : Client σ → Client σ} {Q : Unit → Client σ → Prop} (hf : S c (f c))
    (H : Q () (f c)) : (Task.modify f).Solo S I g c Q := ⟨hf, H⟩

theorem ask {call : Call} {Q : Reply → Client σ → Prop} (hI : I c) (H : ∀ r, Q r c) :
    (Task.ask call).Solo S I id c Q := ⟨hI, .refl id, H⟩

theorem guarded {t : Task σ α} {g' cleanup : Client σ → Client σ}
    (hg : ∀ onDrop, CleansUp g onDrop → CleansUp g' (cleanup ∘ onDrop))
    (H : t.Solo S I g c fun a d => S d (cleanup d) ∧ Q a (cleanup d)) :
    (t.guarded cleanup).Solo S I g' c Q := by
  induction t generalizing c with
  | done a => exact H
  | act change next ih => exact ⟨H.1, ih c H.2⟩
  | dispatch call onDrop next ih => exact ⟨H.1, hg onDrop H.2.1, fun r => ih r (H.2.2 r)⟩
  | acquire onDrop next ih => exact ⟨H.1, hg onDrop H.2.1, ih H.2.2⟩

theorem exclusive {t : Task σ α} (hI : I c) (hrelease : ∀ d : Client σ, S d { d with renewing := false })
    (H : t.Solo S I id { c with renewing := true } fun a d => Q a { d with renewing := false }) :
    t.exclusive.Solo S I id c Q :=
  ⟨hI, .refl id, .guarded (fun _ h => h.release) (H.mono fun _ d h => ⟨hrelease d, h⟩)⟩

theorem settle {t : Task σ α} (H : t.Solo S I g c Q) (hrefl : ∀ c, S c c)
    (htrans : ∀ {c d e}, S c d → S d e → S c e) :
    S c (t.settle c).2 ∧ (t.settle c).1.Solo S I g (t.settle c).2 Q := by
  induction t generalizing c with
  | act change next ih =>
    obtain ⟨hrest, hsolo⟩ := ih c H.2
    exact ⟨htrans H.1 hrest, hsolo⟩
  | done | dispatch | acquire => exact ⟨hrefl c, H⟩

theorem drop {t : Task σ α} (H : t.Solo S I g c Q) (ht : t.IsWaiting) :
    I c ∧ ∃ b, t.drop c = g { c with renewing := b } := by
  cases t with
  | done | act => cases ht
  | dispatch | acquire => exact ⟨H.1, H.2.1 c⟩

end Solo

/-- With nobody else about, the task publishes what the operation may, and keeps its load. -/
abbrev Plays (op : Operation) (s₀ : Session) (g : Client σ → Client σ) (t : Task σ α) (c : Client σ)
    (Q : α → Client σ → Prop) : Prop :=
  t.Solo (fun c d => op.Publishes false (c.trail s₀) (d.trail s₀)) (Client.Steady s₀ op.load) g c Q

end Task

/-! ## Operations alone -/

section

open SessionKeeper.Task

/-- What a request ends with, and where: the board is as it was, unless the request failed. -/
structure Operation.Requests {ε : Type} (op : Operation) (s₀ : Session) (c : Client σ)
    (o : Except ε α) (d : Client σ) : Prop where
  steady : d.Steady s₀ op.load
  board : d.board = c.board ∨ ∃ e, o = .error e

variable [Medium σ] {g : Client σ → Client σ}

theorem plays_renewNow (H : c.Steady s₀ op.load) :
    renewNow.Plays op s₀ id c (op.Requests s₀ c) := by
  refine .read (.refl _) ?_
  split
  next hnone =>
    refine .update ?_ ?_ <;> simp only [H.agrees.withoutRefreshToken_eq hnone]
    · exact .refl _
    · exact ⟨H, .inl rfl⟩
  next token _ =>
    refine .bind (.ask H fun r => ?_)
    cases r with
    | error fault => exact .pure ⟨H, .inl rfl⟩
    | ok answer =>
      obtain ⟨hleads, hboard⟩ := H.settleRenewal token answer
      exact .update hleads.publishes ⟨hleads.steady, hboard⟩

theorem plays_renew (H : c.Steady s₀ op.load) (refused : Option String) :
    (renew refused).Plays op s₀ id c (op.Requests s₀ c) := by
  refine .exclusive H (fun d => .refl _) (.read (.refl _) ?_)
  split
  · exact .pure ⟨H.turn false, .inl rfl⟩
  · exact .pure ⟨H.turn false, .inl rfl⟩
  · exact (plays_renewNow (H.turn true)).mono fun o d h => ⟨h.steady.turn false, h.board⟩

omit [Medium σ] in
theorem plays_dispatchOnce (H : c.Steady s₀ op.load) (r : Request) :
    (dispatchOnce r).Plays op s₀ id c fun _ d => d = c :=
  .read (.refl _) (.bind (.ask H fun _ => .pure rfl))

theorem plays_send (H : c.Steady s₀ op.load) (r : Request) :
    (send r).Plays op s₀ id c (op.Requests s₀ c) := by
  refine .bind ((plays_dispatchOnce H r).mono ?_)
  rintro ⟨token, reply⟩ _ rfl
  cases reply with
  | error fault => exact .pure ⟨H, .inl rfl⟩
  | ok answer =>
    simp only
    split
    · exact .pure ⟨H, .inl rfl⟩
    next hrefused =>
      refine .bind ((plays_renew H token).mono fun renewed d hd => ?_)
      cases renewed with
      | ok _ =>
        have hboard : d.board = _ := hd.board.resolve_right nofun
        refine .bind ((plays_dispatchOnce hd.steady r.retried).mono ?_)
        rintro ⟨_, reply⟩ _ rfl
        exact .pure ⟨hd.steady, .inl hboard⟩
      | error e =>
        refine .pure ⟨hd.steady, .inr ?_⟩
        -- the refusal itself is a failure
        have h401 : answer.status = 401 ∧ r.isRetry = false := by simpa using hrefused
        split
        · exact ⟨e, rfl⟩
        · exact ⟨.ofAnswer 401 answer.body, by simp [Answer.outcome, Answer.isSuccess, h401.1]⟩

theorem plays_fetch (H : c.Steady s₀ op.load) (dec : Json.Decoder α) (r : Request) :
    (fetch dec r).Plays op s₀ id c (op.Requests s₀ c) := by
  refine .bind ((plays_send H r).mono fun o d hd => ?_)
  cases o with
  | ok answer => exact .pure ⟨hd.steady, .inl (hd.board.resolve_right nofun)⟩
  | error e => exact .pure ⟨hd.steady, .inr ⟨e, rfl⟩⟩

theorem plays_execute (H : c.Steady s₀ op.load) (r : Request) :
    (execute r).Plays op s₀ id c fun _ d => d.Steady s₀ op.load := by
  refine .bind ((plays_send H r).mono fun o d hd => ?_)
  cases o <;> exact .pure hd.steady

omit [Medium σ] in
theorem plays_failWith (H : c.Steady s₀ op.load) (f : AuthFailure) :
    (failWith f : Task σ (Except AuthFailure α)).Plays op s₀ g c fun _ d => d.Steady s₀ op.load :=
  have hleads := H.setError f.error
  .bind (.modify hleads.publishes (.pure hleads.steady))

theorem plays_adopt (H : c.Steady s₀ op.load) (hsigns : op.signsIn = true) (hfresh : c.IsFresh s₀)
    (u : User) (t : TokenPair) :
    (adopt u t).Plays op s₀ g c fun _ d => d.Steady s₀ op.load := by
  have hleads := H.adoptLogin hsigns hfresh u t
  refine .bind (.update hleads.publishes ?_)
  cases (Client.adoptLogin u t c).1 with
  | ok _ => exact .pure hleads.steady
  | error e => exact plays_failWith hleads.steady _

theorem plays_adoptProfile (H : c.Steady s₀ op.load) (u : User) :
    (adoptProfile u).Plays op s₀ g c fun _ d => d.Steady s₀ op.load := by
  have hleads := H.storeUser u
  refine .bind (.update hleads.publishes ?_)
  cases (Client.storeUser u c).1 with
  | some _ => exact .pure hleads.steady
  | none => exact plays_failWith hleads.steady _

/-- Once begun, and alone, the task publishes what the operation may. -/
def Task.PlaysOnceBegun (op : Operation) (s₀ : Session) (g : Client σ → Client σ) (t : Task σ α) :
    Prop :=
  ∃ b : Task σ α, t = b.tracked ∧ ∀ c, c.Steady s₀ op.load → c.IsFresh s₀ →
    b.Plays op s₀ g c fun _ d => d.Steady s₀ op.load

theorem plays_login (username password : String) :
    (login username password : Task σ _).PlaysOnceBegun (.login username password) s₀ id := by
  refine ⟨_, rfl, fun c H hfresh => .bind ((plays_fetch H _ _).mono fun o d hd => ?_)⟩
  cases o with
  | error e => exact plays_failWith hd.steady _
  | ok answer =>
    have hfresh : d.IsFresh s₀ := hfresh.of_board (hd.board.resolve_right nofun)
    refine .bind ((plays_adopt hd.steady rfl hfresh _ _).mono fun adopted d hd => ?_)
    cases adopted with
    | error f => exact .pure hd
    | ok _ =>
      refine .bind ((plays_fetch hd _ _).mono fun profile d hd => ?_)
      cases profile with
      | error _ => exact .read (.refl _) (.pure hd.steady)
      | ok profile =>
        have hleads := hd.steady.storeUser profile
        exact .bind (.update hleads.publishes (.read (.refl _) (.pure hleads.steady)))

theorem plays_register (fields : RegisterRequest) :
    (register fields : Task σ _).PlaysOnceBegun (.register fields) s₀ id := by
  refine ⟨_, rfl, fun c H hfresh => .bind ((plays_fetch H _ _).mono fun o d hd => ?_)⟩
  cases o with
  | error e => exact plays_failWith hd.steady _
  | ok answer =>
    have hfresh : d.IsFresh s₀ := hfresh.of_board (hd.board.resolve_right nofun)
    refine .bind ((plays_adopt hd.steady rfl hfresh _ _).mono fun adopted d hd => ?_)
    cases adopted <;> exact .pure hd

theorem plays_logout :
    (logout : Task σ _).PlaysOnceBegun .logout s₀ Client.signOut := by
  refine ⟨farewell.guarded Client.signOut, rfl, fun c H _ => ?_⟩
  refine .guarded (fun _ h => h.comp Client.signOut) (.read (.refl _) (.bind ?_))
  refine (plays_execute H _).mono fun _ d hd => .pure ?_
  exact ⟨hd.signOut.publishes, hd.signOut.steady⟩

theorem plays_adoptFetched (op : Operation) (r : Request) (fallback : String) :
    (Task.tracked do
      match ← fetch profileDecoder r with
      | .ok profile => adoptProfile profile
      | .error e => fail e fallback : Task σ (Except AuthFailure User)).PlaysOnceBegun op s₀ id := by
  refine ⟨_, rfl, fun c H _ => .bind ((plays_fetch H _ _).mono fun o d hd => ?_)⟩
  cases o with
  | error e => exact plays_failWith hd.steady _
  | ok profile => exact plays_adoptProfile hd.steady _

omit [Medium σ] in
theorem plays_recoveryFailure (H : c.Steady s₀ op.load) (e : RecoveryError) :
    (Recovery.failWith e : Task σ (Except RecoveryError α)).Plays op s₀ g c
      fun _ d => d.Steady s₀ op.load :=
  have hleads := H.leads_of_rest (d := c.showingError (some e.message)) rfl rfl
  .bind (.modify hleads.publishes (.pure hleads.steady))

theorem plays_submitRequest (H : c.Steady s₀ op.load) (username email : String) :
    (Recovery.submitRequest username email).Plays op s₀ id c fun _ d => d.Steady s₀ op.load := by
  refine .read (.refl _) ?_
  split
  · have hquiet := H.leads_of_rest (d := c.showingError none) rfl rfl
    refine .bind (.modify hquiet.publishes (.bind ((plays_fetch hquiet.steady _ _).mono ?_)))
    intro o d hd
    cases o with
    | ok notice =>
      have hleads := hd.steady.leads_of_rest (d := d.atStep (.verify (Text.trim username))) rfl rfl
      exact .bind (.modify hleads.publishes (.pure hleads.steady))
    | error e => exact plays_recoveryFailure hd.steady _
  · exact .pure H

theorem plays_submitCode (H : c.Steady s₀ op.load) (code : String) :
    (Recovery.submitCode code).Plays op s₀ id c fun _ d => d.Steady s₀ op.load := by
  refine .read (.refl _) ?_
  split
  next username _ =>
    simp only
    generalize Recovery.normalizeCode code = code
    split
    · exact plays_recoveryFailure H _
    · have hquiet := H.leads_of_rest (d := c.showingError none) rfl rfl
      refine .bind (.modify hquiet.publishes (.bind ((plays_execute hquiet.steady _).mono ?_)))
      intro o d hd
      cases o with
      | ok _ =>
        have hleads := hd.leads_of_rest (d := d.atStep (.reset username code)) rfl rfl
        exact .bind (.modify hleads.publishes (.pure hleads.steady))
      | error e => exact plays_recoveryFailure hd _
  · exact .pure H

theorem plays_submitPassword (H : c.Steady s₀ op.load) (new confirmation : String) :
    (Recovery.submitPassword new confirmation).Plays op s₀ id c fun _ d => d.Steady s₀ op.load := by
  refine .read (.refl _) ?_
  split
  · split
    · exact plays_recoveryFailure H _
    · split
      · exact plays_recoveryFailure H _
      · have hquiet := H.leads_of_rest (d := c.showingError none) rfl rfl
        refine .bind (.modify hquiet.publishes (.bind ((plays_fetch hquiet.steady _ _).mono ?_)))
        intro o d hd
        cases o with
        | ok notice =>
          have hleads := hd.steady.leads_of_rest
            (d := (d.atStep .idle).visit (.login (some resetNotice))) rfl rfl
          exact .bind (.modify hleads.publishes (.pure hleads.steady))
        | error e => exact plays_recoveryFailure hd.steady _
  · exact .pure H

end

end SessionKeeper
