import SessionKeeper.Client.Task

/-!
# Invariants of runs

An invariant of the client is kept by pools of tasks as follows. A task is walked through from wait
to wait (`Task.Ensures`): at each wait it has the invariant and may count on it again when it goes on,
and what it ends with satisfies a postcondition. What a run is taken to be like, which replies arrive
and which changes are made, is a `Premise`. In every run within the premise, in whatever order tasks
go on and whichever of them are dropped, the invariant holds at each move (`Pool.Upheld.run`).
-/

namespace SessionKeeper

variable {σ α β : Type} {I : Client σ → Prop}

/-- The property does not depend on whether a renewal is under way. -/
def IgnoresTurn (I : Client σ → Prop) : Prop := ∀ c b, I c → I { c with renewing := b }

/-- What a run is taken to be like. A reply comes with its call and with the client that it finds, a
change with the client before it and after it. -/
structure Premise (σ : Type) where
  reply : Call → Client σ → Reply → Prop
  change : Client σ → Client σ → Prop

/-- Nothing is taken for granted. -/
def Premise.any : Premise σ := ⟨fun _ _ _ => True, fun _ _ => True⟩

variable {P : Premise σ}

namespace Task

/-- A task that is dropped is cleaned up by `g`, after it has given its turn back if it had it. -/
def CleansUp (g onDrop : Client σ → Client σ) : Prop := ∀ c, ∃ b, onDrop c = g { c with renewing := b }

/-- From this client on the task has the invariant whenever it waits, and the postcondition when it
ends; dropped, it is cleaned up by `g`. -/
def Ensures (P : Premise σ) (I : Client σ → Prop) (g : Client σ → Client σ) :
    Task σ α → Client σ → (α → Client σ → Prop) → Prop
  | .done a, c, Q => Q a c
  | .act change next, c, Q => P.change c (change c) → (next c).Ensures P I g (change c) Q
  | .dispatch call onDrop next, c, Q =>
    I c ∧ CleansUp g onDrop ∧ ∀ c' r, I c' → P.reply call c' r → (next r).Ensures P I g c' Q
  | .acquire onDrop next, c, Q =>
    I c ∧ CleansUp g onDrop ∧
      ∀ c', I c' → c'.renewing = false → next.Ensures P I g { c' with renewing := true } Q

theorem CleansUp.refl (g : Client σ → Client σ) : CleansUp g g := fun c => ⟨c.renewing, rfl⟩

theorem CleansUp.comp {g onDrop : Client σ → Client σ} (H : CleansUp g onDrop)
    (cleanup : Client σ → Client σ) : CleansUp (cleanup ∘ g) (cleanup ∘ onDrop) := by
  intro c
  obtain ⟨b, h⟩ := H c
  exact ⟨b, congrArg cleanup h⟩

theorem CleansUp.release {onDrop : Client σ → Client σ} (H : CleansUp id onDrop) :
    CleansUp id ((fun c => { c with renewing := false }) ∘ onDrop) := by
  intro c
  obtain ⟨b, h⟩ := H c
  refine ⟨false, ?_⟩
  rw [Function.comp_apply, h]
  rfl

variable {g : Client σ → Client σ} {c : Client σ} {Q Q' : α → Client σ → Prop}

theorem Ensures.mono {t : Task σ α} (H : t.Ensures P I g c Q) (hQ : ∀ a c, Q a c → Q' a c) :
    t.Ensures P I g c Q' := by
  induction t generalizing c with
  | done a => exact hQ a c H
  | act change next ih => exact fun h => ih c (H h)
  | dispatch call onDrop next ih => exact ⟨H.1, H.2.1, fun c' r hc' hr => ih r (H.2.2 c' r hc' hr)⟩
  | acquire onDrop next ih => exact ⟨H.1, H.2.1, fun c' hc' hidle => ih (H.2.2 c' hc' hidle)⟩

theorem Ensures.bind {t : Task σ α} {f : α → Task σ β} {R : β → Client σ → Prop}
    (H : t.Ensures P I g c fun a c' => (f a).Ensures P I g c' R) :
    (t >>= f).Ensures P I g c R := by
  change (t.bind f).Ensures P I g c R
  induction t generalizing c with
  | done a => exact H
  | act change next ih => exact fun h => ih c (H h)
  | dispatch call onDrop next ih => exact ⟨H.1, H.2.1, fun c' r hc' hr => ih r (H.2.2 c' r hc' hr)⟩
  | acquire onDrop next ih => exact ⟨H.1, H.2.1, fun c' hc' hidle => ih (H.2.2 c' hc' hidle)⟩

theorem Ensures.map {t : Task σ α} {f : α → β} {R : β → Client σ → Prop}
    (H : t.Ensures P I g c fun a c' => R (f a) c') : (f <$> t).Ensures P I g c R :=
  Ensures.bind (H.mono fun _ _ h => h)

theorem Ensures.guarded {t : Task σ α} {g' cleanup : Client σ → Client σ}
    (hg : ∀ onDrop, CleansUp g onDrop → CleansUp g' (cleanup ∘ onDrop))
    (H : t.Ensures P I g c fun a c' => P.change c' (cleanup c') → Q a (cleanup c')) :
    (t.guarded cleanup).Ensures P I g' c Q := by
  induction t generalizing c with
  | done a => exact H
  | act change next ih => exact fun h => ih c (H h)
  | dispatch call onDrop next ih =>
    exact ⟨H.1, hg onDrop H.2.1, fun c' r hc' hr => ih r (H.2.2 c' r hc' hr)⟩
  | acquire onDrop next ih =>
    exact ⟨H.1, hg onDrop H.2.1, fun c' hc' hidle => ih (H.2.2 c' hc' hidle)⟩

theorem Ensures.tracked {t : Task σ α}
    (H : t.Ensures P I g (c.post Board.begin) fun a c' => Q a (c'.post Board.finish)) :
    t.tracked.Ensures P I ((·.post Board.finish) ∘ g) c Q := by
  intro _
  refine .guarded (fun _ h => h.comp _) (H.mono ?_)
  intro a c' h _
  exact h

/-! ## Up to the next wait -/

/-- The changes of a task up to its next wait, each with the client before it and after it. -/
def changes : Task σ α → Client σ → List (Client σ × Client σ)
  | .act change next, c => (c, change c) :: (next c).changes (change c)
  | _, _ => []

theorem Ensures.settle {t : Task σ α} (H : t.Ensures P I g c Q)
    (hchanges : ∀ x ∈ t.changes c, P.change x.1 x.2) :
    (t.settle c).1.Ensures P I g (t.settle c).2 Q := by
  induction t generalizing c with
  | act change next ih =>
    rw [changes, List.forall_mem_cons] at hchanges
    exact ih c (H hchanges.1) hchanges.2
  | done | dispatch | acquire => exact H

/-- A task that has settled has the invariant, and counts on nothing else of the client. -/
theorem Ensures.of_settled {t : Task σ α} {c₀ : Client σ}
    (H : (t.settle c₀).1.Ensures P I g c fun _ => I) :
    I c ∧ ∀ c', I c' → (t.settle c₀).1.Ensures P I g c' fun _ => I := by
  have hact := t.settle_ne_act c₀
  generalize (t.settle c₀).1 = u at H hact
  cases u with
  | done a => exact ⟨H, fun _ hc' => hc'⟩
  | act change next => exact absurd rfl (hact change next)
  | dispatch | acquire => exact ⟨H.1, fun _ hc' => ⟨hc', H.2⟩⟩

/-- The invariant survives a task that is dropped and cleaned up by `g`. -/
def Cleanup (P : Premise σ) (I : Client σ → Prop) (g : Client σ → Client σ) : Prop :=
  ∀ c b, I c → P.change c (g { c with renewing := b }) → I (g { c with renewing := b })

/-- The task has the invariant wherever it waits and at its end, and keeps it when it is dropped. -/
def Upholds (P : Premise σ) (I : Client σ → Prop) (t : Task σ α) : Prop :=
  ∃ g, Cleanup P I g ∧ ∀ c, I c → t.Ensures P I g c fun _ => I

theorem Ensures.upholds {t : Task σ α} (H : t.Ensures P I g c fun _ => I) (hg : Cleanup P I g)
    (hchanges : ∀ x ∈ t.changes c, P.change x.1 x.2) :
    I (t.settle c).2 ∧ (t.settle c).1.Upholds P I := by
  obtain ⟨hc, hrest⟩ := (H.settle hchanges).of_settled
  exact ⟨hc, g, hg, hrest⟩

theorem Upholds.drop {t : Task σ α} (H : t.Upholds P I) (hc : I c)
    (hchange : P.change c (t.drop c)) : I (t.drop c) := by
  obtain ⟨g, hg, ht⟩ := H
  cases t with
  | done | act => exact hc
  | dispatch _ onDrop _ | acquire onDrop _ =>
    obtain ⟨b, h⟩ := (ht c hc).2.1 c
    change P.change c (onDrop c) at hchange
    change I (onDrop c)
    rw [h] at hchange ⊢
    exact hg c b hc hchange

end Task

/-- A task that starts upholds the invariant. -/
def Move.Upholds (P : Premise σ) (I : Client σ → Prop) : Move σ α → Prop
  | .start t => t.Upholds P I
  | _ => True

namespace Pool

variable {p p' : Pool σ α}

/-- What a move can be, and what it makes of the pool. -/
theorem move?_cases {m : Move σ α} (h : p.move? m = some p') :
    (∃ t, m = .start t ∧ p' = ⟨(t.settle p.client).2, p.tasks ++ [(t.settle p.client).1]⟩) ∨
    (∃ i r call onDrop next, m = .reply i r ∧ p.tasks[i]? = some (.dispatch call onDrop next) ∧
      p' = p.resume i (next r) p.client) ∨
    (∃ i onDrop next, m = .enter i ∧ p.tasks[i]? = some (.acquire onDrop next) ∧
      p.client.renewing = false ∧ p' = p.resume i next { p.client with renewing := true }) ∨
    (∃ i t, m = .cancel i ∧ p.tasks[i]? = some t ∧
      p' = ⟨t.drop p.client, p.tasks.eraseIdx i⟩) := by
  cases m with
  | start t => cases h; exact .inl ⟨t, rfl, rfl⟩
  | reply i r =>
    rw [move?] at h
    split at h
    next hget => cases h; exact .inr (.inl ⟨i, r, _, _, _, rfl, hget, rfl⟩)
    next => cases h
  | enter i =>
    rw [move?] at h
    split at h
    next hget =>
      split at h
      · cases h
      next hidle =>
        cases h
        exact .inr (.inr (.inl ⟨i, _, _, rfl, hget, Bool.eq_false_iff.2 hidle, rfl⟩))
    next => cases h
  | cancel i =>
    rw [move?] at h
    split at h
    · cases h
    · cases h
    next t _ hget => cases h; exact .inr (.inr (.inr ⟨i, t, rfl, hget, rfl⟩))

theorem renewing_of_enter {i : Nat} (h : p.move? (.enter i) = some p') :
    p.client.renewing = false := by
  rcases move?_cases h with ⟨_, hm, _⟩ | ⟨_, _, _, _, _, hm, _⟩ | ⟨_, _, _, _, _, hidle, _⟩ |
    ⟨_, _, hm, _⟩
  · cases hm
  · cases hm
  · exact hidle
  · cases hm

/-! ## What a run does -/

/-- What `f` sees at the moves of a run, in order. -/
def gather (f : Pool σ α → Move σ α → List β) : Pool σ α → List (Move σ α) → List β
  | _, [] => []
  | p, m :: ms =>
    match p.move? m with
    | none => []
    | some q => f p m ++ q.gather f ms

/-- The reply that a move brings, with its call and with the client that it finds. -/
def replyOf (p : Pool σ α) : Move σ α → List (Call × Client σ × Reply)
  | .reply i r =>
    match p.tasks[i]? with
    | some (.dispatch call _ _) => [(call, p.client, r)]
    | _ => []
  | _ => []

/-- The changes that a move makes, each with the client before it and after it. A task that is
dropped is cleaned up by one change. -/
def changesOf (p : Pool σ α) : Move σ α → List (Client σ × Client σ)
  | .start t => t.changes p.client
  | .reply i r =>
    match p.tasks[i]? with
    | some (.dispatch _ _ next) => (next r).changes p.client
    | _ => []
  | .enter i =>
    match p.tasks[i]? with
    | some (.acquire _ next) => next.changes { p.client with renewing := true }
    | _ => []
  | .cancel i =>
    match p.tasks[i]? with
    | some t => [(p.client, t.drop p.client)]
    | none => []

/-- The replies of a run, in order. -/
def replies (p : Pool σ α) (ms : List (Move σ α)) : List (Call × Client σ × Reply) :=
  p.gather replyOf ms

/-- The changes of a run, in order. -/
def changes (p : Pool σ α) (ms : List (Move σ α)) : List (Client σ × Client σ) :=
  p.gather changesOf ms

/-- The invariant holds, and every task upholds it. -/
structure Upheld (P : Premise σ) (I : Client σ → Prop) (p : Pool σ α) : Prop where
  client : I p.client
  tasks : ∀ t ∈ p.tasks, t.Upholds P I

theorem Upheld.resume (H : p.Upheld P I) {t : Task σ α} {c : Client σ} {g : Client σ → Client σ}
    (i : Nat) (hg : Task.Cleanup P I g) (ht : t.Ensures P I g c fun _ => I)
    (hchanges : ∀ x ∈ t.changes c, P.change x.1 x.2) : (p.resume i t c).Upheld P I := by
  obtain ⟨hc, ht'⟩ := ht.upholds hg hchanges
  refine ⟨hc, fun u hu => ?_⟩
  obtain hu | rfl := List.mem_or_eq_of_mem_set hu
  · exact H.tasks u hu
  · exact ht'

theorem Upheld.move (H : p.Upheld P I) {m : Move σ α} (hm : m.Upholds P I)
    (hreplies : ∀ x ∈ p.replyOf m, P.reply x.1 x.2.1 x.2.2)
    (hchanges : ∀ x ∈ p.changesOf m, P.change x.1 x.2) (h : p.move? m = some p') :
    p'.Upheld P I := by
  rcases move?_cases h with ⟨t, rfl, rfl⟩ | ⟨i, r, call, onDrop, next, rfl, hget, rfl⟩ |
    ⟨i, onDrop, next, rfl, hget, hidle, rfl⟩ | ⟨i, t, rfl, hget, rfl⟩
  · obtain ⟨g, hg, ht⟩ := hm
    obtain ⟨hc, ht'⟩ := (ht _ H.client).upholds hg hchanges
    refine ⟨hc, fun u hu => ?_⟩
    obtain hu | hu := List.mem_append.1 hu
    · exact H.tasks u hu
    · exact List.mem_singleton.1 hu ▸ ht'
  · simp only [replyOf, changesOf, hget, List.forall_mem_singleton] at hreplies hchanges
    obtain ⟨g, hg, ht⟩ := H.tasks _ (List.mem_of_getElem? hget)
    exact H.resume i hg ((ht _ H.client).2.2 p.client r H.client hreplies) hchanges
  · simp only [changesOf, hget] at hchanges
    obtain ⟨g, hg, ht⟩ := H.tasks _ (List.mem_of_getElem? hget)
    exact H.resume i hg ((ht _ H.client).2.2 p.client H.client hidle) hchanges
  · simp only [changesOf, hget, List.forall_mem_singleton] at hchanges
    exact ⟨(H.tasks t (List.mem_of_getElem? hget)).drop H.client hchanges,
      fun u hu => H.tasks u (List.mem_of_mem_eraseIdx hu)⟩

/-- What one move keeps within the premise, every run within it keeps. -/
theorem Upheld.run (H : p.Upheld P I) {ms : List (Move σ α)} (hms : ∀ m ∈ ms, m.Upholds P I)
    (hreplies : ∀ x ∈ p.replies ms, P.reply x.1 x.2.1 x.2.2)
    (hchanges : ∀ x ∈ p.changes ms, P.change x.1 x.2) (h : p.run? ms = some p') :
    p'.Upheld P I := by
  induction ms generalizing p with
  | nil => cases h; exact H
  | cons m ms ih =>
    obtain ⟨q, hq, hrun⟩ := Option.bind_eq_some_iff.1 h
    rw [replies, gather, hq, List.forall_mem_append] at hreplies
    rw [changes, gather, hq, List.forall_mem_append] at hchanges
    rw [List.forall_mem_cons] at hms
    exact ih (H.move hms.1 hreplies.1 hchanges.1 hq) hms.2 hreplies.2 hchanges.2 hrun

end Pool

end SessionKeeper
