import SessionKeeper.Proofs.Client.Invariant

/-!
# What changes a task makes

Wherever a task stands, and whatever others did while it waited, each change that it makes is one of a
few (`Task.Stepwise`). Some changes may be made only upon a reply, so the walk through a task carries
the last reply that came to it, with its call and with the client that it found. What all those changes
keep, the task ensures (`Task.Stepwise.ensures`), and between two waits it leaves alone what they all
leave alone (`Task.Stepwise.settle_eq`).
-/

namespace SessionKeeper

variable {σ α β γ : Type}

/-- A reply, with its call and the client that it found. -/
abbrev Arrival (σ : Type) := Call × Client σ × Reply

/-- Changes of a client, each after the last reply that came to who makes it. -/
abbrev Steps (σ : Type) := Option (Arrival σ) → Client σ → Client σ → Prop

/-- The reply, if one came, is within the premise. -/
def Premise.Admits (P : Premise σ) (x : Option (Arrival σ)) : Prop :=
  ∀ y ∈ x, P.reply y.1 y.2.1 y.2.2

theorem Premise.Admits.none {P : Premise σ} : P.Admits none := fun _ h => nomatch h

theorem Premise.Admits.some {P : Premise σ} {call : Call} {c : Client σ} {r : Reply}
    (h : P.reply call c r) : P.Admits (some (call, c, r)) := by
  rintro _ ⟨⟩
  exact h

namespace Task

/-- Each change that the task makes from this client on is one of `S`, and what it ends with satisfies
the postcondition; dropped, it is cleaned up by `g`. -/
def Stepwise (S : Steps σ) (g : Client σ → Client σ) :
    Task σ α → Option (Arrival σ) → Client σ → (α → Option (Arrival σ) → Client σ → Prop) → Prop
  | .done a, x, c, Q => Q a x c
  | .act change next, x, c, Q => S x c (change c) ∧ (next c).Stepwise S g x (change c) Q
  | .dispatch call onDrop next, _, _, Q =>
    CleansUp g onDrop ∧ ∀ c r, (next r).Stepwise S g (some (call, c, r)) c Q
  | .acquire onDrop next, _, _, Q =>
    CleansUp g onDrop ∧ ∀ c : Client σ, next.Stepwise S g none { c with renewing := true } Q

variable {S : Steps σ} {g : Client σ → Client σ} {x : Option (Arrival σ)} {c : Client σ}

namespace Stepwise

variable {Q Q' : α → Option (Arrival σ) → Client σ → Prop}

theorem mono {t : Task σ α} (H : t.Stepwise S g x c Q) (hQ : ∀ a x c, Q a x c → Q' a x c) :
    t.Stepwise S g x c Q' := by
  induction t generalizing x c with
  | done a => exact hQ a x c H
  | act change next ih => exact ⟨H.1, ih c H.2⟩
  | dispatch call onDrop next ih => exact ⟨H.1, fun c r => ih r (H.2 c r)⟩
  | acquire onDrop next ih => exact ⟨H.1, fun c => ih (H.2 c)⟩

theorem pure {a : α} (h : Q a x c) : (Pure.pure a : Task σ α).Stepwise S g x c Q := h

theorem bind {t : Task σ α} {f : α → Task σ β} {R : β → Option (Arrival σ) → Client σ → Prop}
    (H : t.Stepwise S g x c fun a x' c' => (f a).Stepwise S g x' c' R) :
    (t >>= f).Stepwise S g x c R := by
  change (t.bind f).Stepwise S g x c R
  induction t generalizing x c with
  | done a => exact H
  | act change next ih => exact ⟨H.1, ih c H.2⟩
  | dispatch call onDrop next ih => exact ⟨H.1, fun c r => ih r (H.2 c r)⟩
  | acquire onDrop next ih => exact ⟨H.1, fun c => ih (H.2 c)⟩

theorem map {t : Task σ α} {f : α → β} {R : β → Option (Arrival σ) → Client σ → Prop}
    (H : t.Stepwise S g x c fun a x' c' => R (f a) x' c') : (f <$> t).Stepwise S g x c R :=
  bind (H.mono fun _ _ _ h => h)

theorem read (hlook : S x c c) {f : Client σ → Task σ α} (H : (f c).Stepwise S g x c Q) :
    (Task.read >>= f).Stepwise S g x c Q := ⟨hlook, H⟩

theorem update {f : Client σ → α × Client σ} (hf : S x c (f c).2) (H : Q (f c).1 x (f c).2) :
    (Task.update f).Stepwise S g x c Q := ⟨hf, H⟩

theorem modify {f : Client σ → Client σ} {Q : Unit → Option (Arrival σ) → Client σ → Prop}
    (hf : S x c (f c)) (H : Q () x (f c)) : (Task.modify f).Stepwise S g x c Q := ⟨hf, H⟩

theorem ask {call : Call} {Q : Reply → Option (Arrival σ) → Client σ → Prop}
    (H : ∀ c r, Q r (some (call, c, r)) c) : (Task.ask call).Stepwise S id x c Q :=
  ⟨.refl id, H⟩

theorem guarded {t : Task σ α} {g' cleanup : Client σ → Client σ}
    (hg : ∀ onDrop, CleansUp g onDrop → CleansUp g' (cleanup ∘ onDrop))
    (hcleanup : ∀ x c, S x c (cleanup c))
    (H : t.Stepwise S g x c fun a x' c' => Q a x' (cleanup c')) :
    (t.guarded cleanup).Stepwise S g' x c Q := by
  induction t generalizing x c with
  | done a => exact ⟨hcleanup x c, H⟩
  | act change next ih => exact ⟨H.1, ih c H.2⟩
  | dispatch call onDrop next ih => exact ⟨hg onDrop H.1, fun c r => ih r (H.2 c r)⟩
  | acquire onDrop next ih => exact ⟨hg onDrop H.1, fun c => ih (H.2 c)⟩

theorem exclusive {t : Task σ α} (hrelease : ∀ x c, S x c { c with renewing := false })
    (H : ∀ c : Client σ, t.Stepwise S id none { c with renewing := true } fun a x' c' =>
      Q a x' { c' with renewing := false }) :
    t.exclusive.Stepwise S id x c Q :=
  ⟨.refl id, fun c => .guarded (fun _ h => h.release) hrelease (H c)⟩

/-- What the changes keep within a premise, the task has at each wait and at its end. -/
theorem ensures {P : Premise σ} {I : Client σ → Prop} {t : Task σ α} (H : t.Stepwise S g x c Q)
    (hturn : IgnoresTurn I)
    (hkept : ∀ x c d, S x c d → P.Admits x → I c → P.change c d → I d) (hx : P.Admits x)
    (hc : I c) : t.Ensures P I g c fun a c' => I c' ∧ ∃ x', P.Admits x' ∧ Q a x' c' := by
  induction t generalizing x c with
  | done a => exact ⟨hc, x, hx, H⟩
  | act change next ih => exact fun hchange => ih c H.2 hx (hkept x c _ H.1 hx hc hchange)
  | dispatch call onDrop next ih =>
    exact ⟨hc, H.1, fun c' r hc' hr => ih r (H.2 c' r) (.some hr) hc'⟩
  | acquire onDrop next ih =>
    exact ⟨hc, H.1, fun c' hc' _ => ih (H.2 c') .none (hturn c' true hc')⟩

theorem settle {t : Task σ α} (H : t.Stepwise S g x c Q) :
    (t.settle c).1.Stepwise S g x (t.settle c).2 Q := by
  induction t generalizing x c with
  | act change next ih => exact ih c H.2
  | done | dispatch | acquire => exact H

/-- What all the changes leave alone stays as it is until the next wait. -/
theorem settle_eq {t : Task σ α} (H : t.Stepwise S g x c Q) {f : Client σ → γ}
    (hf : ∀ x c d, S x c d → f d = f c) : f (t.settle c).2 = f c := by
  induction t generalizing x c with
  | act change next ih => exact (ih c H.2).trans (hf x c _ H.1)
  | done | dispatch | acquire => rfl

end Stepwise

/-- Whatever comes, each change that the task makes is one of `S`. -/
def Proceeds (S : Steps σ) (g : Client σ → Client σ) (t : Task σ α) : Prop :=
  ∀ x c, t.Stepwise S g x c fun _ _ _ => True

theorem Stepwise.proceeds {t : Task σ α} {Q : α → Option (Arrival σ) → Client σ → Prop}
    (H : t.Stepwise S g x c Q) : (t.settle c).1.Proceeds S g := by
  intro y d
  have hsettled : (t.settle c).1.Stepwise S g x (t.settle c).2 fun _ _ _ => True :=
    H.settle.mono fun _ _ _ _ => trivial
  have hact := t.settle_ne_act c
  -- at a wait or at the end, what is asked of the task does not depend on the client
  generalize (t.settle c).1 = u at hsettled hact
  cases u with
  | done a => trivial
  | act change next => exact absurd rfl (hact change next)
  | dispatch | acquire => exact hsettled

end Task

end SessionKeeper
