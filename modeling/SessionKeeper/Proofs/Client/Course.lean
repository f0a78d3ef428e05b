import SessionKeeper.Proofs.Client.Calls
import SessionKeeper.Proofs.Client.LateRenewal

/-!
# The course of one task

What one task of a pool goes through, whatever the others do: the waits that are over, each with the
client when it began and the client when it ended, and where the task stands after them
(`Task.Course`). The waits of a task in a run are read off the pools that the run passes through
(`Pool.history`), and they are a course of the task (`Pool.start_course`). So what a task can do in
any run follows from the inversion of its course, one construct after the other.
-/

namespace SessionKeeper

variable {σ α β : Type}

/-- A wait that is over, with the client when it began and the one that its end found. -/
inductive Wait (σ : Type) where
  /-- For the reply to a call. -/
  | reply (call : Call) (began ended : Client σ) (r : Reply)
  /-- For the turn to renew. -/
  | turn (began ended : Client σ)

namespace Wait

def began : Wait σ → Client σ
  | .reply _ c _ _ | .turn c _ => c

def ended : Wait σ → Client σ
  | .reply _ _ d _ | .turn _ d => d

/-- The call waited for, with the client when it was made. -/
def made? : Wait σ → Option (Call × Client σ)
  | .reply call c _ _ => some (call, c)
  | .turn _ _ => none

/-- The call waited for, with its reply. -/
def exchange? : Wait σ → Option (Call × Reply)
  | .reply call _ _ r => some (call, r)
  | .turn _ _ => none

end Wait

namespace Task

/-- The task waits for a reply, or for its turn. -/
def IsWaiting : Task σ α → Prop
  | .dispatch _ _ _ | .acquire _ _ => True
  | .done _ | .act _ _ => False

theorem IsWaiting.ne_done {t : Task σ α} {a : α} (h : t.IsWaiting) : t ≠ .done a := by
  rintro rfl
  cases h

/-- What surrounds a task waits with it. -/
theorem IsWaiting.context {K : Task σ β → Task σ α} (hK : Context K) {t : Task σ β}
    (h : t.IsWaiting) : (K t).IsWaiting := by
  cases t with
  | done | act => cases h
  | dispatch call onDrop next =>
    obtain ⟨onDrop', h⟩ := hK.dispatch call onDrop next
    rw [h]
    trivial
  | acquire onDrop next =>
    obtain ⟨onDrop', h⟩ := hK.acquire onDrop next
    rw [h]
    trivial

theorem IsWaiting.call?_context {K : Task σ β → Task σ α} (hK : Context K) {t : Task σ β}
    (h : t.IsWaiting) : (K t).call? = t.call? := by
  cases t with
  | done | act => cases h
  | dispatch call onDrop next =>
    obtain ⟨onDrop', h⟩ := hK.dispatch call onDrop next
    rw [h]
    rfl
  | acquire onDrop next =>
    obtain ⟨onDrop', h⟩ := hK.acquire onDrop next
    rw [h]
    rfl

theorem IsWaiting.bind {t : Task σ α} (h : t.IsWaiting) (f : α → Task σ β) : (t >>= f).IsWaiting :=
  h.context (Context.id.bind f)

theorem IsWaiting.guarded {t : Task σ α} (h : t.IsWaiting) (g : Client σ → Client σ) :
    (t.guarded g).IsWaiting := h.context (Context.id.guarded g)

theorem IsWaiting.settle {t : Task σ α} (h : t.IsWaiting) (c : Client σ) : t.settle c = (t, c) := by
  cases t with
  | done | act => cases h
  | dispatch | acquire => rfl

theorem settle_waiting_or_done (t : Task σ α) (c : Client σ) :
    (t.settle c).1.IsWaiting ∨ ∃ a, (t.settle c).1 = .done a := by
  have hact := t.settle_ne_act c
  cases h : (t.settle c).1 with
  | done a => exact .inr ⟨a, rfl⟩
  | act change next => exact absurd h (hact change next)
  | dispatch | acquire => exact .inl trivial

/-- The task that starts at the client `c` goes through the waits `ws` and is `u` then, of which the
client is `d` when the task has done what it does until its next wait or its end. -/
def Course : Task σ α → Client σ → List (Wait σ) → Task σ α → Client σ → Prop
  | .done a, c, ws, u, d => ws = [] ∧ u = .done a ∧ d = c
  | .act change next, c, ws, u, d => (next c).Course (change c) ws u d
  | .dispatch call onDrop next, c, ws, u, d =>
    (ws = [] ∧ u = .dispatch call onDrop next ∧ d = c) ∨
      ∃ c' r ws', ws = .reply call c c' r :: ws' ∧ (next r).Course c' ws' u d
  | .acquire onDrop next, c, ws, u, d =>
    (ws = [] ∧ u = .acquire onDrop next ∧ d = c) ∨
      ∃ c' ws', ws = .turn c c' :: ws' ∧ c'.renewing = false ∧
        next.Course { c' with renewing := true } ws' u d

namespace Course

variable {t u : Task σ α} {c d : Client σ} {ws : List (Wait σ)}

theorem refl (hu : u.IsWaiting ∨ ∃ a, u = .done a) : u.Course c [] u c := by
  cases u with
  | done a => exact ⟨rfl, rfl, rfl⟩
  | act change next => obtain h | ⟨_, h⟩ := hu <;> cases h
  | dispatch | acquire => exact .inl ⟨rfl, rfl, rfl⟩

theorem settle_iff : (t.settle c).1.Course (t.settle c).2 ws u d ↔ t.Course c ws u d := by
  induction t generalizing c with
  | act change next ih => exact ih c
  | done | dispatch | acquire => exact .rfl

/-- After its end a task waits no more. -/
theorem done_append {a : α} {d' : Client σ} {ws' : List (Wait σ)} (H : t.Course c ws (.done a) d)
    (H' : t.Course c (ws ++ ws') u d') : ws' = [] ∧ u = .done a ∧ d' = d := by
  induction t generalizing c ws with
  | done b =>
    obtain ⟨rfl, h, rfl⟩ := H
    obtain ⟨rfl, rfl, rfl⟩ := H'
    exact ⟨rfl, h.symm, rfl⟩
  | act change next ih => exact ih c H H'
  | dispatch call onDrop next ih =>
    obtain ⟨_, h, _⟩ | ⟨c₁, r, ws₁, rfl, H⟩ := H
    · cases h
    · obtain ⟨h, _⟩ | ⟨c₂, r', ws₂, h, H'⟩ := H'
      · cases h
      · cases h
        exact ih r H H'
  | acquire onDrop next ih =>
    obtain ⟨_, h, _⟩ | ⟨c₁, ws₁, rfl, _, H⟩ := H
    · cases h
    · obtain ⟨h, _⟩ | ⟨c₂, ws₂, h, _, H'⟩ := H'
      · cases h
      · cases h
        exact ih H H'

/-! ## Inversion -/

/-- A task inside what surrounds it, after their common waits `ws`: it has gone through `ws₁` and is
`v`, and it is under way still, or it has ended and what surrounds it goes on. -/
inductive Within (K : Task σ β → Task σ α) (t : Task σ β) (c : Client σ) (ws : List (Wait σ))
    (u : Task σ α) (d : Client σ) : Task σ β → List (Wait σ) → Client σ → Prop
  | underWay {v : Task σ β} (H : t.Course c ws v d) (hv : v.IsWaiting) (hu : u = K v) :
    Within K t c ws u d v ws d
  | ended {b : β} {ws₁ ws₂ : List (Wait σ)} {c' : Client σ} (hws : ws = ws₁ ++ ws₂)
    (H : t.Course c ws₁ (.done b) c') (hu : (K (.done b)).Course c' ws₂ u d) :
    Within K t c ws u d (.done b) ws₁ c'

theorem Within.course {K : Task σ β → Task σ α} {t v : Task σ β} {ws₁ : List (Wait σ)}
    {d₁ : Client σ} (H : Within K t c ws u d v ws₁ d₁) : t.Course c ws₁ v d₁ := by
  cases H with
  | underWay H => exact H
  | ended _ H => exact H

theorem Within.waits_subset {K : Task σ β → Task σ α} {t v : Task σ β} {ws₁ : List (Wait σ)}
    {d₁ : Client σ} (H : Within K t c ws u d v ws₁ d₁) : ws₁ ⊆ ws := by
  cases H with
  | underWay => exact List.Subset.refl ws
  | ended hws => exact hws ▸ List.subset_append_left _ _

/-- The waits of the task inside come first, so it alone decides where they end. -/
theorem context_cases {K : Task σ β → Task σ α} (hK : Context K) {t : Task σ β}
    (H : (K t).Course c ws u d) : ∃ v ws₁ d₁, Within K t c ws u d v ws₁ d₁ := by
  induction t generalizing c ws with
  | done b => exact ⟨_, [], c, .ended rfl ⟨rfl, rfl, rfl⟩ H⟩
  | act change next ih =>
    rw [hK.act] at H
    obtain ⟨v, ws₁, d₁, hwithin⟩ := ih c H
    cases hwithin with
    | underWay H hv hu => exact ⟨v, _, _, .underWay H hv hu⟩
    | ended hws H hu => exact ⟨_, _, _, .ended hws H hu⟩
  | dispatch call onDrop next ih =>
    obtain ⟨onDrop', h⟩ := hK.dispatch call onDrop next
    rw [h] at H
    obtain ⟨rfl, rfl, rfl⟩ | ⟨c', r, ws', rfl, H⟩ := H
    · exact ⟨_, _, _, .underWay (.inl ⟨rfl, rfl, rfl⟩) trivial h.symm⟩
    · obtain ⟨v, ws₁, d₁, hwithin⟩ := ih r H
      cases hwithin with
      | underWay H hv hu => exact ⟨v, _, _, .underWay (.inr ⟨c', r, _, rfl, H⟩) hv hu⟩
      | ended hws H hu =>
        exact ⟨_, _, _, .ended (congrArg (_ :: ·) hws) (.inr ⟨c', r, _, rfl, H⟩) hu⟩
  | acquire onDrop next ih =>
    obtain ⟨onDrop', h⟩ := hK.acquire onDrop next
    rw [h] at H
    obtain ⟨rfl, rfl, rfl⟩ | ⟨c', ws', rfl, hidle, H⟩ := H
    · exact ⟨_, _, _, .underWay (.inl ⟨rfl, rfl, rfl⟩) trivial h.symm⟩
    · obtain ⟨v, ws₁, d₁, hwithin⟩ := ih H
      cases hwithin with
      | underWay H hv hu => exact ⟨v, _, _, .underWay (.inr ⟨c', _, rfl, hidle, H⟩) hv hu⟩
      | ended hws H hu =>
        exact ⟨_, _, _, .ended (congrArg (_ :: ·) hws) (.inr ⟨c', _, rfl, hidle, H⟩) hu⟩

/-- Two tasks in sequence: the first is under way, or it has ended and the second is. -/
theorem bind_cases {t : Task σ α} {f : α → Task σ β} {u : Task σ β}
    (H : (t >>= f).Course c ws u d) :
    (∃ v, t.Course c ws v d ∧ v.IsWaiting ∧ u = v >>= f) ∨
      ∃ a ws₁ ws₂ c', ws = ws₁ ++ ws₂ ∧ t.Course c ws₁ (.done a) c' ∧ (f a).Course c' ws₂ u d := by
  obtain ⟨v, ws₁, d₁, hwithin⟩ := context_cases (Context.id.bind f) H
  cases hwithin with
  | underWay H hv hu => exact .inl ⟨v, H, hv, hu⟩
  | ended hws H hu => exact .inr ⟨_, _, _, _, hws, H, hu⟩

/-- A task with a cleanup: it is under way, or it has ended and was cleaned up. -/
theorem guarded_cases {g : Client σ → Client σ} (H : (t.guarded g).Course c ws u d) :
    (∃ v, t.Course c ws v d ∧ v.IsWaiting ∧ u = v.guarded g) ∨
      ∃ a c', t.Course c ws (.done a) c' ∧ u = .done a ∧ d = g c' := by
  obtain ⟨v, ws₁, d₁, hwithin⟩ := context_cases (Context.id.guarded g) H
  cases hwithin with
  | underWay H hv hu => exact .inl ⟨v, H, hv, hu⟩
  | ended hws ht hu =>
    obtain ⟨rfl, rfl, rfl⟩ := hu
    rw [List.append_nil] at hws
    exact .inr ⟨_, _, hws ▸ ht, rfl, rfl⟩

theorem map_cases {t : Task σ α} {f : α → β} {u : Task σ β} (H : (f <$> t).Course c ws u d) :
    ∃ v, t.Course c ws v d ∧ u = f <$> v := by
  obtain ⟨v, hv, _, rfl⟩ | ⟨a, ws₁, ws₂, c', rfl, ht, rfl, rfl, rfl⟩ := bind_cases H
  · exact ⟨v, hv, rfl⟩
  · exact ⟨.done a, (List.append_nil ws₁).symm ▸ ht, rfl⟩

theorem bind_done {t : Task σ α} {f : α → Task σ β} {b : β} (H : (t >>= f).Course c ws (.done b) d) :
    ∃ a ws₁ ws₂ c', ws = ws₁ ++ ws₂ ∧ t.Course c ws₁ (.done a) c' ∧
      (f a).Course c' ws₂ (.done b) d := by
  obtain ⟨v, _, hwait, h⟩ | H := bind_cases H
  · exact absurd h.symm (hwait.bind f).ne_done
  · exact H

theorem guarded_done {g : Client σ → Client σ} {a : α} (H : (t.guarded g).Course c ws (.done a) d) :
    ∃ c', t.Course c ws (.done a) c' ∧ d = g c' := by
  obtain ⟨v, _, hwait, h⟩ | ⟨b, c', ht, h, hd⟩ := guarded_cases H
  · exact absurd h.symm (hwait.guarded g).ne_done
  · cases h
    exact ⟨c', ht, hd⟩

/-- What follows a look at the client is about the client that it sees. -/
theorem read {k : Client σ → Task σ α} :
    (Task.read >>= k).Course c ws u d ↔ (k c).Course c ws u d := .rfl

/-- What follows a change begins with its result, at the client that it leaves. -/
theorem update {f : Client σ → β × Client σ} {k : β → Task σ α} :
    (Task.update f >>= k).Course c ws u d ↔ (k (f c).1).Course (f c).2 ws u d := .rfl

end Course

/-- The calls made in a course, each with the client when it was made. -/
def calls (ws : List (Wait σ)) (u : Task σ α) (d : Client σ) : List (Call × Client σ) :=
  ws.filterMap Wait.made? ++ (u.call?.map (·, d)).toList

theorem calls_context {K : Task σ β → Task σ α} (hK : Context K) {v : Task σ β} (hv : v.IsWaiting)
    (ws : List (Wait σ)) (d : Client σ) : calls ws (K v) d = calls ws v d := by
  rw [calls, hv.call?_context hK, calls]

end Task

/-! ## In a run -/

/-- The index of the task at `i` after a move, unless the move drops it. -/
def Move.track? (i : Nat) : Move σ α → Option Nat
  | .start _ | .reply _ _ | .enter _ => some i
  | .cancel j => if j = i then none else some (if j < i then i - 1 else i)

/-- The index of the task at `i` after moves that do not drop it. -/
def Move.trackAll? (i : Nat) (ms : List (Move σ α)) : Option Nat := ms.foldlM Move.track? i

theorem Move.trackAll?_append {i j : Nat} {ms : List (Move σ α)} (h : trackAll? i ms = some j)
    (ms' : List (Move σ α)) : trackAll? i (ms ++ ms') = trackAll? j ms' := by
  rw [trackAll?, List.foldlM_append]
  exact congrArg (· >>= _) h

theorem Move.trackAll?_of_isProgress {i : Nat} {ms : List (Move σ α)}
    (hms : ∀ m ∈ ms, m.IsProgress) : trackAll? i ms = some i := by
  induction ms with
  | nil => rfl
  | cons m ms ih =>
    obtain ⟨hm, hrest⟩ := List.forall_mem_cons.1 hms
    have hi : m.track? i = some i := by
      cases m with
      | start | cancel => cases hm
      | reply | enter => rfl
    rw [trackAll?, List.foldlM_cons, hi]
    exact ih hrest

theorem Move.track?_of_follow? {i j : Nat} {m : Move σ α} (h : m.follow? i = some j) :
    m.track? i = some j := by
  cases m with
  | start => exact h
  | reply k | enter k =>
    obtain ⟨_, h⟩ := Option.ite_none_left_eq_some.1 h
    exact h
  | cancel k => exact h

namespace Pool

/-- The move is the last one of the task at an index: it drops the task, or takes it to its end. -/
def Ends (p q : Pool σ α) (i : Nat) (m : Move σ α) : Prop :=
  (∃ t, p.tasks[i]? = some t ∧ t.IsWaiting) ∧
    (m.track? i = none ∨ ∃ j a, m.track? i = some j ∧ q.tasks[j]? = some (.done a))

/-- The wait of the task at `i` that a move ends, if it began at the client `c`. -/
def over? (p : Pool σ α) (i : Nat) (c : Client σ) : Move σ α → Option (Wait σ)
  | .reply j r =>
    match p.tasks[i]? with
    | some (.dispatch call _ _) => if j = i then some (.reply call c p.client r) else none
    | _ => none
  | .enter j => if j = i then some (.turn c p.client) else none
  | .start _ | .cancel _ => none

/-- The waits of the task at `i` that end in a run, and the client when its last wait began; the one
it has at first began at the client `c`. -/
def history (p : Pool σ α) (i : Nat) (c : Client σ) : List (Move σ α) → List (Wait σ) × Client σ
  | [] => ([], c)
  | m :: ms =>
    match p.move? m, m.track? i with
    | some q, some j =>
      match p.over? i c m with
      | some w => (w :: (q.history j q.client ms).1, (q.history j q.client ms).2)
      | none => q.history j c ms
    | _, _ => ([], c)

variable {p q : Pool σ α} {i j : Nat}

/-- A wait ends with the client that the move finds. -/
theorem over?_eq {m : Move σ α} {c : Client σ} {w : Wait σ} (h : p.over? i c m = some w) :
    w.began = c ∧ w.ended = p.client := by
  cases m with
  | start | cancel => cases h
  | reply =>
    rw [over?] at h
    split at h
    next =>
      obtain ⟨_, hw⟩ := Option.ite_none_right_eq_some.1 h
      cases hw
      exact ⟨rfl, rfl⟩
    next => cases h
  | enter =>
    obtain ⟨_, hw⟩ := Option.ite_none_right_eq_some.1 h
    cases hw
    exact ⟨rfl, rfl⟩

theorem over?_progress {x : Option Reply} (h : p.move? (.progress i x) = some q) (c : Client σ) :
    ∃ w, p.over? i c (.progress i x) = some w := by
  rcases move?_cases h with ⟨_, h, _⟩ | ⟨_, r, call, _, _, h, hget, _⟩ | ⟨_, _, _, h, _, _, _⟩ |
    ⟨_, _, h, _, _⟩
  · cases x <;> cases h
  · cases x with
    | none => cases h
    | some r' =>
      cases h
      exact ⟨_, by simp only [Move.progress, over?, hget, if_true]; rfl⟩
  · cases x with
    | none => exact ⟨_, by simp only [Move.progress, over?, if_true]; rfl⟩
    | some r => cases h
  · cases x <;> cases h

theorem track?_progress (i : Nat) (x : Option Reply) :
    (Move.progress i x : Move σ α).track? i = some i := by
  cases x <;> rfl

theorem move?_track {m : Move σ α} {u : Task σ α} {c : Client σ} (hm : p.move? m = some q)
    (htrack : m.track? i = some j) (hi : p.tasks[i]? = some u) (hover : p.over? i c m = none) :
    q.tasks[j]? = some u := by
  refine move?_follow hm ?_ hi
  rcases move?_cases hm with ⟨t, rfl, _⟩ | ⟨k, r, call, onDrop, next, rfl, hget, _⟩ |
    ⟨k, onDrop, next, rfl, hget, _, _⟩ | ⟨k, t, rfl, _, _⟩
  · exact htrack
  · have hk : k ≠ i := by
      rintro rfl
      simp [over?, hget] at hover
    rw [Move.follow?, if_neg hk]
    exact htrack
  · have hk : k ≠ i := by
      rintro rfl
      simp [over?] at hover
    rw [Move.follow?, if_neg hk]
    exact htrack
  · exact htrack

theorem move?_over {m : Move σ α} {u : Task σ α} {c : Client σ} {w : Wait σ}
    (hm : p.move? m = some q) (htrack : m.track? i = some j) (hi : p.tasks[i]? = some u)
    (hover : p.over? i c m = some w) :
    j = i ∧ ∃ t c', q = p.resume i t c' ∧
      ∀ ws v d, t.Course c' ws v d → u.Course c (w :: ws) v d := by
  rcases move?_cases hm with ⟨t, rfl, _⟩ | ⟨k, r, call, onDrop, next, rfl, hget, rfl⟩ |
    ⟨k, onDrop, next, rfl, hget, hidle, rfl⟩ | ⟨k, t, rfl, _, _⟩
  · cases hover
  · cases htrack
    rw [over?, hi] at hover
    split at hover
    next hu =>
      obtain ⟨rfl, hw⟩ := Option.ite_none_right_eq_some.1 hover
      cases hu
      cases hget.symm.trans hi
      cases hw
      exact ⟨rfl, next r, p.client, rfl, fun ws v d H => .inr ⟨p.client, r, ws, rfl, H⟩⟩
    next => cases hover
  · cases htrack
    rw [over?] at hover
    obtain ⟨rfl, hw⟩ := Option.ite_none_right_eq_some.1 hover
    cases hget.symm.trans hi
    cases hw
    exact ⟨rfl, next, _, rfl, fun ws v d H => .inr ⟨p.client, ws, rfl, hidle, H⟩⟩
  · cases hover

/-- What takes a task to its end is a reply to it, or its turn. -/
theorem Ends.tasks_eq {m : Move σ α} (H : Ends p q i m) (h : p.move? m = some q) :
    (m = .cancel i ∧ q.tasks = p.tasks.eraseIdx i) ∨
      ((∃ x, m = .progress i x) ∧ ∃ a, q.tasks = p.tasks.set i (.done a)) := by
  obtain ⟨⟨t, ht, hwait⟩, hend⟩ := H
  have hself : m.follow? i = none := by
    cases hj : m.follow? i with
    | none => rfl
    | some j =>
      exfalso
      obtain hnone | ⟨k, a, hk, hdone⟩ := hend
      · cases (Move.track?_of_follow? hj).symm.trans hnone
      · cases (Move.track?_of_follow? hj).symm.trans hk
        cases (move?_follow h hj ht).symm.trans hdone
        exact hwait
  have hset : ∀ u c, m.track? i = some i → q = p.resume i u c →
      ∃ a, q.tasks = p.tasks.set i (.done a) := by
    rintro u c htrack rfl
    obtain hnone | ⟨k, a, hk, hdone⟩ := hend
    · cases htrack.symm.trans hnone
    · cases htrack.symm.trans hk
      rw [resume, List.getElem?_set_self (List.getElem?_eq_some_iff.1 ht).1] at hdone
      exact ⟨a, congrArg (p.tasks.set i) (Option.some.inj hdone)⟩
  rcases move?_cases h with ⟨_, rfl, _⟩ | ⟨k, r, _, _, _, rfl, _, hq⟩ | ⟨k, _, _, rfl, _, _, hq⟩ |
    ⟨k, _, rfl, _, rfl⟩
  · cases hself
  · obtain rfl : k = i := by simpa [Move.follow?] using hself
    exact .inr ⟨⟨some r, rfl⟩, hset _ _ rfl hq⟩
  · obtain rfl : k = i := by simpa [Move.follow?] using hself
    exact .inr ⟨⟨none, rfl⟩, hset _ _ rfl hq⟩
  · obtain rfl : k = i := by simpa [Move.follow?] using hself
    exact .inl ⟨rfl, rfl⟩

/-- The history of a task is a course of it. -/
theorem run?_history {ms : List (Move σ α)} {u : Task σ α} (hrun : p.run? ms = some q)
    (htrack : Move.trackAll? i ms = some j) (hi : p.tasks[i]? = some u)
    (hu : u.IsWaiting ∨ ∃ a, u = .done a) (c : Client σ) :
    ∃ v, q.tasks[j]? = some v ∧ u.Course c (p.history i c ms).1 v (p.history i c ms).2 := by
  -- a move either ends a wait of the task, which is the first of its course then, or leaves it alone
  induction ms generalizing p i u c with
  | nil =>
    cases hrun
    cases htrack
    exact ⟨u, hi, .refl hu⟩
  | cons m ms ih =>
    obtain ⟨p', hm, hrun⟩ := Option.bind_eq_some_iff.1 hrun
    obtain ⟨k, hk, hms⟩ := Option.bind_eq_some_iff.1 htrack
    rw [history, hm, hk]
    cases hover : p.over? i c m with
    | none => exact ih hrun hms (move?_track hm hk hi hover) hu c
    | some w =>
      obtain ⟨rfl, t, c', rfl, hcourse⟩ := move?_over hm hk hi hover
      have hget : (p.resume k t c').tasks[k]? = some (t.settle c').1 :=
        List.getElem?_set_self (List.getElem?_eq_some_iff.1 hi).1
      obtain ⟨v, hv, H⟩ := ih hrun hms hget (Task.settle_waiting_or_done t c') (t.settle c').2
      exact ⟨v, hv, hcourse _ v _ (Task.Course.settle_iff.1 H)⟩

/-- What a task that starts goes through is a course of it from the client that it finds. -/
theorem start_course {t : Task σ α} {ms : List (Move σ α)} (hstart : p.move? (.start t) = some q)
    {q' : Pool σ α} (hrun : q.run? ms = some q')
    (htrack : Move.trackAll? p.tasks.length ms = some j) :
    ∃ v, q'.tasks[j]? = some v ∧
      t.Course p.client (q.history p.tasks.length q.client ms).1 v
        (q.history p.tasks.length q.client ms).2 := by
  cases hstart
  have hget : (p.tasks ++ [(t.settle p.client).1])[p.tasks.length]? = some (t.settle p.client).1 := by
    simp
  obtain ⟨v, hv, H⟩ :=
    run?_history hrun htrack hget (Task.settle_waiting_or_done t p.client) (t.settle p.client).2
  exact ⟨v, hv, Task.Course.settle_iff.1 H⟩

/-- The history of a longer run goes on from that of a shorter one. -/
theorem history_append {ms : List (Move σ α)} (hrun : p.run? ms = some q)
    (htrack : Move.trackAll? i ms = some j) (c : Client σ) (ms' : List (Move σ α)) :
    p.history i c (ms ++ ms') =
      ((p.history i c ms).1 ++ (q.history j (p.history i c ms).2 ms').1,
        (q.history j (p.history i c ms).2 ms').2) := by
  induction ms generalizing p i c with
  | nil =>
    cases hrun
    cases htrack
    rfl
  | cons m ms ih =>
    obtain ⟨p', hm, hrun⟩ := Option.bind_eq_some_iff.1 hrun
    obtain ⟨k, hk, hms⟩ := Option.bind_eq_some_iff.1 htrack
    rw [List.cons_append, history, history, hm, hk]
    cases hover : p.over? i c m with
    | none => exact ih hrun hms c
    | some w =>
      simp only [ih hrun hms, List.cons_append]

/-- The replies in a history are replies of the run. -/
theorem history_replies {ms : List (Move σ α)} {c began ended : Client σ} {call : Call} {r : Reply}
    (hw : .reply call began ended r ∈ (p.history i c ms).1) : (call, ended, r) ∈ p.replies ms := by
  induction ms generalizing p i c with
  | nil => cases hw
  | cons m ms ih =>
    rw [replies, gather]
    rw [history] at hw
    split at hw
    next p' k hm hk =>
      rw [hm]
      split at hw
      next w hover =>
        obtain rfl | hw := List.mem_cons.1 hw
        · refine List.mem_append_left _ ?_
          cases m with
          | start | cancel => cases hover
          | enter j =>
            obtain ⟨_, h⟩ := Option.ite_none_right_eq_some.1 hover
            cases h
          | reply j x =>
            rw [over?] at hover
            split at hover
            next hget =>
              obtain ⟨rfl, h⟩ := Option.ite_none_right_eq_some.1 hover
              cases h
              rw [replyOf, hget]
              exact List.mem_singleton.2 rfl
            next => cases hover
        · exact List.mem_append_right _ (ih hw)
      next => exact List.mem_append_right _ (ih hw)
    next => cases hw

/-- A wait that a reply ends, or the turn, is the last of the history, and the client as it is then is
the one of its task. -/
theorem history_progress {x : Option Reply} (hm : p.move? (.progress i x) = some q) (c : Client σ) :
    ∃ w, p.history i c [.progress i x] = ([w], q.client) := by
  obtain ⟨w, hw⟩ := over?_progress hm c
  refine ⟨w, ?_⟩
  rw [history, hm, track?_progress]
  simp only [hw, history]

/-- What holds throughout a run of tasks that uphold it holds of all clients in a history. -/
theorem Upheld.history {P : Premise σ} {I : Client σ → Prop} (H : p.Upheld P I)
    {ms : List (Move σ α)} (hms : ∀ m ∈ ms, m.Upholds P I)
    (hreplies : ∀ x ∈ p.replies ms, P.reply x.1 x.2.1 x.2.2)
    (hchanges : ∀ x ∈ p.changes ms, P.change x.1 x.2) (hrun : p.run? ms = some q) {c : Client σ}
    (hc : I c) (i : Nat) :
    (∀ w ∈ (p.history i c ms).1, I w.began ∧ I w.ended) ∧ I (p.history i c ms).2 := by
  induction ms generalizing p i c with
  | nil => exact ⟨List.forall_mem_nil _, hc⟩
  | cons m ms ih =>
    obtain ⟨p', hm, hrun⟩ := Option.bind_eq_some_iff.1 hrun
    rw [replies, gather, hm, List.forall_mem_append] at hreplies
    rw [changes, gather, hm, List.forall_mem_append] at hchanges
    obtain ⟨hfirst, hrest⟩ := List.forall_mem_cons.1 hms
    have H' : p'.Upheld P I := H.move hfirst hreplies.1 hchanges.1 hm
    rw [Pool.history, hm]
    cases hk : m.track? i with
    | none => exact ⟨List.forall_mem_nil _, hc⟩
    | some k =>
      cases hover : p.over? i c m with
      | none => exact ih H' hrest hreplies.2 hchanges.2 hrun hc k
      | some w =>
        obtain ⟨hws, hlast⟩ := ih H' hrest hreplies.2 hchanges.2 hrun H'.client k
        obtain ⟨rfl, hended⟩ := over?_eq hover
        exact ⟨List.forall_mem_cons.2 ⟨⟨hc, hended ▸ H.client⟩, hws⟩, hlast⟩

end Pool

/-- What all changes of a task keep holds at the end of its course, if others leave it so at the end of
each wait. -/
theorem Task.Stepwise.of_course {S : Steps σ} {g : Client σ → Client σ} {I : Client σ → Prop}
    {t u : Task σ α} {x : Option (Arrival σ)} {c d : Client σ} {ws : List (Wait σ)}
    {Q : α → Option (Arrival σ) → Client σ → Prop} (H : t.Stepwise S g x c Q)
    (hcourse : t.Course c ws u d) (hturn : IgnoresTurn I) (hkept : ∀ x c d, S x c d → I c → I d)
    (hc : I c) (hws : ∀ w ∈ ws, I w.ended) : I d := by
  induction t generalizing x c ws with
  | done a =>
    obtain ⟨_, _, rfl⟩ := hcourse
    exact hc
  | act change next ih => exact ih c H.2 hcourse (hkept x c _ H.1 hc) hws
  | dispatch call onDrop next ih =>
    obtain ⟨_, _, rfl⟩ | ⟨c', r, ws', rfl, hcourse⟩ := hcourse
    · exact hc
    · obtain ⟨hc', hrest⟩ := List.forall_mem_cons.1 hws
      exact ih r (H.2 c' r) hcourse hc' hrest
  | acquire onDrop next ih =>
    obtain ⟨_, _, rfl⟩ | ⟨c', ws', rfl, _, hcourse⟩ := hcourse
    · exact hc
    · obtain ⟨hc', hrest⟩ := List.forall_mem_cons.1 hws
      exact ih (H.2 c') hcourse (hturn c' true hc') hrest

/-! ## With nobody else -/

/-- The client stayed as it was during the waits. -/
def Undisturbed (ws : List (Wait σ)) : Prop := ∀ w ∈ ws, w.ended = w.began

/-- What a task ensures holds at the end of a course in which nobody else changed the client. -/
theorem Task.Ensures.of_course {P : Premise σ} {I : Client σ → Prop} {g : Client σ → Client σ}
    {t : Task σ α} {c d : Client σ} {ws : List (Wait σ)} {a : α} {Q : α → Client σ → Prop}
    (H : t.Ensures P I g c Q) (hcourse : t.Course c ws (.done a) d) (hws : Undisturbed ws)
    (hreplies : ∀ call c d r, .reply call c d r ∈ ws → P.reply call d r)
    (hchanges : ∀ c d, P.change c d) : Q a d := by
  induction t generalizing c ws with
  | done b =>
    obtain ⟨_, h, rfl⟩ := hcourse
    cases h
    exact H
  | act change next ih => exact ih c (H (hchanges _ _)) hcourse hws hreplies
  | dispatch call onDrop next ih =>
    obtain ⟨_, h, _⟩ | ⟨c', r, ws', rfl, hcourse⟩ := hcourse
    · cases h
    · obtain ⟨hc, hrest⟩ := List.forall_mem_cons.1 hws
      obtain rfl : c' = c := hc
      have hr : P.reply call c' r := hreplies call c' c' r List.mem_cons_self
      exact ih r (H.2.2 c' r H.1 hr) hcourse hrest
        fun call c d r h => hreplies call c d r (List.mem_cons_of_mem _ h)
  | acquire onDrop next ih =>
    obtain ⟨_, h, _⟩ | ⟨c', ws', rfl, hidle, hcourse⟩ := hcourse
    · cases h
    · obtain ⟨hc, hrest⟩ := List.forall_mem_cons.1 hws
      obtain rfl : c' = c := hc
      exact ih (H.2.2 c' H.1 hidle) hcourse hrest
        fun call c d r h => hreplies call c d r (List.mem_cons_of_mem _ h)

/-- When a task alone goes on, its waits are undisturbed. -/
theorem Pool.history_undisturbed {p q : Pool σ α} {i : Nat} {ms : List (Move σ α)}
    (hms : ∀ m ∈ ms, ∃ x, m = .progress i x) (hrun : p.run? ms = some q) :
    Undisturbed (p.history i p.client ms).1 ∧ (p.history i p.client ms).2 = q.client := by
  induction ms generalizing p with
  | nil =>
    cases hrun
    refine ⟨?_, rfl⟩
    intro w hw
    cases hw
  | cons m ms ih =>
    obtain ⟨p', hm, hnext⟩ := Option.bind_eq_some_iff.1 hrun
    obtain ⟨⟨x, rfl⟩, hrest⟩ := List.forall_mem_cons.1 hms
    obtain ⟨hws, hlast⟩ := ih hrest hnext
    obtain ⟨w, hw⟩ := over?_progress hm p.client
    obtain ⟨hbegan, hended⟩ := over?_eq hw
    rw [history, hm, track?_progress]
    simp only [hw]
    exact ⟨List.forall_mem_cons.2 ⟨hended.trans hbegan.symm, hws⟩, hlast⟩

end SessionKeeper
