import SessionKeeper.Proofs.Client.Turn

/-!
# The calls of a run

What a run of a pool shows to the outside: which tasks had their turn, and which calls were made by
which of them. A task that a move takes to a call has just made it, so the calls of a run can be
read off the pools that it passes through (`Pool.calls`).
-/

namespace SessionKeeper

variable {σ α : Type}

/-- The call asks for a token: it goes to the endpoint for that, and carries none. -/
def Call.isRenewal (c : Call) : Bool := c.path == Renewal.endpoint && c.bearer.isNone

/-- The tasks that have their turn in a run, in order. -/
def Move.turns (ms : List (Move σ α)) : List Nat :=
  ms.filterMap fun
    | .enter i => some i
    | _ => none

/-- A reply arrives, or a task has its turn. -/
def Move.IsProgress : Move σ α → Prop
  | .reply _ _ | .enter _ => True
  | .start _ | .cancel _ => False

/-- The move that gives a task a reply, or else its turn. -/
def Move.progress (i : Nat) : Option Reply → Move σ α
  | some r => .reply i r
  | none => .enter i

/-- The index of the task that a move lets go on. -/
def Move.target? (p : Pool σ α) : Move σ α → Option Nat
  | .start _ => some p.tasks.length
  | .reply i _ | .enter i => some i
  | .cancel _ => none

namespace Pool

/-- The call that the task at an index waits for. -/
def callAt? (p : Pool σ α) (i : Nat) : Option Call := p.tasks[i]?.bind Task.call?

/-- The renewal call of the task at an index is out. -/
def isCalling (p : Pool σ α) (i : Nat) : Bool := (p.callAt? i).any Call.isRenewal

/-- The calls made in a run, in order, each with the index of its task. -/
def calls (p : Pool σ α) : List (Move σ α) → List (Nat × Call)
  | [] => []
  | m :: ms =>
    match p.move? m with
    | none => []
    | some q =>
      ((m.target? p).bind fun i => (q.callAt? i).map (i, ·)).toList ++ q.calls ms

end Pool

/-- The tasks that made renewal calls, in order. -/
def renewers (cs : List (Nat × Call)) : List Nat :=
  cs.filterMap fun x => if x.2.isRenewal then some x.1 else none

/-- The calls of one task, in order. -/
def callsOf (i : Nat) (cs : List (Nat × Call)) : List Call :=
  cs.filterMap fun x => if x.1 = i then some x.2 else none

namespace Pool

variable {p q : Pool σ α}

theorem run?_append {before : List (Move σ α)} (h : p.run? before = some q) (ms : List (Move σ α)) :
    p.run? (before ++ ms) = q.run? ms := by
  induction before generalizing p with
  | nil => cases h; rfl
  | cons m before ih =>
    obtain ⟨p', hp, hrun⟩ := Option.bind_eq_some_iff.1 h
    rw [List.cons_append, run?, hp]
    exact ih hrun

theorem run?_concat {ms : List (Move σ α)} (h : p.run? ms = some q) {m : Move σ α} {q' : Pool σ α}
    (hm : q.move? m = some q') : p.run? (ms ++ [m]) = some q' := by
  rw [run?_append h, run?, hm]
  rfl

/-- What is seen in a longer run begins with what is seen in a shorter one. -/
theorem gather_append {β : Type} (f : Pool σ α → Move σ α → List β) {before : List (Move σ α)}
    (h : p.run? before = some q) (ms : List (Move σ α)) :
    p.gather f (before ++ ms) = p.gather f before ++ q.gather f ms := by
  induction before generalizing p with
  | nil => cases h; rfl
  | cons m before ih =>
    obtain ⟨p', hp, hrun⟩ := Option.bind_eq_some_iff.1 h
    simp only [List.cons_append, gather, hp, ih hrun, List.append_assoc]

theorem replies_append {before : List (Move σ α)} (h : p.run? before = some q) (ms : List (Move σ α)) :
    p.replies (before ++ ms) = p.replies before ++ q.replies ms := gather_append replyOf h ms

theorem calls_cons {m : Move σ α} (h : p.move? m = some q) (ms : List (Move σ α)) :
    p.calls (m :: ms) =
      ((m.target? p).bind fun i => (q.callAt? i).map (i, ·)).toList ++ q.calls ms := by
  rw [calls, h]

theorem calls_append {before : List (Move σ α)} (h : p.run? before = some q)
    (ms : List (Move σ α)) : p.calls (before ++ ms) = p.calls before ++ q.calls ms := by
  induction before generalizing p with
  | nil => cases h; rfl
  | cons m before ih =>
    obtain ⟨p', hp, hrun⟩ := Option.bind_eq_some_iff.1 h
    rw [List.cons_append, calls_cons hp, calls_cons hp, ih hrun, List.append_assoc]

end Pool

theorem Move.mem_turns_progress {i k : Nat} {x : Option Reply} {ms : List (Move σ α)} :
    k ∈ turns (.progress i x :: ms) ↔ (x = none ∧ k = i) ∨ k ∈ turns ms := by
  cases x <;> simp [turns, progress]

theorem Move.turns_progress (i : Nat) (x : Option Reply) (ms : List (Move σ α)) :
    turns (.progress i x :: ms) = (if x.isNone then [i] else []) ++ turns ms := by
  cases x <;> rfl

theorem callsOf_cons_self (i : Nat) (o : Option Call) (cs : List (Nat × Call)) :
    callsOf i ((o.map (i, ·)).toList ++ cs) = o.toList ++ callsOf i cs := by
  cases o <;> simp [callsOf]

theorem callsOf_cons_of_ne {i k : Nat} (h : k ≠ i) (o : Option Call) (cs : List (Nat × Call)) :
    callsOf i ((o.map (k, ·)).toList ++ cs) = callsOf i cs := by
  cases o <;> simp [callsOf, h]

theorem renewers_append (cs ds : List (Nat × Call)) :
    renewers (cs ++ ds) = renewers cs ++ renewers ds := List.filterMap_append

theorem renewers_cons (i : Nat) (o : Option Call) (cs : List (Nat × Call)) :
    renewers ((o.map (i, ·)).toList ++ cs) =
      (if o.any Call.isRenewal then [i] else []) ++ renewers cs := by
  rw [renewers_append]
  cases o with
  | none => rfl
  | some call => cases h : call.isRenewal <;> simp [renewers, h]

end SessionKeeper
