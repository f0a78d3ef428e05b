import SessionKeeper.Client.Basic

/-! # Tasks

An operation of the client as a tree of what it does: it changes the client, waits for the reply to a
call, or waits for its turn to renew the token. Between two waits a task is not interrupted; while it
waits, other tasks may run, and it may be dropped, upon which its cleanup runs instead of the rest.

`Task.settle` runs a task to its next wait. Any number of tasks over one client make a `Pool`, in which
a `Move` lets one task go on: every order of moves is a possible run. -/

namespace SessionKeeper

/-- An operation on a client that ends in a value of `α`. -/
inductive Task (σ α : Type) where
  | done (a : α)
  /-- Changes the client; what follows may depend on the client as it was before. -/
  | act (change : Client σ → Client σ) (next : Client σ → Task σ α)
  /-- Waits for the reply to a call. -/
  | dispatch (call : Call) (onDrop : Client σ → Client σ) (next : Reply → Task σ α)
  /-- Waits until no renewal is under way, and begins one. -/
  | acquire (onDrop : Client σ → Client σ) (next : Task σ α)

namespace Task

/-- One task, and then another that depends on the value of the first. -/
def bind : Task σ α → (α → Task σ β) → Task σ β
  | .done a, f => f a
  | .act change next, f => .act change fun c => (next c).bind f
  | .dispatch call onDrop next, f => .dispatch call onDrop fun r => (next r).bind f
  | .acquire onDrop next, f => .acquire onDrop (next.bind f)

theorem bind_done (t : Task σ α) : t.bind .done = t := by
  induction t with
  | done a => rfl
  | act change next ih => exact congrArg (Task.act change) (funext ih)
  | dispatch call onDrop next ih => exact congrArg (Task.dispatch call onDrop) (funext ih)
  | acquire onDrop next ih => exact congrArg (Task.acquire onDrop) ih

theorem bind_assoc (t : Task σ α) (f : α → Task σ β) (g : β → Task σ γ) :
    (t.bind f).bind g = t.bind fun a => (f a).bind g := by
  induction t with
  | done a => rfl
  | act change next ih => exact congrArg (Task.act change) (funext ih)
  | dispatch call onDrop next ih => exact congrArg (Task.dispatch call onDrop) (funext ih)
  | acquire onDrop next ih => exact congrArg (Task.acquire onDrop) ih

instance : Monad (Task σ) where
  pure := .done
  bind := bind

instance : LawfulMonad (Task σ) := LawfulMonad.mk' (Task σ) bind_done (fun _ _ => rfl) bind_assoc

/-- The client as it is. -/
def read : Task σ (Client σ) := .act id .done

/-- Changes the client and takes a value along. -/
def update (f : Client σ → α × Client σ) : Task σ α := .act (fun c => (f c).2) fun c => .done (f c).1

/-- Changes the client. -/
def modify (f : Client σ → Client σ) : Task σ Unit := .act f fun _ => .done ()

/-- The reply to a call. -/
def ask (call : Call) : Task σ Reply := .dispatch call id .done

/-- The task with a cleanup that runs when it ends, and also when it is dropped. -/
def guarded (cleanup : Client σ → Client σ) : Task σ α → Task σ α
  | .done a => .act cleanup fun _ => .done a
  | .act change next => .act change fun c => guarded cleanup (next c)
  | .dispatch call onDrop next =>
    .dispatch call (cleanup ∘ onDrop) fun r => guarded cleanup (next r)
  | .acquire onDrop next => .acquire (cleanup ∘ onDrop) (guarded cleanup next)

/-- The task as a renewal: it has its turn to itself. -/
def exclusive (t : Task σ α) : Task σ α :=
  .acquire id (t.guarded fun c => { c with renewing := false })

/-- The task as an operation that the session shows as outstanding. -/
def tracked (t : Task σ α) : Task σ α :=
  .act (·.post Board.begin) fun _ => t.guarded (·.post Board.finish)

/-- Runs a task to its end or its next wait. -/
def settle : Task σ α → Client σ → Task σ α × Client σ
  | .act change next, c => (next c).settle (change c)
  | t, c => (t, c)

/-- A task settles only at its end or at a wait. -/
theorem settle_ne_act (t : Task σ α) (c : Client σ) (change : Client σ → Client σ)
    (next : Client σ → Task σ α) : (t.settle c).1 ≠ .act change next := by
  induction t generalizing c with
  | act _ _ ih => exact ih c _
  | done | dispatch | acquire => nofun

/-- The value of a task that has ended. -/
def value? : Task σ α → Option α
  | .done a => some a
  | _ => none

/-- The client after the task is dropped at its wait. -/
def drop : Task σ α → Client σ → Client σ
  | .dispatch _ onDrop _, c => onDrop c
  | .acquire onDrop _, c => onDrop c
  | _, c => c

end Task

/-! ## Interleavings -/

/-- Tasks over one client, each at its end or at a wait. -/
structure Pool (σ α : Type) where
  client : Client σ
  tasks : List (Task σ α)

/-- What lets a task of a pool go on. -/
inductive Move (σ α : Type) where
  /-- A further task starts. -/
  | start (t : Task σ α)
  /-- The reply to the call of a task arrives. -/
  | reply (i : Nat) (r : Reply)
  /-- A task has its turn to renew the token. -/
  | enter (i : Nat)
  /-- A task is dropped. -/
  | cancel (i : Nat)

namespace Pool

/-- The task at an index goes on as another, which is run to its next wait. -/
def resume (p : Pool σ α) (i : Nat) (t : Task σ α) (c : Client σ) : Pool σ α :=
  let (t, c) := t.settle c
  ⟨c, p.tasks.set i t⟩

/-- The pool after a move, if the move is possible. -/
def move? (p : Pool σ α) : Move σ α → Option (Pool σ α)
  | .start t =>
    let (t, c) := t.settle p.client
    some ⟨c, p.tasks ++ [t]⟩
  | .reply i r =>
    match p.tasks[i]? with
    | some (.dispatch _ _ next) => some (p.resume i (next r) p.client)
    | _ => none
  | .enter i =>
    match p.tasks[i]? with
    | some (.acquire _ next) =>
      if p.client.renewing then none
      else some (p.resume i next { p.client with renewing := true })
    | _ => none
  | .cancel i =>
    match p.tasks[i]? with
    | some (.done _) | none => none
    | some t => some ⟨t.drop p.client, p.tasks.eraseIdx i⟩

/-- The pool after the moves, if each is possible. -/
def run? (p : Pool σ α) : List (Move σ α) → Option (Pool σ α)
  | [] => some p
  | m :: ms => (p.move? m).bind (·.run? ms)

end Pool

end SessionKeeper
