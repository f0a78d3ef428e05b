import SessionKeeper.Client.Task

/-! # Running one task

A host is a surrounding that runs a task alone, from beginning to end: it has a client, and it answers
calls, changing as it does so. It may also leave a call without a reply, which drops the task. -/

namespace SessionKeeper

/-- A surrounding of state `S` for tasks. -/
structure Host (σ S : Type) where
  client : S → Client σ
  setClient : Client σ → S → S
  /-- The reply to a call, or nothing if the task is to be dropped. -/
  reply : Call → S → Option Reply × S

/-- How the run of a task ends. -/
inductive Ending (α : Type) where
  | value (a : α)
  | dropped
  /-- The task waits for a renewal that does not end. -/
  | stuck

namespace Task

/-- Runs a task to its end. -/
def run (h : Host σ S) : Task σ α → S → Ending α × S
  | .done a, s => (.value a, s)
  | .act change next, s => (next (h.client s)).run h (h.setClient (change (h.client s)) s)
  | .dispatch call onDrop next, s =>
    match h.reply call s with
    | (some r, s) => (next r).run h s
    | (none, s) => (.dropped, h.setClient (onDrop (h.client s)) s)
  | .acquire _ next, s =>
    let c := h.client s
    if c.renewing then (.stuck, s) else next.run h (h.setClient { c with renewing := true } s)

/-- What follows a task runs where it ended with a value, and not at all where it did not. -/
theorem run_bind (h : Host σ S) (t : Task σ α) (f : α → Task σ β) (s : S) :
    (t.bind f).run h s =
      match t.run h s with
      | (.value a, s) => (f a).run h s
      | (.dropped, s) => (.dropped, s)
      | (.stuck, s) => (.stuck, s) := by
  induction t generalizing s with
  | done a => rfl
  | act change next ih => exact ih _ _
  | dispatch call onDrop next ih =>
    rw [bind, run, run]
    split
    · exact ih _ _
    · rfl
  | acquire onDrop next ih =>
    rw [bind, run, run]
    split
    · rfl
    · exact ih _

end Task

/-- A host that answers each call from the call and the client alone. -/
def Host.ofReply (reply : Call → Client σ → Reply) : Host σ (Client σ) :=
  ⟨id, fun c _ => c, fun call c => (some (reply call c), c)⟩

end SessionKeeper
