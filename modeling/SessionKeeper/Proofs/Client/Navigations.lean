import SessionKeeper.Proofs.Client.Interception

/-!
# The navigations of a task

While a task waits, others may navigate too; what it asks for itself is what happens between its waits
(`Navigates`). A request asks for nothing, unless its renewal ends the session: then it asks once for the
login page, and fails (`Request.Stands.navigates`).
-/

namespace SessionKeeper

variable {σ α : Type}

/-- Between its waits, a task has asked for these navigations, the latest first. -/
inductive Navigates : Client σ → List (Wait σ) → Client σ → List Route → Prop where
  | last {c d : Client σ} {rs : List Route} (h : d.visits = rs ++ c.visits) : Navigates c [] d rs
  | wait {c d : Client σ} {w : Wait σ} {ws : List (Wait σ)} {rs rs' : List Route}
    (h : w.began.visits = rs ++ c.visits) (H : Navigates w.ended ws d rs') :
    Navigates c (w :: ws) d (rs' ++ rs)

namespace Navigates

variable {c c' d e : Client σ} {ws ws' : List (Wait σ)} {w : Wait σ} {rs rs' : List Route}

/-- What was asked for before the task began to be looked at comes first. -/
theorem after (h : c'.visits = rs ++ c.visits) (H : Navigates c' ws d rs') :
    Navigates c ws d (rs' ++ rs) := by
  cases H with
  | last h' => exact .last (by rw [h', h, List.append_assoc])
  | wait h' H =>
    rw [List.append_assoc]
    exact .wait (by rw [h', h, List.append_assoc]) H

theorem append (H : Navigates c ws d rs) (H' : Navigates d ws' e rs') :
    Navigates c (ws ++ ws') e (rs' ++ rs) := by
  induction H with
  | last h => exact H'.after h
  | wait h _ ih =>
    rw [← List.append_assoc]
    exact .wait h (ih H')

theorem congr (H : Navigates c ws d rs) (h : c.visits = c'.visits) : Navigates c' ws d rs := by
  have hafter : Navigates c' ws d (rs ++ []) := H.after h
  rwa [List.append_nil] at hafter

/-- What the task does at the end. -/
theorem finish (H : Navigates c ws d rs) (h : e.visits = rs' ++ d.visits) :
    Navigates c ws e (rs' ++ rs) := by
  have happend : Navigates c (ws ++ []) e (rs' ++ rs) := H.append (.last h)
  rwa [List.append_nil] at happend

theorem still (H : Navigates c ws d rs) (h : e.visits = d.visits) : Navigates c ws e rs :=
  H.finish (show e.visits = [] ++ d.visits from h)

/-- Up to its first wait the task has asked for nothing. -/
theorem next (h : w.began.visits = c.visits) (H : Navigates w.ended ws d rs) :
    Navigates c (w :: ws) d rs := by
  have hcons : Navigates c (w :: ws) d (rs ++ []) := .wait h H
  rwa [List.append_nil] at hcons

/-- With nobody else about, these are the navigations by which the client has changed. -/
theorem visits (H : Navigates c ws d rs) (hws : Undisturbed ws) : d.visits = rs ++ c.visits := by
  induction H with
  | last h => exact h
  | wait h _ ih =>
    obtain ⟨hw, hrest⟩ := List.forall_mem_cons.1 hws
    rw [ih hrest, hw, h, List.append_assoc]

end Navigates

/-! ## Requests -/

variable [Medium σ] {c d : Client σ} {ws : List (Wait σ)}

theorem Client.visits_withoutRefreshToken (c : Client σ) :
    c.withoutRefreshToken.visits = [] ++ c.visits ∨
      c.withoutRefreshToken.visits = [.login none] ++ c.visits := by
  rw [withoutRefreshToken]
  split
  · exact .inr rfl
  · exact .inl rfl

theorem Client.visits_settleReply (sent : String) (x : Reply) (c : Client σ) :
    (c.settleReply sent x).2.visits = [] ++ c.visits ∨
      (c.settleReply sent x).2.visits = [.login none] ++ c.visits ∧
        ∃ e, (c.settleReply sent x).1 = .error e := by
  cases x with
  | error fault => exact .inl rfl
  | ok a =>
    change (settleRenewal sent a c).2.visits = _ ∨
      (settleRenewal sent a c).2.visits = _ ∧ ∃ e, (settleRenewal sent a c).1 = .error e
    obtain ⟨_, _, _, _, _, _, _, h⟩ | ⟨_, _, _, _, _, h⟩ | ⟨_, _, _, _, _, h⟩ | ⟨_, _, h⟩ :=
      settleRenewal_cases sent a c
    · exact .inl (by rw [h]; rfl)
    · exact .inr (by rw [h]; exact ⟨rfl, _, rfl⟩)
    · exact .inl (by rw [h]; rfl)
    · exact .inl (by rw [h]; rfl)

/-- A task that sends something has not navigated, or it has failed and asked for the login page once. -/
def Diverts (c : Client σ) (ws : List (Wait σ)) (u : Task σ (Except ApiError α)) (d : Client σ) : Prop :=
  Navigates c ws d [] ∨ Navigates c ws d [.login none] ∧ ∃ e, u = .done (.error e)

theorem Renewal.Stands.navigates {refused : Option String} {u : Task σ (Except ApiError String)}
    (H : Stands refused c ws u d) : Diverts c ws u d := by
  cases H with
  | queued => exact .inl (.last rfl)
  | reuse | gone | calling => exact .inl (.next rfl (.last rfl))
  | @lacking c' =>
    obtain h | h := Client.visits_withoutRefreshToken ({ c' with renewing := true } : Client σ)
    · exact .inl (.next rfl (.last h))
    · exact .inr ⟨.next rfl (.last h), _, rfl⟩
  | @answered c' c'' sent x =>
    obtain h | ⟨h, e, he⟩ := Client.visits_settleReply sent x c''
    · exact .inl (.next rfl (.next rfl (.last h)))
    · exact .inr ⟨.next rfl (.next rfl (.last h)), e, congrArg Task.done he⟩

theorem Renewal.Stands.navigates_of_ok {refused : Option String} {token : String}
    (H : Stands refused c ws (.done (.ok token)) d) : Navigates c ws d [] := by
  obtain h | ⟨_, e, he⟩ := H.navigates
  · exact h
  · cases he

theorem Request.Stands.navigates {r : Request} {u : Task σ (Except ApiError Answer)}
    (H : r.Stands c ws u d) : Diverts c ws u d := by
  cases H with
  | out => exact .inl (.last rfl)
  | answered => exact .inl (.next rfl (.last rfl))
  | renewing _ H hv =>
    obtain h | ⟨_, e, rfl⟩ := H.renewal.navigates
    · exact .inl (.next rfl h)
    · cases hv
  | @refused c' _ a ws e hrefused H =>
    rw [hrefused.outcome_eq]
    obtain h | ⟨h, _⟩ := H.renewal.navigates
    · exact .inl (.next rfl h)
    · refine .inr ⟨.next rfl h, ?_⟩
      split
      · exact ⟨e, rfl⟩
      · exact ⟨_, rfl⟩
  | resent _ H => exact .inl (.next rfl H.renewal.navigates_of_ok)
  | @resentAnswered c' d' _ a ws token x _ H =>
    have hresent : Navigates d' [.reply (r.callAt d') d' d x] d [] := .next rfl (.last rfl)
    exact .inl (.next rfl (H.renewal.navigates_of_ok.append hresent))

end SessionKeeper
