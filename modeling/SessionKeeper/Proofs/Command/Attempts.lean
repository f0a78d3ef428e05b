import SessionKeeper.Command.Run
import SessionKeeper.Proofs.Client.RecoverySteps
import SessionKeeper.Proofs.Client.Scripted

/-!
# Attempts at a recovery

On a terminal, codes and passwords are entered in loops: an attempt takes its lines and makes its
submission, and unless this succeeds, or the backend is not reached, there is another attempt, up to a
number of them. What such a loop does is put down as a relation of the surroundings and the lines before
it to those after it (`Tries`). How it ends, what it takes and what becomes of the recovery follow by
induction on the attempts; both loops of the program are cases of it (`confirmCode_tries`,
`enterPassword_tries`).
-/

namespace SessionKeeper

variable {σ α β : Type}

/-- The lines that are entered for an action. -/
def Recovery.Action.lines : Action → List String
  | .code given => [given]
  | .password new repeated => [new, repeated]
  | _ => []

theorem Task.run_map_value {S : Type} {h : Host σ S} {t : Task σ α} {f : α → β} {s s' : S} {b : β}
    (hrun : (f <$> t).run h s = (.value b, s')) : ∃ a, t.run h s = (.value a, s') ∧ f a = b := by
  rw [map_eq_pure_bind] at hrun
  change (t.bind fun a => .done (f a)).run h s = _ at hrun
  rw [run_bind] at hrun
  split at hrun
  next a _ heq =>
    cases hrun
    exact ⟨a, heq, rfl⟩
  next => cases hrun
  next => cases hrun

namespace Command

/-! ## Runs -/

namespace Run

variable {S : Type}

/-- What follows a run goes on where it ended with a value, and not at all where it failed. -/
theorem run_bind (m : Run S α) (f : α → Run S β) (st : S × Terminal) :
    (m >>= f).run st =
      match m.run st with
      | (.ok a, st) => (f a).run st
      | (.error e, st) => (.error e, st) := by
  change ExceptT.bindCont f (m.run st).1 (m.run st).2 = _
  obtain ⟨o, st'⟩ := m.run st
  cases o <;> rfl

theorem run_get (st : S × Terminal) : (get : Run S _).run st = (.ok st, st) := rfl

theorem run_set (st st' : S × Terminal) : (set st' : Run S _).run st = (.ok ⟨⟩, st') := rfl

theorem run_print (text : String) (s : S) (t : Terminal) :
    (print text).run (s, t) = (.ok (), s, { t with output := t.output ++ text }) := rfl

theorem run_printLine (l : String) (s : S) (t : Terminal) :
    (printLine l).run (s, t) = (.ok (), s, { t with output := t.output ++ (l ++ "\n") }) := rfl

theorem run_prompt (label : String) (s : S) (t : Terminal) :
    (prompt label).run (s, t) =
      match t.input with
      | [] => (.error "input closed", s, { t with output := t.output ++ label })
      | l :: ls => (.ok l, s, { t with output := t.output ++ label, input := ls }) := by
  simp only [prompt, run_bind, run_print, run_get]
  cases t.input <;> rfl

theorem run_perform (h : Host σ S) {t : Task σ α} {s s' : S} {a : α} (hrun : t.run h s = (.value a, s'))
    (term : Terminal) : (perform h t).run (s, term) = (.ok a, s', term) := by
  simp only [perform, run_bind, run_get, hrun, run_set]
  rfl

theorem run_performOrFail {ε : Type} (h : Host σ S) {t : Task σ (Except ε α)} {s s' : S}
    {o : Except ε α} (hrun : t.run h s = (.value o, s')) (message : ε → String) (term : Terminal) :
    (performOrFail h t message).run (s, term) = (o.mapError message, s', term) := by
  rw [performOrFail, run_bind, run_perform h hrun]
  cases o <;> rfl

end Run

/-! ## Submissions -/

/-- A submission, and how it ended. -/
abbrev Attempt := Recovery.Action × Except RecoveryError Unit

/-- A client, and the exchanges that were made for it. -/
abbrev Surroundings (σ : Type) := Client σ × List Exchange

section

variable {script : Nat → Reply} {s s' s'' : Surroundings σ} {x : Recovery.Action}
  {o : Except RecoveryError Unit} {as : List Attempt}

variable [Medium σ]

/-- The backend answering as scripted, the action ends with `o`. -/
def Makes (script : Nat → Reply) (x : Recovery.Action) (s : Surroundings σ)
    (o : Except RecoveryError Unit) (s' : Surroundings σ) : Prop :=
  x.task.run (.scripted script) s = (.value o, s')

/-- These submissions were made, one after the other, and nothing else was done. -/
inductive Chain (script : Nat → Reply) : Surroundings σ → List Attempt → Surroundings σ → Prop where
  | nil {s : Surroundings σ} : Chain script s [] s
  | cons {s s' s'' : Surroundings σ} {x : Recovery.Action} {o : Except RecoveryError Unit}
    {as : List Attempt} (h : Makes script x s o s') (H : Chain script s' as s'') : Chain script s ((x, o) :: as) s''

theorem Chain.append {bs : List Attempt} (H : Chain script s as s') (H' : Chain script s' bs s'') :
    Chain script s (as ++ bs) s'' := by
  induction H with
  | nil => exact H'
  | cons h _ ih => exact .cons h (ih H')

/-- A client that is not renewing sees each of its submissions end. -/
theorem makes_of_idle (script : Nat → Reply) (x : Recovery.Action) (hs : s.1.renewing = false) :
    ∃ o s', Makes script x s o s' ∧ s'.1.renewing = false := by
  obtain ⟨o, d, log, hrun, hd⟩ := x.orderly.run_scripted hs s.2
  exact ⟨o, (d, log), hrun, hd⟩

/-- After a submission that the step allows the recovery has moved on, and nothing else was asked for
than what belongs to this; or it is where it was, and the session may have ended. -/
theorem Makes.cases (h : Makes script x s o s') (hx : x.Meets s.1.recovery.step) :
    (o = .ok () ∧ ∃ r t, x.Leads s.1.recovery.step r t ∧ s'.1.recovery = ⟨t, none⟩ ∧
      s'.1.visits = x.notices ++ s.1.visits) ∨
    ∃ e, o = .error e ∧ (∀ what step, e ≠ .outOfOrder what step) ∧
      s'.1.recovery.step = s.1.recovery.step ∧
      (s'.1.visits = s.1.visits ∨ s'.1.visits = .login none :: s.1.visits) := by
  obtain ⟨c, log⟩ := s
  obtain ⟨d, log'⟩ := s'
  obtain ⟨ws, hcourse, hws, -⟩ := Task.run_scripted h
  have hkept : KeepRecovery ws := fun w hw => congrArg Client.recovery (hws w hw)
  have hconcluded := (x.submits hx.restarts hcourse hkept).ended o rfl
  cases o with
  | ok y =>
    obtain ⟨r, t, hleads, hrecovery, hvisits⟩ := hconcluded.moved rfl
    exact .inl ⟨rfl, r, t, hleads, hrecovery, hvisits.visits hws⟩
  | error e =>
    refine .inr ⟨e, rfl, ?_⟩
    cases hconcluded.failed e rfl with
    | outOfOrder hnot => exact absurd hx hnot
    | invalid _ _ _ hd =>
      rw [hd]
      exact ⟨nofun, rfl, .inl rfl⟩
    | @request r t o e _ _ _ hd hvisits =>
      refine ⟨?_, by rw [hd], hvisits.imp (·.visits hws) (·.visits hws)⟩
      intro what step
      rw [RecoveryError.ofApi]
      split <;> nofun

/-- Nothing but the login page was asked for meanwhile, as it is when a session ends. -/
def Redirected (vs vs' : List Route) : Prop := ∃ n, vs' = List.replicate n (.login none) ++ vs

namespace Redirected

variable {vs vs' vs'' : List Route}

theorem refl : Redirected vs vs := ⟨0, rfl⟩

theorem of_visits (h : vs' = vs ∨ vs' = .login none :: vs) : Redirected vs vs' := by
  obtain rfl | rfl := h
  · exact refl
  · exact ⟨1, rfl⟩

theorem trans (H : Redirected vs vs') (H' : Redirected vs' vs'') : Redirected vs vs'' := by
  obtain ⟨n, rfl⟩ := H
  obtain ⟨m, rfl⟩ := H'
  exact ⟨m + n, by rw [List.replicate_add, List.append_assoc]⟩

end Redirected

/-! ## Attempts -/

/-- Up to `n` attempts that take `k` lines each: the submissions that are made, the result, and what is
left of the lines. -/
inductive Tries (script : Nat → Reply) (k : Nat) : Nat → Surroundings σ → List String → List Attempt →
    Except String Bool → Surroundings σ → List String → Prop where
  | spent {s : Surroundings σ} {input : List String} : Tries script k 0 s input [] (.ok false) s input
  /-- There are not lines enough. -/
  | closed {n : Nat} {s : Surroundings σ} {cut : List String} (h : cut.length < k) :
    Tries script k (n + 1) s cut [] (.error "input closed") s []
  | accepted {n : Nat} {s s' : Surroundings σ} {x : Recovery.Action} {rest : List String}
    (hx : x.lines.length = k) (h : Makes script x s (.ok ()) s') :
    Tries script k (n + 1) s (x.lines ++ rest) [(x, .ok ())] (.ok true) s' rest
  /-- The backend was not reached. -/
  | broken {n : Nat} {s s' : Surroundings σ} {x : Recovery.Action} {rest : List String} {m : String}
    (hx : x.lines.length = k) (h : Makes script x s (.error (.transport m)) s') :
    Tries script k (n + 1) s (x.lines ++ rest) [(x, .error (.transport m))] (.error m) s' rest
  | again {n : Nat} {s s' s'' : Surroundings σ} {x : Recovery.Action} {rest rest' : List String}
    {as : List Attempt} {r : Except String Bool} {e : RecoveryError} (hx : x.lines.length = k)
    (h : Makes script x s (.error e) s') (he : ∀ m, e ≠ .transport m)
    (H : Tries script k n s' rest as r s'' rest') :
    Tries script k (n + 1) s (x.lines ++ rest) ((x, .error e) :: as) r s'' rest'

/-- The attempt failed, and another one may be made. -/
def Retried (a : Attempt) : Prop := ∃ e, a.2 = .error e ∧ ∀ m, e ≠ .transport m

/-- How attempts end. -/
inductive TriesEnd (n : Nat) (as : List Attempt) (rest : List String) : Except String Bool → Prop where
  | spent (h : as.length = n) (hall : ∀ a ∈ as, Retried a) : TriesEnd n as rest (.ok false)
  | closed (h : rest = []) (hall : ∀ a ∈ as, Retried a) : TriesEnd n as rest (.error "input closed")
  | accepted {before : List Attempt} {x : Recovery.Action} (h : as = before ++ [(x, .ok ())])
    (hall : ∀ a ∈ before, Retried a) : TriesEnd n as rest (.ok true)
  | broken {before : List Attempt} {x : Recovery.Action} {m : String}
    (h : as = before ++ [(x, .error (.transport m))]) (hall : ∀ a ∈ before, Retried a) :
    TriesEnd n as rest (.error m)

namespace Tries

variable {k n : Nat} {input rest : List String} {r : Except String Bool}

theorem chain (H : Tries script k n s input as r s' rest) : Chain script s as s' := by
  induction H with
  | spent | closed => exact .nil
  | accepted _ h | broken _ h => exact .cons h .nil
  | again _ h _ _ ih => exact .cons h ih

theorem length_le (H : Tries script k n s input as r s' rest) : as.length ≤ n := by
  induction H with
  | spent => exact Nat.le_refl 0
  | closed => exact Nat.zero_le _
  | accepted | broken => exact Nat.le_add_left 1 _
  | again _ _ _ _ ih => exact Nat.succ_le_succ ih

theorem length_lines (H : Tries script k n s input as r s' rest) :
    ∀ a ∈ as, a.1.lines.length = k := by
  induction H with
  | spent | closed => exact List.forall_mem_nil _
  | accepted hx | broken hx => exact List.forall_mem_singleton.2 hx
  | again hx _ _ _ ih => exact List.forall_mem_cons.2 ⟨hx, ih⟩

/-- The attempts take their lines from the beginning of the input; what it lacks at its end is taken
too, but nothing is done with it. -/
theorem input_eq (H : Tries script k n s input as r s' rest) :
    ∃ cut, input = as.flatMap (·.1.lines) ++ (cut ++ rest) ∧
      (cut = [] ∨ cut.length < k ∧ rest = [] ∧ r = .error "input closed") := by
  induction H with
  | spent => exact ⟨[], rfl, .inl rfl⟩
  | @closed _ _ cut h => exact ⟨cut, by simp, .inr ⟨h, rfl, rfl⟩⟩
  | accepted | broken => exact ⟨[], by simp, .inl rfl⟩
  | again _ _ _ _ ih =>
    obtain ⟨cut, rfl, hcut⟩ := ih
    exact ⟨cut, by simp, hcut⟩

theorem ends (H : Tries script k n s input as r s' rest) : TriesEnd n as rest r := by
  induction H with
  | spent => exact .spent rfl (List.forall_mem_nil _)
  | closed => exact .closed rfl (List.forall_mem_nil _)
  | accepted => exact .accepted (List.nil_append _).symm (List.forall_mem_nil _)
  | broken => exact .broken (List.nil_append _).symm (List.forall_mem_nil _)
  | @again _ _ _ _ x _ _ _ _ e _ _ he _ ih =>
    have hfirst : Retried (x, .error e) := ⟨e, rfl, he⟩
    cases ih with
    | spent h hall => exact .spent (congrArg Nat.succ h) (List.forall_mem_cons.2 ⟨hfirst, hall⟩)
    | closed h hall => exact .closed h (List.forall_mem_cons.2 ⟨hfirst, hall⟩)
    | accepted h hall =>
      exact .accepted (congrArg (_ :: ·) h) (List.forall_mem_cons.2 ⟨hfirst, hall⟩)
    | broken h hall =>
      exact .broken (congrArg (_ :: ·) h) (List.forall_mem_cons.2 ⟨hfirst, hall⟩)

/-- Attempts that the step allows: none of them is out of order, and the recovery moves on with the one
that succeeds; until then it is where it was. -/
theorem recovery (H : Tries script k n s input as r s' rest)
    (hk : ∀ x : Recovery.Action, x.lines.length = k → x.Meets s.1.recovery.step) :
    (∀ a ∈ as, ∀ what step, a.2 ≠ .error (.outOfOrder what step)) ∧
      ∃ vs, Redirected s.1.visits vs ∧
        (r = .ok true ∧ (∃ x q t, x.lines.length = k ∧ Recovery.Action.Leads x s.1.recovery.step q t ∧
          s'.1.recovery = ⟨t, none⟩ ∧ s'.1.visits = x.notices ++ vs) ∨
        r ≠ .ok true ∧ s'.1.recovery.step = s.1.recovery.step ∧ s'.1.visits = vs) := by
  induction H with
  | @spent s | @closed _ s =>
    exact ⟨List.forall_mem_nil _, s.1.visits, .refl, .inr ⟨nofun, rfl, rfl⟩⟩
  | @accepted _ s s' x _ hx h =>
    obtain ⟨_, q, t, hleads, hrecovery, hvisits⟩ | ⟨e, he, _⟩ := h.cases (hk x hx)
    · exact ⟨List.forall_mem_singleton.2 nofun, s.1.visits, .refl,
        .inl ⟨rfl, x, q, t, hx, hleads, hrecovery, hvisits⟩⟩
    · cases he
  | @broken _ s s' x _ m hx h =>
    obtain ⟨he, _⟩ | ⟨e, he, _, hstep, hvisits⟩ := h.cases (hk x hx)
    · cases he
    · exact ⟨List.forall_mem_singleton.2 nofun, s'.1.visits, .of_visits hvisits,
        .inr ⟨nofun, hstep, rfl⟩⟩
  | @again _ s s₁ s' x _ _ as r e hx h he H ih =>
    obtain ⟨ho, _⟩ | ⟨e', ho, horder, hstep, hvisits⟩ := h.cases (hk x hx)
    · cases ho
    · cases ho
      -- a failure leaves the step, so that it allows the next attempt as well
      rw [← hstep] at hk ⊢
      obtain ⟨hinOrder, vs, hvs, hend⟩ := ih hk
      have hfirst : ∀ what step, (.error e : Except RecoveryError Unit) ≠ .error (.outOfOrder what step) :=
        fun what step h => horder what step (Except.error.inj h)
      exact ⟨List.forall_mem_cons.2 ⟨hfirst, hinOrder⟩, vs, .trans (.of_visits hvisits) hvs, hend⟩

end Tries

/-! ## The loops -/

/-- Codes are entered in attempts of one line. -/
theorem confirmCode_tries (n : Nat) (s : Surroundings σ) (t : Terminal) (hs : s.1.renewing = false) :
    ∃ as r s' t', (confirmCode (.scripted script) n).run (s, t) = (r, s', t') ∧
      Tries script 1 n s t.input as r s' t'.input ∧ s'.1.renewing = false := by
  induction n generalizing s t with
  | zero => exact ⟨[], .ok false, s, t, rfl, .spent, hs⟩
  | succ n ih =>
    rw [confirmCode, Run.run_bind, Run.run_prompt]
    cases hinput : t.input with
    | nil => exact ⟨[], _, s, _, rfl, .closed Nat.one_pos, hs⟩
    | cons code rest =>
      obtain ⟨o, s', hmakes, hs'⟩ := makes_of_idle script (.code code) hs
      have hrun : (Recovery.submitCode code).run (.scripted script) s = (.value o, s') := hmakes
      simp only [Run.run_bind, Run.run_perform _ hrun]
      cases o with
      | ok y => exact ⟨_, _, s', _, rfl, .accepted rfl hmakes, hs'⟩
      | error e =>
        cases e with
        | transport m => exact ⟨_, _, s', _, rfl, .broken rfl hmakes, hs'⟩
        | outOfOrder | invalid | rejected =>
          obtain ⟨as, r, s'', t', hrest, H, hs''⟩ := ih s' _ hs'
          exact ⟨_, r, s'', t', hrest, .again rfl hmakes nofun H, hs''⟩

/-- Passwords are entered in attempts of two lines. -/
theorem enterPassword_tries (n : Nat) (s : Surroundings σ) (t : Terminal) (hs : s.1.renewing = false) :
    ∃ as r s' t', (enterPassword (.scripted script) n).run (s, t) = (r, s', t') ∧
      Tries script 2 n s t.input as (r.map Option.isSome) s' t'.input ∧ s'.1.renewing = false := by
  induction n generalizing s t with
  | zero => exact ⟨[], .ok none, s, t, rfl, .spent, hs⟩
  | succ n ih =>
    rw [enterPassword, Run.run_bind, Run.run_prompt]
    match hinput : t.input with
    | [] => exact ⟨[], _, s, _, rfl, .closed Nat.two_pos, hs⟩
    | [new] => exact ⟨[], _, s, _, rfl, .closed Nat.one_lt_two, hs⟩
    | new :: repeated :: rest =>
      obtain ⟨o, s', hmakes, hs'⟩ := makes_of_idle script (.password new repeated) hs
      obtain ⟨v, hrun, rfl⟩ := Task.run_map_value hmakes
      simp only [Run.run_bind, Run.run_prompt, Run.run_perform _ hrun]
      cases v with
      | ok notice => exact ⟨_, _, s', _, rfl, .accepted rfl hmakes, hs'⟩
      | error e =>
        cases e with
        | transport m => exact ⟨_, _, s', _, rfl, .broken rfl hmakes, hs'⟩
        | outOfOrder | invalid | rejected =>
          obtain ⟨as, r, s'', t', hrest, H, hs''⟩ := ih s' _ hs'
          exact ⟨_, r, s'', t', hrest, .again rfl hmakes nofun H, hs''⟩

end

end Command

end SessionKeeper
