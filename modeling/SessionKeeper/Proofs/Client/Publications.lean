import SessionKeeper.Proofs.Client.Agreement
import SessionKeeper.Proofs.Client.Outstanding

/-!
# What one change publishes

The phase of the session is read off two things that are published one at a time, the user and the
loading flag. `Operation.Allows` says how the phase can change with one publication of an operation,
`Operation.Publishes` with several. While as many operations are outstanding as the board counts
(`Client.Steady`), each indivisible change of the client publishes what the operation that makes it may.
-/

namespace SessionKeeper

variable {σ : Type}

/-! ## Published phases -/

/-- The snapshots published so far, the latest first, above the one that the client began with. -/
def Client.trail (s₀ : Session) (c : Client σ) : List Session := c.board.history ++ [s₀]

/-- The last phase of a trail but authenticating. -/
def settledPhase? (trail : List Session) : Option Phase :=
  (trail.map Session.phase).find? (· ≠ .authenticating)

/-- The operation signs somebody in. -/
def Operation.signsIn : Operation → Bool
  | .login _ _ | .register _ => true
  | _ => false

/-- How the phase can change with one publication of the operation onto a trail, and while it starts. -/
inductive Operation.Allows (op : Operation) (starting : Bool) (trail : List Session) :
    Phase → Phase → Prop where
  | stay (p : Phase) : op.Allows starting trail p p
  | begin (hstart : starting = true) (h : op.isTracked = true) :
    op.Allows starting trail .anonymous .authenticating
  | signIn (h : op.signsIn = true) (hfresh : settledPhase? trail = some .anonymous) :
    op.Allows starting trail .authenticating .authenticated
  | finish (h : op.isTracked = true) : op.Allows starting trail .authenticating .anonymous
  | signOut (h : op.isTracked = false) : op.Allows starting trail .authenticated .anonymous
  | expire (h : op.isTracked = true) : op.Allows starting trail .authenticated .authenticating

/-- The operation publishes one snapshot after another onto a trail. -/
inductive Operation.Publishes (op : Operation) (starting : Bool) :
    List Session → List Session → Prop where
  | refl (trail : List Session) : op.Publishes starting trail trail
  | more {trail rest : List Session} {x y : Session} (H : op.Publishes starting trail (x :: rest))
    (h : op.Allows starting (x :: rest) x.phase y.phase) :
    op.Publishes starting trail (y :: x :: rest)

/-- What can be published later on can be published while the operation starts. -/
theorem Operation.Allows.starting {op : Operation} {trail : List Session} {p q : Phase}
    (H : op.Allows false trail p q) (b : Bool) : op.Allows b trail p q := by
  cases H with
  | stay => exact .stay _
  | begin hstart => cases hstart
  | signIn h hfresh => exact .signIn h hfresh
  | finish h => exact .finish h
  | signOut h => exact .signOut h
  | expire h => exact .expire h

namespace Operation.Publishes

variable {op : Operation} {b : Bool} {xs ys zs : List Session}

theorem trans (H : op.Publishes b xs ys) (H' : op.Publishes b ys zs) : op.Publishes b xs zs := by
  induction H' with
  | refl => exact H
  | more _ h ih => exact .more ih h

theorem starting (H : op.Publishes false xs ys) (b : Bool) : op.Publishes b xs ys := by
  induction H with
  | refl => exact .refl _
  | more _ h ih => exact .more ih (h.starting b)

end Operation.Publishes

theorem settledPhase?_cons (x : Session) (trail : List Session) :
    settledPhase? (x :: trail) =
      if x.phase = .authenticating then settledPhase? trail else some x.phase := by
  rw [settledPhase?, List.map_cons, List.find?_cons]
  cases x.phase <;> rfl

/-! ## Between two operations, and within one -/

variable {s₀ : Session} {op : Operation} {c d : Client σ}

/-- That many operations are outstanding, the session says so, and it is the latest of its trail. -/
structure Client.Steady (s₀ : Session) (n : Nat) (c : Client σ) : Prop where
  agrees : c.Agrees
  pending : c.board.pending = n
  loading : c.session.isLoading = decide (0 < n)
  latest : ∃ rest, c.trail s₀ = c.session :: rest

/-- How many operations are outstanding in the course of this one. -/
def Operation.load (op : Operation) : Nat := op.isTracked.toNat

/-- The operation goes on from one client to another. -/
structure Operation.Leads (op : Operation) (s₀ : Session) (c d : Client σ) : Prop where
  steady : d.Steady s₀ op.load
  publishes : op.Publishes false (c.trail s₀) (d.trail s₀)

namespace Client.Steady

theorem of_board {n : Nat} (H : c.Steady s₀ n) (hd : d.Agrees) (hboard : d.board = c.board) :
    d.Steady s₀ n where
  agrees := hd
  pending := hboard ▸ H.pending
  loading := by rw [session, hboard]; exact H.loading
  latest := by rw [trail, session, hboard]; exact H.latest

theorem leads_of_board (H : c.Steady s₀ op.load) (hd : d.Agrees) (hboard : d.board = c.board) :
    op.Leads s₀ c d where
  steady := H.of_board hd hboard
  publishes := by rw [trail, trail, hboard]; exact .refl _

/-- A change that leaves both the store and the board alone. -/
theorem leads_of_rest (H : c.Steady s₀ op.load) (hstore : d.store = c.store)
    (hboard : d.board = c.board) : op.Leads s₀ c d := by
  refine H.leads_of_board ⟨hstore ▸ H.agrees.whole, ?_⟩ hboard
  rw [session, hboard, hstore]
  exact H.agrees.user_eq

theorem publishes {n : Nat} {b : Bool} (H : c.Steady s₀ n) {x : Session}
    (h : op.Allows b (c.trail s₀) c.session.phase x.phase) :
    op.Publishes b (c.trail s₀) (x :: c.trail s₀) := by
  obtain ⟨rest, hrest⟩ := H.latest
  rw [hrest] at h ⊢
  exact .more (.refl _) h

/-- A change of the board that does not touch the loading flag. -/
theorem leads_of_publish (H : c.Steady s₀ op.load) (hd : d.Agrees) {f : Session → Session}
    (hboard : d.board = c.board.publish f) (hloading : (f c.session).isLoading = c.session.isLoading)
    (h : op.Allows false (c.trail s₀) c.session.phase (f c.session).phase) : op.Leads s₀ c d where
  steady := {
    agrees := hd
    pending := by rw [hboard]; exact H.pending
    loading := by rw [session, hboard]; exact hloading.trans H.loading
    latest := by rw [trail, session, hboard]; exact ⟨_, rfl⟩ }
  publishes := by
    have hd : d.trail s₀ = f c.session :: c.trail s₀ := by rw [trail, hboard]; rfl
    rw [hd]
    exact H.publishes h

theorem phase_of_none {n : Nat} (H : c.Steady s₀ n) (h : c.session.user = none) :
    c.session.phase = if 0 < n then .authenticating else .anonymous := by
  rw [Session.phase, h, H.loading]
  by_cases hn : 0 < n <;> simp [hn]

theorem phase_of_some {u : User} (h : c.session.user = some u) :
    c.session.phase = .authenticated := by
  rw [Session.phase, h]

/-- The user is gone: the session is anonymous, or authenticating while an operation is
outstanding. -/
theorem leads_of_clear (H : c.Steady s₀ op.load) (hd : d.Agrees)
    (hboard : d.board = c.board.clear) : op.Leads s₀ c d := by
  refine H.leads_of_publish (f := fun s => { s with user := none }) hd hboard rfl ?_
  have hphase : ({ c.session with user := none } : Session).phase =
      if 0 < op.load then .authenticating else .anonymous := by
    rw [Session.phase, H.loading]
    by_cases hn : 0 < op.load <;> simp [hn]
  rw [hphase]
  cases hu : c.session.user with
  | none => rw [H.phase_of_none hu]; exact .stay _
  | some u =>
    rw [phase_of_some hu]
    cases h : op.isTracked with
    | true => rw [Operation.load, h]; exact .expire h
    | false => rw [Operation.load, h]; exact .signOut h

/-- A user takes the place of another. -/
theorem leads_of_setUser (H : c.Steady s₀ op.load) (hd : d.Agrees) {u v : User}
    (hu : c.session.user = some u) (hboard : d.board = c.board.setUser (some v)) :
    op.Leads s₀ c d := by
  refine H.leads_of_publish (f := fun s => { s with user := some v }) hd hboard rfl ?_
  rw [phase_of_some hu]
  exact .stay _

theorem turn {n : Nat} (H : c.Steady s₀ n) (b : Bool) :
    ({ c with renewing := b } : Client σ).Steady s₀ n :=
  ⟨⟨H.agrees.whole, H.agrees.user_eq⟩, H.pending, H.loading, H.latest⟩

end Client.Steady

/-! ## What one change publishes -/

/-- A session that is authenticating was anonymous before. -/
def Client.IsFresh (s₀ : Session) (c : Client σ) : Prop :=
  c.session.phase = .authenticating → settledPhase? (c.trail s₀) = some .anonymous

theorem Client.IsFresh.of_board (H : c.IsFresh s₀) (hboard : d.board = c.board) : d.IsFresh s₀ := by
  rw [IsFresh, session, trail, hboard]
  exact H

namespace Client.Steady

theorem begin (H : c.Steady s₀ 0) : (c.post Board.begin).Steady s₀ 1 where
  agrees := H.agrees.post rfl
  pending := congrArg (· + 1) H.pending
  loading := rfl
  latest := ⟨_, rfl⟩

/-- A session in which nothing is outstanding is anonymous or authenticated. -/
theorem phase_idle (H : c.Steady s₀ 0) :
    c.session.user = none ∧ c.session.phase = .anonymous ∨
      ∃ u, c.session.user = some u ∧ c.session.phase = .authenticated := by
  cases hu : c.session.user with
  | none => exact .inl ⟨rfl, H.phase_of_none hu⟩
  | some u => exact .inr ⟨u, rfl, phase_of_some hu⟩

theorem publishes_begin (H : c.Steady s₀ 0) (h : op.isTracked = true) :
    op.Publishes true (c.trail s₀) ((c.post Board.begin).trail s₀) := by
  refine H.publishes (x := { c.session with isLoading := true, error := none }) ?_
  obtain ⟨hu, hphase⟩ | ⟨u, hu, hphase⟩ := H.phase_idle
  · rw [hphase, Session.phase, hu]
    exact .begin rfl h
  · rw [hphase, Session.phase, hu]
    exact .stay _

theorem isFresh_begin (H : c.Steady s₀ 0) : (c.post Board.begin).IsFresh s₀ := by
  intro hphase
  obtain ⟨rest, hrest⟩ := H.latest
  have htrail : (c.post Board.begin).trail s₀ =
      (c.post Board.begin).session :: c.session :: rest := by rw [← hrest]; rfl
  obtain ⟨_, hidle⟩ | ⟨u, hu, _⟩ := H.phase_idle
  · rw [htrail, settledPhase?_cons, if_pos hphase, settledPhase?_cons, hidle]
    rfl
  · have hauthenticated : (c.post Board.begin).session.phase = .authenticated :=
      phase_of_some (c := c.post Board.begin) hu
    cases hphase.symm.trans hauthenticated

theorem finish (H : c.Steady s₀ 1) : (c.post Board.finish).Steady s₀ 0 where
  agrees := H.agrees.post rfl
  pending := congrArg (· - 1) H.pending
  loading := by
    change decide (0 < c.board.pending - 1) = _
    rw [H.pending]
  latest := ⟨_, rfl⟩

theorem publishes_finish (H : c.Steady s₀ 1) (h : op.isTracked = true) :
    op.Publishes false (c.trail s₀) ((c.post Board.finish).trail s₀) := by
  refine H.publishes (x := (c.post Board.finish).session) ?_
  cases hu : c.session.user with
  | none =>
    rw [H.phase_of_none hu, H.finish.phase_of_none hu]
    exact .finish h
  | some u =>
    rw [phase_of_some hu, phase_of_some (c := c.post Board.finish) hu]
    exact .stay _

theorem setError (H : c.Steady s₀ op.load) (m : String) : op.Leads s₀ c (c.post (·.setError m)) :=
  H.leads_of_publish (f := fun s => { s with error := some m }) (H.agrees.post rfl) rfl rfl (.stay _)

variable [Medium σ]

/-- A user can be stored only in the place of another. -/
theorem storeUser (H : c.Steady s₀ op.load) (u : User) : op.Leads s₀ c (Client.storeUser u c).2 := by
  have hagrees := H.agrees.storeUser u
  obtain ⟨_, h⟩ | ⟨m, hcomplete, _, h⟩ | ⟨e, m, _, _, h⟩ := storeUser_cases u c
  · rw [h]; exact H.leads_of_board H.agrees rfl
  · rw [h] at hagrees ⊢
    obtain ⟨v, hv⟩ := ((H.agrees.whole.isComplete_iff).1 hcomplete).decodes
    exact H.leads_of_setUser hagrees (H.agrees.user_eq.trans hv) rfl
  · rw [h] at hagrees ⊢
    exact H.leads_of_board hagrees rfl

theorem updateUser (H : c.Steady s₀ op.load) (w : UserUpdate) :
    op.Leads s₀ c (Client.updateUser w c).2 := by
  rw [Client.updateUser]
  split
  · exact H.storeUser _
  · exact H.leads_of_board H.agrees rfl

theorem adoptLogin (H : c.Steady s₀ op.load) (hsigns : op.signsIn = true) (hfresh : c.IsFresh s₀)
    (u : User) (t : TokenPair) : op.Leads s₀ c (Client.adoptLogin u t c).2 := by
  have hagrees := H.agrees.adoptLogin u t
  obtain ⟨m, _, h⟩ | ⟨e, m, _, h⟩ := adoptLogin_cases u t c
  · rw [h] at hagrees ⊢
    cases hu : c.session.user with
    | some v => exact H.leads_of_setUser hagrees hu rfl
    | none =>
      have hload : op.load = 1 := by cases op <;> first | rfl | cases hsigns
      have hphase : c.session.phase = .authenticating := by rw [H.phase_of_none hu, hload]; rfl
      refine H.leads_of_publish (f := fun s => { s with user := some u }) hagrees rfl rfl ?_
      rw [hphase]
      exact .signIn hsigns (hfresh hphase)
  · rw [h] at hagrees ⊢
    exact H.leads_of_board hagrees rfl

/-- A renewal publishes nothing, unless it ends the session and fails. -/
theorem settleRenewal (H : c.Steady s₀ op.load) (sent : String) (a : Answer) :
    op.Leads s₀ c (Client.settleRenewal sent a c).2 ∧
      ((Client.settleRenewal sent a c).2.board = c.board ∨
        ∃ e, (Client.settleRenewal sent a c).1 = .error e) := by
  have hagrees := H.agrees.settleRenewal sent a
  obtain ⟨_, m, _, _, _, _, _, h⟩ | ⟨m, _, _, _, _, h⟩ | ⟨_, _, m, _, _, h⟩ | ⟨_, _, h⟩ :=
    settleRenewal_cases sent a c
  · rw [h] at hagrees ⊢
    exact ⟨H.leads_of_board hagrees rfl, .inl rfl⟩
  · rw [h] at hagrees ⊢
    exact ⟨H.leads_of_clear hagrees rfl, .inr ⟨_, rfl⟩⟩
  · rw [h] at hagrees ⊢
    exact ⟨H.leads_of_board hagrees rfl, .inl rfl⟩
  · rw [h]
    exact ⟨H.leads_of_board H.agrees rfl, .inl rfl⟩

theorem signOut (H : c.Steady s₀ op.load) : op.Leads s₀ c c.signOut :=
  H.leads_of_clear (Client.Agrees.stable.signOut c H.agrees) rfl

end Client.Steady

end SessionKeeper
