import Mathlib.Data.List.Forall2
import SessionKeeper.Proofs.Client.Outstanding
import SessionKeeper.Proofs.Client.Twin

/-!
# Tokens are opaque

Two runs of the same operations, of which the second starts from credentials with the tokens renamed and
gets the same replies with the tokens renamed, differ in nothing but the tokens (`run?_opaque`): all
operations end alike, the same sessions are published, the same pages are asked for, and the same calls
are made, in the same order. So no token has an effect on what is seen of a client, or is part of it, but
as the bearer of a call, in the bodies of the calls that renew and sign out, and in the credentials.

The runs go through pools that are in step (`Pool.Renames`): one move leads to another such pair.
-/

namespace SessionKeeper

variable {σ α β : Type} {ρ : String → String} {R : σ → σ → Prop}

/-! ## What operations end with -/

/-- The outcome with a renewed token in it renamed. No other outcome has a token in it. -/
def Outcome.renamed (ρ : String → String) : Outcome → Outcome
  | .token r => .token (r.map ρ)
  | o => o

/-- The second outcome is the first one renamed. -/
def Outcome.Renames (ρ : String → String) (o o' : Outcome) : Prop :=
  o' = o.renamed ρ

namespace Operation

/-- The operation with the refused token that it is handed renamed. No other operation is handed one. -/
def renamed (ρ : String → String) : Operation → Operation
  | .renew refused => .renew (refused.map ρ)
  | op => op

/-- The operation is not a request made by hand to an endpoint for tokens. -/
def IsPlain : Operation → Prop
  | .send r => r.path ∉ Endpoint.tokenBearing
  | _ => True

variable [Medium σ]

/-- Every operation is in step with itself. -/
theorem twin (hR : Medium.Mirrors ρ R) (hρ : ρ.Injective) {op : Operation} (hop : op.IsPlain) :
    Task.Twin ρ R (Outcome.Renames ρ) (op.ending : Task σ Outcome)
      (op.renamed ρ).ending := by
  have hsame : ∀ {α : Type} {f : α → Outcome} {t t' : Task σ α},
      (∀ a, (f a).renamed ρ = f a) → Task.InStep ρ R t t' →
        Task.Twin ρ R (Outcome.Renames ρ) (f <$> t) (f <$> t') := by
    intro _ f _ _ hf H
    exact .map H fun a b h => (congrArg f h).trans (hf a).symm
  cases op with
  | login username password => exact hsame (fun _ => rfl) (twin_login hR hρ username password)
  | register fields => exact hsame (fun _ => rfl) (twin_register hR hρ fields)
  | logout => exact hsame (fun _ => rfl) (twin_logout hR hρ)
  | updateUser w => exact hsame (fun _ => rfl) (.update fun c c' hc => hc.updateUser hR w)
  | refreshProfile =>
    exact hsame (fun _ => rfl) (twin_adoptFetched hR hρ (.get Endpoint.profile) (by decide) _)
  | updateProfile w =>
    have hpath : Endpoint.profile ∉ Endpoint.tokenBearing := by decide
    exact hsame (fun _ => rfl)
      (twin_adoptFetched hR hρ ((Request.put Endpoint.profile).sending w) hpath _)
  | resendVerification => exact hsame (fun _ => rfl) (twin_resendVerification hR hρ)
  | send r =>
    have H := twin_send hR hρ r
    rw [Request.renamed_eq (tokenMember?_eq_none hop)] at H
    refine .map H fun o o' ho => ?_
    cases ho with
    | ok _ ha => rw [ha.eq_of_path hop]; rfl
    | error e => rfl
  | renew refused => exact .map (twin_renew hR hρ refused) fun _ _ h => congrArg Outcome.token h
  | beginRecovery =>
    exact hsame (fun _ => rfl) (.modify fun c c' hc => hc.withRecovery fun _ => .opened)
  | leaveRecovery => exact hsame (fun _ => rfl) (.modify fun c c' hc => hc.withRecovery fun _ => .idle)
  | submitRequest username email =>
    exact hsame (fun _ => rfl) (twin_submitRequest hR hρ username email)
  | submitCode code => exact hsame (fun _ => rfl) (twin_submitCode hR hρ code)
  | submitPassword new confirmation =>
    exact hsame (fun _ => rfl) (twin_submitPassword hR hρ new confirmation)

end Operation

/-! ## Two runs -/

section

variable {A : α → β → Prop} {xs : List α} {ys : List β}

theorem forall₂_getElem? (H : List.Forall₂ A xs ys) {i : Nat} {x : α} (h : xs[i]? = some x) :
    ∃ y, ys[i]? = some y ∧ A x y := by
  induction H generalizing i with
  | nil => cases h
  | @cons _ y _ _ hxy _ ih =>
    cases i with
    | zero =>
      cases h
      exact ⟨y, rfl, hxy⟩
    | succ i => exact ih h

theorem forall₂_set (H : List.Forall₂ A xs ys) {x : α} {y : β} (h : A x y) (i : Nat) :
    List.Forall₂ A (xs.set i x) (ys.set i y) := by
  induction H generalizing i with
  | nil => exact .nil
  | cons hxy H ih =>
    cases i with
    | zero => exact .cons h H
    | succ i => exact .cons hxy (ih i)

theorem forall₂_eraseIdx (H : List.Forall₂ A xs ys) (i : Nat) :
    List.Forall₂ A (xs.eraseIdx i) (ys.eraseIdx i) := by
  rw [List.eraseIdx_eq_take_drop_succ, List.eraseIdx_eq_take_drop_succ]
  exact List.rel_append (List.forall₂_take i H) (List.forall₂_drop (i + 1) H)

end

/-- The move of the event in a pool that keeps what the operations end with. -/
def Event.endingMove [Medium σ] : Event → Move σ Outcome
  | .start op => .start op.ending
  | .reply i r => .reply i r
  | .enter i => .enter i
  | .cancel i => .cancel i

/-- The reply that arrives with the event. -/
def Event.reply? : Event → Option Reply
  | .reply _ r => some r
  | _ => none

/-- The second event is the first one in the other run; of the replies it is asked elsewhere. -/
inductive Event.Mirrors (ρ : String → String) : Event → Event → Prop where
  | start {op : Operation} (h : op.IsPlain) : Mirrors ρ (.start op) (.start (op.renamed ρ))
  | reply (i : Nat) (r r' : Reply) : Mirrors ρ (.reply i r) (.reply i r')
  | enter (i : Nat) : Mirrors ρ (.enter i) (.enter i)
  | cancel (i : Nat) : Mirrors ρ (.cancel i) (.cancel i)

namespace Pool

variable [Medium σ]

/-- The second replies are those to the calls of the first run, with the tokens renamed. -/
abbrev RepliesRenamed (ρ : String → String) : List (Call × Client σ × Reply) → List Reply → Prop :=
  List.Forall₂ fun x r' => Reply.Renames ρ x.1.path x.2.2 r'

/-- The second events are the first ones with the tokens renamed: in what the operations are handed and
in the replies to the calls of the first run. -/
structure Mirrored (ρ : String → String) (p : Pool σ Outcome) (es es' : List Event) : Prop where
  events : List.Forall₂ (Event.Mirrors ρ) es es'
  replies : RepliesRenamed ρ (p.replies (es.map Event.endingMove)) (es'.filterMap Event.reply?)

/-- The second pool differs from the first in its tokens alone, which are renamed. -/
structure Renames (ρ : String → String) (R : σ → σ → Prop) (p p' : Pool σ Outcome) : Prop where
  client : p.client.Renames ρ R p'.client
  tasks : List.Forall₂ (Task.Twin ρ R (Outcome.Renames ρ)) p.tasks p'.tasks

namespace Renames

variable {p p' q : Pool σ Outcome}

omit [Medium σ] in
theorem task (H : p.Renames ρ R p') {i : Nat} {t : Task σ Outcome} (ht : p.tasks[i]? = some t) :
    ∃ t', p'.tasks[i]? = some t' ∧ Task.Twin ρ R (Outcome.Renames ρ) t t' :=
  forall₂_getElem? H.tasks ht

omit [Medium σ] in
theorem resume (H : p.Renames ρ R p') {u u' : Task σ Outcome} {c c' : Client σ} (i : Nat)
    (hu : Task.Twin ρ R (Outcome.Renames ρ) u u') (hc : c.Renames ρ R c') :
    (p.resume i u c).Renames ρ R (p'.resume i u' c') :=
  have ⟨htask, hclient⟩ := hu.settle hc
  ⟨hclient, forall₂_set H.tasks htask i⟩

omit [Medium σ] in
theorem callAt?_eq (H : p.Renames ρ R p') (i : Nat) :
    p'.callAt? i = (p.callAt? i).map (Call.renamed ρ) := by
  cases h : p.tasks[i]? with
  | none =>
    have h' : p'.tasks[i]? = none := by
      rw [List.getElem?_eq_none_iff] at h ⊢
      exact H.tasks.length_eq ▸ h
    rw [callAt?, callAt?, h, h']
    rfl
  | some t =>
    obtain ⟨t', ht', htwin⟩ := H.task h
    rw [callAt?, callAt?, h, ht']
    cases htwin <;> rfl

omit [Medium σ] in
theorem outcomes_eq {ts ts' : List (Task σ Outcome)}
    (H : List.Forall₂ (Task.Twin ρ R (Outcome.Renames ρ)) ts ts') :
    ts'.map Task.value? = ts.map fun t => t.value?.map (Outcome.renamed ρ) := by
  induction H with
  | nil => rfl
  | cons htwin _ ih =>
    rw [List.map_cons, List.map_cons, ih]
    cases htwin with
    | done h => rw [h]; rfl
    | act | dispatch | acquire => rfl

theorem move (H : p.Renames ρ R p') (hR : Medium.Mirrors ρ R) (hρ : ρ.Injective) {e e' : Event}
    (he : e.Mirrors ρ e') (hmove : p.move? e.endingMove = some q)
    (hreply : RepliesRenamed ρ (p.replyOf e.endingMove) e'.reply?.toList) :
    ∃ q', p'.move? e'.endingMove = some q' ∧ q.Renames ρ R q' := by
  cases he with
  | start hop =>
    cases hmove
    have ⟨htask, hclient⟩ := (Operation.twin hR hρ hop).settle H.client
    exact ⟨_, rfl, hclient, List.rel_append H.tasks (.cons htask .nil)⟩
  | reply i r r' =>
    rcases move?_cases hmove with ⟨_, he, _⟩ | ⟨_, _, call, _, next, he, hget, rfl⟩ |
      ⟨_, _, _, he, _⟩ | ⟨_, _, he, _⟩
    · cases he
    · cases he
      obtain ⟨t', ht', htwin⟩ := H.task hget
      rw [Event.endingMove, replyOf, hget] at hreply
      have hr : Reply.Renames ρ call.path r r' := (List.forall₂_cons.1 hreply).1
      cases htwin with
      | dispatch _ hnext =>
        exact ⟨_, by rw [Event.endingMove, move?, ht'], H.resume i (hnext r r' hr) H.client⟩
    · cases he
    · cases he
  | enter i =>
    rcases move?_cases hmove with ⟨_, he, _⟩ | ⟨_, _, _, _, _, he, _⟩ |
      ⟨_, _, next, he, hget, hidle, rfl⟩ | ⟨_, _, he, _⟩
    · cases he
    · cases he
    · cases he
      obtain ⟨t', ht', htwin⟩ := H.task hget
      have hidle' : p'.client.renewing = false := H.client.renewing.trans hidle
      cases htwin with
      | acquire _ hnext =>
        refine ⟨_, ?_, H.resume i hnext (H.client.turn true)⟩
        rw [Event.endingMove, move?, ht']
        simp only [hidle', Bool.false_eq_true, if_false]
    · cases he
  | cancel i =>
    rcases move?_cases hmove with ⟨_, he, _⟩ | ⟨_, _, _, _, _, he, _⟩ | ⟨_, _, _, he, _⟩ |
      ⟨_, t, he, hget, rfl⟩
    · cases he
    · cases he
    · cases he
    · cases he
      obtain ⟨t', ht', htwin⟩ := H.task hget
      have hdrop : (t.drop p.client).Renames ρ R (t'.drop p'.client) := htwin.drop H.client
      refine ⟨⟨t'.drop p'.client, p'.tasks.eraseIdx i⟩, ?_, hdrop, forall₂_eraseIdx H.tasks i⟩
      rw [Event.endingMove, move?, hget] at hmove
      rw [Event.endingMove, move?, ht']
      cases htwin with
      | done => cases hmove
      | act | dispatch | acquire => rfl

theorem target?_eq (H : p.Renames ρ R p') {e e' : Event} (he : e.Mirrors ρ e') :
    e'.endingMove.target? p' = e.endingMove.target? p := by
  cases he with
  | start => exact congrArg some H.tasks.length_eq.symm
  | reply | enter | cancel => rfl

/-- The replies of the first event, and of the others. -/
theorem replies_cons {p p₁ : Pool σ Outcome} {e e' : Event} {es es' : List Event}
    (he : e.Mirrors ρ e') (hmove : p.move? e.endingMove = some p₁)
    (H : RepliesRenamed ρ (p.replies ((e :: es).map Event.endingMove))
      ((e' :: es').filterMap Event.reply?)) :
    RepliesRenamed ρ (p.replyOf e.endingMove) e'.reply?.toList ∧
      RepliesRenamed ρ (p₁.replies (es.map Event.endingMove)) (es'.filterMap Event.reply?) := by
  rw [List.map_cons, replies, gather, hmove] at H
  cases he with
  | start | enter | cancel => exact ⟨.nil, H⟩
  | reply i r r' =>
    rcases move?_cases hmove with ⟨_, he, _⟩ | ⟨_, _, call, _, next, he, hget, rfl⟩ |
      ⟨_, _, _, he, _⟩ | ⟨_, _, he, _⟩
    · cases he
    · cases he
      rw [Event.endingMove, replyOf, hget] at H ⊢
      obtain ⟨hr, hrest⟩ := List.forall₂_cons.1 H
      exact ⟨.cons hr .nil, hrest⟩
    · cases he
    · cases he

theorem run (H : p.Renames ρ R p') (hR : Medium.Mirrors ρ R) (hρ : ρ.Injective)
    {es es' : List Event} (hes : p.Mirrored ρ es es')
    (hrun : p.run? (es.map Event.endingMove) = some q) :
    ∃ q', p'.run? (es'.map Event.endingMove) = some q' ∧ q.Renames ρ R q' ∧
      p'.calls (es'.map Event.endingMove) =
        (p.calls (es.map Event.endingMove)).map fun x => (x.1, x.2.renamed ρ) := by
  obtain ⟨hevents, hreplies⟩ := hes
  induction hevents generalizing p p' with
  | nil =>
    cases hrun
    exact ⟨p', rfl, H, rfl⟩
  | @cons e e' es es' he _ ih =>
    obtain ⟨p₁, hmove, hrun⟩ := Option.bind_eq_some_iff.1 hrun
    obtain ⟨hreply, hrest⟩ := replies_cons he hmove hreplies
    obtain ⟨p₁', hmove', H₁⟩ := H.move hR hρ he hmove hreply
    obtain ⟨q', hrun', Hq, hcalls⟩ := ih H₁ hrun hrest
    refine ⟨q', Option.bind_eq_some_iff.2 ⟨p₁', hmove', hrun'⟩, Hq, ?_⟩
    rw [List.map_cons, List.map_cons, calls_cons hmove, calls_cons hmove', hcalls,
      H.target?_eq he, List.map_append]
    congr 1
    cases e.endingMove.target? p with
    | none => rfl
    | some i =>
      simp only [Option.bind_some, H₁.callAt?_eq]
      cases p₁.callAt? i <;> rfl

end Renames

/-- All that can be seen of the second run is what can be seen of the first, with the tokens renamed. -/
structure SeenAlike (ρ : String → String) (p : Pool σ Outcome) (es : List Event) (q : Pool σ Outcome)
    (p' : Pool σ Outcome) (es' : List Event) (q' : Pool σ Outcome) : Prop where
  outcomes : q'.tasks.map Task.value? = q.tasks.map fun t => t.value?.map (Outcome.renamed ρ)
  /-- The published sessions, in order, are the same. -/
  board : q'.client.board = q.client.board
  visits : q'.client.visits = q.client.visits
  recovery : q'.client.recovery = q.client.recovery
  calls : p'.calls (es'.map Event.endingMove) =
    (p.calls (es.map Event.endingMove)).map fun x => (x.1, x.2.renamed ρ)
  /-- While headers can carry the tokens, the same requests go out, and the same calls cannot. -/
  sent (base : String) : ∀ x ∈ p.calls (es.map Event.endingMove),
    (∀ t ∈ x.2.bearer, t.toList.all isHeaderChar = true) →
    (∀ t ∈ x.2.bearer, (ρ t).toList.all isHeaderChar = true) →
      (x.2.renamed ρ).wire base = (x.2.wire base).map fun w =>
        { w with
          bearer := (x.2.renamed ρ).bearer
          body := (x.2.renamed ρ).body.map Json.compact }
  entries : q'.client.store.entries = Store.renamed ρ q.client.store.entries
  /-- The media keep the same entries, renamed. -/
  kept : Medium.load q'.client.store.medium =
    (Medium.load q.client.store.medium).map (Store.renamed ρ)

end Pool

variable [Medium σ]

/-- Two runs of the same operations, in any order of their moves, from media of which one keeps the
tokens renamed, with the same replies but for the tokens in them. -/
theorem run?_opaque (hρ : ρ.Injective) (hR : Medium.Mirrors ρ R) {m m' m₁ : σ} (hm : R m m')
    {s : Store σ} (hopen : Store.openOn m = (.ok s, m₁)) {es es' : List Event}
    (hes : Pool.Mirrored ρ ⟨.connect s, []⟩ es es') {q : Pool σ Outcome}
    (hrun : Pool.run? ⟨.connect s, []⟩ (es.map Event.endingMove) = some q) :
    ∃ s' q', (Store.openOn m').1 = .ok s' ∧
      Pool.run? ⟨.connect s', []⟩ (es'.map Event.endingMove) = some q' ∧
      Pool.SeenAlike ρ ⟨.connect s, []⟩ es q ⟨.connect s', []⟩ es' q' := by
  have hopened := Store.openOn_renames hR hm
  rw [hopen] at hopened
  obtain ⟨s', hopen', hs⟩ := hopened
  have H : Pool.Renames ρ R ⟨.connect s, []⟩ ⟨.connect s', []⟩ := ⟨.connect hs, .nil⟩
  obtain ⟨q', hrun', Hq, hcalls⟩ := H.run hR hρ hes hrun
  refine ⟨s', q', hopen', hrun', ?_⟩
  exact {
    outcomes := Pool.Renames.outcomes_eq Hq.tasks
    board := Hq.client.board
    visits := Hq.client.visits
    recovery := Hq.client.recovery
    calls := hcalls
    sent := fun base x _ => x.2.wire_renamed base
    entries := Hq.client.store.entries
    kept := hR.load Hq.client.store.medium }

/-- A login whose profile call is refused, and a renewal that cannot be saved, with every token preceded
by a mark in the second run. -/
theorem run?_opaque_unsaved_renewal :
    let ρ : String → String := ("~" ++ ·)
    let m : Memory := ⟨.empty, 0, (· == 1), false⟩
    let s : Store Memory := ⟨.empty, m⟩
    let es (access refresh access' refresh' : String) : List Event :=
      [.start (.login "alice" "secret"),
        .reply 0 (.ok ⟨200, "\x7b\"user\":\x7b\"id\":1,\"role\":\"student\"\x7d," ++
          "\"tokens\":\x7b\"access\":\"" ++ access ++ "\",\"refresh\":\"" ++ refresh ++ "\"\x7d\x7d"⟩),
        .reply 0 (.ok ⟨401, ""⟩), .enter 0,
        .reply 0 (.ok ⟨200, "\x7b\"access\":\"" ++ access' ++ "\",\"refresh\":\"" ++ refresh' ++
          "\"\x7d"⟩)]
    let first := es "A1" "R1" "A2" "R2"
    let second := es "~A1" "~R1" "~A2" "~R2"
    ρ.Injective ∧ Store.openOn m = (.ok s, m) ∧
      Pool.Mirrored ρ ⟨.connect s, []⟩ first second ∧
      ∃ q s' q', Pool.run? ⟨.connect s, []⟩ (first.map Event.endingMove) = some q ∧
        (Store.openOn (m.renamed ρ)).1 = .ok s' ∧
        Pool.run? ⟨.connect s', []⟩ (second.map Event.endingMove) = some q' ∧
        Pool.SeenAlike ρ ⟨.connect s, []⟩ first q ⟨.connect s', []⟩ second q' := by
  intro ρ m s es first second
  have hρ : ρ.Injective := fun _ _ => (String.append_right_inj "~").1
  have hopen : Store.openOn m = (.ok s, m) := rfl
  have hes : Pool.Mirrored ρ ⟨.connect s, []⟩ first second := by
    refine ⟨?_, ?_⟩
    · exact .cons (.start trivial) (.cons (.reply ..) (.cons (.reply ..) (.cons (.enter 0)
        (.cons (.reply ..) .nil))))
    · decide +kernel
  have hrun : (Pool.run? ⟨.connect s, []⟩ (first.map Event.endingMove)).isSome = true := by
    decide +kernel
  obtain ⟨q, hq⟩ := Option.isSome_iff_exists.1 hrun
  obtain ⟨s', q', hopen', hrun', halike⟩ := run?_opaque hρ Memory.mirrors rfl hopen hes hq
  exact ⟨hρ, hopen, hes, q, s', q', hq, hopen', hrun', halike⟩

end SessionKeeper
