import SessionKeeper.Proofs.Client.SignIn

/-!
# Local edits of the profile

Updates that the client makes to its own user add up field by field: whatever saves fail on the way,
each field is in the end what the last update says that has the field and could be saved
(`Client.updateUsers_accumulates`). So the updates that could be saved come to one update, their
`UserUpdate.combination`.

Whether a save succeeds is up to the medium. `Journaled` is any medium that also notes it, and a client
does the same things on it (`Client.Agrees.updateUser_journaled`).
-/

namespace SessionKeeper

open Store

/-! ## Fields -/

/-- The fields of a user that an update can have. -/
inductive UserField where
  | username
  | firstName
  | lastName
  | email
  | role
  | emailVerified

namespace UserField

/-- What stands in the field. -/
abbrev Value : UserField → Type
  | .username | .firstName | .lastName | .email => String
  | .role => Role
  | .emailVerified => Bool

/-- The field of a user. -/
def get : (f : UserField) → User → f.Value
  | .username, u => u.username
  | .firstName, u => u.firstName
  | .lastName, u => u.lastName
  | .email, u => u.email
  | .role, u => u.role
  | .emailVerified, u => u.emailVerified

/-- The field of an update, if it has it. -/
def get? : (f : UserField) → UserUpdate → Option f.Value
  | .username, w => w.username
  | .firstName, w => w.firstName
  | .lastName, w => w.lastName
  | .email, w => w.email
  | .role, w => w.role
  | .emailVerified, w => w.emailVerified

/-- The field of the last of the updates that has it. -/
def last? (f : UserField) (ws : List UserUpdate) : Option f.Value := (ws.filterMap f.get?).getLast?

theorem last?_cons (f : UserField) (w : UserUpdate) (ws : List UserUpdate) :
    f.last? (w :: ws) = (f.last? ws).or (f.get? w) := by
  rw [last?, List.filterMap_cons]
  cases f.get? w with
  | none => exact (Option.or_none ..).symm
  | some x =>
    rw [last?, List.getLast?_cons]
    cases (ws.filterMap f.get?).getLast? <;> rfl

theorem get_merge (f : UserField) (u : User) (w : UserUpdate) :
    f.get (u.merge w) = (f.get? w).getD (f.get u) := by cases f <;> rfl

end UserField

theorem User.ext_get {u v : User} (hid : u.id = v.id) (h : ∀ f : UserField, f.get u = f.get v) :
    u = v := by
  cases u
  cases v
  cases hid
  cases h .username
  cases h .firstName
  cases h .lastName
  cases h .email
  cases h .role
  cases h .emailVerified
  rfl

/-- One update for many: each field is that of the last one that has it. -/
def UserUpdate.combination (ws : List UserUpdate) : UserUpdate where
  username := UserField.last? .username ws
  firstName := UserField.last? .firstName ws
  lastName := UserField.last? .lastName ws
  email := UserField.last? .email ws
  role := UserField.last? .role ws
  emailVerified := UserField.last? .emailVerified ws

theorem UserField.get?_combination (f : UserField) (ws : List UserUpdate) :
    f.get? (.combination ws) = f.last? ws := by cases f <;> rfl

theorem User.merge_combination_cons (u : User) (w : UserUpdate) (ws : List UserUpdate) :
    u.merge (.combination (w :: ws)) = (u.merge w).merge (.combination ws) := by
  refine User.ext_get rfl fun f => ?_
  simp only [UserField.get_merge, UserField.get?_combination, UserField.last?_cons,
    Option.getD_or]

/-! ## A medium that notes its saves -/

/-- A medium, and whether each save on it succeeded, the first one first. -/
structure Journaled (σ : Type) where
  medium : σ
  saves : List Bool

variable {σ : Type} [Medium σ]

instance : Medium (Journaled σ) where
  load m := Medium.load m.medium
  save es m :=
    let (r, m') := Medium.save es m.medium
    (r, ⟨m', m.saves ++ [r.isOk]⟩)

theorem save_journaled (es : Entries) (m : σ) (saves : List Bool) :
    Medium.save es (⟨m, saves⟩ : Journaled σ) =
      ((Medium.save es m).1, ⟨(Medium.save es m).2, saves ++ [(Medium.save es m).1.isOk]⟩) := rfl

namespace Client

omit [Medium σ] in
/-- The client on a medium that has noted these saves. -/
def journaled (c : Client σ) (saves : List Bool) : Client (Journaled σ) :=
  ⟨⟨c.store.entries, c.store.medium, saves⟩, c.board, c.visits, c.renewing, c.recovery⟩

omit [Medium σ] in
theorem store_journaled (c : Client σ) (saves : List Bool) :
    (c.journaled saves).store = ⟨c.store.entries, c.store.medium, saves⟩ := rfl

/-- Local updates, one after the other, and what each returns. -/
def updateUsers : List UserUpdate → Client σ → List (Option User) × Client σ
  | [], c => ([], c)
  | w :: ws, c =>
    let (r, c) := updateUser w c
    let (rs, c) := updateUsers ws c
    (r :: rs, c)

/-- The updates whose saves succeeded. -/
def kept (ws : List UserUpdate) (saves : List Bool) : List UserUpdate :=
  (ws.zip saves).filterMap fun (w, saved) => if saved then some w else none

/-! ## One update -/

theorem Agrees.updateUser {c : Client σ} (H : c.Agrees) (w : UserUpdate) :
    (Client.updateUser w c).2.Agrees := by
  rw [Client.updateUser]
  split
  · exact H.storeUser _
  · exact H

theorem updateUser_anonymous {c : Client σ} (h : c.session.user = none) (w : UserUpdate) :
    updateUser w c = (none, c) := by
  rw [updateUser, h]

omit [Medium σ] in
theorem Agrees.isComplete {c : Client σ} (H : c.Agrees) {u : User} (hu : c.session.user = some u) :
    isComplete c.store.entries = true := by
  obtain hempty | hs := H.whole
  · have hnone : c.store.user = none := by rw [Store.user, hempty]; rfl
    cases hu.symm.trans (H.user_eq.trans hnone)
  · exact hs.isComplete

/-- An update by a signed-in user tries one save, and all else follows from how it ends. -/
theorem Agrees.updateUser_eq {c : Client σ} (H : c.Agrees) {u : User}
    (hu : c.session.user = some u) (w : UserUpdate) :
    Client.updateUser w c =
      match Medium.save (c.store.entries.insert userKey (u.merge w).text) c.store.medium with
      | (.ok (), m) =>
        (some (u.merge w), (c.holding (c.store.entries.insert userKey (u.merge w).text) m).post
          (·.setUser (some (u.merge w))))
      | (.error _, m) => (none, c.holding c.store.entries m) := by
  have hupdate : Client.updateUser w c = Client.storeUser (u.merge w) c := by
    simp only [Client.updateUser, hu]
  obtain ⟨hc, _⟩ | ⟨m, _, hsave, h⟩ | ⟨e, m, _, hsave, h⟩ := storeUser_cases (u.merge w) c
  · cases hc.symm.trans (H.isComplete hu)
  · rw [hupdate, h, hsave]
  · rw [hupdate, h, hsave]

omit [Medium σ] in
theorem Agrees.journaled {c : Client σ} (H : c.Agrees) (saves : List Bool) :
    (c.journaled saves).Agrees := ⟨H.whole, H.user_eq⟩

/-- The client after one update by the signed-in user `u`, whether it was saved or not. -/
structure Edited (c : Client σ) (u : User) (w : UserUpdate) (saved : Bool) (d : Client σ) :
    Prop where
  updateUser_eq : Client.updateUser w c = (if saved then some (u.merge w) else none, d)
  session_eq : d.session.user = some (if saved then u.merge w else u)
  holds_iff : ∀ t, d.store.Holds t ↔ c.store.Holds t

/-- An update by a signed-in user saves once, and a client that notes saves does the same. -/
theorem Agrees.updateUser_journaled {c : Client σ} (H : c.Agrees) {u : User}
    (hu : c.session.user = some u) (w : UserUpdate) (saves : List Bool) :
    ∃ saved d, c.Edited u w saved d ∧
      Client.updateUser w (c.journaled saves) =
        ((Client.updateUser w c).1, d.journaled (saves ++ [saved])) := by
  have h := H.updateUser_eq hu w
  have hjournaled := (H.journaled saves).updateUser_eq hu w
  simp only [store_journaled, save_journaled] at hjournaled
  cases hsave : Medium.save (c.store.entries.insert userKey (u.merge w).text) c.store.medium with
  | mk r m =>
    cases r with
    | ok =>
      simp only [hsave] at h hjournaled
      refine ⟨true, _, ⟨h, rfl, fun t => holds_withUser⟩, ?_⟩
      rw [hjournaled, h]
      rfl
    | error e =>
      simp only [hsave] at h hjournaled
      refine ⟨false, _, ⟨h, hu, fun t => Iff.rfl⟩, ?_⟩
      rw [hjournaled, h]
      rfl

/-! ## One update after the other -/

theorem updateUsers_cons (w : UserUpdate) (ws : List UserUpdate) (c : Client σ) :
    updateUsers (w :: ws) c =
      ((updateUser w c).1 :: (updateUsers ws (updateUser w c).2).1,
        (updateUsers ws (updateUser w c).2).2) := rfl

theorem updateUsers_anonymous {c : Client σ} (h : c.session.user = none) (ws : List UserUpdate) :
    updateUsers ws c = (List.replicate ws.length none, c) := by
  induction ws with
  | nil => rfl
  | cons w ws ih =>
    rw [updateUsers_cons, updateUser_anonymous h, ih]
    rfl

/-- What updates by the signed-in user `u` come to, given whether each was saved: one save each, the
user changed by those that were saved, and the user as then changed returned from each of these. -/
structure EditedBy (c : Client σ) (u : User) (ws : List UserUpdate) (saves : List Bool) : Prop where
  length_eq : saves.length = ws.length
  session_eq : (updateUsers ws c).2.session.user = some (u.merge (.combination (kept ws saves)))
  holds_iff : ∀ t, (updateUsers ws c).2.store.Holds t ↔ c.store.Holds t
  results : ∀ i < ws.length, ∃ v, (updateUsers (ws.take (i + 1)) c).2.session.user = some v ∧
    (updateUsers ws c).1[i]? = some (if saves[i]? = some true then some v else none)

theorem EditedBy.nil {c : Client σ} {u : User} (hu : c.session.user = some u) :
    c.EditedBy u [] [] where
  length_eq := rfl
  session_eq := hu
  holds_iff _ := Iff.rfl
  results := nofun

theorem Edited.cons {c d : Client σ} {u : User} {w : UserUpdate} {ws : List UserUpdate}
    {saved : Bool} {saves : List Bool} (H : c.Edited u w saved d)
    (H' : d.EditedBy (if saved then u.merge w else u) ws saves) :
    c.EditedBy u (w :: ws) (saved :: saves) where
  length_eq := congrArg (· + 1) H'.length_eq
  session_eq := by
    rw [updateUsers_cons, H.updateUser_eq, H'.session_eq]
    cases saved
    · rfl
    · exact congrArg some (User.merge_combination_cons u w (kept ws saves)).symm
  holds_iff t := by
    rw [updateUsers_cons, H.updateUser_eq]
    exact (H'.holds_iff t).trans (H.holds_iff t)
  results i hi := by
    cases i with
    | zero =>
      refine ⟨if saved then u.merge w else u, ?_, ?_⟩
      · rw [List.take_succ_cons, List.take_zero, updateUsers_cons, H.updateUser_eq]
        exact H.session_eq
      · rw [updateUsers_cons, H.updateUser_eq]
        cases saved <;> rfl
    | succ i =>
      obtain ⟨v, hv, hr⟩ := H'.results i (Nat.lt_of_succ_lt_succ hi)
      refine ⟨v, ?_, ?_⟩
      · rw [List.take_succ_cons, updateUsers_cons, H.updateUser_eq]
        exact hv
      · rw [updateUsers_cons, H.updateUser_eq]
        exact hr

/-- Updates by a signed-in user save once each, and a client that notes saves does the same. -/
theorem Agrees.updateUsers_journaled {c : Client σ} (H : c.Agrees) {u : User}
    (hu : c.session.user = some u) (ws : List UserUpdate) (noted : List Bool) :
    ∃ saves, c.EditedBy u ws saves ∧
      updateUsers ws (c.journaled noted) =
        ((updateUsers ws c).1, (updateUsers ws c).2.journaled (noted ++ saves)) := by
  induction ws generalizing c u noted with
  | nil => exact ⟨[], .nil hu, by rw [List.append_nil]; rfl⟩
  | cons w ws ih =>
    obtain ⟨saved, d, hstep, hjournaled⟩ := H.updateUser_journaled hu w noted
    have hd : d.Agrees := by
      have := H.updateUser w
      rwa [hstep.updateUser_eq] at this
    obtain ⟨saves, hrun, hrun'⟩ := ih hd hstep.session_eq (noted ++ [saved])
    refine ⟨saved :: saves, hstep.cons hrun, ?_⟩
    rw [updateUsers_cons, updateUsers_cons, hjournaled, hstep.updateUser_eq, hrun',
      List.append_assoc, List.singleton_append]

theorem Agrees.updateUsers {c : Client σ} (H : c.Agrees) (ws : List UserUpdate) :
    (Client.updateUsers ws c).2.Agrees := by
  induction ws generalizing c with
  | nil => exact H
  | cons w ws ih => exact ih (H.updateUser w)

/-- In the end `u'` is published and stored, each field as the last saved update that has it says,
beside the same tokens; and one update in the place of the saved ones has the same effect. -/
structure Accumulates (c : Client σ) (u : User) (ws : List UserUpdate) (saves : List Bool)
    (u' : User) : Prop extends EditedBy c u ws saves where
  published : (updateUsers ws c).2.session.user = some u'
  stored : (updateUsers ws c).2.store.user = some u'
  id_eq : u'.id = u.id
  get_eq : ∀ f : UserField, f.get u' = (f.last? (kept ws saves)).getD (f.get u)
  tokens : ∃ t, c.store.Holds t ∧ (updateUsers ws c).2.store.Holds t
  combined : ∀ d : Client σ, d.Agrees → d.session.user = some u →
    (updateUser (.combination (kept ws saves)) (d.journaled [])).2.store.medium.saves = [true] →
    (updateUser (.combination (kept ws saves)) d).1 = some u' ∧
      (updateUser (.combination (kept ws saves)) d).2.SignedInAs u'

theorem EditedBy.accumulates {c : Client σ} {u : User} {ws : List UserUpdate} {saves : List Bool}
    (H : c.EditedBy u ws saves) (hc : c.Agrees) (hu : c.session.user = some u) :
    c.Accumulates u ws saves (u.merge (.combination (kept ws saves))) where
  toEditedBy := H
  published := H.session_eq
  stored := (hc.updateUsers ws).user_eq.symm.trans H.session_eq
  id_eq := rfl
  get_eq f := by rw [UserField.get_merge, UserField.get?_combination]
  tokens := by
    obtain ⟨t, ht⟩ := (hc.signedInAs hu).tokens
    exact ⟨t, ht, (H.holds_iff t).2 ht⟩
  combined d hd hdu hsaved := by
    obtain ⟨saved, d', hstep, hjournaled⟩ :=
      hd.updateUser_journaled hdu (.combination (kept ws saves)) []
    rw [hjournaled] at hsaved
    obtain rfl : saved = true := List.singleton_inj.1 hsaved
    have hd' := hd.updateUser (.combination (kept ws saves))
    rw [hstep.updateUser_eq] at hd' ⊢
    exact ⟨rfl, hd'.signedInAs hstep.session_eq⟩

/-- Local updates of the profile add up field by field, and do nothing if nobody is signed in. The
medium notes its saves, and a client does the same as without that. -/
theorem updateUsers_accumulates {c : Client σ} (H : c.Agrees) (ws : List UserUpdate) :
    ∃ saves : List Bool,
      updateUsers ws (c.journaled []) =
        ((updateUsers ws c).1, (updateUsers ws c).2.journaled saves) ∧
      (updateUsers ws c).2.session.user = (updateUsers ws c).2.store.user ∧
      (c.session.user = none →
        updateUsers ws c = (List.replicate ws.length none, c) ∧ saves = []) ∧
      (∀ u, c.session.user = some u → ∃ u', c.Accumulates u ws saves u') := by
  cases hu : c.session.user with
  | none =>
    have h := updateUsers_anonymous hu ws
    have hjournaled : (c.journaled []).session.user = none := hu
    refine ⟨[], ?_, (H.updateUsers ws).user_eq, fun _ => ⟨h, rfl⟩, nofun⟩
    rw [updateUsers_anonymous hjournaled, h]
  | some u =>
    obtain ⟨saves, hrun, hjournaled⟩ := H.updateUsers_journaled hu ws []
    refine ⟨saves, hjournaled, (H.updateUsers ws).user_eq, nofun, ?_⟩
    rintro _ ⟨⟩
    exact ⟨_, hrun.accumulates H hu⟩

/-- Three updates, of which the second cannot be saved. -/
theorem updateUsers_accumulates_failing :
    let es := withLogin .empty default ⟨"A1", "R1"⟩
    let c : Client Memory := .connect ⟨es, ⟨es, 0, fun n => n == 1, false⟩⟩
    let ws : List UserUpdate :=
      [{ UserUpdate.none with email := some "a@x", firstName := some "Ann" },
        { UserUpdate.none with email := some "b@x", role := some .faculty },
        { UserUpdate.none with firstName := some "Anna" }]
    c.Agrees ∧
      (∃ saves : List Bool,
        updateUsers ws (c.journaled []) =
          ((updateUsers ws c).1, (updateUsers ws c).2.journaled saves) ∧
        (updateUsers ws c).2.session.user = (updateUsers ws c).2.store.user ∧
        (c.session.user = none →
          updateUsers ws c = (List.replicate ws.length none, c) ∧ saves = []) ∧
        (∀ u, c.session.user = some u → ∃ u', c.Accumulates u ws saves u')) ∧
      (updateUsers ws (c.journaled [])).2.store.medium.saves = [true, false, true] ∧
      (updateUsers ws c).2.session.user =
        some { (default : User) with email := "a@x", firstName := "Anna" } := by
  intro es c ws
  have hc : c.Agrees := .connect (.inr (Whole.withLogin (.inl rfl) _ _))
  exact ⟨hc, updateUsers_accumulates hc ws, by decide +kernel, by decide +kernel⟩

end Client

end SessionKeeper
