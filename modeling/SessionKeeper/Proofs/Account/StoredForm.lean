import SessionKeeper.Credentials.Store
import SessionKeeper.Proofs.Account.Payloads
import SessionKeeper.Proofs.Json.RoundTrip

/-!
# The stored form of a user

What is written for a user presents that user, whatever number and texts they have, so it decodes to
them (`User.ofText?_text`), and so does what else presents them; likewise for the text of an update,
in which the fields that it has not are left out.
-/

namespace SessionKeeper

open Json

namespace User

/-- The members of the stored form, each with the tree that it reads as. -/
def storedFields (u : User) : List (String × Tree) :=
  [("id", .number (numeralOf u.id.toInt)), ("username", .text (some u.username)),
    ("first_name", .text (some u.firstName)), ("last_name", .text (some u.lastName)),
    ("email", .text (some u.email)), ("role", .text (some u.role.name)),
    ("email_verified", .bool u.emailVerified)]

theorem memberTrees?_members (u : User) :
    memberTrees? u.members = some (u.storedFields.map fun f => (some f.1, f.2)) := rfl

theorem value?_numeralOf_id (n : Int64) : (numeralOf n.toInt).value? = some (.int n.toInt) := by
  have hmin : Int64.minValue.toInt = -9223372036854775808 := rfl
  have hmax : Int64.maxValue.toInt = 9223372036854775807 := rfl
  have hlow := n.minValue_le_toInt
  have hhigh := n.toInt_le
  exact value?_numeralOf (by simp; omega) (by simp; omega)

theorem presents_storedFields (u : User) :
    Presents u.slots (u.storedFields.map fun f => (some f.1, f.2)) where
  named m hm := by
    obtain ⟨f, _, rfl⟩ := List.mem_map.1 hm
    exact ⟨f.1, rfl⟩
  filled := by
    simp [slots, storedFields, Slot.Filled, Slot.Shown, Slot.takes, Tree.evaluate?,
      value?_numeralOf_id, Role.toJson]

theorem read?_text (u : User) :
    Tree.read? u.text = some (.object (u.storedFields.map fun f => (some f.1, f.2))) :=
  read?_compact (v := .object u.members) (by rw [tree?, memberTrees?_members]; rfl)

/-- A text that is written as an object which presents the user decodes to that user. -/
theorem decode_presented {u : User} {ms : List (Option String × Tree)} {raw : String}
    (H : Presents u.slots ms) (hraw : Tree.read? raw = some (.object ms)) :
    decode decoder raw = .ok u := by
  rw [decode, hraw]
  simp only [decoder_presented H]

/-- What is written for a user decodes to that user. -/
theorem decode_text (u : User) : decode decoder u.text = .ok u :=
  decode_presented u.presents_storedFields u.read?_text

/-- The stored form of a user is read as that user. -/
theorem ofText?_text (u : User) : ofText? u.text = some u := by
  rw [ofText?, decode_text]
  rfl

end User

namespace UserUpdate

/-- What an update may have: the names in order, each with its value and the tree of it. -/
abbrev Written := List (String × Option (Json × Tree))

/-- The members of those that are there. -/
def Written.present (fs : Written) : List (Option String × Tree) :=
  fs.filterMap fun f => f.2.map fun v => (some f.1, v.2)

theorem Written.memberTrees?_eq {fs : Written} (H : ∀ f ∈ fs, ∀ v ∈ f.2, v.1.tree? = some v.2) :
    memberTrees? ((fs.map fun f => (f.1, f.2.map (·.1))).filterMap fun f => f.2.map (f.1, ·)) =
      some fs.present := by
  induction fs with
  | nil => rfl
  | cons f fs ih =>
    have ih := ih fun g hg => H g (List.mem_cons_of_mem f hg)
    obtain ⟨k, _ | v⟩ := f
    · exact ih
    · have hv := H (k, some v) List.mem_cons_self v rfl
      simp only [present, List.map_cons, List.filterMap_cons, Option.map_some, memberTrees?, hv, ih]
      rfl

theorem takes_slot (k j : String) (v : Option Json) (t : Tree) :
    (slot k v).takes (some j, t) = decide (j = k) := by
  simp [Slot.takes, slot]

theorem Written.filter_present_of_notMem {fs : Written} {k : String} (h : k ∉ fs.map (·.1))
    (v : Option Json) : fs.present.filter (slot k v).takes = [] := by
  rw [List.filter_eq_nil_iff]
  intro m hm hk
  obtain ⟨f, hf, hv⟩ := List.mem_filterMap.1 hm
  obtain ⟨_, _, rfl⟩ := Option.map_eq_some_iff.1 hv
  rw [takes_slot, decide_eq_true_eq] at hk
  exact h (List.mem_map.2 ⟨f, hf, hk⟩)

/-- No field but the one of that name has a member of it. -/
theorem Written.filter_present {fs : Written} (hnodup : (fs.map (·.1)).Nodup) {k : String}
    {o : Option (Json × Tree)} (h : (k, o) ∈ fs) (v : Option Json) :
    fs.present.filter (slot k v).takes = o.toList.map fun v => (some k, v.2) := by
  induction fs with
  | nil => cases h
  | cons f fs ih =>
    obtain ⟨j, p⟩ := f
    obtain ⟨hj, hnodup⟩ := List.nodup_cons.1 hnodup
    obtain h | h := List.mem_cons.1 h
    · cases h
      have hrest := filter_present_of_notMem hj v
      simp only [present] at hrest
      cases o <;> simp [present, takes_slot, hrest]
    · have hne : j ≠ k := by
        rintro rfl
        exact hj (List.mem_map.2 ⟨_, h, rfl⟩)
      have hrest := ih hnodup h
      simp only [present] at hrest
      cases p <;> simp [present, takes_slot, hne, hrest]

theorem Written.presents_present (fs : Written) (hnodup : (fs.map (·.1)).Nodup)
    (H : ∀ f ∈ fs, ∀ v ∈ f.2, v.2.evaluate? = some v.1) :
    Presents (fs.map fun f => slot f.1 (f.2.map (·.1))) fs.present where
  named m hm := by
    obtain ⟨f, _, hf⟩ := List.mem_filterMap.1 hm
    obtain ⟨v, _, rfl⟩ := Option.map_eq_some_iff.1 hf
    exact ⟨f.1, rfl⟩
  filled s hs := by
    obtain ⟨⟨k, o⟩, hf, rfl⟩ := List.mem_map.1 hs
    have hfilter := filter_present hnodup hf (o.map (·.1))
    rw [Slot.Filled, hfilter]
    cases o with
    | none => exact ⟨by simp, .inr ⟨rfl, rfl⟩⟩
    | some v => exact ⟨by simp, .inl ⟨v.2, rfl, H _ hf v rfl⟩⟩

/-- The fields of the update as they are written. -/
def written (w : UserUpdate) : Written :=
  [("username", w.username.map fun s => (.text s, .text (some s))),
    ("first_name", w.firstName.map fun s => (.text s, .text (some s))),
    ("last_name", w.lastName.map fun s => (.text s, .text (some s))),
    ("email", w.email.map fun s => (.text s, .text (some s))),
    ("role", w.role.map fun r => (r.toJson, .text (some r.name))),
    ("email_verified", w.emailVerified.map fun b => (.bool b, .bool b))]

theorem written_evaluate (w : UserUpdate) :
    ∀ f ∈ w.written, ∀ v ∈ f.2, v.1.tree? = some v.2 ∧ v.2.evaluate? = some v.1 := by
  simp only [written, List.forall_mem_cons, Option.mem_def, Option.map_eq_some_iff]
  refine ⟨?_, ?_, ?_, ?_, ?_, ?_, nofun⟩
  all_goals
    rintro _ ⟨_, _, rfl⟩
    exact ⟨rfl, rfl⟩

theorem memberTrees?_members (w : UserUpdate) : memberTrees? w.members = some w.written.present := by
  have h := Written.memberTrees?_eq fun f hf v hv => (w.written_evaluate f hf v hv).1
  simpa [written, members, Option.map_map, Function.comp_def] using h

theorem presents_written (w : UserUpdate) : Presents w.slots w.written.present := by
  have h := w.written.presents_present (by simp [written])
    fun f hf v hv => (w.written_evaluate f hf v hv).2
  simpa [written, slots, Option.map_map, Function.comp_def] using h

/-- The text of an update decodes to that update. -/
theorem decode_text (w : UserUpdate) : decode decoder w.text = .ok w := by
  have hread : Tree.read? w.text = some (.object w.written.present) :=
    read?_compact (v := .object w.members) (by rw [tree?, memberTrees?_members]; rfl)
  rw [decode, hread]
  simp only [decoder_presented w.presents_written]

end UserUpdate

namespace Store

variable {σ : Type} [Medium σ]

/-- After a login that could be saved the store has the user who signed in. -/
theorem user_saveLogin {s : Store σ} {u : User} {t : TokenPair} (h : (s.saveLogin u t).1 = .ok ()) :
    (s.saveLogin u t).2.user = some u := by
  simp only [saveLogin, mutate] at h ⊢
  cases hsave : Medium.save (withLogin s.entries u t) s.medium with
  | mk r m =>
    cases r with
    | error e => rw [hsave] at h; cases h
    | ok _ =>
      simp [user, withLogin, Dictionary.get?_insert, userKey, accessKey, refreshKey,
        User.ofText?_text]

/-- An update that took effect leaves the store with the user it was given. -/
theorem user_updateUser {s : Store σ} {u : User} (h : (s.updateUser u).1 = .ok true) :
    (s.updateUser u).2.user = some u := by
  simp only [updateUser, mutate] at h ⊢
  by_cases hc : isComplete s.entries = true
  · simp only [hc, if_true] at h ⊢
    cases hsave : Medium.save (s.entries.insert userKey u.text) s.medium with
    | mk r m =>
      cases r with
      | error e => rw [hsave] at h; cases h
      | ok _ => simp [user, Dictionary.get?_insert, User.ofText?_text]
  · simp [hc] at h

end Store

/-- The formats of users and updates are read as they were written. For a user that goes for what a
store keeps of them, and for every JSON object, however it is spelled, that gives each field once or
leaves out a default, in any order and among any other members. -/
theorem formats_read_back :
    (∀ u : User, decode User.decoder u.text = .ok u) ∧
    (∀ {σ : Type} [Medium σ] (s : Store σ) (u : User),
      (∀ t, (s.saveLogin u t).1 = .ok () → (s.saveLogin u t).2.user = some u) ∧
      ((s.updateUser u).1 = .ok true → (s.updateUser u).2.user = some u)) ∧
    (∀ (u : User) (ms : List (Option String × Tree)) (raw : String),
      Presents u.slots ms → Writes (.object ms) raw → decode User.decoder raw = .ok u) ∧
    ∀ w : UserUpdate, decode UserUpdate.decoder w.text = .ok w :=
  ⟨User.decode_text, fun _ _ => ⟨fun _ => Store.user_saveLogin, Store.user_updateUser⟩,
    fun _ _ _ H hraw => User.decode_presented H hraw.read?_eq, UserUpdate.decode_text⟩

/-- A number at its limit, the other name of the flag, defaults left out, a member with the name of a
field inside of another, and a login that is saved. -/
theorem formats_read_back_partial_payload :
    let u : User := ⟨Int64.minValue, "", "\u0022\\\n", "", "", .student, true⟩
    let v : Json := .object [("note", .array [.null, .object [("id", .int 3)]]),
      ("is_email_verified", .bool true), ("role", .text "student"),
      ("first_name", .text "\u0022\\\n"), ("id", .int Int64.minValue.toInt)]
    let s : Store Memory := ⟨.empty, .ofEntries .empty⟩
    decode User.decoder v.compact = .ok u ∧ (s.saveLogin u ⟨"a", "r"⟩).2.user = some u := by
  obtain ⟨_, hstored, hpresented, _⟩ := formats_read_back
  refine ⟨hpresented _ _ _ ⟨?_, ?_⟩ (writes_compact rfl), (hstored _ _).1 _ rfl⟩
  · simp
  · have hid := User.value?_numeralOf_id Int64.minValue
    simpa [User.slots, Slot.Filled, Slot.Shown, Slot.takes, Tree.evaluate?, Role.toJson, Role.name]
      using hid

end SessionKeeper
