import SessionKeeper.Account.User
import SessionKeeper.Proofs.Json.Members

/-!
# Payloads of users and updates

A user is read from every object that presents their fields, `User.slots`: in any order, the
verification flag under either of its names, a default written or left out, whatever else is there.
An update is read from every object that presents its own, where null stands for a field it has not.
-/

namespace SessionKeeper

open Json

/-! ## The values of fields -/

theorem Json.Decoder.text_evaluate {t : Tree} {s : String} (h : t.evaluate? = some (.text s)) :
    Decoder.text t = .ok s := by
  rw [Tree.eq_of_evaluate?_text h]; rfl

theorem Json.Decoder.flag_evaluate {t : Tree} {b : Bool} (h : t.evaluate? = some (.bool b)) :
    Decoder.flag t = .ok b := by
  rw [Tree.eq_of_evaluate?_bool h]; rfl

theorem Json.Decoder.integer_evaluate {t : Tree} {n : Int64}
    (h : t.evaluate? = some (.int n.toInt)) : Decoder.integer t = .ok n := by
  have hrange := And.intro n.minValue_le_toInt n.toInt_le
  simp only [Decoder.integer, Tree.found?_of_evaluate?_int h, if_pos hrange, Int64.ofInt_toInt]

theorem Role.decoder_evaluate {t : Tree} {r : Role} (h : t.evaluate? = some r.toJson) :
    Role.decoder t = .ok r := by
  rw [Tree.eq_of_evaluate?_text h]
  simp [Role.decoder, Role.ofVariant, Role.ofName?_name]

/-- What is there is read as it would be without null, and null as nothing. -/
theorem Json.Decoder.nullable_evaluate {dec : Decoder α} {toJson : α → Json} {o : Option α}
    (hne : ∀ a, toJson a ≠ .null)
    (hdec : ∀ {t a}, t.evaluate? = some (toJson a) → dec t = .ok a) {t : Tree}
    (h : t.evaluate? = some ((o.map toJson).getD .null)) : Decoder.nullable dec t = .ok o := by
  cases o with
  | none => rw [Tree.eq_of_evaluate?_null h]; rfl
  | some a =>
    have hread := hdec h
    cases t with
    | null => exact absurd (Option.some.inj h).symm (hne a)
    | _ => simp [Decoder.nullable, hread, Except.map]

/-! ## Users -/

namespace User

/-- The fields of the user. The verification flag goes by two names, and all but the number and the
role may be left out if they are empty, or false. -/
def slots (u : User) : List Slot :=
  [⟨["id"], .int u.id.toInt, none⟩, ⟨["username"], .text u.username, some (.text "")⟩,
    ⟨["first_name"], .text u.firstName, some (.text "")⟩,
    ⟨["last_name"], .text u.lastName, some (.text "")⟩,
    ⟨["email"], .text u.email, some (.text "")⟩, ⟨["role"], u.role.toJson, none⟩,
    ⟨["email_verified", "is_email_verified"], .bool u.emailVerified, some (.bool false)⟩]

theorem layout_isDistinct : layout.IsDistinct := by
  simp [Layout.IsDistinct, layout, Field.names, Field.required, Field.defaulted]

theorem slots_fit (u : User) : List.Forall₂ Slot.Fits layout.fields u.slots :=
  .cons (Slot.fits_required (fun _ => Decoder.integer_evaluate) _) <|
  .cons (Slot.fits_defaulted (fun _ => Decoder.text_evaluate) _ _ _) <|
  .cons (Slot.fits_defaulted (fun _ => Decoder.text_evaluate) _ _ _) <|
  .cons (Slot.fits_defaulted (fun _ => Decoder.text_evaluate) _ _ _) <|
  .cons (Slot.fits_defaulted (fun _ => Decoder.text_evaluate) _ _ _) <|
  .cons (Slot.fits_required (fun _ => Role.decoder_evaluate) _) <|
  .cons (Slot.fits_defaulted (fun _ => Decoder.flag_evaluate) _ _ _) .nil

theorem orElse_text {s : String} {names : List String} {seen : List (String × Tree)} {name : String}
    (H : Slot.Shown ⟨names, .text s, some (.text "")⟩ (lookupKey name seen)) :
    orElse seen name .text "" = .ok s :=
  orElse_shown H (fun _ => Decoder.text_evaluate) fun h => Json.text.inj (Option.some.inj h)

theorem decoder_presented {u : User} {ms : List (Option String × Tree)} (H : Presents u.slots ms) :
    decoder (.object ms) = .ok u := by
  obtain ⟨seen, hread, hshown⟩ := Layout.read_presented layout_isDistinct u.slots_fit H
  simp only [layout, slots, List.forall₂_cons, Field.name_required, Field.name_defaulted] at hshown
  obtain ⟨hid, husername, hfirst, hlast, hemail, hrole, hverified, -⟩ := hshown
  have hid : need seen "id" .integer = .ok u.id :=
    need_shown hid rfl fun _ => Decoder.integer_evaluate
  have hrole : need seen "role" Role.decoder = .ok u.role :=
    need_shown hrole rfl fun _ => Role.decoder_evaluate
  have hverified : orElse seen "email_verified" .flag false = .ok u.emailVerified :=
    orElse_shown hverified (fun _ => Decoder.flag_evaluate)
      fun h => Json.bool.inj (Option.some.inj h)
  rw [decoder, hread]
  simp only [bind, Except.bind, hid, orElse_text husername, orElse_text hfirst, orElse_text hlast,
    orElse_text hemail, hrole, hverified]
  rfl

end User

/-! ## Updates -/

namespace UserUpdate

/-- A field that may be null instead of being left out. -/
def slot (name : String) (value : Option Json) : Slot := ⟨[name], value.getD .null, some .null⟩

/-- The fields of the update. -/
def slots (w : UserUpdate) : List Slot :=
  [slot "username" (w.username.map .text), slot "first_name" (w.firstName.map .text),
    slot "last_name" (w.lastName.map .text), slot "email" (w.email.map .text),
    slot "role" (w.role.map Role.toJson), slot "email_verified" (w.emailVerified.map .bool)]

theorem layout_isDistinct : layout.IsDistinct := by
  simp [Layout.IsDistinct, layout, Field.names, Field.omissible]

theorem text_evaluate {o : Option String} {t : Tree}
    (h : t.evaluate? = some ((o.map .text).getD .null)) : Decoder.nullable .text t = .ok o :=
  Decoder.nullable_evaluate nofun Decoder.text_evaluate h

theorem role_evaluate {o : Option Role} {t : Tree}
    (h : t.evaluate? = some ((o.map Role.toJson).getD .null)) :
    Decoder.nullable Role.decoder t = .ok o :=
  Decoder.nullable_evaluate nofun Role.decoder_evaluate h

theorem flag_evaluate {o : Option Bool} {t : Tree}
    (h : t.evaluate? = some ((o.map .bool).getD .null)) : Decoder.nullable .flag t = .ok o :=
  Decoder.nullable_evaluate nofun Decoder.flag_evaluate h

theorem slots_fit (w : UserUpdate) : List.Forall₂ Slot.Fits layout.fields w.slots :=
  .cons (Slot.fits_omissible (fun _ => text_evaluate) _ _) <|
  .cons (Slot.fits_omissible (fun _ => text_evaluate) _ _) <|
  .cons (Slot.fits_omissible (fun _ => text_evaluate) _ _) <|
  .cons (Slot.fits_omissible (fun _ => text_evaluate) _ _) <|
  .cons (Slot.fits_omissible (fun _ => role_evaluate) _ _) <|
  .cons (Slot.fits_omissible (fun _ => flag_evaluate) _ _) .nil

/-- Null and no member at all are the same. -/
theorem orElse_nullable {dec : Decoder α} {toJson : α → Json} {o : Option α}
    {seen : List (String × Tree)} {name : String} (hne : ∀ a, toJson a ≠ .null)
    (H : (slot name (o.map toJson)).Shown (lookupKey name seen))
    (hdec : ∀ {t a}, t.evaluate? = some (toJson a) → dec t = .ok a) :
    orElse seen name (.nullable dec) .none = .ok o := by
  refine orElse_shown H (fun _ => Decoder.nullable_evaluate hne hdec) fun h => ?_
  cases o with
  | none => rfl
  | some a => exact absurd (Option.some.inj h).symm (hne a)

theorem decoder_presented {w : UserUpdate} {ms : List (Option String × Tree)}
    (H : Presents w.slots ms) : decoder (.object ms) = .ok w := by
  obtain ⟨seen, hread, hshown⟩ := Layout.read_presented layout_isDistinct w.slots_fit H
  simp only [layout, slots, List.forall₂_cons, Field.name_omissible] at hshown
  obtain ⟨husername, hfirst, hlast, hemail, hrole, hverified, -⟩ := hshown
  rw [decoder, hread]
  simp only [bind, Except.bind, orElse_nullable nofun husername Decoder.text_evaluate,
    orElse_nullable nofun hfirst Decoder.text_evaluate,
    orElse_nullable nofun hlast Decoder.text_evaluate,
    orElse_nullable nofun hemail Decoder.text_evaluate,
    orElse_nullable nofun hrole Role.decoder_evaluate,
    orElse_nullable nofun hverified Decoder.flag_evaluate]
  rfl

end UserUpdate

end SessionKeeper
