import SessionKeeper.Client.Call
import SessionKeeper.Proofs.Json.Objects
import SessionKeeper.Proofs.Json.RoundTrip

/-!
# Payloads on the wire and under inspection

What goes out for a payload of texts reads back as the object of its members, whatever the texts hold
(`Payload.read?_wireText`), so that nothing is lost. What is shown of it is the other way round:
payloads that differ in their secrets alone are shown alike (`secrets_confidential`).
-/

namespace SessionKeeper

open Json

/-! ## Objects of scalars -/

namespace Json

/-- The value is printed as a tree that has this value, and nothing is nested in it. -/
def IsScalar (v : Json) : Prop := ∃ t, v.tree? = some t ∧ t.evaluate? = some v ∧ t.nesting = 0

theorem isScalar_null : IsScalar .null := ⟨.null, rfl, rfl, rfl⟩

theorem isScalar_text (s : String) : IsScalar (.text s) := ⟨.text (some s), rfl, rfl, rfl⟩

theorem exists_memberTrees {ms : List (String × Json)} (H : ∀ m ∈ ms, m.2.IsScalar) :
    ∃ ts, memberTrees? ms = some ts ∧ List.Forall₂ Tree.DenotesFlat ts ms := by
  induction ms with
  | nil => exact ⟨[], rfl, .nil⟩
  | cons m ms ih =>
    obtain ⟨k, v⟩ := m
    rw [List.forall_mem_cons] at H
    obtain ⟨⟨t, htree, hvalue, hflat⟩, hrest⟩ := H
    obtain ⟨ts, hts, hall⟩ := ih hrest
    refine ⟨(some k, t) :: ts, ?_, .cons ⟨⟨rfl, hvalue⟩, hflat⟩ hall⟩
    have htree : v.tree? = some t := htree
    rw [memberTrees?, htree, hts]
    rfl

/-- An object of scalars is read back as it was. -/
theorem read?_compact_flat {ms : List (String × Json)} (H : ∀ m ∈ ms, m.2.IsScalar)
    (hasc : Ascending ms) : read? (Json.object ms).compact = some (.object ms) := by
  obtain ⟨ts, hts, hflat⟩ := exists_memberTrees H
  have htree : (Json.object ms).tree? = some (.object ts) := by rw [tree?, hts]; rfl
  rw [read?, read?_compact htree, Option.bind_some, Tree.value?_of_flat hflat hasc]

end Json

/-! ## Payloads -/

namespace Payload

variable {α : Type} [Payload α]

/-- The text that goes out for a payload. -/
def wireText (a : α) : String := (body a).compact

theorem body_eq (a : α) : body a = .object (Dictionary.ofList (members a)).toList := by
  rw [body, Dictionary.toList_ofList]

theorem read?_wireText {a : α} (H : ∀ m ∈ members a, m.2.IsScalar) :
    read? (wireText a) = some (body a) := by
  rw [wireText, body_eq]
  refine read?_compact_flat (fun m hm => ?_) (Dictionary.ofList (members a)).ascending
  exact H m (Dictionary.mem_of_mem_ofList hm)

/-- The body of every request that goes out with the payload is its text. -/
theorem wire_body {r : Request} {a : α} {base : String} {token : Option String} {w : WireRequest}
    (h : ((r.sending a).call token).wire base = .ok w) : w.body = some (wireText a) := by
  obtain ⟨_, _, _, _, _, rfl⟩ := Call.wire_eq_ok_iff.1 h
  rfl

/-- Nothing of a payload is lost in the text that goes out, and nothing of its secrets is shown: the text
is read as the object of these `fields`, whichever request carries it, two payloads have the same text
just if they are the same, and two that are the same but for their secrets are shown alike. -/
structure IsConfidential (fields : α → List (String × Json)) (withoutSecrets : α → α)
    (inspect : α → String) : Prop where
  sent : ∀ (r : Request) (a : α) base token w,
    ((r.sending a).call token).wire base = .ok w → w.body = some (wireText a)
  read : ∀ a, read? (wireText a) = some (.object (fields a))
  lossless : ∀ a b : α, wireText a = wireText b ↔ a = b
  secretFree : ∀ a b, withoutSecrets a = withoutSecrets b → inspect a = inspect b

/-- It is enough that the members are scalars and determine the payload, and that what is shown does not
depend on the secrets. -/
theorem IsConfidential.of_fields {fields : α → List (String × Json)} {withoutSecrets : α → α}
    {inspect : α → String} (hscalar : ∀ a : α, ∀ m ∈ members a, m.2.IsScalar)
    (hbody : ∀ a : α, body a = .object (fields a)) (hfields : Function.Injective fields)
    (hinspect : ∀ a, inspect (withoutSecrets a) = inspect a) :
    IsConfidential fields withoutSecrets inspect := by
  have hread (a : α) : read? (wireText a) = some (.object (fields a)) :=
    hbody a ▸ read?_wireText (hscalar a)
  refine ⟨fun _ _ _ _ _ => wire_body, hread, fun a b => ⟨fun h => ?_, congrArg wireText⟩, ?_⟩
  · have hobject := (hread a).symm.trans ((congrArg read? h).trans (hread b))
    exact hfields (Json.object.inj (Option.some.inj hobject))
  · intro a b h
    rw [← hinspect a, ← hinspect b, h]

end Payload

open Payload

/-! ## Each payload with secrets -/

namespace LoginRequest

/-- What is read of a login. -/
def fields (r : LoginRequest) : List (String × Json) :=
  [("password", .text r.password), ("username", .text r.username)]

/-- The password is the secret of a login. -/
def withoutSecrets (r : LoginRequest) : LoginRequest := { r with password := "" }

theorem isConfidential : IsConfidential fields withoutSecrets inspect := by
  refine .of_fields ?_ ?_ ?_ fun _ => rfl
  · intro r
    simp [Payload.members, isScalar_text]
  · intro r
    simp only [Payload.body, Payload.members, fields, List.foldl_cons, List.foldl_nil, insertKey,
      String.reduceLT, String.reduceEq, if_true, if_false]
  · rintro ⟨_, _⟩ ⟨_, _⟩ h
    simp_all [fields]

end LoginRequest

namespace RegisterRequest

/-- What is read of a registration. -/
def fields (r : RegisterRequest) : List (String × Json) :=
  [("email", .text r.email), ("first_name", .text r.firstName), ("last_name", .text r.lastName),
    ("password", .text r.password), ("role", .text r.role.name), ("username", .text r.username)]

/-- The password is the secret of a registration. -/
def withoutSecrets (r : RegisterRequest) : RegisterRequest := { r with password := "" }

theorem isConfidential : IsConfidential fields withoutSecrets inspect := by
  refine .of_fields ?_ ?_ ?_ fun _ => rfl
  · intro r
    simp [Payload.members, Role.toJson, isScalar_text]
  · intro r
    simp only [Payload.body, Payload.members, fields, Role.toJson, List.foldl_cons, List.foldl_nil,
      insertKey, String.reduceLT, String.reduceEq, if_true, if_false]
  · rintro ⟨_, _, _, _, _, role⟩ ⟨_, _, _, _, _, role'⟩ h
    have hrole : role.name = role'.name → role = role' := by
      intro hname
      have hback := congrArg Role.ofName? hname
      rw [Role.ofName?_name, Role.ofName?_name] at hback
      exact Option.some.inj hback
    simp_all [fields]

end RegisterRequest

namespace LogoutRequest

/-- What is read of a logout: null where it has no token. -/
def fields (r : LogoutRequest) : List (String × Json) :=
  [("refresh_token", (r.refreshToken.map .text).getD .null)]

/-- What the token is, but not whether there is one, is the secret of a logout. -/
def withoutSecrets (r : LogoutRequest) : LogoutRequest := ⟨r.refreshToken.map fun _ => ""⟩

theorem isConfidential : IsConfidential fields withoutSecrets inspect := by
  refine .of_fields ?_ ?_ ?_ ?_
  · rintro ⟨_ | token⟩
    · simp [Payload.members, isScalar_null]
    · simp [Payload.members, isScalar_text]
  · rintro ⟨_ | token⟩ <;> rfl
  · rintro ⟨_ | token⟩ ⟨_ | token'⟩ h <;> simp_all [fields]
  · rintro ⟨_ | token⟩ <;> rfl

end LogoutRequest

namespace RefreshRequest

/-- What is read of a renewal. -/
def fields (r : RefreshRequest) : List (String × Json) := [("refresh", .text r.refresh)]

/-- A renewal is all secret. -/
def withoutSecrets (_ : RefreshRequest) : RefreshRequest := ⟨""⟩

theorem isConfidential : IsConfidential fields withoutSecrets inspect := by
  refine .of_fields ?_ (fun _ => rfl) ?_ fun _ => rfl
  · intro r
    simp [Payload.members, isScalar_text]
  · rintro ⟨_⟩ ⟨_⟩ h
    simp_all [fields]

end RefreshRequest

namespace ResetPasswordRequest

/-- What is read of a password reset. -/
def fields (r : ResetPasswordRequest) : List (String × Json) :=
  [("code", .text r.code), ("confirm_password", .text r.confirmPassword),
    ("new_password", .text r.newPassword), ("username", .text r.username)]

/-- Both passwords are the secrets of a password reset. -/
def withoutSecrets (r : ResetPasswordRequest) : ResetPasswordRequest :=
  { r with newPassword := "", confirmPassword := "" }

theorem isConfidential : IsConfidential fields withoutSecrets inspect := by
  refine .of_fields ?_ ?_ ?_ fun _ => rfl
  · intro r
    simp [Payload.members, isScalar_text]
  · intro r
    simp only [Payload.body, Payload.members, fields, List.foldl_cons, List.foldl_nil, insertKey,
      String.reduceLT, String.reduceEq, if_true, if_false]
  · rintro ⟨_, _, _, _⟩ ⟨_, _, _, _⟩ h
    simp_all [fields]

end ResetPasswordRequest

/-- Each of the five payloads that carry a password or a token goes out without loss, whatever quotes,
escapes or control characters its texts hold, and is shown without its secrets. -/
theorem secrets_confidential :
    IsConfidential LoginRequest.fields LoginRequest.withoutSecrets LoginRequest.inspect ∧
      IsConfidential RegisterRequest.fields RegisterRequest.withoutSecrets
        RegisterRequest.inspect ∧
      IsConfidential LogoutRequest.fields LogoutRequest.withoutSecrets LogoutRequest.inspect ∧
      IsConfidential RefreshRequest.fields RefreshRequest.withoutSecrets RefreshRequest.inspect ∧
      IsConfidential ResetPasswordRequest.fields ResetPasswordRequest.withoutSecrets
        ResetPasswordRequest.inspect :=
  ⟨LoginRequest.isConfidential, RegisterRequest.isConfidential, LogoutRequest.isConfidential,
    RefreshRequest.isConfidential, ResetPasswordRequest.isConfidential⟩

/-- A password that tries to close its quote and to forge a user name. -/
example :
    (wireText (LoginRequest.mk "alice" "x\",\"username\":\"bob")) =
      "\x7b\"password\":\"x\\\",\\\"username\\\":\\\"bob\",\"username\":\"alice\"\x7d" := by
  decide

end SessionKeeper
