import SessionKeeper.Account.Role

/-! # Users

The snapshot of the signed-in user that a client keeps, and partial updates of it. The backend may send
any part of a user but the number and the role; the stored form is the compact object of all fields.

`User.merge` takes over the fields that an update has and leaves the others; the number never
changes. -/

namespace SessionKeeper

/-- A user as the client knows them. -/
structure User where
  id : Int64
  username : String
  firstName : String
  lastName : String
  email : String
  role : Role
  emailVerified : Bool
deriving DecidableEq, Inhabited

/-- Some of the fields of a user. -/
structure UserUpdate where
  username : Option String
  firstName : Option String
  lastName : Option String
  email : Option String
  role : Option Role
  emailVerified : Option Bool
deriving DecidableEq, Inhabited

namespace UserUpdate

/-- The update that has no field. -/
def none : UserUpdate := ⟨.none, .none, .none, .none, .none, .none⟩

/-- The update has no field. -/
def isEmpty (u : UserUpdate) : Bool := u == none

/-- The members of the update: those fields it has, in the order of a user. -/
def members (u : UserUpdate) : List (String × Json) :=
  [("username", u.username.map .text), ("first_name", u.firstName.map .text),
    ("last_name", u.lastName.map .text), ("email", u.email.map .text),
    ("role", u.role.map Role.toJson), ("email_verified", u.emailVerified.map .bool)].filterMap
    fun f => f.2.map (f.1, ·)

/-- The text of the update. -/
def text (u : UserUpdate) : String := Json.record u.members

open Json in
/-- Every field may be null, and may be absent from an object; an array has all of them. -/
def layout : Layout :=
  ⟨"UserUpdate",
    [.omissible "username" (.nullable .text), .omissible "first_name" (.nullable .text),
      .omissible "last_name" (.nullable .text), .omissible "email" (.nullable .text),
      .omissible "role" (.nullable Role.decoder), .omissible "email_verified" (.nullable .flag)]⟩

open Json in
/-- Reads an update. -/
def decoder : Json.Decoder UserUpdate := fun t => do
  let seen ← layout.read t
  return {
    username := ← orElse seen "username" (.nullable .text) .none
    firstName := ← orElse seen "first_name" (.nullable .text) .none
    lastName := ← orElse seen "last_name" (.nullable .text) .none
    email := ← orElse seen "email" (.nullable .text) .none
    role := ← orElse seen "role" (.nullable Role.decoder) .none
    emailVerified := ← orElse seen "email_verified" (.nullable .flag) .none }

end UserUpdate

namespace User

/-- The user with the fields that the update has. -/
def merge (u : User) (w : UserUpdate) : User where
  id := u.id
  username := w.username.getD u.username
  firstName := w.firstName.getD u.firstName
  lastName := w.lastName.getD u.lastName
  email := w.email.getD u.email
  role := w.role.getD u.role
  emailVerified := w.emailVerified.getD u.emailVerified

/-- The members of the stored form, in order. -/
def members (u : User) : List (String × Json) :=
  [("id", .int u.id.toInt), ("username", .text u.username), ("first_name", .text u.firstName),
    ("last_name", .text u.lastName), ("email", .text u.email), ("role", u.role.toJson),
    ("email_verified", .bool u.emailVerified)]

/-- The stored form of the user. -/
def text (u : User) : String := Json.record u.members

open Json in
/-- The number and the role are required; all else is empty, or false, by default. -/
def layout : Layout :=
  ⟨"User",
    [.required "id" .integer, .defaulted "username" .text [], .defaulted "first_name" .text [],
      .defaulted "last_name" .text [], .defaulted "email" .text [], .required "role" Role.decoder,
      .defaulted "email_verified" .flag ["is_email_verified"]]⟩

open Json in
/-- Reads a user. -/
def decoder : Json.Decoder User := fun t => do
  let seen ← layout.read t
  return {
    id := ← need seen "id" .integer
    username := ← orElse seen "username" .text ""
    firstName := ← orElse seen "first_name" .text ""
    lastName := ← orElse seen "last_name" .text ""
    email := ← orElse seen "email" .text ""
    role := ← need seen "role" Role.decoder
    emailVerified := ← orElse seen "email_verified" .flag false }

/-- The user of a stored form. -/
def ofText? (s : String) : Option User := (Json.decode decoder s).toOption

end User

end SessionKeeper
