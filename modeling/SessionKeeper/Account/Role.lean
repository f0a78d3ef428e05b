import SessionKeeper.Json.Decode
import SessionKeeper.Text.Case

/-! # Roles

A user is a member of the faculty or a student. The role decides the landing page. -/

namespace SessionKeeper

/-- What a user is to the institution. -/
inductive Role where
  | faculty
  | student
deriving DecidableEq, Inhabited

namespace Role

/-- The name of the role, everywhere it is written. -/
def name : Role → String
  | .faculty => "faculty"
  | .student => "student"

/-- The landing page of users of this role. -/
def home : Role → String
  | .faculty => "/faculty"
  | .student => "/student"

/-- The role of that exact name. -/
def ofName? (s : String) : Option Role :=
  if s = "faculty" then some .faculty else if s = "student" then some .student else none

/-- Reads a role loosely: white space around the name and its case do not matter. The error is the name
as it was understood. -/
def parse (s : String) : Except String Role :=
  let key := Text.toLower (Text.trim s)
  match ofName? key with
  | some r => .ok r
  | none => .error ("unknown role: " ++ key)

/-- The role as a JSON value. -/
def toJson (r : Role) : Json := .text r.name

/-- A role of that exact name, or the error that names the alternatives. -/
def ofVariant (s : String) : Except Json.DecodeError Role :=
  match ofName? s with
  | some r => .ok r
  | none => .error (.unknownVariant s)

/-- A role is its name, or an object whose only member has that name and no value. -/
def decoder : Json.Decoder Role
  | .text (some s) => ofVariant s
  | .text none => .error .malformed
  | .object ((some k, v) :: rest) =>
    match ofVariant k with
    | .error e => .error e
    | .ok r =>
      match v with
      | .null => if rest.isEmpty then .ok r else .error .noValue
      | v => v.mismatch .unit
  | .object ((none, _) :: _) => .error .malformed
  | _ => .error .noValue

theorem ofName?_name (r : Role) : ofName? r.name = some r := by cases r <;> rfl

end Role

end SessionKeeper
