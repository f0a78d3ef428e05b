import SessionKeeper.Access.Route
import SessionKeeper.Session

/-! # Guards

What happens to a user who asks for a page. While an operation on the session is outstanding nobody is
sent anywhere: the answer waits, except on open pages, which need no session. -/

namespace SessionKeeper

/-- The answer of a guard. -/
inductive Decision where
  | pending
  | allow
  | redirect (r : Route)
deriving DecidableEq

namespace Decision

/-- The decision where a role, or just any user, is asked for. -/
def evaluate (s : Session) (required : Option Role) : Decision :=
  if s.isLoading then .pending
  else match s.user with
    | none => .redirect (.login none)
    | some u =>
      match required with
      | some r => if u.role = r then .allow else .redirect (.home u.role)
      | none => .allow

/-- The decision for a path. -/
def ofPath (s : Session) (path : String) : Decision :=
  match Access.ofPath path with
  | .everyone => .allow
  | .guestOnly =>
    if s.isLoading then .pending
    else match s.user with
      | some u => .redirect (.home u.role)
      | none => .allow
  | .unknown =>
    if s.isLoading then .pending
    else match s.user with
      | some u => .redirect (.home u.role)
      | none => .redirect (.login none)
  | a => evaluate s a.requiredRole?

end Decision

end SessionKeeper
