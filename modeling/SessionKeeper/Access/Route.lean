import SessionKeeper.Account.Role
import SessionKeeper.Text.Blank

/-! # Routes

Where a user can be sent, and the rule that each path of the application is under. A path is looked up
without its trailing slashes; the homes of the roles cover everything below them, every other entry of
the table stands for itself alone. -/

namespace SessionKeeper

/-- A destination. -/
inductive Route where
  /-- The login page, perhaps with a notice to show there. -/
  | login (notice : Option String)
  /-- The landing page of a role. -/
  | home (role : Role)
deriving DecidableEq

/-- Who may see a page. -/
inductive Access where
  | everyone
  /-- Visitors only; a signed-in user is sent home. -/
  | guestOnly
  | authenticated
  | role (r : Role)
  /-- No page of the application: a signed-in user is sent home, a visitor to the login page. -/
  | unknown
deriving DecidableEq

namespace Route

/-- The path of the destination. -/
def path : Route → String
  | .login _ => "/login"
  | .home r => r.home

/-- The event that records a navigation: its message and its path. -/
def event (r : Route) : String × String :=
  match r with
  | .login (some notice) => ("navigate: " ++ notice, r.path)
  | _ => ("navigate", r.path)

end Route

namespace Access

/-- The pages open to everybody. -/
def openPaths : List String :=
  ["/pricing", "/blog", "/features", "/contact", "/faculty-dashboard", "/student-dashboard"]

/-- The pages for visitors: landing, login and registration. -/
def guestPaths : List String := ["", "/login", "/register"]

/-- The page for whoever is signed in. -/
def profilePath : String := "/profile"

/-- The path is that page or lies below it. -/
def under (path page : List Char) : Bool :=
  page.isPrefixOf path &&
    match path.drop page.length with
    | [] => true
    | c :: _ => c == '/'

/-- The rule for a path. -/
def ofPath (path : String) : Access :=
  let cs := Text.dropTrailing (· == '/') path.toList
  let key := String.ofList cs
  if under cs Role.faculty.home.toList then .role .faculty
  else if under cs Role.student.home.toList then .role .student
  else if key = profilePath then .authenticated
  else if guestPaths.contains key then .guestOnly
  else if openPaths.contains key then .everyone
  else .unknown

/-- The role that the rule asks for. -/
def requiredRole? : Access → Option Role
  | .role r => some r
  | _ => none

/-- The rule in words. -/
def describe : Access → String
  | .everyone => "public"
  | .guestOnly => "guest only"
  | .unknown => "unknown"
  | .authenticated => "authenticated"
  | .role r => "role " ++ r.name

end Access

end SessionKeeper
