import SessionKeeper.Account.User

/-! # The session

What the client believes about who is signed in, and the board on which that belief is published. Every
change of the board publishes a snapshot, also one that equals the last; `history` keeps them, the
latest first. The number of outstanding operations is kept beside the snapshot and decides its loading
flag. -/

namespace SessionKeeper

/-- A snapshot of the session. -/
structure Session where
  user : Option User
  /-- Some operation on the session is outstanding. -/
  isLoading : Bool
  /-- The message of the last failed operation, until the next one begins. -/
  error : Option String
deriving DecidableEq, Inhabited

/-- Where a session stands. -/
inductive Phase where
  | anonymous
  | authenticating
  | authenticated
deriving DecidableEq

namespace Session

/-- Nobody is signed in and nothing is outstanding. -/
def anonymous : Session := ⟨none, false, none⟩

/-- A user is signed in and nothing is outstanding. -/
def authenticated (u : User) : Session := ⟨some u, false, none⟩

/-- A user is signed in. -/
def isAuthenticated (s : Session) : Bool := s.user.isSome

/-- The role of the user. -/
def role? (s : Session) : Option Role := s.user.map (·.role)

/-- A member of the faculty is signed in. -/
def isFaculty (s : Session) : Bool := s.role? == some .faculty

/-- A student is signed in. -/
def isStudent (s : Session) : Bool := s.role? == some .student

/-- A session with a user is authenticated, whether or not something is outstanding. -/
def phase (s : Session) : Phase :=
  match s.user, s.isLoading with
  | some _, _ => .authenticated
  | none, true => .authenticating
  | none, false => .anonymous

end Session

/-- The published session. -/
structure Board where
  current : Session
  /-- How many operations are outstanding. -/
  pending : Nat
  /-- The snapshots published so far, the latest first. -/
  history : List Session

namespace Board

/-- A board on which nothing was published yet. -/
def start (s : Session) : Board := ⟨s, 0, []⟩

/-- Publishes the changed snapshot. -/
def publish (b : Board) (f : Session → Session) : Board :=
  { b with current := f b.current, history := f b.current :: b.history }

/-- An operation starts: the session is loading and the last error is gone. -/
def begin (b : Board) : Board :=
  { b with pending := b.pending + 1 }.publish fun s => { s with isLoading := true, error := none }

/-- An operation ends: the session is loading while others are outstanding. -/
def finish (b : Board) : Board :=
  { b with pending := b.pending - 1 }.publish fun s => { s with isLoading := 0 < b.pending - 1 }

/-- The user changes. -/
def setUser (b : Board) (u : Option User) : Board := b.publish fun s => { s with user := u }

/-- An operation failed with that message. -/
def setError (b : Board) (m : String) : Board := b.publish fun s => { s with error := some m }

/-- The user is gone; outstanding operations stay outstanding. -/
def clear (b : Board) : Board := b.setUser none

end Board

end SessionKeeper
