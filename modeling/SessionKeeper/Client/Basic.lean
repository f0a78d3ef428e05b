import SessionKeeper.Access.Route
import SessionKeeper.Client.Call
import SessionKeeper.Credentials.Store
import SessionKeeper.Session

/-! # The client

The live state of a client: the credential store, the published session, the navigations it has asked
for, whether a token renewal is under way, and the password recovery in progress. Nothing here waits;
each function is one indivisible change. -/

namespace SessionKeeper

/-- Where a password recovery stands. -/
inductive RecoveryStep where
  | idle
  | request
  /-- A code was sent to that user. -/
  | verify (username : String)
  /-- The code was confirmed. -/
  | reset (username code : String)
deriving DecidableEq

/-- The name of the step. -/
def RecoveryStep.name : RecoveryStep → String
  | .idle => "idle"
  | .request => "request"
  | .verify _ => "verify"
  | .reset _ _ => "reset"

/-- A password recovery: its step, and the message of the last failure at it. -/
structure Recovery where
  step : RecoveryStep
  error : Option String
deriving DecidableEq

/-- No recovery is in progress. -/
def Recovery.idle : Recovery := ⟨.idle, none⟩

/-- The state of a client whose credentials are kept on a medium `σ`. -/
structure Client (σ : Type) where
  store : Store σ
  board : Board
  /-- The navigations asked for, the latest first. -/
  visits : List Route
  /-- A token renewal is under way; others wait for it to end. -/
  renewing : Bool
  recovery : Recovery

namespace Client

/-- The session that stored credentials begin with. -/
def hydrate (s : Store σ) : Session :=
  match s.user, s.accessToken with
  | some u, some _ => .authenticated u
  | _, _ => .anonymous

/-- The client over an opened store. -/
def connect (s : Store σ) : Client σ := ⟨s, .start (hydrate s), [], false, .idle⟩

/-- The published session. -/
def session (c : Client σ) : Session := c.board.current

/-- Changes the board. -/
def post (c : Client σ) (f : Board → Board) : Client σ := { c with board := f c.board }

/-- Asks for a navigation. -/
def visit (c : Client σ) (r : Route) : Client σ := { c with visits := r :: c.visits }

/-- Does something to the store. -/
def onStore (c : Client σ) (f : Store σ → α × Store σ) : α × Client σ :=
  let (a, s) := f c.store
  (a, { c with store := s })

variable [Medium σ]

/-- Publishes that nobody is signed in and asks for the login page; the store is empty already. -/
def forgetSession (c : Client σ) : Client σ := (c.post Board.clear).visit (.login none)

/-- Ends the session: the store is cleared, whether or not that can be saved, and then the rest. -/
def endSession (c : Client σ) : Client σ := (c.onStore Store.clear).2.forgetSession

/-- Clears the store, whether or not that can be saved, and the published user. -/
def signOut (c : Client σ) : Client σ := (c.onStore Store.clear).2.post Board.clear

/-- Stores a user and publishes them, unless nobody is signed in or the store cannot be saved. -/
def storeUser (u : User) (c : Client σ) : Option User × Client σ :=
  match c.onStore (·.updateUser u) with
  | (.ok true, c) => (some u, c.post (·.setUser (some u)))
  | (_, c) => (none, c)

/-- Merges an update into the signed-in user. -/
def updateUser (w : UserUpdate) (c : Client σ) : Option User × Client σ :=
  match c.session.user with
  | some u => storeUser (u.merge w) c
  | none => (none, c)

/-- Stores and publishes a fresh login. -/
def adoptLogin (u : User) (t : TokenPair) (c : Client σ) : Except StoreError Unit × Client σ :=
  match c.onStore (·.saveLogin u t) with
  | (.ok (), c) => (.ok (), c.post (·.setUser (some u)))
  | (.error e, c) => (.error e, c)

end Client

end SessionKeeper
