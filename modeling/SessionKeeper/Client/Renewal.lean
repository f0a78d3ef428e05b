import SessionKeeper.Client.Task
import SessionKeeper.Exchange.Answer

/-! # Token renewal

A request whose token was refused hands that token in here and asks for another. Renewals take turns, so
that one call for a token is out at a time, and a token that was replaced while its holder waited is not
renewed again (`Renewal.plan`). The outcome of a call is applied only while the refresh token that was
sent is still stored; a refresh token that the backend rejects ends the session
(`Client.settleRenewal`). -/

namespace SessionKeeper

/-- What a renewal does when its turn has come. -/
inductive Renewal where
  /-- The token was replaced meanwhile. -/
  | reuse (token : String)
  /-- The session ended meanwhile. -/
  | gone
  | due
deriving DecidableEq

namespace Renewal

/-- The endpoint that trades a refresh token for an access token. -/
def endpoint : String := "/token/refresh/"

/-- Compares the refused token, if the request carried one, with the stored one. -/
def plan (stored refused : Option String) : Renewal :=
  match stored, refused with
  | some stored, some refused => if stored = refused then .due else .reuse stored
  | some stored, none => .reuse stored
  | none, some _ => .gone
  | none, none => .due

/-- The request that trades a refresh token. -/
def request (token : String) : Request := (Request.post endpoint).sending (RefreshRequest.mk token)

end Renewal

namespace Client

variable [Medium σ]

/-- Nothing is stored to renew with: a session that goes on regardless is ended. -/
def withoutRefreshToken (c : Client σ) : Client σ :=
  if c.session.isAuthenticated then c.endSession else c

/-- Applies the answer to a renewal call that was made with the refresh token `sent`. -/
def settleRenewal (sent : String) (a : Answer) (c : Client σ) :
    Except ApiError String × Client σ :=
  if a.isSuccess then
    match a.decode RefreshAnswer.decoder with
    | .error e => (.error e, c)
    | .ok fresh =>
      match c.onStore (·.updateTokens sent fresh.access fresh.refresh) with
      | (.ok true, c) => (.ok fresh.access, c)
      | (.ok false, c) => (.error .sessionExpired, c)
      | (.error e, c) => (.error (.store e.message), c)
  else if a.isRejection then
    match c.onStore (·.clearIfRefresh sent) with
    | (.ok true, c) => (.error .sessionExpired, c.forgetSession)
    | (.ok false, c) => (.error .sessionExpired, c)
    | (.error e, c) => (.error (.store e.message), c)
  else (.error (.ofAnswer a.status a.body), c)

end Client

variable [Medium σ]

/-- Renews with the stored refresh token, if there is one. -/
def renewNow : Task σ (Except ApiError String) := do
  match (← Task.read).store.refreshToken with
  | none => Task.update fun c => (.error .noRefreshToken, c.withoutRefreshToken)
  | some token =>
    match ← Task.ask ((Renewal.request token).call none) with
    | .error fault => return .error fault.error
    | .ok answer => Task.update (Client.settleRenewal token answer)

/-- An access token other than the refused one: the one stored by now, or a new one. -/
def renew (refused : Option String) : Task σ (Except ApiError String) :=
  Task.exclusive do
    match Renewal.plan (← Task.read).store.accessToken refused with
    | .reuse token => return .ok token
    | .gone => return .error .sessionExpired
    | .due => renewNow

end SessionKeeper
