import SessionKeeper.Config
import SessionKeeper.Exchange.Payload
import SessionKeeper.Failure.ApiError
import SessionKeeper.Json.Decode
import SessionKeeper.Text.Utf8

/-! # Calls

What passes between the client and the network: a request as an operation states it, the call that one
dispatch of it makes, and the reply, which is an answer of the backend or a fault on the way. A call
turns into a wire request at a base URL (`Call.wire`), or into the fault that it cannot be sent at
all. -/

namespace SessionKeeper

/-- A request, and how often it has been sent before. -/
structure Request where
  method : String
  path : String
  body : Option Json
  attempt : Nat

namespace Request

/-- A request that has not been sent. -/
def new (method path : String) : Request := ⟨method, path, none, 0⟩

/-- A request for a resource. -/
def get (path : String) : Request := new "GET" path

/-- A request to act. -/
def post (path : String) : Request := new "POST" path

/-- A request to replace a resource. -/
def put (path : String) : Request := new "PUT" path

/-- The request with a body. -/
def withBody (r : Request) (v : Json) : Request := { r with body := some v }

/-- The request with a payload for a body. -/
def sending [Payload α] (r : Request) (a : α) : Request := r.withBody (Payload.body a)

/-- The largest number of attempts that is counted. -/
def maxAttempt : Nat := 255

/-- The request, sent once more. -/
def retried (r : Request) : Request := { r with attempt := min maxAttempt (r.attempt + 1) }

/-- The request has been sent before. -/
def isRetry (r : Request) : Bool := 0 < r.attempt

end Request

/-- One dispatch of a request, with the token it carries. -/
structure Call where
  method : String
  path : String
  bearer : Option String
  body : Option Json

/-- The dispatch of a request with that token. -/
def Request.call (r : Request) (bearer : Option String) : Call := ⟨r.method, r.path, bearer, r.body⟩

/-- What the backend answered. -/
structure Answer where
  status : Nat
  body : String
deriving DecidableEq

namespace Answer

/-- The backend did what it was asked to. -/
def isSuccess (a : Answer) : Bool := 200 ≤ a.status && a.status < 300

/-- The request was at fault. -/
def isRejection (a : Answer) : Bool := 400 ≤ a.status && a.status < 500

/-- The answer, if it is a success. -/
def outcome (a : Answer) : Except ApiError Answer :=
  if a.isSuccess then .ok a else .error (.ofAnswer a.status a.body)

/-- The answer of that status whose body arrived as bytes. -/
def ofBytes (status : Nat) (bytes : ByteArray) : Answer := ⟨status, Text.lenientWithoutMark bytes⟩

/-- The beginning of the text of a decoding failure. -/
def decodingFailed : String := "Failed to decode response: "

/-- The record in the body. -/
def decode (dec : Json.Decoder α) (a : Answer) : Except ApiError α :=
  match Json.decode dec a.body with
  | .ok v => .ok v
  | .error e => .error (.parse (decodingFailed ++ e.message))

end Answer

/-- Why a call got no answer. -/
inductive Fault where
  /-- The call could not be made into a request; perhaps the URL is to blame. -/
  | unbuildable (url : Option String)
  /-- The request did not get through. -/
  | unsent (url : String)
  /-- The answer broke off. -/
  | brokenOff
  | timedOut
deriving DecidableEq

namespace Fault

/-- The text of a fault. -/
def detail : Fault → String
  | .unbuildable none => "builder error"
  | .unbuildable (some url) => "builder error for url (" ++ url ++ ")"
  | .unsent url => "error sending request for url (" ++ url ++ ")"
  | .brokenOff => "error decoding response body"
  | .timedOut => "operation timed out"

/-- The failure that a fault is. -/
def error : Fault → ApiError
  | .timedOut => .timeout "Request timed out. Please try again."
  | f => .network ("Unable to reach the server: " ++ f.detail)

end Fault

/-- What comes of a call. -/
abbrev Reply := Except Fault Answer

/-- A request as it goes out. -/
structure WireRequest where
  method : String
  url : Url
  bearer : Option String
  body : Option String

namespace WireRequest

/-- The address asked for; a fragment stays with the client, and so do a user name and a password. -/
def address (r : WireRequest) : String :=
  ({ r.url with fragment := none } : Url).withoutUserinfo.render

/-- The header that carries a token. -/
def authorization (r : WireRequest) : Option String := r.bearer.map ("Bearer " ++ ·)

/-- The fault that the request does not get through. -/
def unsent (r : WireRequest) : Fault := .unsent r.url.withoutUserinfo.render

end WireRequest

/-- The character may stand in a header. -/
def isHeaderChar (c : Char) : Bool := c == '\t' || (0x20 ≤ c.toNat && c.toNat != 0x7f)

/-- The wire request that a call makes at a base URL. An address that is none is found first, then a
token that no header can carry, then an address that is not on the web. -/
def Call.wire (base : String) (c : Call) : Except Fault WireRequest :=
  match Url.parse (joinUrl base c.path) with
  | .error _ => .error (.unbuildable none)
  | .ok url =>
    let shown := url.withoutUserinfo.render
    if !url.hasHost then .error (.unbuildable (some shown))
    else if !((c.bearer.getD "").toList.all isHeaderChar) then .error (.unbuildable none)
    else if url.scheme ≠ "http" && url.scheme ≠ "https" then .error (.unbuildable (some shown))
    else .ok ⟨c.method, url, c.bearer, c.body.map Json.compact⟩

/-- A call goes out if its address is one on the web and a header can carry its token. -/
theorem Call.wire_eq_ok_iff {base : String} {c : Call} {w : WireRequest} :
    c.wire base = .ok w ↔ ∃ url, Url.parse (joinUrl base c.path) = .ok url ∧ url.hasHost = true ∧
      (∀ ch ∈ (c.bearer.getD "").toList, isHeaderChar ch = true) ∧
      (url.scheme = "http" ∨ url.scheme = "https") ∧
      w = ⟨c.method, url, c.bearer, c.body.map Json.compact⟩ := by
  rw [wire, ← List.all_eq_true]
  cases Url.parse (joinUrl base c.path) with
  | error e => simp
  | ok url =>
    by_cases hhost : url.hasHost = true
    · by_cases hbearer : (c.bearer.getD "").toList.all isHeaderChar = true
      · by_cases hscheme : url.scheme = "http" ∨ url.scheme = "https"
        · rcases hscheme with h | h <;> simp [hhost, hbearer, h, eq_comm (a := w)]
        · obtain ⟨hplain, hsecured⟩ := not_or.1 hscheme
          simp [hhost, hbearer, hplain, hsecured]
      · simp [hhost, hbearer]
    · simp [hhost]
end SessionKeeper
