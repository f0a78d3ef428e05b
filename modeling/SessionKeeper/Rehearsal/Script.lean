import SessionKeeper.Client.Call

/-! # Scripts

A backend that plays by rules. Each rule says which requests it answers, how often, and with what; the
first rule in order that covers a request and is not used up answers it, and a request that none covers
is answered with 404. An answer may go wrong on the way, and things may happen between request and
answer, which is what `Happening` stands for. A backend that is not listening gets no request at all. -/

namespace SessionKeeper.Rehearsal

/-- What goes wrong with an answer. -/
inductive Mishap where
  /-- The connection is closed without an answer. -/
  | closed
  /-- The body breaks off. -/
  | brokenOff
  /-- The answer does not come, or does not end, in time. -/
  | late
  /-- The operation that waits for the answer is given up. -/
  | givenUp
deriving DecidableEq

/-- A rule of a script. -/
structure Rule (Happening : Type) where
  method : Option String
  /-- The end of the address. -/
  suffix : Option String
  /-- The authorization header, or its absence. -/
  authorization : Option (Option String)
  /-- How often the rule can still be used; without a limit if absent. -/
  uses : Option Nat
  status : Nat
  body : ByteArray
  happenings : List Happening
  mishap : Option Mishap

namespace Rule

/-- The rule covers a request and is not used up. -/
def covers (r : Rule H) (w : WireRequest) : Bool :=
  r.uses != some 0 && r.method.all (· == w.method) &&
    r.suffix.all (fun s => s.toList.reverse.isPrefixOf w.address.toList.reverse) &&
    r.authorization.all (· == w.authorization)

/-- The rule after one use. -/
def used (r : Rule H) : Rule H := { r with uses := r.uses.map (· - 1) }

/-- The rule that stands for all that are not there. -/
def fallback : Rule H := ⟨none, none, none, none, 404, .empty, [], none⟩

instance : Inhabited (Rule H) := ⟨fallback⟩

/-- The reply that the rule gives to a request, or nothing if the waiting operation is given up. -/
def reply? (r : Rule H) (w : WireRequest) : Option Reply :=
  match r.mishap with
  | none => some (.ok (.ofBytes r.status r.body))
  | some .closed => some (.error w.unsent)
  | some .brokenOff => some (.error .brokenOff)
  | some .late => some (.error .timedOut)
  | some .givenUp => none

end Rule

/-- Uses the first rule that covers a request: the rule as it was, and all rules after its use. -/
def useRule (w : WireRequest) : List (Rule H) → Option (Rule H × List (Rule H))
  | [] => none
  | r :: rs =>
    if r.covers w then some (r, r.used :: rs)
    else (useRule w rs).map fun (r', rs) => (r', r :: rs)

/-- A backend that plays by rules. -/
structure Backend (H : Type) where
  baseUrl : String
  /-- Requests get through to it. -/
  listening : Bool
  rules : List (Rule H)

/-- What comes of a call before any reply: a fault that keeps it from the backend, or the request and
the rule that answers it. -/
def Backend.receive (b : Backend H) (c : Call) : Except Fault (WireRequest × Rule H) × Backend H :=
  match c.wire b.baseUrl with
  | .error f => (.error f, b)
  | .ok w =>
    if b.listening then
      match useRule w b.rules with
      | some (r, rules) => (.ok (w, r), { b with rules := rules })
      | none => (.ok (w, .fallback), b)
    else (.error w.unsent, b)

/-- A request as the backend received it, with reports of what happened before the answer. -/
structure Received (R : Type) where
  method : String
  address : String
  authorization : Option String
  body : Option String
  meanwhile : List R

/-- The record of a request. -/
def Received.ofWire (w : WireRequest) (meanwhile : List R) : Received R :=
  ⟨w.method, w.address, w.authorization, w.body, meanwhile⟩

/-- The order of requests that were sent at the same time: by address, header, method and body in
their written forms. -/
def Received.key (r : Received R) : String :=
  let written (s : Option String) : String := (match s with
    | some s => Json.text s
    | none => Json.null).compact
  String.intercalate " "
    [written (some r.address), written r.authorization, written (some r.method), written r.body]

end SessionKeeper.Rehearsal
