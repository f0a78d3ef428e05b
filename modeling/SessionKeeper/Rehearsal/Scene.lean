import SessionKeeper.Access.Guard
import SessionKeeper.Client.Host
import SessionKeeper.Client.Operation
import SessionKeeper.Client.Recovery
import SessionKeeper.Rehearsal.Script
import SessionKeeper.Rehearsal.Storage

/-! # Scenes

A client taken through steps against a scripted backend, with a report of each: what came of it, which
requests the backend received, and how everything stands afterwards. A rule may have further steps taken
between a request and its answer; they meet the client as it is then. Reopening replaces the client by a
new one over the same medium, while an operation of the old one may still be under way. -/

namespace SessionKeeper.Rehearsal

/-- What a fetched record is. -/
inductive Shape where
  | user
  | role
  | profile
  | message
  | value
deriving DecidableEq

/-- A step of a scene. -/
inductive Step where
  | login (username password : String)
  | register (fields : RegisterRequest)
  | logout
  | updateUser (w : UserUpdate)
  | refreshProfile
  | updateProfile (w : UserUpdate)
  | resendVerification
  | fetchProfile
  | send (r : Request)
  | fetch (r : Request) (shape : Shape)
  | execute (r : Request)
  | renew (refused : Option String)
  | guardPath (path : String)
  | guardRole (required : Option Role)
  | beginRecovery
  | leaveRecovery
  | submitRequest (username email : String)
  | submitCode (code : String)
  | submitPassword (new confirmation : String)
  | onStore (step : StoreStep)
  /-- Replaces the rules of the backend. -/
  | script (rules : List (Rule Step))
  | failing (saves loads : Bool)
  /-- Replaces what the medium holds, past the store. -/
  | overwrite (es : Entries)
  /-- Opens the medium again, for a new client. -/
  | reopen
  /-- Sends requests at the same time. -/
  | together (rs : List Request)

instance : Inhabited Step := ⟨.logout⟩

/-- What a step brings about. -/
inductive Finding where
  | nothing
  | user (u : User)
  | userOrNone (u : Option User)
  | registration (r : Registration)
  | role (r : Role)
  | text (s : String)
  | answer (a : Answer)
  | decision (d : Decision)
  | ofStore (f : StoreFinding)
  | each (rs : List (Except ApiError Answer))

/-- Why a step fails. -/
inductive Problem where
  | api (e : ApiError)
  | auth (f : AuthFailure)
  | recovery (e : RecoveryError)
  | store (e : StoreError)
  /-- The operation was given up. -/
  | dropped
  /-- The operation waits for one that waits for it. -/
  | stuck

/-- What comes of a step. -/
abbrev Outcome := Except Problem Finding

/-- How a scene stands. -/
structure SceneView where
  session : Session
  store : StoreView
  saved : Entries
  /-- The navigations since the last view, in order. -/
  visits : List Route
  /-- The session was published since the last view. -/
  changed : Bool
  /-- The recovery, unless a submission of it is under way. -/
  recovery : Option Recovery

/-- A step as it went. -/
inductive Report where
  | mk (outcome : Outcome) (received : List (Received Report)) (view : SceneView)

/-- A scene. Clients are numbered in the order in which they were opened; the medium and the record of
navigations are common to them. -/
structure Scene where
  backend : Backend Step
  medium : Memory
  visits : List Route
  clients : Nat → Client Memory
  /-- The number of the present client. -/
  present : Nat
  /-- The client that has a recovery submission under way. -/
  submitting : Option Nat
  /-- The requests of the present step. -/
  received : List (Received Report)
  seenVisits : Nat
  seenSnapshots : Nat

namespace Scene

/-- The scene with a backend and a client over the medium, if its entries can be opened. -/
def open? (b : Backend Step) (m : Memory) : Except StoreError Scene :=
  match Store.openOn m with
  | (.error e, _) => .error e
  | (.ok st, m) => .ok {
    backend := b
    medium := m
    visits := []
    clients := fun _ => .connect st
    present := 0
    submitting := none
    received := []
    seenVisits := 0
    seenSnapshots := 0 }

/-- The client of a number. -/
def client (i : Nat) (s : Scene) : Client Memory :=
  let c := s.clients i
  { c with store := { c.store with medium := s.medium }, visits := s.visits }

/-- The scene with the client of a number changed. -/
def setClient (i : Nat) (c : Client Memory) (s : Scene) : Scene :=
  { s with
    medium := c.store.medium
    visits := c.visits
    clients := fun j => if j = i then c else s.clients j }

/-- The scene seen as it stands, and the same scene with that noted. -/
def view (s : Scene) : SceneView × Scene :=
  let c := s.client s.present
  ({
    session := c.session
    store := .ofStore c.store
    saved := s.medium.entries
    visits := (s.visits.take (s.visits.length - s.seenVisits)).reverse
    changed := s.seenSnapshots < c.board.history.length
    recovery := if s.submitting = some s.present then none else some c.recovery },
  { s with seenVisits := s.visits.length, seenSnapshots := c.board.history.length })

/-- The host of the client of a number; `inner` takes the steps between a request and its answer. -/
def host (inner : List Step → Scene → List Report × Scene) (i : Nat) : Host Memory Scene where
  client := client i
  setClient := setClient i
  reply call s :=
    match s.backend.receive call with
    | (.error f, b) => (some (.error f), { s with backend := b })
    | (.ok (w, rule), b) =>
      let outer := s.received
      let (reports, s) := inner rule.happenings { s with backend := b, received := [] }
      (rule.reply? w, { s with received := outer ++ [.ofWire w reports] })

/-- A record of a shape. -/
def decoder : Shape → Json.Decoder Finding
  | .user => fun t => (User.decoder t).map .user
  | .role => fun t => (Role.decoder t).map .role
  | .profile => fun t => (profileDecoder t).map .user
  | .message => fun t => (messageDecoder t).map .text
  | .value => fun t => match t.value? with
    | some v => .ok (.text v.compact)
    | none => .error .malformed

/-- The outcome of an operation. -/
def outcomeOf (problem : ε → Problem) (finding : α → Finding) : Except ε α → Outcome
  | .ok a => .ok (finding a)
  | .error e => .error (problem e)

/-- The operation that a step is, if it is one that waits for replies. -/
def operation? : Step → Option (Task Memory Outcome)
  | .login u p => some (outcomeOf .auth .user <$> SessionKeeper.login u p)
  | .register fields => some (outcomeOf .auth .registration <$> SessionKeeper.register fields)
  | .logout => some ((fun _ => .ok .nothing) <$> SessionKeeper.logout)
  | .refreshProfile => some (outcomeOf .auth .user <$> SessionKeeper.refreshProfile)
  | .updateProfile w => some (outcomeOf .auth .user <$> SessionKeeper.updateProfile w)
  | .resendVerification => some (outcomeOf .auth .text <$> SessionKeeper.resendVerification)
  | .fetchProfile => some (outcomeOf .api .user <$> SessionKeeper.fetchProfile)
  | .send r => some (outcomeOf .api .answer <$> SessionKeeper.send r)
  | .fetch r shape => some (outcomeOf .api id <$> SessionKeeper.fetch (decoder shape) r)
  | .execute r => some (outcomeOf .api (fun _ => .nothing) <$> SessionKeeper.execute r)
  | .renew refused => some (outcomeOf .api .text <$> SessionKeeper.renew refused)
  | .submitRequest u e => some (outcomeOf .recovery .text <$> Recovery.submitRequest u e)
  | .submitCode c => some (outcomeOf .recovery (fun _ => .nothing) <$> Recovery.submitCode c)
  | .submitPassword n c => some (outcomeOf .recovery .text <$> Recovery.submitPassword n c)
  | _ => none

/-- The step is a submission of the recovery. -/
def isSubmission : Step → Bool
  | .submitRequest _ _ | .submitCode _ | .submitPassword _ _ => true
  | _ => false

/-- The outcome at the end of an operation. -/
def endingOutcome : Ending Outcome → Outcome
  | .value o => o
  | .dropped => .error .dropped
  | .stuck => .error .stuck

/-- Runs tasks that have all come to a wait, one after the other. When one is given up, so are all
others. -/
def runEach (h : Host Memory Scene) : List (Task Memory (Except ApiError Answer)) → Scene →
    Except Problem (List (Except ApiError Answer)) × Scene
  | [], s => (.ok [], s)
  | t :: ts, s =>
    match t.run h s with
    | (.value r, s) =>
      let (rs, s) := runEach h ts s
      (rs.map (r :: ·), s)
    | (.dropped, s) => (.error .dropped, ts.foldl (fun s t => h.setClient (t.drop (h.client s)) s) s)
    | (.stuck, s) => (.error .stuck, s)

/-- Sends requests at the same time: all of them are under way before the first is answered. -/
def together (h : Host Memory Scene) (rs : List Request) (s : Scene) : Outcome × Scene :=
  let start (acc : List (Task Memory (Except ApiError Answer)) × Scene) (r : Request) :=
    let (t, c) := (SessionKeeper.send r).settle (h.client acc.2)
    (acc.1 ++ [t], h.setClient c acc.2)
  let (ts, s) := rs.foldl start ([], s)
  let (r, s) := runEach h ts s
  (r.map .each, { s with received := s.received.mergeSort fun a b => a.key ≤ b.key })

/-- Opens the medium again. If that succeeds, a new client takes the place of the present one. -/
def reopen (s : Scene) : Outcome × Scene :=
  match Store.openOn s.medium with
  | (.error e, m) => (.error (.store e), { s with medium := m })
  | (.ok st, m) =>
    (.ok .nothing,
      { s with
        medium := m
        clients := fun j => if j = s.present + 1 then .connect st else s.clients j
        present := s.present + 1
        seenSnapshots := 0 })

/-- Takes a step that waits for nothing. -/
def takeAtOnce (s : Scene) (step : Step) : Outcome × Scene :=
  let i := s.present
  let c := s.client i
  match step with
  | .updateUser w =>
    let (u, c) := Client.updateUser w c
    (.ok (.userOrNone u), s.setClient i c)
  | .guardPath path => (.ok (.decision (.ofPath c.session path)), s)
  | .guardRole required => (.ok (.decision (.evaluate c.session required)), s)
  | .beginRecovery => (.ok .nothing, s.setClient i c.beginRecovery)
  | .leaveRecovery => (.ok .nothing, s.setClient i c.leaveRecovery)
  | .onStore step =>
    let (r, c) := c.onStore step.apply
    (outcomeOf .store .ofStore r, s.setClient i c)
  | .script rules => (.ok .nothing, { s with backend := { s.backend with rules := rules } })
  | .failing saves loads => (.ok .nothing, { s with medium := s.medium.failing saves loads })
  | .overwrite es => (.ok .nothing, { s with medium := { s.medium with entries := es } })
  | .reopen => s.reopen
  | _ => (.ok .nothing, s)

/-- Takes a step. -/
def take (inner : List Step → Scene → List Report × Scene) (s : Scene) (step : Step) :
    Outcome × Scene :=
  match operation? step, step with
  | some t, _ =>
    let outer := s.submitting
    let (e, s) := t.run (host inner s.present)
      { s with submitting := if isSubmission step then some s.present else outer }
    (endingOutcome e, { s with submitting := outer })
  | none, .together rs => together (host inner s.present) rs s
  | none, step => s.takeAtOnce step

/-- Takes a step and reports on it. -/
def report (inner : List Step → Scene → List Report × Scene) (s : Scene) (step : Step) :
    Report × Scene :=
  let (outcome, s) := take inner { s with received := [] } step
  let received := s.received
  let (view, s) := s.view
  (.mk outcome received view, s)

/-- Takes steps in order, with at most `depth` levels of steps between request and answer. -/
def play : Nat → List Step → Scene → List Report × Scene
  | 0, _, s => ([], s)
  | depth + 1, steps, s =>
    steps.foldl
      (fun acc step =>
        let (r, s) := report (play depth) acc.2 step
        (acc.1 ++ [r], s))
      ([], s)

/-- How many levels of steps between request and answer there may be. -/
def maxDepth : Nat := 100

/-- The reports of a whole scene. -/
def reports (s : Scene) (steps : List Step) : List Report := (play maxDepth steps s).1

end Scene

end SessionKeeper.Rehearsal
