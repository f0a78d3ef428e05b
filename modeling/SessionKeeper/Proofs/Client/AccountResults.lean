import SessionKeeper.Proofs.Client.AccountOperations
import SessionKeeper.Proofs.Credentials.FileMedium

/-!
# What an operation on the account returns, and what it leaves

Alone, each operation returns, and what it returns is what is to be seen: a user that is returned is
published and stored, a failure is the message on the board, and the session is the one from before
unless a renewal has ended it (`AccountOperation.run_alone`). A sign-in that fails where nobody was
signed in leaves nothing but its message (`SignIn.run_anonymous`).
-/

namespace SessionKeeper

open Store

variable {σ α : Type} [Medium σ] {c d : Client σ} {ws : List (Wait σ)}

/-! ## Results and state -/

/-- The operations on the account, with what they return. -/
inductive AccountOperation : Type → Type 1 where
  | signIn {α : Type} (op : SignIn α) : AccountOperation α
  | profile (op : ProfileOperation) : AccountOperation User

namespace AccountOperation

def task : AccountOperation α → Task σ (Except AuthFailure α)
  | .signIn op => op.task
  | .profile op => op.task

/-- The user returned. -/
def user : AccountOperation α → α → User
  | .signIn op, a => op.user a
  | .profile _, u => u

def IsLogin : AccountOperation α → Prop
  | .signIn op => op.IsLogin
  | .profile _ => False

/-- What is returned by an operation that was outstanding at `c`, and is so still, is to be seen at `d`. -/
structure Reports (op : AccountOperation α) (c : Client σ) (log : List Exchange)
    (r : Except AuthFailure α) (d : Client σ) : Prop where
  pending : d.board.pending = c.board.pending
  ok : ∀ a, r = .ok a → ¬ op.IsLogin →
    d.SignedInAs (op.user a) ∧ d.session.error = c.session.error
  error : ∀ f, r = .error f → d.session.error = some f.error ∧ c.Leaves log d

/-- What is returned by an operation that began at `c` is to be seen at `d`, where nothing is
outstanding. -/
structure Matches (op : AccountOperation α) (c : Client σ) (log : List Exchange)
    (r : Except AuthFailure α) (d : Client σ) : Prop where
  isLoading : d.session.isLoading = false
  ok : ∀ a, r = .ok a → ¬ op.IsLogin → d.SignedInAs (op.user a) ∧ d.session.error = none
  error : ∀ f, r = .error f → d.session.error = some f.error ∧ c.Leaves log d

/-- A failure is put on the board after the request, and changes nothing that the request left. -/
theorem Reports.of_failing {op : AccountOperation α} {r : Request} {x : Except ApiError Answer}
    (H : r.Stands c ws (.done x) d) (hws : Undisturbed ws) (hc : c.Agrees) (f : AuthFailure) (m : σ) :
    op.Reports c (exchanges ws) (.error f) ((d.holding d.store.entries m).failing f) := by
  obtain ⟨hleaves, hnotices⟩ := H.leaves hws hc
  have hafter : d.Alike ((d.holding d.store.entries m).failing f) := ⟨rfl, rfl, rfl⟩
  refine ⟨hnotices.pending, ?_, ?_⟩
  · rintro _ ⟨⟩
  · rintro _ ⟨⟩
    exact ⟨rfl, hleaves.congr ⟨rfl, rfl, rfl⟩ hafter⟩

end AccountOperation

theorem SignIn.Ends.reports {op : SignIn α} {o : Except AuthFailure α} (H : op.Ends c ws o d)
    (hws : Undisturbed ws) (hc : c.Agrees) :
    (AccountOperation.signIn op).Reports c (exchanges ws) o d := by
  cases H with
  | refused H hx => exact .of_failing H hws hc _ _
  | unsaved H hx hsave => exact .of_failing H hws hc _ _
  | @adopted ws₁ ws₂ c₁ _ x u t m a hsplit H hsave hnotices hshown =>
    rw [hsplit] at hws
    obtain ⟨hleaves, hbefore⟩ := H.leaves (undisturbed_append.1 hws).1 hc
    refine ⟨hnotices.pending.trans hbefore.pending, ?_, by rintro _ ⟨⟩⟩
    rintro _ ⟨⟩ hlogin
    -- a login has gone on since then, so that nothing is said about its user
    obtain ⟨huser, rfl⟩ := hshown.resolve_left hlogin
    have hadopted : (c₁.adopting u t m).Agrees := (hleaves.agrees hc).adopting hsave
    have hpublished : (c₁.adopting u t m).session.user = some (op.user a) := by rw [huser]; rfl
    exact ⟨hadopted.signedInAs hpublished, hnotices.error.trans hbefore.error⟩

theorem ProfileOperation.Ends.reports {op : ProfileOperation} {o : Except AuthFailure User}
    (H : op.Ends c ws o d) (hws : Undisturbed ws) (hc : c.Agrees) :
    (AccountOperation.profile op).Reports c (exchanges ws) o d := by
  cases H with
  | refused H hx => exact .of_failing H hws hc _ _
  | unstored H => exact .of_failing H hws hc _ _
  | @adopted c₁ x u m H hcomplete =>
    obtain ⟨hleaves, hnotices⟩ := H.leaves hws hc
    refine ⟨hnotices.pending, ?_, by rintro _ ⟨⟩⟩
    rintro _ ⟨⟩ _
    have hs : SignedIn c₁.store.entries := (hleaves.agrees hc).whole.isComplete_iff.1 hcomplete
    have hstored : ((c₁.store.entries.insert userKey u.text).get? userKey).bind User.ofText? =
        some u := by rw [get?_user_withUser, Option.bind_some, User.ofText?_text]
    have hadopted : ((c₁.holding (c₁.store.entries.insert userKey u.text) m).post
        (·.setUser (some u))).Agrees := ⟨.inr (hs.withUser u), hstored.symm⟩
    exact ⟨hadopted.signedInAs rfl, hnotices.error⟩

namespace AccountOperation

theorem orderly (op : AccountOperation α) : (op.task : Task σ _).Orderly false := by
  cases op with
  | signIn op =>
    cases op with
    | login username password => exact orderly_login username password
    | register fields => exact orderly_register fields
  | profile op =>
    cases op with
    | refresh => exact orderly_refreshProfile
    | update w => exact orderly_updateProfile w

theorem reports (op : AccountOperation α) {o : Except AuthFailure α} (hc : c.Agrees)
    (hws : Undisturbed ws) (H : op.task.Course c ws (.done o) d) :
    ∃ d', op.Reports (c.post Board.begin) (exchanges ws) o d' ∧ d = d'.post Board.finish := by
  have hbegun : (c.post Board.begin).Agrees := Client.Agrees.stable.begin c hc
  cases op with
  | signIn op =>
    obtain ⟨d', hends, rfl⟩ := op.ends hc hws H
    exact ⟨d', hends.reports hws hbegun, rfl⟩
  | profile op =>
    obtain ⟨d', hends, rfl⟩ := op.ends H
    exact ⟨d', hends.reports hws hbegun, rfl⟩

omit [Medium σ] in
/-- Where nothing is outstanding before, nothing is after. -/
theorem Reports.matches {op : AccountOperation α} {log : List Exchange} {r : Except AuthFailure α}
    (H : op.Reports (c.post Board.begin) log r d) (hpending : c.board.pending = 0) :
    op.Matches c log r (d.post Board.finish) where
  isLoading := by
    have hone : d.board.pending = c.board.pending + 1 := H.pending
    change decide (0 < d.board.pending - 1) = false
    rw [hone, hpending]
    rfl
  ok a h hlogin := by
    obtain ⟨hsigned, herror⟩ := H.ok a h hlogin
    exact ⟨⟨hsigned.published, hsigned.stored, hsigned.tokens⟩, herror⟩
  error f h := by
    obtain ⟨hmessage, hleaves⟩ := H.error f h
    exact ⟨hmessage, hleaves.congr ⟨rfl, rfl, rfl⟩ ⟨rfl, rfl, rfl⟩⟩

/-- While session and store agree and nothing else is running, each operation on the account returns,
whatever the replies are and whichever saves fail. A user that it returns is published and stored, with
both tokens, and there is no error; a login may have lost the session again. A failure is the error on
the board, and session and stored user are those from before, beside tokens that were at most renewed,
or else a rejected refresh token has ended the session. Nothing is loading then. -/
theorem run_alone (op : AccountOperation α) (hc : c.Agrees) (hpending : c.board.pending = 0)
    (hidle : c.renewing = false) (script : Nat → Reply) :
    ∃ r d log, op.task.run (.scripted script) (c, []) = (.value r, d, log) ∧
      op.Matches c log r d := by
  obtain ⟨r, d, log, hrun, _⟩ := op.orderly.run_scripted hidle []
  obtain ⟨ws, hcourse, hws, rfl⟩ := Task.run_scripted hrun
  obtain ⟨d', hreports, rfl⟩ := op.reports hc hws hcourse
  exact ⟨r, _, _, hrun, hreports.matches hpending⟩

/-- A profile is changed with a token that has run out, and then the backend finds fault with the
change. -/
theorem run_alone_rejected_update :
    let es := withLogin .empty default ⟨"A1", "R1"⟩
    let c : Client Memory := .connect ⟨es, .ofEntries es⟩
    let op : AccountOperation User := .profile (.update ⟨none, none, none, some "a@b.c", none, none⟩)
    let script : Nat → Reply := fun
      | 0 => .ok ⟨401, ""⟩
      | 1 => .ok ⟨200, "\x7b\"access\":\"A2\",\"refresh\":\"R2\"\x7d"⟩
      | _ => .ok ⟨400, "\x7b\"details\":\x7b\"email\":[\"taken\"]\x7d\x7d"⟩
    c.Agrees ∧ c.board.pending = 0 ∧ c.renewing = false ∧
      ∃ r d log, op.task.run (.scripted script) (c, []) = (.value r, d, log) ∧
        op.Matches c log r d ∧ r = .error ⟨AuthFailure.fieldsMessage, .ofList [("email", "taken")]⟩ := by
  intro es c op script
  have hc : c.Agrees := .connect (.inr (Whole.withLogin (.inl rfl) _ _))
  obtain ⟨r, d, log, hrun, hmatches⟩ := run_alone op hc rfl rfl script
  have hvalue : (op.task.run (.scripted script) (c, [])).1.value? =
      some (.error ⟨AuthFailure.fieldsMessage, .ofList [("email", "taken")]⟩) := by decide +kernel
  rw [hrun] at hvalue
  exact ⟨hc, rfl, rfl, r, d, log, hrun, hmatches, Option.some.inj hvalue⟩

end AccountOperation

/-! ## A failed sign-in -/

namespace SignIn

/-- Why a sign-in of nobody fails, by the reply to its request and the medium, and how that is
presented. -/
inductive Fails (op : SignIn α) (m : σ) : Reply → AuthFailure → Prop where
  | unanswered (fault : Fault) : Fails op m (.error fault) (.ofMessage fault.error.message)
  | general {a : Answer} {message : String} (h : a.isSuccess = false)
    (hbody : ErrorBody.parse a.body = .general message) : Fails op m (.ok a) (.ofMessage message)
  | fields {a : Answer} {messages : FieldErrors} (h : a.isSuccess = false)
    (hbody : ErrorBody.parse a.body = .fields messages) :
    Fails op m (.ok a) ⟨AuthFailure.fieldsMessage, messages⟩
  | unexplained {a : Answer} (h : a.isSuccess = false)
    (hbody : ErrorBody.parse a.body = .empty ∨ ∃ s, ErrorBody.parse a.body = .text s) :
    Fails op m (.ok a) (.ofMessage op.fallback)
  | undecodable {a : Answer} {e : ApiError} (h : a.isSuccess = true) (hdec : op.decode a = .error e) :
    Fails op m (.ok a) (.ofMessage op.fallback)
  | unsaved {a : Answer} {u : User} {t : TokenPair} {e : StoreError} {m' : σ}
    (h : a.isSuccess = true) (hdec : op.decode a = .ok (u, t))
    (hsave : Medium.save (withLogin .empty u t) m = (.error e, m')) : Fails op m (.ok a) (.unstored e)

/-- An operation failed that began at the client `c`, where nobody was signed in, and `d` is as `c` was
but for the message. -/
structure FailedFrom (op : SignIn α) (c : Client σ) (log : List Exchange) (f : AuthFailure)
    (d : Client σ) : Prop where
  entries : d.store.entries = .empty
  /-- Only a save that failed has come to the medium. -/
  medium : d.store.medium = c.store.medium ∨
    ∃ es e, Medium.save es c.store.medium = (.error e, d.store.medium)
  /-- Where a save that fails leaves what is loaded, it is the same. -/
  persisted : ∀ R, Medium.Reliable R → R c.store.medium →
    Medium.load d.store.medium = Medium.load c.store.medium
  session : d.session = ⟨none, false, some f.error⟩
  visits : d.visits = c.visits
  exchange : ∃ y, log = [(op.request.call none, y)] ∧ op.Fails c.store.medium y f

omit [Medium σ] in
theorem Fault.ofApi_error (fault : Fault) (fallback : String) :
    AuthFailure.ofApi fault.error fallback = .ofMessage fault.error.message := by
  cases fault <;> rfl

theorem decode_error {op : SignIn α} {a : Answer} {e : ApiError} (h : op.decode a = .error e) :
    ∃ reason, e = .parse reason := by
  have hanswer : ∀ {γ : Type} {dec : Json.Decoder γ} {granted : γ → User × TokenPair},
      (a.decode dec).map granted = .error e → ∃ reason, e = .parse reason := by
    intro γ dec granted h
    rw [Answer.decode] at h
    split at h
    · cases h
    · cases h
      exact ⟨_, rfl⟩
  cases op with
  | login => exact hanswer h
  | register => exact hanswer h

/-- What comes of a request that is no sign-in is presented by what the backend says about it, or by
what went wrong on the way. -/
theorem fails_of_outcome {op : SignIn α} {m : σ} {y : Reply} {e : ApiError}
    (h : y.outcome.bind op.decode = .error e) : op.Fails m y (.ofApi e op.fallback) := by
  cases y with
  | error fault =>
    cases h
    rw [Fault.ofApi_error]
    exact .unanswered fault
  | ok a =>
    cases hsuccess : a.isSuccess with
    | true =>
      rw [Reply.outcome, Answer.outcome, if_pos hsuccess] at h
      obtain ⟨reason, rfl⟩ := decode_error h
      exact .undecodable hsuccess h
    | false =>
      rw [Reply.outcome, Answer.outcome, if_neg (Bool.eq_false_iff.1 hsuccess)] at h
      cases h
      rw [ApiError.ofAnswer]
      cases hbody : ErrorBody.parse a.body with
      | general message => exact .general hsuccess hbody
      | fields messages => exact .fields hsuccess hbody
      | empty => exact .unexplained hsuccess (.inl hbody)
      | text s => exact .unexplained hsuccess (.inr ⟨s, hbody⟩)

theorem granted_of_outcome {op : SignIn α} {y : Reply} {u : User} {t : TokenPair}
    (h : y.outcome.bind op.decode = .ok (u, t)) :
    ∃ a, y = .ok a ∧ a.isSuccess = true ∧ op.decode a = .ok (u, t) := by
  cases y with
  | error fault => cases h
  | ok a =>
    cases hsuccess : a.isSuccess with
    | true =>
      rw [Reply.outcome, Answer.outcome, if_pos hsuccess] at h
      exact ⟨a, rfl, hsuccess, h⟩
    | false =>
      rw [Reply.outcome, Answer.outcome, if_neg (Bool.eq_false_iff.1 hsuccess)] at h
      cases h

/-- Alone and where nobody is signed in, a sign-in returns, whatever the reply is and whether or not
credentials can be saved. If it fails, nothing is stored, here or on the medium, nobody is published,
nothing is loading and no navigation was asked for; the only call was the request itself, and the message
on the board is that of the failure, by the kind of failure that it was. -/
theorem run_anonymous (op : SignIn α) (hc : c.IsAnonymous) (hpending : c.board.pending = 0)
    (hidle : c.renewing = false) (script : Nat → Reply) :
    ∃ r d log, op.task.run (.scripted script) (c, []) = (.value r, d, log) ∧
      ∀ f, r = .error f → op.FailedFrom c log f d := by
  have horderly : (op.task : Task σ _).Orderly false := AccountOperation.orderly (.signIn op)
  obtain ⟨r, d, log, hrun, _⟩ := horderly.run_scripted hidle []
  refine ⟨r, d, log, hrun, ?_⟩
  rintro f rfl
  obtain ⟨ws, hcourse, hws, rfl⟩ := Task.run_scripted hrun
  obtain ⟨d', hends, rfl⟩ := op.ends hc.agrees hws hcourse
  have hbegun : (c.post Board.begin).IsAnonymous := ⟨hc.entries, hc.user⟩
  -- the request leaves the client as the operation found it, and only its message is added
  have hsession : ∀ (es : Entries) (m : σ),
      ((((c.post Board.begin).holding es m).failing f).post Board.finish).session =
        ⟨none, false, some f.error⟩ := by
    intro es m
    change (⟨c.session.user, decide (0 < c.board.pending + 1 - 1), some f.error⟩ : Session) = _
    rw [hc.user, hpending]
    rfl
  cases hends with
  | refused H hx =>
    obtain ⟨y, rfl, hlog, rfl⟩ := H.anonymous hws hbegun hidle
    exact ⟨hc.entries, .inl rfl, fun _ _ _ => rfl, hsession _ _, rfl, y, hlog, fails_of_outcome hx⟩
  | unsaved H hx hsave =>
    obtain ⟨y, rfl, hlog, rfl⟩ := H.anonymous hws hbegun hidle
    obtain ⟨a, rfl, hsuccess, hdec⟩ := granted_of_outcome hx
    change Medium.save (withLogin c.store.entries _ _) c.store.medium = _ at hsave
    have hsave' := hsave
    rw [hc.entries] at hsave'
    exact ⟨hc.entries, .inr ⟨_, _, hsave⟩, fun R hR hm => (hR.refused hm hsave).2, hsession _ _, rfl,
      .ok a, hlog, .unsaved hsuccess hdec hsave'⟩

/-- On a disk where a directory is in the way of the temporary file an account is created, and its
credentials cannot be stored: there is still no file. -/
theorem run_anonymous_unstored :
    let d : Disk := ⟨[(["home"], .directory), (["home", "s.tmp"], .directory)], ["home"]⟩
    let file : CredentialFile := ⟨⟨false, ["s"], false⟩, d⟩
    let c : Client CredentialFile := .connect ⟨.empty, file⟩
    let op : SignIn Registration := .register ⟨"alice", "a@b.c", "secret", "", "", .student⟩
    let script : Nat → Reply := fun _ =>
      .ok ⟨201, "\x7b\"user\":\x7b\"id\":1,\"role\":\"student\"\x7d," ++
        "\"tokens\":\x7b\"access\":\"A1\",\"refresh\":\"R1\"\x7d\x7d"⟩
    c.IsAnonymous ∧ c.board.pending = 0 ∧ c.renewing = false ∧
      ∃ r d log, op.task.run (.scripted script) (c, []) = (.value r, d, log) ∧
        (∀ f, r = .error f → op.FailedFrom c log f d) ∧
        r = .error (.unstored (.io "Is a directory (os error 21)")) ∧
        Medium.load d.store.medium = .ok .empty := by
  intro d file c op script
  have hplain : file.path.IsPlain := by simp [FilePath.IsPlain, file]
  have htree : d.IsTree := by
    intro place n h
    simp only [d, Disk.node?, Disk.lookupPlace] at h ⊢
    grind
  have hsound : file.disk.IsSound := ⟨htree, rfl⟩
  have hc : c.IsAnonymous := ⟨rfl, rfl⟩
  obtain ⟨r, d', log, hrun, hfailed⟩ := run_anonymous op hc rfl rfl script
  have hvalue : (op.task.run (.scripted script) (c, [])).1.value? =
      some (.error (.unstored (.io "Is a directory (os error 21)"))) := by decide +kernel
  rw [hrun] at hvalue
  have hr : r = .error (.unstored (.io "Is a directory (os error 21)")) := Option.some.inj hvalue
  have hload := (hfailed _ hr).persisted _ CredentialFile.reliable ⟨hplain, hsound⟩
  exact ⟨hc, rfl, rfl, r, d', log, hrun, hfailed, hr, hload.trans rfl⟩

end SignIn

end SessionKeeper
