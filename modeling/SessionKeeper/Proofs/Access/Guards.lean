import Mathlib.Data.List.Chain
import SessionKeeper.Access.Guard

/-!
# Guards let in whom they should, and redirects end

Both guards follow one rule (`Decision.byRule`): a session is let in where it meets what is asked of
it, waits elsewhere while it is loading, and is sent to where it belongs otherwise, which is the home
of its user or the login page (`Session.place`). It is let in there, so that no redirect is answered by
another one (`Decision.ofPath_safe`).
-/

namespace SessionKeeper

namespace Access

/-- What is asked for where a role is, or just any user. -/
def asking : Option Role → Access
  | some r => .role r
  | none => .authenticated

theorem ofPath_home (r : Role) : ofPath r.home = .role r := by
  cases r with
  | faculty => decide
  | student => decide

theorem ofPath_login : ofPath "/login" = .guestOnly := by decide

end Access

/-- Where the session belongs: at the home of its user, or at the login page. -/
def Session.place (s : Session) : Route :=
  match s.user with
  | some u => .home u.role
  | none => .login none

/-- The session is one that may see a page under the rule. -/
def Session.Meets (s : Session) : Access → Prop
  | .everyone => True
  | .guestOnly => s.isLoading = false ∧ s.user = none
  | .authenticated => s.isLoading = false ∧ s.user.isSome
  | .role r => s.isLoading = false ∧ s.role? = some r
  | .unknown => False

instance (s : Session) (a : Access) : Decidable (s.Meets a) :=
  match a with
  | .everyone => .isTrue trivial
  | .guestOnly | .authenticated | .role _ => inferInstanceAs (Decidable (_ ∧ _))
  | .unknown => .isFalse id

namespace Decision

variable {s : Session} {a : Access} {r : Route}

/-- The rule that all guards follow. -/
def byRule (s : Session) (a : Access) : Decision :=
  if s.Meets a then .allow else if s.isLoading then .pending else .redirect s.place

theorem evaluate_eq (s : Session) (required : Option Role) :
    evaluate s required = byRule s (.asking required) := by
  obtain ⟨user, loading, error⟩ := s
  cases loading with
  | true => cases required <;> simp [evaluate, byRule, Access.asking, Session.Meets]
  | false =>
    cases user with
    | none =>
      cases required <;>
        simp [evaluate, byRule, Access.asking, Session.Meets, Session.role?, Session.place]
    | some u =>
      cases required <;>
        simp [evaluate, byRule, Access.asking, Session.Meets, Session.role?, Session.place]

theorem ofPath_eq (s : Session) (path : String) : ofPath s path = byRule s (.ofPath path) := by
  rw [ofPath]
  cases Access.ofPath path with
  | everyone => rfl
  | guestOnly =>
    obtain ⟨user, loading, error⟩ := s
    cases loading <;> cases user <;> simp [byRule, Session.Meets, Session.place]
  | unknown =>
    obtain ⟨user, loading, error⟩ := s
    cases loading <;> cases user <;> simp [byRule, Session.Meets, Session.place]
  | authenticated => exact evaluate_eq s none
  | role r => exact evaluate_eq s (some r)

/-! ## The three answers -/

theorem byRule_eq_allow_iff : byRule s a = .allow ↔ s.Meets a := by
  rw [byRule]
  split
  next h => simp [h]
  next h => split <;> simp [h]

theorem meets_loading (h : s.isLoading = true) : s.Meets a ↔ a = .everyone := by
  cases a <;> simp [Session.Meets, h]

theorem byRule_loading (h : s.isLoading = true) (a : Access) :
    byRule s a = if a = .everyone then .allow else .pending := by
  simp only [byRule, meets_loading h, h, if_true]

theorem byRule_eq_pending_iff : byRule s a = .pending ↔ s.isLoading = true ∧ a ≠ .everyone := by
  cases hloading : s.isLoading with
  | true =>
    rw [byRule_loading hloading]
    simp
  | false =>
    rw [byRule, hloading]
    split <;> simp

theorem byRule_redirect (h : byRule s a = .redirect r) : s.isLoading = false ∧ r = s.place := by
  rw [byRule] at h
  split at h
  next => cases h
  next =>
    split at h
    next => cases h
    next hloading =>
      cases h
      exact ⟨Bool.eq_false_iff.2 hloading, rfl⟩

theorem meets_place (h : s.isLoading = false) : s.Meets (.ofPath s.place.path) := by
  rw [Session.place]
  cases hu : s.user with
  | none =>
    change s.Meets (.ofPath "/login")
    rw [Access.ofPath_login]
    exact ⟨h, hu⟩
  | some u =>
    change s.Meets (.ofPath u.role.home)
    rw [Access.ofPath_home]
    exact ⟨h, congrArg (Option.map User.role) hu⟩

/-- While the session is loading, no page redirects. -/
theorem ofPath_loading (h : s.isLoading = true) (path : String) :
    ofPath s path = if Access.ofPath path = .everyone then .allow else .pending := by
  rw [ofPath_eq, byRule_loading h]

/-! ## Redirects -/

/-- Whoever asks for the one path is sent to the other. -/
def Sends (s : Session) (path path' : String) : Prop := ∃ r, ofPath s path = .redirect r ∧ r.path = path'

theorem ofPath_of_redirect (h : byRule s a = .redirect r) : ofPath s r.path = .allow := by
  obtain ⟨hloading, rfl⟩ := byRule_redirect h
  rw [ofPath_eq]
  exact byRule_eq_allow_iff.2 (meets_place hloading)

theorem Sends.not_sends {path path' path'' : String} (H : Sends s path path') :
    ¬ Sends s path' path'' := by
  obtain ⟨r, hr, rfl⟩ := H
  rintro ⟨r', hr', _⟩
  rw [ofPath_eq] at hr
  cases hr'.symm.trans (ofPath_of_redirect hr)

/-- For every session and every path: the answer waits just while the session is loading and the page is
not open to everybody; who is let in on a page for a role has that role, and on a page for users there
is one; and whoever is sent somewhere, by either guard, is let in there, so that the redirects that
begin at a path are at most one. -/
theorem ofPath_safe (s : Session) (path : String) :
    (ofPath s path = .pending ↔ s.isLoading = true ∧ Access.ofPath path ≠ .everyone) ∧
      (ofPath s path = .allow →
        (∀ r, Access.ofPath path = .role r →
          s.isLoading = false ∧ ∃ u, s.user = some u ∧ u.role = r) ∧
        (Access.ofPath path = .authenticated → s.isLoading = false ∧ ∃ u, s.user = some u)) ∧
      (∀ r, (ofPath s path = .redirect r ∨ ∃ required, evaluate s required = .redirect r) →
        ofPath s r.path = .allow) ∧
      ∀ paths, List.IsChain (Sends s) (path :: paths) → paths.length ≤ 1 := by
  refine ⟨?_, ?_, ?_, ?_⟩
  · rw [ofPath_eq]
    exact byRule_eq_pending_iff
  · intro hallow
    rw [ofPath_eq, byRule_eq_allow_iff] at hallow
    constructor
    · intro r hr
      rw [hr] at hallow
      exact ⟨hallow.1, Option.map_eq_some_iff.1 hallow.2⟩
    · intro hauthenticated
      rw [hauthenticated] at hallow
      exact ⟨hallow.1, Option.isSome_iff_exists.1 hallow.2⟩
  · rintro r (h | ⟨required, h⟩)
    · exact ofPath_of_redirect (ofPath_eq s path ▸ h)
    · exact ofPath_of_redirect (evaluate_eq s required ▸ h)
  · intro paths hchain
    match paths, hchain with
    | [], _ => exact Nat.zero_le 1
    | [_], _ => exact Nat.le_refl 1
    | _ :: _ :: _, .cons_cons hfirst (.cons_cons hsecond _) => exact absurd hsecond hfirst.not_sends

/-- A student who asks for a page of the faculty is sent home, where nothing more happens. -/
example :
    let s : Session := .authenticated { (default : User) with role := .student }
    ofPath s "/faculty/courses" = .redirect (.home .student) ∧ ofPath s "/student" = .allow := by
  decide

end Decision

end SessionKeeper
