import SessionKeeper.Credentials.Medium
import SessionKeeper.Exchange.Answer

/-! # The credential store

The user and the two tokens, in memory and on a medium. The three entries come and go together: a store
holds all of them, the user in a form that decodes, or none (`Store.isConsistent`). A change is worked
out on a copy, saved, and adopted only once it is saved; clearing alone takes effect in memory even if
it cannot be saved. Changes that follow from an older state of the store (renewed tokens, a rejected
refresh token) name the refresh token they started from and do nothing if another one is stored by
then. -/

namespace SessionKeeper

namespace Store

/-- The key of the user. -/
def userKey : String := "user"

/-- The key of the access token. -/
def accessKey : String := "accessToken"

/-- The key of the refresh token. -/
def refreshKey : String := "refreshToken"

/-- The keys of a store. -/
def keys : List String := [userKey, accessKey, refreshKey]

/-- All three entries are there and the user decodes. -/
def isComplete (es : Entries) : Bool :=
  keys.all es.contains && ((es.get? userKey).bind User.ofText?).isSome

/-- That refresh token is stored. -/
def holdsRefresh (es : Entries) (token : String) : Bool := es.get? refreshKey == some token

/-- The entries of a fresh login. -/
def withLogin (es : Entries) (u : User) (t : TokenPair) : Entries :=
  ((es.insert userKey u.text).insert accessKey t.access).insert refreshKey t.refresh

/-- The entries with a new access token and, if it was changed, a new refresh token. -/
def withTokens (es : Entries) (access : String) (rotated : Option String) : Entries :=
  let es := es.insert accessKey access
  match rotated with
  | some r => es.insert refreshKey r
  | none => es

end Store

/-- The entries in memory and the medium that keeps them. -/
structure Store (σ : Type) where
  entries : Entries
  medium : σ

namespace Store

variable [Medium σ]

/-- Opens the store on a medium: other keys are left aside, and entries that are not complete are
cleared, on the medium too. -/
def openOn (m : σ) : Except StoreError (Store σ) × σ :=
  match Medium.load m with
  | .error e => (.error e, m)
  | .ok loaded =>
    let es := loaded.filterKeys keys.contains
    if es.isEmpty || isComplete es then (.ok ⟨es, m⟩, m)
    else match Medium.save Dictionary.empty m with
      | (.ok (), m) => (.ok ⟨.empty, m⟩, m)
      | (.error e, m) => (.error e, m)

/-- The stored access token. -/
def accessToken (s : Store σ) : Option String := s.entries.get? accessKey

/-- The stored refresh token. -/
def refreshToken (s : Store σ) : Option String := s.entries.get? refreshKey

/-- The stored user. -/
def user (s : Store σ) : Option User := (s.entries.get? userKey).bind User.ofText?

/-- Nothing is stored. -/
def isEmpty (s : Store σ) : Bool := s.entries.isEmpty

/-- All entries are there, or none. -/
def isConsistent (s : Store σ) : Bool := s.entries.isEmpty || isComplete s.entries

/-- Saves the changed entries, if there is a change, and adopts them if the save succeeds. The answer
is whether there was a change. -/
def mutate (s : Store σ) (change : Entries → Option Entries) : Except StoreError Bool × Store σ :=
  match change s.entries with
  | none => (.ok false, s)
  | some es =>
    match Medium.save es s.medium with
    | (.ok (), m) => (.ok true, ⟨es, m⟩)
    | (.error e, m) => (.error e, { s with medium := m })

/-- Stores a fresh login. -/
def saveLogin (s : Store σ) (u : User) (t : TokenPair) : Except StoreError Unit × Store σ :=
  let (r, s) := s.mutate fun es => some (withLogin es u t)
  (r.map fun _ => (), s)

/-- Stores renewed tokens, unless another refresh token than `sent` is stored. -/
def updateTokens (s : Store σ) (sent access : String) (rotated : Option String) :
    Except StoreError Bool × Store σ :=
  s.mutate fun es =>
    if isComplete es && holdsRefresh es sent then some (withTokens es access rotated) else none

/-- Clears the store, unless another refresh token than `rejected` is stored. -/
def clearIfRefresh (s : Store σ) (rejected : String) : Except StoreError Bool × Store σ :=
  s.mutate fun es => if holdsRefresh es rejected then some .empty else none

/-- Stores the user, unless nobody is signed in. -/
def updateUser (s : Store σ) (u : User) : Except StoreError Bool × Store σ :=
  s.mutate fun es => if isComplete es then some (es.insert userKey u.text) else none

/-- Clears the store; in memory even if the medium cannot be saved. -/
def clear (s : Store σ) : Except StoreError Unit × Store σ :=
  let (r, m) := Medium.save Dictionary.empty s.medium
  (r, ⟨.empty, m⟩)

end Store

end SessionKeeper
