import SessionKeeper.Proofs.Client.Operations
import SessionKeeper.Proofs.Dictionary

/-!
# Tokens renamed

Credentials, answers and calls in which every token is replaced by another one (`ρ`), and nothing else
is. What a store keeps beside the tokens, and whether it is complete, does not depend on them; whether it
holds a given token does not either, as long as different tokens are replaced by different ones.
-/

namespace SessionKeeper

variable {α β : Type} {ρ : String → String}

/-! ## Credentials -/

namespace Dictionary

/-- The dictionary with each value replaced, by a function of its key. -/
def mapKeyed (f : String → α → β) (d : Dictionary α) : Dictionary β where
  toList := d.toList.map fun e => (e.1, f e.1 e.2)
  ascending := by
    rw [Ascending, List.pairwise_map]
    exact d.ascending

theorem get?_mapKeyed (f : String → α → β) (d : Dictionary α) (k : String) :
    (d.mapKeyed f).get? k = (d.get? k).map (f k) := by
  obtain ⟨es, h⟩ := d
  simp only [get?, mapKeyed]
  clear h
  induction es with
  | nil => rfl
  | cons e es ih =>
    obtain ⟨k', v⟩ := e
    by_cases h : k = k'
    · subst h
      simp [lookupKey]
    · simpa [lookupKey, h] using ih

end Dictionary

/-- The pair with the tokens renamed. -/
def TokenPair.renamed (ρ : String → String) (t : TokenPair) : TokenPair := ⟨ρ t.access, ρ t.refresh⟩

namespace Store

/-- A stored value, renamed if it is a token. -/
def renameAt (ρ : String → String) (k : String) : String → String :=
  if k = accessKey ∨ k = refreshKey then ρ else id

/-- The entries with the tokens renamed. -/
def renamed (ρ : String → String) (es : Entries) : Entries := es.mapKeyed (renameAt ρ)

theorem get?_renamed (es : Entries) (k : String) :
    (renamed ρ es).get? k = (es.get? k).map (renameAt ρ k) := Dictionary.get?_mapKeyed _ _ _

theorem get?_user_renamed (es : Entries) : (renamed ρ es).get? userKey = es.get? userKey :=
  (get?_renamed es userKey).trans Option.map_id_apply

theorem get?_access_renamed (es : Entries) :
    (renamed ρ es).get? accessKey = (es.get? accessKey).map ρ := get?_renamed es accessKey

theorem get?_refresh_renamed (es : Entries) :
    (renamed ρ es).get? refreshKey = (es.get? refreshKey).map ρ := get?_renamed es refreshKey

theorem contains_renamed (es : Entries) (k : String) :
    (renamed ρ es).contains k = es.contains k := by
  rw [Dictionary.contains, get?_renamed, Option.isSome_map, Dictionary.contains]

theorem isComplete_renamed (es : Entries) : isComplete (renamed ρ es) = isComplete es := by
  simp only [isComplete, get?_user_renamed, contains_renamed, keys, List.all_cons, List.all_nil]

theorem isEmpty_renamed (es : Entries) : (renamed ρ es).isEmpty = es.isEmpty := List.isEmpty_map

theorem renamed_empty : renamed ρ .empty = .empty := rfl

theorem renamed_insert (es : Entries) (k v : String) :
    renamed ρ (es.insert k v) = (renamed ρ es).insert k (renameAt ρ k v) := by
  refine Dictionary.ext_get? fun k' => ?_
  rw [get?_renamed, Dictionary.get?_insert, Dictionary.get?_insert, get?_renamed]
  by_cases h : k' = k
  · subst h
    rw [if_pos rfl, if_pos rfl, Option.map_some]
  · rw [if_neg h, if_neg h]

theorem renamed_filterKeys (es : Entries) (p : String → Bool) :
    renamed ρ (es.filterKeys p) = (renamed ρ es).filterKeys p := by
  refine Dictionary.ext_get? fun k => ?_
  rw [get?_renamed, Dictionary.get?_filterKeys, Dictionary.get?_filterKeys, get?_renamed]
  split <;> rfl

theorem renamed_withLogin (es : Entries) (u : User) (t : TokenPair) :
    renamed ρ (withLogin es u t) = withLogin (renamed ρ es) u (t.renamed ρ) := by
  simp only [withLogin, renamed_insert]
  rfl

theorem renamed_withTokens (es : Entries) (access : String) (rotated : Option String) :
    renamed ρ (withTokens es access rotated) =
      withTokens (renamed ρ es) (ρ access) (rotated.map ρ) := by
  cases rotated <;> simp only [withTokens, renamed_insert, Option.map_none, Option.map_some] <;> rfl

theorem renamed_withUser (es : Entries) (u : User) :
    renamed ρ (es.insert userKey u.text) = (renamed ρ es).insert userKey u.text :=
  renamed_insert es userKey u.text

theorem holdsRefresh_renamed (hρ : ρ.Injective) (es : Entries) (token : String) :
    holdsRefresh (renamed ρ es) (ρ token) = holdsRefresh es token := by
  rw [holdsRefresh, get?_refresh_renamed, holdsRefresh]
  cases es.get? refreshKey with
  | none => rfl
  | some t =>
    rw [Option.map_some, Bool.eq_iff_iff]
    simp [hρ.eq_iff]

end Store

/-! ## Answers -/

/-- The endpoints that issue tokens, or to which one is sent in a body. -/
def Endpoint.tokenBearing : List String := [login, registration, Renewal.endpoint, logout]

/-- What a successful answer issues tokens with. -/
inductive Issue where
  | login (a : LoginAnswer)
  | registration (a : RegisterAnswer)
  | renewal (a : RefreshAnswer)
deriving DecidableEq

/-- The issue with the tokens renamed. -/
def Issue.renamed (ρ : String → String) : Issue → Issue
  | .login a => .login { a with tokens := a.tokens.renamed ρ }
  | .registration a => .registration { a with tokens := a.tokens.renamed ρ }
  | .renewal a => .renewal ⟨ρ a.access, a.refresh.map ρ⟩

namespace Answer

/-- The tokens that the answer to a call of that path issues, if it is a success and decodes. -/
def issue? (path : String) (a : Answer) : Option Issue :=
  if !a.isSuccess then none
  else if path = Endpoint.login then (a.decode LoginAnswer.decoder).toOption.map .login
  else if path = Endpoint.registration then
    (a.decode RegisterAnswer.decoder).toOption.map .registration
  else if path = Renewal.endpoint then (a.decode RefreshAnswer.decoder).toOption.map .renewal
  else none

/-- The second answer issues the tokens of the first, renamed; it is the same if that issues none. -/
structure Renames (ρ : String → String) (path : String) (a a' : Answer) : Prop where
  status : a'.status = a.status
  issue : a'.issue? path = (a.issue? path).map (Issue.renamed ρ)
  same : a.issue? path = none → a' = a

instance (path : String) (a a' : Answer) : Decidable (a.Renames ρ path a') :=
  decidable_of_iff (a'.status = a.status ∧ a'.issue? path = (a.issue? path).map (Issue.renamed ρ) ∧
    (a.issue? path = none → a' = a)) ⟨fun h => ⟨h.1, h.2.1, h.2.2⟩, fun h => ⟨h.1, h.2, h.3⟩⟩

namespace Renames

variable {path : String} {a a' : Answer}

theorem isSuccess_eq (H : a.Renames ρ path a') : a'.isSuccess = a.isSuccess := by
  rw [isSuccess, H.status, isSuccess]

theorem eq_of_failure (H : a.Renames ρ path a') (h : a.isSuccess = false) : a' = a := by
  refine H.same ?_
  rw [issue?, h]
  rfl

/-- Elsewhere no tokens are issued. -/
theorem eq_of_path (H : a.Renames ρ path a') (h : path ∉ Endpoint.tokenBearing) : a' = a := by
  simp only [Endpoint.tokenBearing, List.mem_cons, List.not_mem_nil, or_false, not_or] at h
  refine H.same ?_
  rw [issue?, if_neg h.1, if_neg h.2.1, if_neg h.2.2.1]
  split <;> rfl

/-- Where that record is what issues tokens, it decodes to the renamed one. -/
theorem decode_eq {dec : Json.Decoder α} {of : α → Issue} {f : α → α} (hof : of.Injective)
    (hf : ∀ v, (of v).renamed ρ = of (f v))
    (hissue : ∀ b : Answer, b.isSuccess = true → b.issue? path = (b.decode dec).toOption.map of)
    (H : a.Renames ρ path a') (h : a.isSuccess = true) : a'.decode dec = (a.decode dec).map f := by
  have hrenamed := H.issue
  rw [hissue a h, hissue a' (H.isSuccess_eq.trans h)] at hrenamed
  cases hdec : a.decode dec with
  | error e =>
    have hsame : a' = a := H.same (by rw [hissue a h, hdec]; rfl)
    rw [hsame, hdec]
    rfl
  | ok v =>
    rw [hdec] at hrenamed
    change _ = some ((of v).renamed ρ) at hrenamed
    rw [hf] at hrenamed
    obtain ⟨w, hw, hv⟩ := Option.map_eq_some_iff.1 hrenamed
    cases hdec' : a'.decode dec with
    | error e => rw [hdec'] at hw; cases hw
    | ok w' =>
      rw [hdec'] at hw
      cases hw
      rw [hof hv]
      rfl

theorem decode_login (H : a.Renames ρ Endpoint.login a') (h : a.isSuccess = true) :
    a'.decode LoginAnswer.decoder =
      (a.decode LoginAnswer.decoder).map fun v => { v with tokens := v.tokens.renamed ρ } :=
  H.decode_eq (fun _ _ => Issue.login.inj) (fun _ => rfl) (fun b hb => by rw [issue?, hb]; rfl) h

theorem decode_registration (H : a.Renames ρ Endpoint.registration a') (h : a.isSuccess = true) :
    a'.decode RegisterAnswer.decoder =
      (a.decode RegisterAnswer.decoder).map fun v => { v with tokens := v.tokens.renamed ρ } :=
  H.decode_eq (fun _ _ => Issue.registration.inj) (fun _ => rfl)
    (fun b hb => by rw [issue?, hb]; rfl) h

theorem decode_renewal (H : a.Renames ρ Renewal.endpoint a') (h : a.isSuccess = true) :
    a'.decode RefreshAnswer.decoder =
      (a.decode RefreshAnswer.decoder).map fun v => ⟨ρ v.access, v.refresh.map ρ⟩ :=
  H.decode_eq (fun _ _ => Issue.renewal.inj) (fun _ => rfl) (fun b hb => by rw [issue?, hb]; rfl) h

end Renames

end Answer

/-- The same fault, or an answer with the tokens renamed. -/
inductive Reply.Renames (ρ : String → String) (path : String) : Reply → Reply → Prop where
  | ok {a a' : Answer} (h : a.Renames ρ path a') : Renames ρ path (.ok a) (.ok a')
  | error (f : Fault) : Renames ρ path (.error f) (.error f)

instance (path : String) : (r r' : Reply) → Decidable (r.Renames ρ path r')
  | .ok a, .ok a' => decidable_of_iff (a.Renames ρ path a') ⟨.ok, fun | .ok h => h⟩
  | .error f, .error f' => decidable_of_iff (f = f') ⟨fun h => h ▸ .error f, fun | .error _ => rfl⟩
  | .ok _, .error _ | .error _, .ok _ => isFalse nofun

/-! ## Calls -/

/-- The member of a body in which a token is sent to that path. -/
def tokenMember? (path : String) : Option String :=
  if path = Renewal.endpoint then some "refresh"
  else if path = Endpoint.logout then some "refresh_token"
  else none

theorem tokenMember?_eq_none {path : String} (h : path ∉ Endpoint.tokenBearing) :
    tokenMember? path = none := by
  simp only [Endpoint.tokenBearing, List.mem_cons, List.not_mem_nil, or_false, not_or] at h
  rw [tokenMember?, if_neg h.2.2.1, if_neg h.2.2.2]

/-- The object with the text of a member renamed. -/
def Json.renameMember (ρ : String → String) (k : String) : Json → Json
  | .object ms => .object (ms.map fun
    | (k', .text s) => (k', .text (if k' = k then ρ s else s))
    | m => m)
  | v => v

/-- The body of a request to that path with the token in it renamed. -/
def renameBody (ρ : String → String) (path : String) (v : Json) : Json :=
  match tokenMember? path with
  | some k => v.renameMember ρ k
  | none => v

/-- The request with the token in its body renamed. -/
def Request.renamed (ρ : String → String) (r : Request) : Request :=
  { r with body := r.body.map (renameBody ρ r.path) }

/-- The call with its tokens renamed: the one that it carries, and the one in its body. -/
def Call.renamed (ρ : String → String) (c : Call) : Call :=
  { c with bearer := c.bearer.map ρ, body := c.body.map (renameBody ρ c.path) }

theorem Request.call_renamed (r : Request) (bearer : Option String) :
    (r.call bearer).renamed ρ = (r.renamed ρ).call (bearer.map ρ) := rfl

theorem Request.renamed_eq {r : Request} (h : tokenMember? r.path = none) : r.renamed ρ = r := by
  have hid : renameBody ρ r.path = id := funext fun v => by rw [renameBody, h]; rfl
  rw [Request.renamed, hid, Option.map_id_fun]
  rfl

theorem logout_renamed (token : Option String) :
    ((Request.post Endpoint.logout).sending (LogoutRequest.mk token)).renamed ρ =
      (Request.post Endpoint.logout).sending (LogoutRequest.mk (token.map ρ)) := by
  cases token <;> rfl

/-- A renamed call goes out if the call does, to the same address, as long as a header can carry both
tokens. -/
theorem Call.wire_renamed (c : Call) (base : String)
    (hlegal : ∀ t ∈ c.bearer, t.toList.all isHeaderChar = true)
    (hlegal' : ∀ t ∈ c.bearer, (ρ t).toList.all isHeaderChar = true) :
    (c.renamed ρ).wire base = (c.wire base).map fun w =>
      { w with bearer := (c.renamed ρ).bearer, body := (c.renamed ρ).body.map Json.compact } := by
  have hbearer : (c.bearer.getD "").toList.all isHeaderChar = true := by
    cases hc : c.bearer with
    | none => rfl
    | some t => exact hlegal t hc
  have hbearer' : ((c.renamed ρ).bearer.getD "").toList.all isHeaderChar = true := by
    cases hc : c.bearer with
    | none => rw [Call.renamed, hc]; rfl
    | some t => rw [Call.renamed, hc]; exact hlegal' t hc
  have hpath : (c.renamed ρ).path = c.path := rfl
  have hmethod : (c.renamed ρ).method = c.method := rfl
  simp only [Call.wire, hbearer, hbearer', hpath, hmethod]
  generalize Url.parse (joinUrl base c.path) = url
  cases url with
  | error e => rfl
  | ok url =>
    by_cases hhost : url.hasHost = true
    · by_cases hweb : url.scheme ≠ "http" ∧ url.scheme ≠ "https"
      · simp [hhost, hweb, Except.map]
      · simp [hhost, hweb, Except.map]
    · simp [hhost, Except.map]

end SessionKeeper
