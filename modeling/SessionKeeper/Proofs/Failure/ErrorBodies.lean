import SessionKeeper.Client.Call
import SessionKeeper.Proofs.Json.Objects

/-!
# What an error body is taken to say

The body of a failed answer is trimmed and read. What is said by the members of an object is put down
here as a relation that mentions neither the reader nor any of the functions that pick messages
(`ErrorBody.Says`): the message of a member is its leftmost leaf (`Json.Leftmost`), messages in the
details come before a text under `error`, that before one under `detail`, and these before messages in
all the members. Each body is classified in this way, whatever blanks stand around it and in whatever
order its members come (`ErrorBody.parse_classifies`).
-/

namespace SessionKeeper

theorem Ascending.lookupKey_eq_some_iff {es : List (String × α)} (H : Ascending es) {k : String}
    {v : α} : lookupKey k es = some v ↔ (k, v) ∈ es := ⟨mem_of_lookupKey, H.lookupKey_of_mem⟩

namespace Json

/-- The value that comes first in a value, in however many arrays; an empty array has none. -/
inductive Leftmost : Json → Json → Prop where
  | leaf {v : Json} (h : ∀ items, v ≠ .array items) : Leftmost v v
  | first {x w : Json} {xs : List Json} (H : Leftmost x w) : Leftmost (.array (x :: xs)) w

/-- A text as it is, any other value in its compact form. -/
def said : Json → String
  | .text s => s
  | v => v.compact

end Json

namespace ErrorBody

open Json (Leftmost)

variable {ms : List (String × Json)} {v : Json} {k m raw : String} {f : FieldErrors}

/-! ## The messages of members -/

theorem fieldMessage?_eq_some_iff :
    fieldMessage? v = some m ↔ ∃ w, Leftmost v w ∧ w ≠ .null ∧ m = w.said := by
  fun_induction fieldMessage? v with
  | case1 s =>
    constructor
    · rintro ⟨⟩
      exact ⟨_, .leaf nofun, nofun, rfl⟩
    · rintro ⟨w, ⟨_⟩, _, rfl⟩
      rfl
  | case2 x xs ih =>
    rw [ih]
    constructor
    · rintro ⟨w, hw, hnull, rfl⟩
      exact ⟨w, .first hw, hnull, rfl⟩
    · rintro ⟨w, hw, hnull, rfl⟩
      cases hw with
      | leaf h => exact absurd rfl (h _)
      | first hw => exact ⟨w, hw, hnull, rfl⟩
  | case3 =>
    refine iff_of_false nofun ?_
    rintro ⟨w, hw, _⟩
    cases hw with
    | leaf h => exact h [] rfl
  | case4 =>
    refine iff_of_false nofun ?_
    rintro ⟨w, ⟨_⟩, hnull, _⟩
    exact hnull rfl
  | case5 v htext hcons hnil hnull =>
    have harray : ∀ items, v ≠ .array items := by
      rintro (_ | ⟨x, xs⟩) rfl
      · exact hnil rfl
      · exact hcons x xs rfl
    have hsaid : v.said = v.compact := by
      cases v with
      | text s => exact absurd rfl (htext s)
      | _ => rfl
    constructor
    · rintro ⟨⟩
      exact ⟨v, .leaf harray, hnull, hsaid.symm⟩
    · rintro ⟨w, hw, _, rfl⟩
      cases hw with
      | leaf => rw [hsaid]
      | first => exact absurd rfl (harray _)

/-- The member of that name has that message: what it says leftmost, unless this is null. -/
def Mentions (ms : List (String × Json)) (k m : String) : Prop :=
  ∃ v w, (k, v) ∈ ms ∧ Leftmost v w ∧ w ≠ .null ∧ m = w.said

/-- The messages are those of the members. -/
def Lists (ms : List (String × Json)) (f : FieldErrors) : Prop :=
  ∀ k m, f.get? k = some m ↔ Mentions ms k m

theorem lists_flatten (H : Ascending ms) : Lists ms (flatten ms) := by
  intro k m
  have hasc : Ascending (ms.filterMap fun e => (fieldMessage? e.2).map (e.1, ·)) := by
    refine List.pairwise_filterMap.2 (H.imp ?_)
    rintro e e' hlt d hd d' hd'
    obtain ⟨_, _, rfl⟩ := Option.map_eq_some_iff.1 hd
    obtain ⟨_, _, rfl⟩ := Option.map_eq_some_iff.1 hd'
    exact hlt
  rw [Dictionary.get?, flatten, Dictionary.toList_ofList_of_ascending hasc,
    hasc.lookupKey_eq_some_iff, List.mem_filterMap]
  constructor
  · rintro ⟨⟨k', v⟩, hmem, he⟩
    obtain ⟨m', hm', he⟩ := Option.map_eq_some_iff.1 he
    cases he
    obtain ⟨w, hw⟩ := fieldMessage?_eq_some_iff.1 hm'
    exact ⟨v, w, hmem, hw⟩
  · rintro ⟨v, w, hmem, hw⟩
    exact ⟨(k, v), hmem, Option.map_eq_some_iff.2 ⟨m, fieldMessage?_eq_some_iff.2 ⟨w, hw⟩, rfl⟩⟩

theorem Lists.unique {f' : FieldErrors} (h : Lists ms f) (h' : Lists ms f') : f = f' :=
  Dictionary.ext_get? fun k => Option.ext fun m => (h k m).trans (h' k m).symm

theorem Lists.isEmpty_iff (H : Lists ms f) : f.isEmpty = true ↔ ∀ k m, ¬ Mentions ms k m := by
  constructor
  · intro h k m hm
    rw [Dictionary.isEmpty_iff.1 h] at H
    cases (H k m).2 hm
  · intro h
    refine Dictionary.isEmpty_iff.2 (Dictionary.ext_get? fun k => ?_)
    cases hk : f.get? k with
    | none => rfl
    | some m => exact absurd ((H k m).1 hk) (h k m)

/-! ## The members of a body -/

/-- The details are an object with messages. -/
def Detailed (ms : List (String × Json)) : Prop :=
  ∃ ds, ("details", .object ds) ∈ ms ∧ ∃ k m, Mentions ds k m

/-- No member of that name is a text. -/
def Silent (ms : List (String × Json)) (k : String) : Prop := ∀ m, (k, .text m) ∉ ms

/-- What the members of an object say. -/
inductive Says (ms : List (String × Json)) : ErrorBody → Prop where
  | details {ds : List (String × Json)} {f : FieldErrors} (h : ("details", .object ds) ∈ ms)
    (hsome : ∃ k m, Mentions ds k m) (hf : Lists ds f) : Says ms (.fields f)
  | error {m : String} (hdetails : ¬ Detailed ms) (h : ("error", .text m) ∈ ms) : Says ms (.general m)
  | detail {m : String} (hdetails : ¬ Detailed ms) (herror : Silent ms "error")
    (h : ("detail", .text m) ∈ ms) : Says ms (.general m)
  | members {f : FieldErrors} (hdetails : ¬ Detailed ms) (herror : Silent ms "error")
    (hdetail : Silent ms "detail") (hsome : ∃ k m, Mentions ms k m) (hf : Lists ms f) :
    Says ms (.fields f)
  | nothing (hdetails : ¬ Detailed ms) (herror : Silent ms "error") (hdetail : Silent ms "detail")
    (hnone : ∀ k m, ¬ Mentions ms k m) : Says ms .empty

/-- The messages of the details, none if these are no object. -/
def detailsOf (ms : List (String × Json)) : FieldErrors :=
  match lookupKey "details" ms with
  | some (.object ds) => flatten ds
  | _ => .empty

/-- The keys ascend, here and in the objects among the members. -/
structure IsSorted (ms : List (String × Json)) : Prop where
  members : Ascending ms
  inner : ∀ k ds, (k, .object ds) ∈ ms → Ascending ds

theorem detailsOf_cases (H : IsSorted ms) :
    (detailsOf ms).isEmpty = true ∧ ¬ Detailed ms ∨
      (detailsOf ms).isEmpty = false ∧
        ∃ ds, ("details", .object ds) ∈ ms ∧ (∃ k m, Mentions ds k m) ∧ Lists ds (detailsOf ms) := by
  have hfound : ∀ {v}, ("details", v) ∈ ms → lookupKey "details" ms = some v :=
    fun h => H.members.lookupKey_of_mem h
  by_cases hobject : ∃ ds, ("details", .object ds) ∈ ms
  · obtain ⟨ds, hds⟩ := hobject
    have heq : detailsOf ms = flatten ds := by rw [detailsOf, hfound hds]
    have hlists : Lists ds (detailsOf ms) := heq ▸ lists_flatten (H.inner _ ds hds)
    cases hempty : (detailsOf ms).isEmpty with
    | true =>
      refine .inl ⟨rfl, ?_⟩
      rintro ⟨ds', hds', k, m, hm⟩
      cases (hfound hds).symm.trans (hfound hds')
      exact hlists.isEmpty_iff.1 hempty k m hm
    | false =>
      refine .inr ⟨rfl, ds, hds, ?_, hlists⟩
      by_contra hnone
      have hnone : ∀ k m, ¬ Mentions ds k m := fun k m hm => hnone ⟨k, m, hm⟩
      rw [hlists.isEmpty_iff.2 hnone] at hempty
      cases hempty
  · refine .inl ⟨?_, fun ⟨ds, hds, _⟩ => hobject ⟨ds, hds⟩⟩
    rw [detailsOf]
    split
    next ds h => exact absurd ⟨ds, mem_of_lookupKey h⟩ hobject
    next => rfl

theorem silent_of_lookupKey (H : Ascending ms) (h : ∀ m, lookupKey k ms ≠ some (.text m)) :
    Silent ms k := fun m hm => h m (H.lookupKey_of_mem hm)

theorem says_ofMembers (H : IsSorted ms) : Says ms (ofMembers ms) := by
  have hlists := lists_flatten H.members
  change Says ms (if !(detailsOf ms).isEmpty then .fields (detailsOf ms) else _)
  obtain ⟨hempty, hdetails⟩ | ⟨hempty, ds, hds, hsome, hf⟩ := detailsOf_cases H
  · rw [hempty]
    simp only [Bool.not_true, Bool.false_eq_true, if_false]
    split
    next m herror => exact .error hdetails (mem_of_lookupKey herror)
    next m hdetail hnot =>
      exact .detail hdetails (silent_of_lookupKey H.members hnot) (mem_of_lookupKey hdetail)
    next hnot hnot' =>
      have herror := silent_of_lookupKey H.members hnot
      have hdetail := silent_of_lookupKey H.members hnot'
      split
      next hnone => exact .nothing hdetails herror hdetail (hlists.isEmpty_iff.1 hnone)
      next hsome =>
        refine .members hdetails herror hdetail ?_ hlists
        by_contra hnone
        exact hsome (hlists.isEmpty_iff.2 fun k m hm => hnone ⟨k, m, hm⟩)
  · rw [hempty]
    exact .details hds hsome hf

theorem Says.unique (H : IsSorted ms) {b b' : ErrorBody} (h : Says ms b) (h' : Says ms b') :
    b = b' := by
  have H' : ∀ {k v v'}, (k, v) ∈ ms → (k, v') ∈ ms → v = v' := fun hv hv' =>
    Option.some.inj ((H.members.lookupKey_of_mem hv).symm.trans (H.members.lookupKey_of_mem hv'))
  cases h with
  | details h hsome hf =>
    cases h' with
    | details h' _ hf' =>
      cases H' h h'
      rw [hf.unique hf']
    | _ => exact absurd ⟨_, h, hsome⟩ ‹¬ Detailed ms›
  | error hdetails h =>
    cases h' with
    | details h' hsome => exact absurd ⟨_, h', hsome⟩ hdetails
    | error _ h' => cases H' h h'; rfl
    | _ => exact absurd h (‹Silent ms "error"› _)
  | detail hdetails herror h =>
    cases h' with
    | details h' hsome => exact absurd ⟨_, h', hsome⟩ hdetails
    | error _ h' => exact absurd h' (herror _)
    | detail _ _ h' => cases H' h h'; rfl
    | _ => exact absurd h (‹Silent ms "detail"› _)
  | members hdetails herror hdetail hsome hf =>
    cases h' with
    | details h' hsome => exact absurd ⟨_, h', hsome⟩ hdetails
    | error _ h' => exact absurd h' (herror _)
    | detail _ _ h' => exact absurd h' (hdetail _)
    | members _ _ _ _ hf' => rw [hf.unique hf']
    | nothing _ _ _ hnone =>
      obtain ⟨k, m, hm⟩ := hsome
      exact absurd hm (hnone k m)
  | nothing hdetails herror hdetail hnone =>
    cases h' with
    | details h' hsome => exact absurd ⟨_, h', hsome⟩ hdetails
    | error _ h' => exact absurd h' (herror _)
    | detail _ _ h' => exact absurd h' (hdetail _)
    | members _ _ _ hsome =>
      obtain ⟨k, m, hm⟩ := hsome
      exact absurd hm (hnone k m)
    | nothing => rfl

/-- The members of an object say one thing, and it is what the body is taken to say. -/
theorem says_iff (H : IsSorted ms) {b : ErrorBody} : Says ms b ↔ ofMembers ms = b := by
  constructor
  · exact (says_ofMembers H).unique H
  · rintro rfl
    exact says_ofMembers H

/-- What is said by members is no empty list of messages. -/
theorem Says.ne_empty (H : Says ms (.fields f)) : f.isEmpty = false := by
  cases H with
  | details _ hsome hf | members _ _ _ hsome hf =>
    obtain ⟨k, m, hm⟩ := hsome
    exact Bool.eq_false_iff.2 fun h => hf.isEmpty_iff.1 h k m hm

theorem isSorted_of_read? {s : String} (h : Json.read? s = some (.object ms)) : IsSorted ms := by
  obtain ⟨t, _, h⟩ := Option.bind_eq_some_iff.1 h
  obtain ⟨_, h⟩ := Option.ite_none_right_eq_some.1 h
  refine ⟨Json.Tree.ascending_of_evaluate? h, fun k ds hds => ?_⟩
  obtain ⟨t', ht'⟩ := Json.Tree.exists_evaluate?_of_mem h hds
  exact Json.Tree.ascending_of_evaluate? ht'

/-! ## Bodies -/

/-- The beginning of a text, as much as is passed on of a body: all of it, if it is short. -/
structure Excerpt (s t : String) : Prop where
  ne_empty : t ≠ ""
  isBeginning : t.toList <+: s.toList
  length_le : t.length ≤ 200
  whole : s.length ≤ 200 → t = s

theorem parse_congr {raw' : String} (h : Text.trim raw = Text.trim raw') : parse raw = parse raw' := by
  rw [parse, parse, h]

theorem trim_append (raw : String) {xs ys : String} (hx : ∀ c ∈ xs.toList, Text.isBlank c)
    (hy : ∀ c ∈ ys.toList, Text.isBlank c) : Text.trim (xs ++ raw ++ ys) = Text.trim raw := by
  rw [Text.trim, String.toList_append, String.toList_append, List.append_assoc,
    Text.trimChars_surround hx hy, Text.trim]

theorem excerpt_sanitize {s : String} (h : Text.trim raw = s) (hs : s ≠ "") :
    Excerpt s (sanitize s) := by
  have htrim : Text.trimChars s.toList = s.toList := by
    rw [← h, Text.trim, String.toList_ofList, Text.trimChars_trimChars]
  have hchars : s.toList ≠ [] := fun hnil => hs (String.toList_eq_nil_iff.1 hnil)
  have heq : sanitize s = String.ofList (s.toList.take 200) := by
    rw [sanitize, htrim]
    split
    next hnil => exact absurd hnil hchars
    next => rfl
  have htaken : (s.toList.take 200).length ≤ 200 := List.length_take_le 200 _
  refine ⟨?_, ?_, ?_, ?_⟩
  · rw [heq]
    intro hempty
    have hnil : s.toList.take 200 = [] := by simpa using congrArg String.toList hempty
    exact hchars ((List.take_eq_nil_iff.1 hnil).resolve_left (by decide))
  · rw [heq, String.toList_ofList]
    exact ⟨_, List.take_append_drop 200 s.toList⟩
  · rwa [heq, String.length_ofList]
  · intro hshort
    rw [heq, List.take_of_length_le (String.length_toList ▸ hshort), String.ofList_toList]

/-- A body says nothing, or it is an object and says what its members do, or it is passed on as text. -/
theorem parse_cases (raw : String) :
    (Text.trim raw = "" ∧ parse raw = .empty) ∨
      (∃ ms, Json.read? (Text.trim raw) = some (.object ms) ∧ parse raw = ofMembers ms) ∨
      (∀ ms, Json.read? (Text.trim raw) ≠ some (.object ms)) ∧ Text.trim raw ≠ "" ∧
        parse raw = .text (sanitize (Text.trim raw)) := by
  rw [parse]
  by_cases hempty : Text.trim raw = ""
  · rw [if_pos (String.isEmpty_iff.2 hempty)]
    exact .inl ⟨hempty, rfl⟩
  · rw [if_neg fun h => hempty (String.isEmpty_iff.1 h)]
    split
    next ms hread => exact .inr (.inl ⟨ms, hread, rfl⟩)
    next hnot => exact .inr (.inr ⟨hnot, hempty, rfl⟩)

theorem parse_eq_of_object (h : Json.read? (Text.trim raw) = some (.object ms)) :
    parse raw = ofMembers ms := by
  obtain ⟨hempty, _⟩ | ⟨ms', h', heq⟩ | ⟨hnot, _⟩ := parse_cases raw
  · rw [hempty] at h
    cases (show Json.read? "" = none by rfl).symm.trans h
  · cases h.symm.trans h'
    exact heq
  · exact absurd h (hnot ms)

theorem parse_eq_of_fields (h : parse raw = .fields f) :
    ∃ ms, Json.read? (Text.trim raw) = some (.object ms) ∧ Says ms (.fields f) := by
  obtain ⟨_, heq⟩ | ⟨ms, hread, heq⟩ | ⟨_, _, heq⟩ := parse_cases raw
  · cases h.symm.trans heq
  · exact ⟨ms, hread, h ▸ heq ▸ says_ofMembers (isSorted_of_read? hread)⟩
  · cases h.symm.trans heq

/-- A failed answer as it is presented, by what its body says. -/
def presented (fallback : String) : ErrorBody → AuthFailure
  | .general m => .ofMessage m
  | .fields f => ⟨AuthFailure.fieldsMessage, f⟩
  | .empty | .text _ => .ofMessage fallback

theorem isEmpty_of_parse (h : parse raw = .fields f) : f.isEmpty = false :=
  let ⟨_, _, hsays⟩ := parse_eq_of_fields h
  hsays.ne_empty

/-- The members of an object that names none of them twice may come in any order. -/
theorem parse_perm {raw' : String} {ts ts' : List (Option String × Json.Tree)}
    (hs : Json.Tree.read? (Text.trim raw) = some (.object ts))
    (hs' : Json.Tree.read? (Text.trim raw') = some (.object ts')) (hperm : ts.Perm ts')
    (hnodup : (ts.map Prod.fst).Nodup) (hsome : (Json.read? (Text.trim raw)).isSome) :
    parse raw' = parse raw := by
  obtain ⟨v, hv⟩ := Option.isSome_iff_exists.1 hsome
  obtain ⟨t, ht, hvalue⟩ := Option.bind_eq_some_iff.1 hv
  cases hs.symm.trans ht
  have hobject := (Option.ite_none_right_eq_some.1 hvalue).2
  rw [Json.Tree.evaluate?_object] at hobject
  obtain ⟨es, _, rfl⟩ := Option.map_eq_some_iff.1 hobject
  have hv' := (Json.read?_perm hs hs' hperm hnodup hsome).trans hv
  rw [parse_eq_of_object hv, parse_eq_of_object hv']

theorem ofApi_ofAnswer (status : Nat) (fallback : String) :
    AuthFailure.ofApi (.ofAnswer status raw) fallback = presented fallback (parse raw) := by
  rw [ApiError.ofAnswer]
  cases parse raw <;> rfl

theorem hasFields_presented (fallback : String) :
    (presented fallback (parse raw)).hasFields = true ↔ ∃ f, parse raw = .fields f := by
  cases hparse : parse raw with
  | fields f =>
    refine iff_of_true ?_ ⟨f, rfl⟩
    rw [AuthFailure.hasFields, presented, isEmpty_of_parse hparse]
    rfl
  | _ => exact iff_of_false nofun nofun

/-- Blanks around a body do not matter, nor does the order of the members of an object that names none
of them twice. A body that is no object says nothing or is passed on as text, in short; messages by
field are never none at all; and an object says what its members say. The failure of an answer with
that body is presented accordingly, and has messages for fields exactly if the body has. -/
theorem parse_classifies (raw : String) :
    (∀ xs ys : String, (∀ c ∈ xs.toList, Text.isBlank c) → (∀ c ∈ ys.toList, Text.isBlank c) →
      parse (xs ++ raw ++ ys) = parse raw) ∧
    (∀ raw' ts ts', Json.Tree.read? (Text.trim raw) = some (.object ts) →
      Json.Tree.read? (Text.trim raw') = some (.object ts') → ts.Perm ts' →
      (ts.map Prod.fst).Nodup → (Json.read? (Text.trim raw)).isSome → parse raw' = parse raw) ∧
    ((∀ ms, Json.read? (Text.trim raw) ≠ some (.object ms)) →
      Text.trim raw = "" ∧ parse raw = .empty ∨
        ∃ t, parse raw = .text t ∧ Excerpt (Text.trim raw) t) ∧
    (∀ f, parse raw = .fields f → f.isEmpty = false) ∧
    (∀ ms, Json.read? (Text.trim raw) = some (.object ms) → ∀ b, Says ms b ↔ parse raw = b) ∧
    ∀ status fallback, (⟨status, raw⟩ : Answer).isSuccess = false →
      ∃ e, (⟨status, raw⟩ : Answer).outcome = .error e ∧
        AuthFailure.ofApi e fallback = presented fallback (parse raw) ∧
        ((AuthFailure.ofApi e fallback).hasFields = true ↔ ∃ f, parse raw = .fields f) := by
  refine ⟨fun xs ys hx hy => parse_congr (trim_append raw hx hy),
    fun raw' ts ts' hs hs' hperm hnodup => parse_perm hs hs' hperm hnodup, ?noObject,
    fun f => isEmpty_of_parse, fun ms h b => parse_eq_of_object h ▸ says_iff (isSorted_of_read? h),
    ?presented⟩
  case noObject =>
    intro hnot
    obtain ⟨hempty, heq⟩ | ⟨ms, hread, _⟩ | ⟨_, hne, heq⟩ := parse_cases raw
    · exact .inl ⟨hempty, heq⟩
    · exact absurd hread (hnot ms)
    · exact .inr ⟨_, heq, excerpt_sanitize rfl hne⟩
  case presented =>
    intro status fallback hstatus
    refine ⟨.ofAnswer status raw, if_neg (Bool.eq_false_iff.1 hstatus), ofApi_ofAnswer .., ?_⟩
    rw [ofApi_ofAnswer]
    exact hasFields_presented fallback

example :
    parse "\x7b\"error\": \"No.\", \"details\": \x7b\"email\": [[\"Taken.\"], 1], \"age\": []\x7d\x7d" =
      .fields (.ofList [("email", "Taken.")]) := by decide +kernel

end ErrorBody

end SessionKeeper
