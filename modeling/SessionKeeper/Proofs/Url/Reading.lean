import Mathlib.Data.List.TakeWhile
import SessionKeeper.Url.Basic

/-!
# Reading a longer text

What the reader of a web address makes of a text when more is appended to it. A path after the end of
an address is a path after its path, but for the slashes between them (`parse_append`); whatever comes
after the start of a query or a fragment changes these only (`parse_append_mark`).
-/

namespace SessionKeeper.Url

/-! ## Texts that end where another begins -/

section
variable {p : Char → Bool} {ys : List Char}

theorem takeWhile_append_of_head (h : ∀ c ∈ ys.head?, p c = false) (xs : List Char) :
    (xs ++ ys).takeWhile p = xs.takeWhile p := by
  induction xs with
  | nil =>
    cases ys with
    | nil => rfl
    | cons y ys => simp [h y rfl]
  | cons x xs ih => rw [List.cons_append, List.takeWhile_cons, List.takeWhile_cons, ih]

theorem dropWhile_append_of_head (h : ∀ c ∈ ys.head?, p c = false) (xs : List Char) :
    (xs ++ ys).dropWhile p = xs.dropWhile p ++ ys := by
  induction xs with
  | nil =>
    cases ys with
    | nil => rfl
    | cons y ys => simp [h y rfl]
  | cons x xs ih =>
    rw [List.cons_append, List.dropWhile_cons, List.dropWhile_cons, ih]
    split <;> rfl

end

/-! ## The characters that count -/

/-- A character that does not count at the edge of a text. -/
def isEdge (c : Char) : Bool := c.toNat ≤ 0x20

/-- A character that counts inside a text. -/
def isInner (c : Char) : Bool := c ≠ '\t' && c ≠ '\n' && c ≠ '\r'

theorem relevant_eq (s : String) :
    relevant s = (Text.dropTrailing isEdge (s.toList.dropWhile isEdge)).filter isInner := rfl

theorem isInner_of_not_isEdge (h : isEdge c = false) : isInner c = true := by
  have hne : ∀ d, isEdge d = true → c ≠ d := by
    rintro d hd rfl
    cases h.symm.trans hd
  simp [isInner, hne '\t' rfl, hne '\n' rfl, hne '\r' rfl]

/-- The characters that count of a text that goes on. -/
def begun (xs : List Char) : List Char := (xs.dropWhile isEdge).filter isInner

theorem mem_of_mem_begun (h : c ∈ begun xs) : c ∈ xs :=
  (List.dropWhile_suffix isEdge).subset (List.mem_filter.1 h).1

theorem begun_append_cons (hc : isEdge c = false) (xs ys : List Char) :
    begun (xs ++ c :: ys) = begun xs ++ c :: ys.filter isInner := by
  rw [begun, dropWhile_append_of_head (by simpa using hc), List.filter_append,
    List.filter_cons_of_pos (isInner_of_not_isEdge hc), begun]

theorem begun_append_slashes (xs : List Char) (k : Nat) :
    begun (xs ++ List.replicate k '/') = begun xs ++ List.replicate k '/' := by
  cases k with
  | zero => rw [List.replicate_zero, List.append_nil, List.append_nil]
  | succ k =>
    have hinner : (List.replicate k '/').filter isInner = List.replicate k '/' :=
      List.filter_eq_self.2 fun c hc => by rw [List.eq_of_mem_replicate hc]; rfl
    rw [List.replicate_succ, begun_append_cons rfl, hinner]

theorem relevant_append_cons {s : String} {xs ys : List Char} {c : Char}
    (hs : s.toList = xs ++ c :: ys) (hc : isEdge c = false) :
    relevant s = begun xs ++ c :: (Text.dropTrailing isEdge ys).filter isInner := by
  rw [relevant_eq, hs, dropWhile_append_of_head (by simpa using hc),
    Text.dropTrailing_append_cons hc, List.filter_append, List.filter_cons_of_pos
    (isInner_of_not_isEdge hc), begun]

/-- After a slash a text without such characters counts as it is. -/
theorem relevant_append_slash {s : String} {xs ys : List Char} (hs : s.toList = xs ++ '/' :: ys)
    (hys : ∀ c ∈ ys, isEdge c = false) : relevant s = begun xs ++ '/' :: ys := by
  have hinner : ys.filter isInner = ys :=
    List.filter_eq_self.2 fun c hc => isInner_of_not_isEdge (hys c hc)
  rw [relevant_append_cons hs rfl, Text.dropTrailing_eq_self hys, hinner]

theorem relevant_eq_begun {s : String} (h : ∀ c ∈ s.toList.getLast?, isEdge c = false) :
    relevant s = begun s.toList := by
  rcases List.eq_nil_or_concat s.toList with hs | ⟨xs, c, hs⟩
  · rw [relevant_eq, begun, hs]
    rfl
  · have hc : isEdge c = false := h c (by rw [hs, List.concat_eq_append]; simp)
    rw [List.concat_eq_append] at hs
    rw [relevant_append_cons hs hc, hs, begun_append_cons hc]
    rfl

/-! ## The scheme -/

theorem splitScheme?_eq_some_iff {cs rest : List Char} {scheme : String} :
    splitScheme? cs = some (scheme, rest) ↔
      cs.dropWhile isSchemeChar = ':' :: rest ∧ (∀ c ∈ cs.head?, isLetter c = true) ∧
        scheme = String.ofList ((cs.takeWhile isSchemeChar).map Char.toLower) := by
  cases cs with
  | nil => simp [splitScheme?]
  | cons c cs =>
    unfold splitScheme?
    split
    next d _ r hcons hdrop =>
      obtain ⟨rfl, -⟩ := List.cons_eq_cons.1 hcons
      rw [hdrop]
      by_cases hc : isLetter c = true
      · simp [hc, and_comm, eq_comm (b := scheme)]
      · simp [hc]
    next hne => exact iff_of_false nofun fun h => hne c cs rest rfl h.1

/-- A scheme that is followed by the end, or by a character of no scheme, does not depend on what
follows. -/
theorem splitScheme?_append {r ys rest : List Char} {scheme : String}
    (hys : ∀ c ∈ ys.head?, isSchemeChar c = false ∧ c ≠ ':')
    (h : splitScheme? (r ++ ys) = some (scheme, rest)) :
    ∃ r', r' <:+ r ∧ rest = r' ++ ys ∧ ∀ zs : List Char,
      (∀ c ∈ zs.head?, isSchemeChar c = false) →
        splitScheme? (r ++ zs) = some (scheme, r' ++ zs) := by
  have hys' : ∀ c ∈ ys.head?, isSchemeChar c = false := fun c hc => (hys c hc).1
  obtain ⟨hdrop, hletter, hscheme⟩ := splitScheme?_eq_some_iff.1 h
  rw [dropWhile_append_of_head hys'] at hdrop
  rw [takeWhile_append_of_head hys'] at hscheme
  cases hr : r.dropWhile isSchemeChar with
  | nil =>
    rw [hr, List.nil_append] at hdrop
    exact absurd rfl (hys ':' (by rw [hdrop]; rfl)).2
  | cons c r' =>
    rw [hr, List.cons_append] at hdrop
    obtain ⟨rfl, rfl⟩ := List.cons_eq_cons.1 hdrop
    have hsuffix : ':' :: r' <:+ r := hr ▸ List.dropWhile_suffix isSchemeChar
    refine ⟨r', (List.suffix_cons ':' r').trans hsuffix, rfl, fun zs hzs => ?_⟩
    have hne : r ≠ [] := by
      rintro rfl
      cases hr
    refine splitScheme?_eq_some_iff.2 ⟨?_, ?_, ?_⟩
    · rw [dropWhile_append_of_head hzs, hr, List.cons_append]
    · obtain ⟨d, r, rfl⟩ := List.exists_cons_of_ne_nil hne
      exact hletter
    · rw [takeWhile_append_of_head hzs, hscheme]

/-! ## The authority -/

/-- The character starts the query or the fragment. -/
def isMark (c : Char) : Bool := c = '?' || c = '#'

theorem takeWhile_of_dropWhile {p : Char → Bool} {cs : List Char} (h : cs.dropWhile p = []) :
    cs.takeWhile p = cs :=
  List.takeWhile_eq_self_iff.2 (List.dropWhile_eq_nil_iff.1 h)

theorem splitTail_fst (f : Family) (cs : List Char) :
    (splitTail f cs).1 = cs.takeWhile (!isMark ·) := by
  have hmarks : cs.takeWhile (!isMark ·) =
      (cs.takeWhile (· != '#')).takeWhile (· != '?') := by
    rw [List.takeWhile_takeWhile]
    congr 1
    funext c
    simp [isMark, bne]
  rw [hmarks, splitTail]
  cases hfragment : cs.dropWhile (· != '#') with
  | nil =>
    rw [takeWhile_of_dropWhile hfragment]
    cases hquery : cs.dropWhile (· != '?') with
    | nil => simp [hquery, takeWhile_of_dropWhile hquery]
    | cons => simp [hquery]
  | cons =>
    cases hquery : (cs.takeWhile (· != '#')).dropWhile (· != '?') with
    | nil => simp [hquery, takeWhile_of_dropWhile hquery]
    | cons => simp [hquery]

theorem splitTail_eq_self (f : Family) {cs : List Char} (h : ∀ c ∈ cs, isMark c = false) :
    splitTail f cs = (cs, none, none) := by
  have hmark : ∀ m, isMark m = true → cs.dropWhile (· != m) = [] := by
    intro m hm
    refine List.dropWhile_eq_nil_iff.2 fun c hc => bne_iff_ne.2 ?_
    rintro rfl
    cases hm.symm.trans (h c hc)
  simp [splitTail, hmark '#' rfl, hmark '?' rfl]

/-- What stands before the path of a web address. -/
def readSite (scheme : String) (default : Option Nat) (authority : List Char) :
    Except UrlError Url := do
  let (userinfo, hostport) := (splitUserinfo authority).getD ([], authority)
  let (hostText, portText) := splitPort false hostport
  if hostText.isEmpty then .error .emptyHost
  let host ← Host.parse hostText
  let port ← match portText with
    | some p => parsePort default p
    | none => .ok none
  return {
    scheme := scheme
    username := percentEncode userinfoSet (userinfo.takeWhile (· != ':'))
    password := percentEncode userinfoSet (userinfo.dropWhile (· != ':')).tail
    host := some host
    port := port
    path := []
    query := none
    fragment := none }

theorem parseAuthority_web (scheme : String) (default : Option Nat) (cs : List Char) :
    parseAuthority scheme .web default cs =
      (readSite scheme default (cs.takeWhile (!endsAuthority .web ·))).map fun u =>
        { u with
          path := parsePath .web ((cs.takeWhile (!isMark ·)).dropWhile (!isSlash .web ·))
          query := (splitTail .web cs).2.1
          fragment := (splitTail .web cs).2.2 } := by
  have hauthority : (cs.takeWhile (!isMark ·)).takeWhile (!isSlash .web ·) =
      cs.takeWhile (!endsAuthority .web ·) := by
    rw [List.takeWhile_takeWhile]
    congr 1
    funext c
    simp [endsAuthority, isMark, Bool.and_comm, Bool.and_assoc]
  rw [← hauthority, ← splitTail_fst .web cs]
  rcases htail : splitTail .web cs with ⟨front, query, fragment⟩
  generalize hauth : front.takeWhile (!isSlash .web ·) = authority
  rcases huser : (splitUserinfo authority).getD ([], authority) with ⟨userinfo, hostport⟩
  rcases hport : splitPort false hostport with ⟨hostText, portText⟩
  simp only [parseAuthority, readSite, htail, hauth, huser, hport]
  cases hostText with
  | nil => split <;> rfl
  | cons c hostText =>
    -- an authority that is no more than the sign has no host
    have hne : authority ≠ ['@'] := by
      rintro rfl
      cases huser
      cases hport
    rw [if_neg (by simp [hne])]
    cases Host.parse (c :: hostText) with
    | error e => rfl
    | ok host =>
      cases portText with
      | none => rfl
      | some p => cases hp : parsePort default p <;> simp [hp] <;> rfl

/-! ## The path -/

theorem segments_ne_nil (f : Family) (cs : List Char) : segments f cs ≠ [] := by
  cases cs with
  | nil => nofun
  | cons c cs =>
    rw [segments]
    split
    · nofun
    · split <;> nofun

theorem segments_append (f : Family) (xs ys : List Char) :
    segments f (xs ++ '/' :: ys) = segments f xs ++ segments f ys := by
  induction xs with
  | nil => simp [segments, isSlash]
  | cons c xs ih =>
    obtain ⟨s, ss, hs⟩ := List.exists_cons_of_ne_nil (segments_ne_nil f xs)
    rw [List.cons_append, segments, segments, ih, hs]
    split <;> rfl

/-- Where every slash is one in every family, the segments make the text. -/
theorem flatMap_segments (f : Family) {cs : List Char} (h : ∀ c ∈ cs, c ≠ '\\') :
    (segments f cs).flatMap ('/' :: ·) = '/' :: cs := by
  induction cs with
  | nil => rfl
  | cons c cs ih =>
    have ih := ih fun d hd => h d (List.mem_cons_of_mem c hd)
    obtain ⟨s, ss, hs⟩ := List.exists_cons_of_ne_nil (segments_ne_nil f cs)
    rw [hs, List.flatMap_cons, List.cons_append, List.cons.injEq] at ih
    rw [segments, hs]
    split
    next hslash =>
      obtain rfl : c = '/' := by simpa [isSlash, h c List.mem_cons_self] using hslash
      simp [List.flatMap_cons, ← ih.2]
    next => simp [List.flatMap_cons, ← ih.2]

/-- What a segment that is not the last one does to those kept so far. -/
def walked (done : List (List Char)) (s : List Char) : List (List Char) :=
  if isDoubleDot s then done.tail
  else if isSingleDot s then done
  else percentEncode pathSet s :: done

theorem resolve_append {ys : List (List Char)} (hys : ys ≠ []) (done xs : List (List Char)) :
    resolve done (xs ++ ys) = resolve (xs.foldl walked done) ys := by
  induction xs generalizing done with
  | nil => rfl
  | cons s xs ih =>
    have hrest : (xs ++ ys).isEmpty = false := by simp [hys]
    rw [List.cons_append, resolve, List.foldl_cons, walked]
    simp only [hrest, ih, Bool.false_eq_true, if_false]
    split
    · rfl
    · split <;> rfl

/-- Dots at the end leave an empty segment. -/
theorem resolve_eq (xs : List (List Char)) :
    ∃ n ≤ 1, resolve [] xs = (xs.foldl walked []).reverse ++ List.replicate n [] := by
  rcases List.eq_nil_or_concat xs with rfl | ⟨xs, s, rfl⟩
  · exact ⟨0, Nat.zero_le 1, rfl⟩
  · rw [List.concat_eq_append, resolve_append (by nofun), List.foldl_append]
    by_cases hdouble : isDoubleDot s = true
    · exact ⟨1, Nat.le_refl 1, by simp [resolve, walked, hdouble]⟩
    · by_cases hsingle : isSingleDot s = true
      · exact ⟨1, Nat.le_refl 1, by simp [resolve, walked, hdouble, hsingle]⟩
      · exact ⟨0, Nat.zero_le 1, by simp [resolve, walked, hdouble, hsingle]⟩

/-- The segment is written as it is. -/
structure IsPlain (s : List Char) : Prop where
  encoded : percentEncode pathSet s = s
  single : isSingleDot s = false
  double : isDoubleDot s = false

theorem resolve_plain {xs : List (List Char)} (h : ∀ s ∈ xs, IsPlain s) (done) :
    resolve done xs = done.reverse ++ xs := by
  induction xs generalizing done with
  | nil => exact (List.append_nil _).symm
  | cons s xs ih =>
    have hs := h s List.mem_cons_self
    rw [resolve, if_neg (by simp [hs.double]), if_neg (by simp [hs.single]), hs.encoded,
      ih fun t ht => h t (List.mem_cons_of_mem s ht)]
    simp

/-- The text after a slash is a path as it is written. -/
structure IsPlainPath (cs : List Char) : Prop where
  slashes : ∀ c ∈ cs, c ≠ '\\'
  plain : ∀ s ∈ segments .web cs, IsPlain s

instance (s : List Char) : Decidable (IsPlain s) :=
  decidable_of_iff
    (percentEncode pathSet s = s ∧ isSingleDot s = false ∧ isDoubleDot s = false)
    ⟨fun ⟨h, h', h''⟩ => ⟨h, h', h''⟩, fun ⟨h, h', h''⟩ => ⟨h, h', h''⟩⟩

theorem IsPlain.nil : IsPlain [] := ⟨rfl, rfl, rfl⟩

instance (cs : List Char) : Decidable (IsPlainPath cs) :=
  decidable_of_iff (cs.all (· != '\\') = true ∧ ∀ s ∈ segments .web cs, IsPlain s)
    ⟨fun ⟨h, h'⟩ => ⟨by simpa using h, h'⟩, fun ⟨h, h'⟩ => ⟨by simpa using h, h'⟩⟩

theorem isPlainPath_slashes (n : Nat) : IsPlainPath (List.replicate n '/') := by
  refine ⟨fun c hc => ?_, ?_⟩
  · rw [List.eq_of_mem_replicate hc]
    decide
  · induction n with
    | zero => simpa [segments] using IsPlain.nil
    | succ n ih => simpa [List.replicate_succ, segments, isSlash, IsPlain.nil] using ih

/-- The part of a path that stays when more follows the text after its first slash. -/
def settled (cs : List Char) : List Char :=
  ((segments .web cs).foldl walked []).reverse.flatMap ('/' :: ·)

theorem pathOf_append {xs ys : List Char} (hys : IsPlainPath ys) :
    pathOf .web (xs ++ '/' :: ys) = settled xs ++ '/' :: ys := by
  rw [pathOf, segments_append, resolve_append (segments_ne_nil .web ys), resolve_plain hys.plain,
    List.flatMap_append, flatMap_segments .web hys.slashes, settled]

theorem pathOf_plain {ys : List Char} (hys : IsPlainPath ys) : pathOf .web ys = '/' :: ys := by
  rw [pathOf, resolve_plain hys.plain, List.reverse_nil, List.nil_append,
    flatMap_segments .web hys.slashes]

theorem pathOf_eq (xs : List Char) :
    ∃ n ≤ 1, pathOf .web xs = settled xs ++ List.replicate n '/' := by
  obtain ⟨n, hn, h⟩ := resolve_eq (segments .web xs)
  refine ⟨n, hn, ?_⟩
  rw [pathOf, h, List.flatMap_append, settled]
  simp [List.flatMap_replicate]

theorem parsePath_append {rest : List Char} (hrest : ∀ c ∈ rest.head?, isSlash .web c = true)
    (k : Nat) :
    ∃ front n, n ≤ max 1 k ∧
      parsePath .web (rest ++ List.replicate k '/') = front ++ List.replicate n '/' ∧
      ∀ ys, IsPlainPath ys → parsePath .web (rest ++ '/' :: ys) = front ++ '/' :: ys := by
  cases rest with
  | nil =>
    refine ⟨[], max 1 k, Nat.le_refl _, ?_, fun ys hys => pathOf_plain hys⟩
    cases k with
    | zero => rfl
    | succ k =>
      rw [Nat.max_eq_right (Nat.le_add_left 1 k), List.replicate_succ]
      exact pathOf_plain (isPlainPath_slashes k)
  | cons c rest =>
    have hparse : ∀ ys, parsePath .web (c :: rest ++ ys) = pathOf .web (rest ++ ys) := fun ys => by
      rw [List.cons_append, parsePath, if_pos (hrest c rfl)]
    cases k with
    | zero =>
      obtain ⟨n, hn, h⟩ := pathOf_eq rest
      refine ⟨settled rest, n, hn, ?_, fun ys hys => (hparse _).trans (pathOf_append hys)⟩
      rw [hparse, List.replicate_zero, List.append_nil, h]
    | succ k =>
      refine ⟨settled rest, k + 1, Nat.le_max_right 1 (k + 1), ?_,
        fun ys hys => (hparse _).trans (pathOf_append hys)⟩
      rw [hparse, List.replicate_succ, pathOf_append (isPlainPath_slashes k)]

/-! ## The address -/

theorem scheme_of_parseAuthority {scheme : String} {f : Family} {default : Option Nat}
    {cs : List Char} {u : Url} (h : parseAuthority scheme f default cs = .ok u) :
    u.scheme = scheme := by
  simp only [parseAuthority, bind, Except.bind, pure, Except.pure] at h
  repeat' split at h
  all_goals cases h
  all_goals rfl

theorem scheme_of_parseFile {cs : List Char} {u : Url} (h : parseFile cs = .ok u) :
    u.scheme = "file" := by
  simp only [parseFile, bind, Except.bind, pure, Except.pure] at h
  repeat' split at h
  all_goals cases h
  all_goals rfl

theorem scheme_of_parseOther {scheme : String} {cs : List Char} {u : Url}
    (h : parseOther scheme cs = .ok u) : u.scheme = scheme := by
  unfold parseOther at h
  split at h
  · exact scheme_of_parseAuthority h
  · cases h
    rfl
/-- Over HTTP, plain or secured. -/
def IsHttp (u : Url) : Prop := u.scheme = "http" ∨ u.scheme = "https"

theorem exists_family {u : Url} (hu : u.IsHttp) :
    ∃ default, family u.scheme = (.web, default) := by
  obtain h | h := hu
  · exact ⟨some 80, by rw [h]; rfl⟩
  · exact ⟨some 443, by rw [h]; rfl⟩

theorem parse_of_web {s scheme : String} {default : Option Nat} {rest : List Char}
    (hsplit : splitScheme? (relevant s) = some (scheme, rest))
    (hfamily : family scheme = (.web, default)) :
    parse s = parseAuthority scheme .web default (rest.dropWhile (isSlash .web)) := by
  rw [parse, hsplit]
  simp only [hfamily]

theorem splitScheme?_of_parse {s : String} {u : Url} (h : parse s = .ok u) (hu : u.IsHttp) :
    ∃ rest, splitScheme? (relevant s) = some (u.scheme, rest) := by
  rw [parse] at h
  split at h
  next => cases h
  next scheme cs hsplit =>
    split at h
    next => exact ⟨cs, by rw [scheme_of_parseAuthority h, hsplit]⟩
    next =>
      rw [IsHttp, scheme_of_parseFile h] at hu
      exact absurd hu (by decide)
    next => exact ⟨cs, by rw [scheme_of_parseOther h, hsplit]⟩

/-- The reader of a web address that goes on after its scheme. -/
theorem parse_of_append {s : String} {xs ys : List Char} {u : Url} (h : parse s = .ok u)
    (hu : u.IsHttp) (hs : relevant s = xs ++ ys)
    (hys : ∀ c ∈ ys.head?, isSchemeChar c = false ∧ c ≠ ':') :
    ∃ default r, r <:+ xs ∧ ∀ (s' : String) (zs : List Char), relevant s' = xs ++ zs →
      (∀ c ∈ zs.head?, isSchemeChar c = false) →
        parse s' =
          parseAuthority u.scheme .web default ((r ++ zs).dropWhile (isSlash .web)) := by
  obtain ⟨default, hfamily⟩ := exists_family hu
  obtain ⟨rest, hsplit⟩ := splitScheme?_of_parse h hu
  rw [hs] at hsplit
  obtain ⟨r, hr, rfl, happend⟩ := splitScheme?_append hys hsplit
  refine ⟨default, r, hr, fun s' zs hs' hzs => ?_⟩
  exact parse_of_web (by rw [hs', happend zs hzs]) hfamily

theorem exists_of_map_eq_ok {ε α β : Type} {x : Except ε α} {f : α → β} {b : β}
    (h : x.map f = .ok b) : ∃ a, x = .ok a ∧ f a = b := by
  cases x with
  | error e => cases h
  | ok a => exact ⟨a, rfl, Except.ok.inj h⟩

/-- An authority that a path follows. -/
theorem parseAuthority_append {cs zs : List Char} (hcs : ∀ c ∈ cs, isMark c = false)
    (hzs : ∀ c ∈ zs, isMark c = false) (hhead : ∀ c ∈ zs.head?, c = '/') (scheme : String)
    (default : Option Nat) :
    parseAuthority scheme .web default (cs ++ zs) =
      (readSite scheme default (cs.takeWhile (!endsAuthority .web ·))).map fun u =>
        { u with
          path := parsePath .web (cs.dropWhile (!isSlash .web ·) ++ zs)
          query := none
          fragment := none } := by
  have hmarks : ∀ c ∈ cs ++ zs, isMark c = false := fun c hc =>
    (List.mem_append.1 hc).elim (hcs c) (hzs c)
  have hfront : (cs ++ zs).takeWhile (!isMark ·) = cs ++ zs :=
    List.takeWhile_eq_self_iff.2 fun c hc => by rw [hmarks c hc]; rfl
  have hauthority : ∀ c ∈ zs.head?, (!endsAuthority .web c) = false := fun c hc => by
    rw [hhead c hc]
    rfl
  have hslash : ∀ c ∈ zs.head?, (!isSlash .web c) = false := fun c hc => by
    rw [hhead c hc]
    rfl
  rw [parseAuthority_web, takeWhile_append_of_head hauthority, hfront,
    dropWhile_append_of_head hslash, splitTail_eq_self .web hmarks]

/-- The parts of an address that ends in slashes, or in none, and where the reader goes on if more comes
in the place of these. -/
theorem parse_site {s : String} {xs : List Char} {k : Nat} {u : Url} (h : parse s = .ok u)
    (hu : u.IsHttp) (hs : relevant s = xs ++ List.replicate k '/')
    (hxs : ∀ c ∈ xs, isMark c = false) :
    ∃ default cs v, (∀ c ∈ cs, isMark c = false) ∧
      readSite u.scheme default (cs.takeWhile (!endsAuthority .web ·)) = .ok v ∧
      { v with
        path := parsePath .web (cs.dropWhile (!isSlash .web ·) ++ List.replicate k '/')
        query := none
        fragment := none } = u ∧
      ∀ (s' : String) (zs : List Char), relevant s' = xs ++ zs →
        (∀ c ∈ zs.head?, isSchemeChar c = false) →
          parse s' = parseAuthority u.scheme .web default (cs ++ zs) := by
  have hslashes : ∀ c ∈ List.replicate k '/', c = '/' := fun c => List.eq_of_mem_replicate
  have hhead : ∀ c ∈ (List.replicate k '/').head?, c = '/' := fun c hc =>
    hslashes c (List.mem_of_mem_head? hc)
  obtain ⟨default, r, hr, happend⟩ :=
    parse_of_append h hu hs fun c hc => by rw [hhead c hc]; decide
  have hbase := (happend s _ hs fun c hc => by rw [hhead c hc]; rfl).symm.trans h
  -- the host is not empty, so the slashes before it are all in what is shared
  have hne : r.dropWhile (isSlash .web) ≠ [] := by
    intro hnil
    have hall : (List.replicate k '/').dropWhile (isSlash .web) = [] :=
      List.dropWhile_eq_nil_iff.2 fun c hc => by rw [hslashes c hc]; rfl
    rw [List.dropWhile_append, hnil, List.isEmpty_nil, if_pos rfl, hall] at hbase
    cases hbase
  have hdrop : ∀ zs : List Char,
      (r ++ zs).dropWhile (isSlash .web) = r.dropWhile (isSlash .web) ++ zs := fun zs => by
    rw [List.dropWhile_append, List.isEmpty_eq_false_iff.2 hne]
    rfl
  have hmarks : ∀ c ∈ r.dropWhile (isSlash .web), isMark c = false := fun c hc =>
    hxs c (hr.subset ((List.dropWhile_suffix _).subset hc))
  rw [hdrop, parseAuthority_append hmarks (fun c hc => by rw [hslashes c hc]; rfl) hhead] at hbase
  obtain ⟨v, hv, hvu⟩ := exists_of_map_eq_ok hbase
  exact ⟨default, _, v, hmarks, hv, hvu, fun s' zs hs' hzs => by rw [happend s' zs hs' hzs, hdrop]⟩

theorem head_dropWhile_not_slash (cs : List Char) :
    ∀ c ∈ (cs.dropWhile (!isSlash .web ·)).head?, isSlash .web c = true := by
  intro c hc
  have hnot := List.head?_dropWhile_not (!isSlash .web ·) cs
  rw [Option.mem_def.1 hc] at hnot
  simpa using hnot

/-- What is read of an address that ends in slashes, or in none, when a path comes after. -/
theorem parse_append {s : String} {xs : List Char} {k : Nat} {u : Url} (h : parse s = .ok u)
    (hu : u.IsHttp) (hs : relevant s = xs ++ List.replicate k '/')
    (hxs : ∀ c ∈ xs, isMark c = false) :
    ∃ front n, n ≤ max 1 k ∧ u.path = front ++ List.replicate n '/' ∧
      ∀ (s' : String) (ys : List Char), IsPlainPath ys → (∀ c ∈ ys, isMark c = false) →
        relevant s' = xs ++ '/' :: ys → parse s' = .ok { u with path := front ++ '/' :: ys } := by
  obtain ⟨default, cs, v, hcs, hv, hvu, happend⟩ := parse_site h hu hs hxs
  obtain ⟨front, n, hn, hpath, hlonger⟩ := parsePath_append (head_dropWhile_not_slash cs) k
  rw [← hvu]
  refine ⟨front, n, hn, hpath, fun s' ys hplain hys hs' => ?_⟩
  have hhead : ∀ c ∈ ('/' :: ys).head?, c = '/' := fun c hc => (Option.some.inj hc).symm
  rw [happend s' _ hs' fun c hc => by rw [hhead c hc]; rfl,
    parseAuthority_append hcs (List.forall_mem_cons.2 ⟨rfl, hys⟩) hhead, hv, ← hlonger ys hplain]
  rfl

/-- What is read of an address up to its query or its fragment, whichever comes first. -/
theorem parse_append_mark {s s' : String} {xs ys zs : List Char} {m : Char} {u : Url}
    (h : parse s = .ok u) (hu : u.IsHttp) (hm : isMark m = true)
    (hs : relevant s = xs ++ m :: ys) (hs' : relevant s' = xs ++ m :: zs) :
    ∃ query fragment, parse s' = .ok { u with query := query, fragment := fragment } := by
  have hmark : m = '?' ∨ m = '#' := by simpa [isMark] using hm
  have hscheme : isSchemeChar m = false ∧ m ≠ ':' := by
    rcases hmark with rfl | rfl <;> decide
  have hends : endsAuthority .web m = true ∧ isSlash .web m = false := by
    rcases hmark with rfl | rfl <;> decide
  obtain ⟨default, r, -, happend⟩ :=
    parse_of_append h hu hs (by simpa using hscheme)
  have hread : ∀ (s' : String) (zs : List Char), relevant s' = xs ++ m :: zs →
      ∃ query fragment, parse s' =
        (readSite u.scheme default
          ((r.dropWhile (isSlash .web)).takeWhile (!endsAuthority .web ·))).map fun v =>
            { v with
              path := parsePath .web (((r.dropWhile (isSlash .web)).takeWhile
                (!isMark ·)).dropWhile (!isSlash .web ·))
              query := query
              fragment := fragment } := by
    intro s' zs hs'
    rw [happend s' _ hs' (by simpa using hscheme.1), dropWhile_append_of_head
      (by simpa using hends.2), parseAuthority_web, takeWhile_append_of_head
      (by simpa using hm), takeWhile_append_of_head (by simpa using hends.1)]
    exact ⟨_, _, rfl⟩
  obtain ⟨query, fragment, hs⟩ := hread s ys hs
  obtain ⟨query', fragment', hs'⟩ := hread s' zs hs'
  obtain ⟨v, hv, rfl⟩ := exists_of_map_eq_ok (hs.symm.trans h)
  exact ⟨query', fragment', by rw [hs', hv]; rfl⟩

end SessionKeeper.Url
