import SessionKeeper.Proofs.Url.Reading

/-!
# A control character at the end

The reader of addresses takes no notice of control characters at the end of a text. Where more is
appended they come to stand inside it: behind an authority no address can be read any more
(`readSite_of_control`), and behind a path they are written into it (`length_pathOf_lt`).
-/

namespace SessionKeeper.Url

/-- The character is a control character. -/
def IsControl (c : Char) : Prop := c.toNat < 0x20

namespace IsControl

variable {c : Char}

theorem of_forall {P : Char → Prop} (H : ∀ n < 0x20, P (Char.ofNat n)) (hc : IsControl c) : P c := by
  have := H c.toNat hc
  rwa [Char.ofNat_toNat] at this

theorem hexValue (hc : IsControl c) : Text.hexValue c = none :=
  of_forall (P := fun c => Text.hexValue c = none) (by decide +kernel) hc

theorem utf8 (hc : IsControl c) : (String.ofList [c]).toUTF8.toList = [UInt8.ofNat c.toNat] :=
  of_forall (P := fun c => (String.ofList [c]).toUTF8.toList = [UInt8.ofNat c.toNat])
    (by decide +kernel) hc

theorem byte_lt (hc : IsControl c) : UInt8.ofNat c.toNat < 0x80 :=
  of_forall (P := fun c => UInt8.ofNat c.toNat < 0x80) (by decide +kernel) hc

theorem startByte (hc : IsControl c) : Text.startByte (UInt8.ofNat c.toNat) = .inl c := by
  have hlt : c.toNat % 256 = c.toNat := Nat.mod_eq_of_lt (Nat.lt_trans hc (by decide))
  rw [Text.startByte, if_pos hc.byte_lt, UInt8.toNat_ofNat', hlt, Char.ofNat_toNat]

theorem domainChar (hc : IsControl c) : domainChar c = [c] :=
  of_forall (P := fun c => Url.domainChar c = [c]) (by decide +kernel) hc

theorem forbidden (hc : IsControl c) : isForbiddenInDomain c = true :=
  of_forall (P := fun c => isForbiddenInDomain c = true) (by decide +kernel) hc

theorem ne (hc : IsControl c) {d : Char} (hd : 0x20 ≤ d.toNat) : c ≠ d := by
  rintro rfl
  exact Nat.not_lt.2 hd hc

end IsControl

variable {c : Char}

/-! ## The host -/

theorem getLast?_cons_of_some {α : Type} {a b : α} {as : List α} (h : as.getLast? = some b) :
    (a :: as).getLast? = some b := by
  rw [List.getLast?_cons, h]
  rfl

theorem getLast?_percentDecode (hc : IsControl c) {cs : List Char} (h : cs.getLast? = some c) :
    (percentDecode cs).getLast? = some (UInt8.ofNat c.toNat) := by
  fun_induction percentDecode cs with
  | case1 => cases h
  | case2 a b cs hi lo hb ha ih =>
    cases cs with
    | nil =>
      -- the two characters of an escape are digits
      obtain rfl : b = c := by simpa using h
      cases hb.symm.trans hc.hexValue
    | cons d cs => exact getLast?_cons_of_some (ih h)
  | case3 a b cs _ ih => exact getLast?_cons_of_some (ih h)
  | case4 d cs _ ih =>
    cases cs with
    | nil =>
      obtain rfl : d = c := by simpa using h
      rw [hc.utf8]
      rfl
    | cons d' cs => rw [List.getLast?_append, ih h, Option.some_or]

theorem low_of_startByte {b : UInt8} {p : Text.Pending} (h : Text.startByte b = .inr p) :
    0x80 ≤ p.low := by
  rw [Text.startByte] at h
  split at h
  · cases h
  · split at h
    next k lo hi hlead =>
      cases h
      rw [Text.leadRange] at hlead
      repeat' split at hlead
      all_goals cases hlead
      all_goals simp
    next => cases h

/-- A control character breaks off the character begun before it and stands for itself. -/
theorem mem_lenientFrom (hc : IsControl c) {p : Option Text.Pending} {bs : List UInt8}
    (hp : ∀ q ∈ p, 0x80 ≤ q.low) (h : bs.getLast? = some (UInt8.ofNat c.toNat)) :
    c ∈ Text.lenientFrom p bs := by
  induction bs generalizing p with
  | nil => cases h
  | cons b bs ih =>
    have hfresh : c ∈ Text.lenientFrom none (b :: bs) := by
      rw [Text.lenientFrom]
      cases bs with
      | nil =>
        obtain rfl : b = UInt8.ofNat c.toNat := by simpa using h
        rw [hc.startByte]
        exact List.mem_cons_self
      | cons b' bs =>
        split
        next => exact List.mem_cons_of_mem _ (ih nofun h)
        next q hstart =>
          refine ih ?_ h
          rintro _ ⟨⟩
          exact low_of_startByte hstart
    cases p with
    | none => exact hfresh
    | some q =>
      rw [Text.lenientFrom]
      split
      next hrange =>
        cases bs with
        | nil =>
          obtain rfl : b = UInt8.ofNat c.toNat := by simpa using h
          rw [Bool.and_eq_true, decide_eq_true_iff] at hrange
          exact absurd (UInt8.lt_of_le_of_lt (UInt8.le_trans (hp q rfl) hrange.1) hc.byte_lt)
            (UInt8.lt_irrefl _)
        | cons b' bs =>
          dsimp only
          split
          next => exact List.mem_cons_of_mem _ (ih nofun h)
          next =>
            refine ih ?_ h
            rintro _ ⟨⟩
            exact UInt8.le_refl _
      next => exact List.mem_cons_of_mem _ hfresh

theorem domainToAscii?_of_control (hc : IsControl c) {cs : List Char} (h : c ∈ cs) :
    domainToAscii? cs = none := by
  have hmapped : c ∈ cs.flatMap domainChar :=
    List.mem_flatMap.2 ⟨c, h, by rw [hc.domainChar]; exact List.mem_singleton_self c⟩
  have hforbidden : (cs.flatMap domainChar).any isForbiddenInDomain = true :=
    List.any_eq_true.2 ⟨c, hmapped, hc.forbidden⟩
  rw [domainToAscii?]
  simp [hforbidden]

theorem parse_host_of_control (hc : IsControl c) {cs : List Char} (h : cs.getLast? = some c) :
    ∃ e, Host.parse cs = .error e := by
  have hdomain : domainToAscii? (Text.lenientFrom none (percentDecode cs)) = none :=
    domainToAscii?_of_control hc (mem_lenientFrom hc nofun (getLast?_percentDecode hc h))
  unfold Host.parse
  split
  next r =>
    split
    next inner hr =>
      -- the bracket that closes is the last character
      have hlast : ('[' :: r).getLast? = some ']' := by
        rw [← List.reverse_reverse r, hr, List.reverse_cons, ← List.cons_append,
          List.getLast?_concat]
      exact absurd (Option.some.inj (h.symm.trans hlast)) (hc.ne (by decide))
    next => exact ⟨_, rfl⟩
  next => exact ⟨.invalidDomain, by rw [hdomain]⟩

theorem digitsIn_of_control (hc : IsControl c) (base : Nat) {cs : List Char}
    (h : cs.getLast? = some c) : digitsIn base cs = none := by
  obtain ⟨ds, rfl⟩ := List.getLast?_eq_some_iff.1 h
  simp [digitsIn, List.foldl_append, hc.hexValue]

/-! ## The authority -/

/-- The host or the port ends as both together do. -/
theorem splitPort_getLast? (hc : IsControl c) {cs : List Char} (h : cs.getLast? = some c)
    (inBrackets : Bool) :
    (splitPort inBrackets cs).2 = none ∧ (splitPort inBrackets cs).1.getLast? = some c ∨
      ∃ port, (splitPort inBrackets cs).2 = some port ∧ port.getLast? = some c ∧ port <:+ cs := by
  induction cs generalizing inBrackets with
  | nil => cases h
  | cons d cs ih =>
    rw [splitPort]
    cases cs with
    | nil =>
      obtain rfl : d = c := by simpa using h
      have hcolon : ¬ (d = ':' && !inBrackets) = true := by simp [hc.ne (d := ':') (by decide)]
      rw [if_neg hcolon]
      exact .inl ⟨rfl, rfl⟩
    | cons d' cs =>
      split
      next => exact .inr ⟨d' :: cs, rfl, h, List.suffix_cons d (d' :: cs)⟩
      next =>
        refine (ih h (if d = '[' then true else if d = ']' then false else inBrackets)).imp ?_ ?_
        · rintro ⟨hnone, hlast⟩
          exact ⟨hnone, getLast?_cons_of_some hlast⟩
        · rintro ⟨port, hport, hlast, hsuffix⟩
          exact ⟨port, hport, hlast, hsuffix.trans (List.suffix_cons d (d' :: cs))⟩

theorem splitUserinfo_getLast? (hc : IsControl c) {cs : List Char} (h : cs.getLast? = some c) :
    ((splitUserinfo cs).getD ([], cs)).2.getLast? = some c ∧
      ((splitUserinfo cs).getD ([], cs)).2 <:+ cs := by
  obtain ⟨ds, rfl⟩ := List.getLast?_eq_some_iff.1 h
  have hat : (c != '@') = true := bne_iff_ne.2 (hc.ne (by decide))
  rw [splitUserinfo]
  split
  next => exact ⟨h, List.suffix_rfl⟩
  next =>
    refine ⟨?_, ?_⟩
    · simp [hat]
    · rw [← List.reverse_prefix, Option.getD_some, List.reverse_reverse]
      exact List.takeWhile_prefix _

/-- No host and no port ends in a control character. -/
theorem readSite_of_control (hc : IsControl c) {cs : List Char} (h : cs.getLast? = some c)
    (hcs : ∀ d ∈ cs, d ≠ '\\') (scheme : String) (default : Option Nat) :
    ∃ e, readSite scheme default cs = .error e := by
  obtain ⟨hlast, hsuffix⟩ := splitUserinfo_getLast? hc h
  rcases huser : (splitUserinfo cs).getD ([], cs) with ⟨userinfo, hostport⟩
  rw [huser] at hlast hsuffix
  have hends := splitPort_getLast? hc hlast false
  rcases hport : splitPort false hostport with ⟨hostText, portText⟩
  rw [hport] at hends
  simp only [readSite, huser, hport]
  split
  next => exact ⟨_, rfl⟩
  next =>
    cases hhost : Host.parse hostText with
    | error e => exact ⟨e, rfl⟩
    | ok host =>
      rcases hends with ⟨rfl, hlast⟩ | ⟨port, rfl, hlast, hsuffix'⟩
      · obtain ⟨e, he⟩ := parse_host_of_control hc hlast
        cases hhost.symm.trans he
      · have hdigits : port.takeWhile (· != '\\') = port :=
          List.takeWhile_eq_self_iff.2 fun d hd =>
            bne_iff_ne.2 (hcs d (hsuffix.subset (hsuffix'.subset hd)))
        have hparse : parsePort default port = .error .invalidPort := by
          simp only [parsePort, hdigits, digitsIn_of_control hc 10 hlast]
        exact ⟨.invalidPort, by simp only [hparse]; rfl⟩

/-! ## The path -/

/-- More without slashes goes to the last segment. -/
theorem segments_append_of_no_slash (f : Family) {zs : List Char}
    (hzs : ∀ c ∈ zs, isSlash f c = false) (xs : List Char) :
    ∃ ss s, segments f xs = ss ++ [s] ∧ segments f (xs ++ zs) = ss ++ [s ++ zs] := by
  induction xs with
  | nil =>
    refine ⟨[], [], rfl, ?_⟩
    induction zs with
    | nil => rfl
    | cons z zs ih =>
      have hrest := ih fun c hc => hzs c (List.mem_cons_of_mem z hc)
      rw [List.nil_append] at hrest ⊢
      rw [segments, hrest, if_neg (by simp [hzs z List.mem_cons_self])]
      rfl
  | cons c xs ih =>
    obtain ⟨ss, s, hs, hs'⟩ := ih
    by_cases hc : isSlash f c = true
    · refine ⟨[] :: ss, s, ?_, ?_⟩
      · rw [segments, if_pos hc, hs]
        rfl
      · rw [List.cons_append, segments, if_pos hc, hs']
        rfl
    · cases ss with
      | nil =>
        refine ⟨[], c :: s, ?_, ?_⟩
        · rw [segments, if_neg hc, hs]
          rfl
        · rw [List.cons_append, segments, if_neg hc, hs']
          rfl
      | cons p ss =>
        refine ⟨(c :: p) :: ss, s, ?_, ?_⟩
        · rw [segments, if_neg hc, hs]
          rfl
        · rw [List.cons_append, segments, if_neg hc, hs']
          rfl

theorem mem_of_dropDot? (hc : IsControl c) {s r : List Char} (hmem : c ∈ s)
    (h : dropDot? s = some r) : c ∈ r := by
  have hdot : ∀ d ∈ ['.', '%', '2', 'e', 'E'], c ≠ d := by
    simp [hc.ne (d := '.'), hc.ne (d := '%'), hc.ne (d := '2'), hc.ne (d := 'e'), hc.ne (d := 'E')]
  unfold dropDot? at h
  split at h
  all_goals cases h
  all_goals simpa [hdot] using hmem

/-- Dots hold no control character. -/
theorem not_dots_of_control (hc : IsControl c) {s : List Char} (hmem : c ∈ s) :
    isDoubleDot s = false ∧ isSingleDot s = false := by
  constructor
  · refine Bool.eq_false_iff.2 fun h => ?_
    obtain ⟨r, hr, hr'⟩ := Option.bind_eq_some_iff.1 (beq_iff_eq.1 h)
    cases mem_of_dropDot? hc (mem_of_dropDot? hc hmem hr) hr'
  · refine Bool.eq_false_iff.2 fun h => ?_
    cases mem_of_dropDot? hc hmem (beq_iff_eq.1 h)

theorem percentEncode_ne_nil (hc : IsControl c) (members : List Char) {cs : List Char}
    (hmem : c ∈ cs) : percentEncode members cs ≠ [] := by
  intro hnil
  have hlt : decide (c.toNat < 0x20) = true := decide_eq_true hc
  have halways : isAlwaysEncoded c = true := by rw [isAlwaysEncoded, hlt, Bool.true_or]
  have hc' := List.flatMap_eq_nil_iff.1 hnil c hmem
  rw [halways, Bool.true_or, if_pos rfl, percentChar, hc.utf8] at hc'
  cases hc'

/-- The path of kept segments, the last one first. -/
theorem flatMap_reverse_cons (s : List Char) (ss : List (List Char)) :
    (s :: ss).reverse.flatMap ('/' :: ·) = ss.reverse.flatMap ('/' :: ·) ++ '/' :: s := by
  rw [List.reverse_cons, List.flatMap_append, List.flatMap_singleton]

/-- The last segment leaves no more than itself behind those kept so far. -/
theorem length_resolve_le (done : List (List Char)) (s : List Char) :
    ((resolve done [s]).flatMap ('/' :: ·)).length ≤
      (done.reverse.flatMap ('/' :: ·)).length + (percentEncode pathSet s).length + 1 := by
  by_cases hdouble : isDoubleDot s = true
  · have htail : (done.tail.reverse.flatMap ('/' :: ·)).length ≤
        (done.reverse.flatMap ('/' :: ·)).length := by
      cases done with
      | nil => exact Nat.le_refl _
      | cons t done =>
        rw [flatMap_reverse_cons, List.length_append]
        exact Nat.le_add_right _ _
    rw [resolve, if_pos hdouble, List.isEmpty_nil, if_pos rfl, resolve, flatMap_reverse_cons,
      List.length_append, List.length_singleton]
    omega
  · by_cases hsingle : isSingleDot s = true
    · rw [resolve, if_neg hdouble, if_pos hsingle, List.isEmpty_nil, if_pos rfl, resolve,
        flatMap_reverse_cons, List.length_append, List.length_singleton]
      omega
    · rw [resolve, if_neg hdouble, if_neg hsingle, resolve, flatMap_reverse_cons,
        List.length_append, List.length_cons, Nat.add_assoc]

/-- A control character behind a path makes it longer. -/
theorem length_pathOf_lt (hc : IsControl c) (xs : List Char) {zs : List Char}
    (hmem : c ∈ zs) (hzs : ∀ d ∈ zs, isSlash .web d = false) :
    (pathOf .web xs).length < (settled (xs ++ zs)).length := by
  obtain ⟨ss, s, hs, hs'⟩ := segments_append_of_no_slash .web hzs xs
  obtain ⟨hdouble, hsingle⟩ := not_dots_of_control hc (List.mem_append_right s hmem)
  have hsettled : settled (xs ++ zs) = (ss.foldl walked []).reverse.flatMap ('/' :: ·) ++
      '/' :: (percentEncode pathSet s ++ percentEncode pathSet zs) := by
    rw [settled, hs', List.foldl_append, List.foldl_cons, List.foldl_nil, walked, hdouble, hsingle,
      if_neg Bool.false_ne_true, if_neg Bool.false_ne_true, flatMap_reverse_cons, percentEncode,
      List.flatMap_append]
    rfl
  have hmore : 0 < (percentEncode pathSet zs).length :=
    List.length_pos_iff.2 (percentEncode_ne_nil hc pathSet hmem)
  have hle := length_resolve_le (ss.foldl walked []) s
  rw [hsettled, pathOf, hs, resolve_append (List.cons_ne_nil s [])]
  simp only [List.length_append, List.length_cons]
  omega

/-! ## The address -/

theorem not_special_of_isEdge {d : Char} (h : isEdge d = true) :
    isSlash .web d = false ∧ isMark d = false ∧ isSchemeChar d = false := by
  have hall : ∀ n ≤ 0x20, isSlash .web (Char.ofNat n) = false ∧ isMark (Char.ofNat n) = false ∧
      isSchemeChar (Char.ofNat n) = false := by decide +kernel
  have hd := hall d.toNat (of_decide_eq_true h)
  rwa [Char.ofNat_toNat] at hd

/-- White space aside, what does not count at the edge of a text is a control character that counts
inside. -/
theorem isControl_of_isEdge (h : isEdge c = true) (hblank : Text.isBlank c = false) :
    IsControl c ∧ isInner c = true := by
  have hne : ∀ d, Text.isBlank d = true → c ≠ d := by
    rintro d hd rfl
    cases hblank.symm.trans hd
  have hspace : c.toNat ≠ 0x20 := fun hc =>
    hne ' ' rfl (by rw [← Char.ofNat_toNat c, hc])
  exact ⟨Nat.lt_of_le_of_ne (of_decide_eq_true h) hspace,
    by simp [isInner, hne '\t' rfl, hne '\n' rfl, hne '\r' rfl]⟩

theorem IsControl.isEdge (hc : IsControl c) : isEdge c = true := decide_eq_true (Nat.le_of_lt hc)

/-- Behind an authority that nothing ends, control characters belong to it. -/
theorem readSite_append_of_control (hc : IsControl c) {cs zs : List Char}
    (hcs : ∀ d ∈ cs, isSlash .web d = false) (hmarks : ∀ d ∈ cs ++ zs, isMark d = false)
    (hzs : ∀ d ∈ zs, isEdge d = true) (hlast : zs.getLast? = some c) (scheme : String)
    (default : Option Nat) :
    ∃ e, readSite scheme default ((cs ++ zs).takeWhile (!endsAuthority .web ·)) = .error e := by
  have hslash : ∀ d ∈ cs ++ zs, isSlash .web d = false := fun d hd =>
    (List.mem_append.1 hd).elim (hcs d) fun hd => (not_special_of_isEdge (hzs d hd)).1
  have hauthority : (cs ++ zs).takeWhile (!endsAuthority .web ·) = cs ++ zs := by
    refine List.takeWhile_eq_self_iff.2 fun d hd => ?_
    have hmark := hmarks d hd
    rw [isMark] at hmark
    rw [endsAuthority, hslash d hd, Bool.false_or, hmark]
    rfl
  have hbackslash : ∀ d ∈ cs ++ zs, d ≠ '\\' := by
    rintro _ hd rfl
    cases hslash _ hd
  rw [hauthority]
  refine readSite_of_control hc ?_ hbackslash scheme default
  rw [List.getLast?_append, hlast, Option.some_or]

/-- Control characters between an address and a path make the address one that cannot be read, or
lengthen its path. -/
theorem parse_append_of_control (hc : IsControl c) {s s' : String} {xs zs ys : List Char} {u : Url}
    (h : parse s = .ok u) (hu : u.IsHttp) (hs : relevant s = xs)
    (hxs : ∀ d ∈ xs, isMark d = false) (hzs : ∀ d ∈ zs, isEdge d = true)
    (hlast : zs.getLast? = some c) (hys : IsPlainPath ys) (hys' : ∀ d ∈ ys, isMark d = false)
    (hs' : relevant s' = xs ++ (zs ++ '/' :: ys)) :
    (∃ e, parse s' = .error e) ∨
      ∃ front, u.path.length < front.length ∧ parse s' = .ok { u with path := front ++ '/' :: ys } := by
  obtain ⟨default, cs, v, hcs, hv, hvu, happend⟩ :=
    parse_site (k := 0) h hu (by rw [hs, List.replicate_zero, List.append_nil]) hxs
  have hhead : ∀ d ∈ ('/' :: ys).head?, d = '/' := fun d hd => (Option.some.inj hd).symm
  have hmarks : ∀ d ∈ cs ++ zs, isMark d = false := fun d hd =>
    (List.mem_append.1 hd).elim (hcs d) fun hd => (not_special_of_isEdge (hzs d hd)).2.1
  have hscheme : ∀ d ∈ (zs ++ '/' :: ys).head?, isSchemeChar d = false := by
    intro d hd
    cases zs with
    | nil => cases hlast
    | cons z zs =>
      obtain rfl : z = d := Option.some.inj hd
      exact (not_special_of_isEdge (hzs z List.mem_cons_self)).2.2
  have hread := happend s' _ hs' hscheme
  rw [← List.append_assoc, parseAuthority_append hmarks (List.forall_mem_cons.2 ⟨rfl, hys'⟩) hhead]
    at hread
  rw [hread]
  cases hrest : cs.dropWhile (!isSlash .web ·) with
  | nil =>
    have hslash : ∀ d ∈ cs, isSlash .web d = false := fun d hd => by
      simpa using List.dropWhile_eq_nil_iff.1 hrest d hd
    obtain ⟨e, he⟩ := readSite_append_of_control hc hslash hmarks hzs hlast u.scheme default
    exact .inl ⟨e, by rw [he]; rfl⟩
  | cons d rest =>
    -- the control characters belong to the path
    have hd : isSlash .web d = true := head_dropWhile_not_slash cs d (by rw [hrest]; rfl)
    have hends : endsAuthority .web d = true := by rw [endsAuthority, hd, Bool.true_or, Bool.true_or]
    have hsplit := (List.takeWhile_append_dropWhile (p := (!isSlash .web ·)) (l := cs)).symm
    rw [hrest] at hsplit
    have hauthority : (cs ++ zs).takeWhile (!endsAuthority .web ·) =
        cs.takeWhile (!endsAuthority .web ·) := by
      rw [hsplit, List.append_assoc, takeWhile_append_of_head (by simpa using hends),
        takeWhile_append_of_head (by simpa using hends)]
    have hpath : (cs ++ zs).dropWhile (!isSlash .web ·) = d :: (rest ++ zs) := by
      rw [List.dropWhile_append, hrest, List.isEmpty_cons, if_neg Bool.false_ne_true,
        List.cons_append]
    refine .inr ⟨settled (rest ++ zs), ?_, ?_⟩
    · rw [← hvu, hrest, List.replicate_zero, List.append_nil]
      rw [parsePath, if_pos hd]
      exact length_pathOf_lt hc rest (List.mem_of_getLast? hlast) fun d hd =>
        (not_special_of_isEdge (hzs d hd)).1
    · rw [hauthority, hpath, hv, List.cons_append, parsePath, if_pos hd, pathOf_append hys, ← hvu]
      rfl

/-- What does not count at the end of a text that ends in a control character counts inside. -/
theorem begun_eq_of_control (hc : IsControl c) (hinner : isInner c = true) {s : String}
    (h : s.toList.getLast? = some c) (hne : relevant s ≠ []) :
    ∃ zs, (∀ d ∈ zs, isEdge d = true) ∧ zs.getLast? = some c ∧
      begun s.toList = relevant s ++ zs := by
  rw [relevant_eq] at hne ⊢
  obtain ⟨post, hpost, hsplit⟩ := Text.dropTrailing_split isEdge (s.toList.dropWhile isEdge)
  rw [← List.takeWhile_append_dropWhile (p := isEdge) (l := s.toList), hsplit,
    ← List.append_assoc, List.getLast?_append] at h
  -- what counts at the end is no control character, so the text ends in what does not
  have hpostLast : post.getLast? = some c := by
    cases hp : post.getLast? with
    | some d => rwa [hp, Option.some_or] at h
    | none =>
      rw [hp, Option.none_or, List.getLast?_append] at h
      cases hd : (Text.dropTrailing isEdge (s.toList.dropWhile isEdge)).getLast? with
      | none =>
        rw [List.getLast?_eq_none_iff.1 hd] at hne
        exact absurd rfl hne
      | some d =>
        rw [hd, Option.some_or] at h
        cases h
        cases hc.isEdge.symm.trans (Text.getLast?_dropTrailing hd)
  obtain ⟨ps, rfl⟩ := List.getLast?_eq_some_iff.1 hpostLast
  refine ⟨(ps ++ [c]).filter isInner, fun d hd => hpost d (List.mem_filter.1 hd).1, ?_, ?_⟩
  · rw [List.filter_append, List.filter_cons_of_pos hinner, List.filter_nil, List.getLast?_concat]
  · rw [← List.filter_append, ← hsplit, begun]

end SessionKeeper.Url
