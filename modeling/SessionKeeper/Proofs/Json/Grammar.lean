import SessionKeeper.Json.Tree

/-!
# The grammar of JSON texts

`Spells` relates a syntax tree to the ways in which it can be written: white space around every
value and name, each character plain or as any of its escapes, numbers with a fraction and an
exponent. The reader takes every such text, to any depth, and finds its tree (`Writes.read?_eq`).
What follows a value is arbitrary but must not continue a number, so the parts compose.
-/

namespace SessionKeeper.Json

/-! ## Spellings -/

/-- Nothing but white space. -/
def IsBlank (cs : List Char) : Prop := ∀ c ∈ cs, isSpace c = true

/-- At least one digit, and nothing but digits. -/
def IsDigits (cs : List Char) : Prop := cs ≠ [] ∧ ∀ c ∈ cs, isDigit c = true

/-- A piece of a text, as a plain character or as an escape. -/
inductive SpellsPiece : Piece → List Char → Prop where
  | plain {c : Char} (hquote : c ≠ '"') (hescape : c ≠ '\\') (hc : 0x20 ≤ c.toNat) :
    SpellsPiece (.char c) [c]
  | letter {e c : Char} (h : escape? e = some c) : SpellsPiece (.char c) ['\\', e]
  | unit {a b c d : Char} {i j k l : Nat} (ha : hexDigit? a = some i) (hb : hexDigit? b = some j)
    (hc : hexDigit? c = some k) (hd : hexDigit? d = some l) :
    SpellsPiece (.unit (((i * 16 + j) * 16 + k) * 16 + l)) ['\\', 'u', a, b, c, d]

/-- The pieces of a text, between its quotes. -/
inductive SpellsPieces : List Piece → List Char → Prop where
  | nil : SpellsPieces [] []
  | cons {p : Piece} {ps : List Piece} {cs ds : List Char} (h : SpellsPiece p cs)
    (hs : SpellsPieces ps ds) : SpellsPieces (p :: ps) (cs ++ ds)

/-- A text between its quotes: it has no value if half of a surrogate pair stands alone in it. -/
def SpellsText (s : Option String) (cs : List Char) : Prop :=
  ∃ ps, SpellsPieces ps cs ∧ s = (joinPieces ps).map String.ofList

/-- The digits before the point do not begin with a zero, unless they are one. -/
def IsWhole (ds : List Char) : Prop := ds = ['0'] ∨ IsDigits ds ∧ ds.head? ≠ some '0'

inductive SpellsFraction : Option (List Char) → List Char → Prop where
  | absent : SpellsFraction none []
  | digits {ds : List Char} (h : IsDigits ds) : SpellsFraction (some ds) ('.' :: ds)

inductive SpellsPower : Option (Bool × List Char) → List Char → Prop where
  | absent : SpellsPower none []
  | minus {e : Char} {ds : List Char} (he : e = 'e' ∨ e = 'E') (h : IsDigits ds) :
    SpellsPower (some (true, ds)) (e :: '-' :: ds)
  | plus {e : Char} {ds : List Char} (he : e = 'e' ∨ e = 'E') (h : IsDigits ds) :
    SpellsPower (some (false, ds)) (e :: '+' :: ds)
  | bare {e : Char} {ds : List Char} (he : e = 'e' ∨ e = 'E') (h : IsDigits ds) :
    SpellsPower (some (false, ds)) (e :: ds)

inductive SpellsNumeral : Numeral → List Char → Prop where
  | mk {negative : Bool} {whole : List Char} {fraction : Option (List Char)}
    {power : Option (Bool × List Char)} {fs ps : List Char} (hw : IsWhole whole)
    (hf : SpellsFraction fraction fs) (hp : SpellsPower power ps) :
    SpellsNumeral ⟨negative, whole, fraction, power⟩
      ((if negative then ['-'] else []) ++ (whole ++ (fs ++ ps)))

mutual

/-- A value without white space around it. -/
inductive Spells : Tree → List Char → Prop where
  | null : Spells .null ['n', 'u', 'l', 'l']
  | true : Spells (.bool true) ['t', 'r', 'u', 'e']
  | false : Spells (.bool false) ['f', 'a', 'l', 's', 'e']
  | number {n : Numeral} {cs : List Char} (h : SpellsNumeral n cs) : Spells (.number n) cs
  | text {s : Option String} {cs : List Char} (h : SpellsText s cs) :
    Spells (.text s) ('"' :: (cs ++ ['"']))
  | noItems {w : List Char} (hw : IsBlank w) : Spells (.array []) ('[' :: (w ++ [']']))
  | array {xs : List Tree} {cs : List Char} (h : SpellsItems xs cs) :
    Spells (.array xs) ('[' :: (cs ++ [']']))
  | noMembers {w : List Char} (hw : IsBlank w) :
    Spells (.object []) ('\x7b' :: (w ++ ['\x7d']))
  | object {ms : List (Option String × Tree)} {cs : List Char} (h : SpellsMembers ms cs) :
    Spells (.object ms) ('\x7b' :: (cs ++ ['\x7d']))

/-- At least one item, with white space around each. -/
inductive SpellsItems : List Tree → List Char → Prop where
  | one {x : Tree} {w cs v : List Char} (hw : IsBlank w) (hx : Spells x cs) (hv : IsBlank v) :
    SpellsItems [x] (w ++ (cs ++ v))
  | cons {x : Tree} {xs : List Tree} {w cs v ds : List Char} (hw : IsBlank w) (hx : Spells x cs)
    (hv : IsBlank v) (h : SpellsItems xs ds) :
    SpellsItems (x :: xs) (w ++ (cs ++ (v ++ ',' :: ds)))

/-- A member with its white space. -/
inductive SpellsMember : Option String × Tree → List Char → Prop where
  | mk {k : Option String} {x : Tree} {u ks v w cs z : List Char} (hu : IsBlank u)
    (hk : SpellsText k ks) (hv : IsBlank v) (hw : IsBlank w) (hx : Spells x cs) (hz : IsBlank z) :
    SpellsMember (k, x) (u ++ '"' :: (ks ++ '"' :: (v ++ ':' :: (w ++ (cs ++ z)))))

/-- At least one member. -/
inductive SpellsMembers : List (Option String × Tree) → List Char → Prop where
  | one {m : Option String × Tree} {cs : List Char} (hm : SpellsMember m cs) : SpellsMembers [m] cs
  | cons {m : Option String × Tree} {ms : List (Option String × Tree)} {cs ds : List Char}
    (hm : SpellsMember m cs) (h : SpellsMembers ms ds) : SpellsMembers (m :: ms) (cs ++ ',' :: ds)

end

/-- The text is the value, with white space around it. -/
def Writes (t : Tree) (raw : String) : Prop :=
  ∃ w cs v, raw.toList = w ++ (cs ++ v) ∧ IsBlank w ∧ Spells t cs ∧ IsBlank v

/-! ## White space -/

theorem skipSpace_append {w : List Char} (hw : IsBlank w) (cs : List Char) :
    skipSpace (w ++ cs) = skipSpace cs := List.dropWhile_append_of_pos hw

theorem skipSpace_cons {c : Char} (h : isSpace c = false) (cs : List Char) :
    skipSpace (c :: cs) = c :: cs := List.dropWhile_cons_of_neg (by simp [h])

theorem skipSpace_blank {w : List Char} (hw : IsBlank w) : skipSpace w = [] := by
  have := skipSpace_append hw []
  rwa [List.append_nil] at this

/-! ## Texts -/

theorem SpellsPiece.pieces {p : Piece} {cs r t : List Char} {ps : List Piece}
    (H : SpellsPiece p cs) (hr : pieces r = some (ps, t)) :
    Json.pieces (cs ++ r) = some (p :: ps, t) := by
  cases H with
  | @plain c hquote hescape hc =>
    rw [List.singleton_append, Json.pieces.eq_def]
    split <;> simp_all
  | letter h =>
    unfold escape? at h
    split at h
    case h_9 => cases h
    all_goals
      obtain rfl := Option.some.inj h
      simp [Json.pieces, escape?, hr]
  | unit ha hb hc hd => simp [Json.pieces, ha, hb, hc, hd, hr]

theorem SpellsPieces.pieces {ps : List Piece} {cs : List Char} (H : SpellsPieces ps cs)
    (r : List Char) : Json.pieces (cs ++ '"' :: r) = some (ps, r) := by
  induction H with
  | nil => simp [Json.pieces]
  | cons h _ ih =>
    rw [List.append_assoc]
    exact h.pieces ih

theorem SpellsText.textBody {s : Option String} {cs : List Char} (H : SpellsText s cs)
    (r : List Char) : textBody (cs ++ '"' :: r) = some (s, r) := by
  obtain ⟨ps, hps, rfl⟩ := H
  rw [Json.textBody, hps.pieces]
  rfl

/-! ## Numbers -/

/-- No digit comes first. -/
def EndsDigits (r : List Char) : Prop := ∀ c ∈ r.head?, isDigit c = false

/-- The characters do not continue a number that ends before them. -/
def EndsNumber (r : List Char) : Prop :=
  ∀ c ∈ r.head?, isDigit c = false ∧ c ≠ '.' ∧ c ≠ 'e' ∧ c ≠ 'E'

theorem EndsNumber.nil : EndsNumber [] := nofun

theorem EndsNumber.cons {c : Char} (h : isDigit c = false ∧ c ≠ '.' ∧ c ≠ 'e' ∧ c ≠ 'E')
    (r : List Char) : EndsNumber (c :: r) := by
  rintro _ ⟨⟩; exact h

/-- White space ends a number. -/
theorem EndsNumber.blank_append {w r : List Char} (hw : IsBlank w) (hr : EndsNumber r) :
    EndsNumber (w ++ r) := by
  cases w with
  | nil => exact hr
  | cons c w =>
    have hc : isSpace c = true := hw c List.mem_cons_self
    simp only [isSpace, Bool.or_eq_true, beq_iff_eq] at hc
    obtain ((rfl | rfl) | rfl) | rfl := hc <;> exact .cons (by decide) _

theorem digits?_append {ds r : List Char} (H : IsDigits ds) (hr : EndsDigits r) :
    digits? (ds ++ r) = some (ds, r) := by
  have htake : r.takeWhile isDigit = [] := by
    cases r with
    | nil => rfl
    | cons c r => rw [List.takeWhile_cons_of_neg]; simp [hr c rfl]
  have hdrop : r.dropWhile isDigit = r := by
    cases r with
    | nil => rfl
    | cons c r => rw [List.dropWhile_cons_of_neg]; simp [hr c rfl]
  rw [digits?, List.takeWhile_append_of_pos H.2, List.dropWhile_append_of_pos H.2, htake, hdrop,
    List.append_nil]
  cases ds with
  | nil => exact absurd rfl H.1
  | cons d ds => rfl

theorem IsWhole.whole? {ds r : List Char} (H : IsWhole ds) (hr : EndsDigits r) :
    whole? (ds ++ r) = some (ds, r) := by
  obtain rfl | ⟨hds, hhead⟩ := H
  · rfl
  · have hread := digits?_append hds hr
    cases ds with
    | nil => exact absurd rfl hds.1
    | cons d ds =>
      rw [List.cons_append] at hread ⊢
      rw [Json.whole?]
      · exact hread
      · rintro _ ⟨⟩; exact hhead rfl

theorem SpellsPower.power? {p : Option (Bool × List Char)} {cs r : List Char}
    (H : SpellsPower p cs) (hr : EndsNumber r) : power? (cs ++ r) = some (p, r) := by
  have hdigits : EndsDigits r := fun c hc => (hr c hc).1
  cases H with
  | absent =>
    cases r with
    | nil => rfl
    | cons c r =>
      obtain ⟨_, _, he, hE⟩ := hr c rfl
      simp [Json.power?, he, hE]
  | minus he h | plus he h =>
    obtain rfl | rfl := he <;> simp [Json.power?, digits?_append h hdigits]
  | @bare e ds he h =>
    have hread := digits?_append h hdigits
    cases ds with
    | nil => exact absurd rfl h.1
    | cons d ds =>
      have hd : isDigit d = true := h.2 d List.mem_cons_self
      have hminus : d ≠ '-' := by rintro rfl; cases hd
      have hplus : d ≠ '+' := by rintro rfl; cases hd
      rw [List.cons_append] at hread
      obtain rfl | rfl := he <;> simp [Json.power?, hread, hminus, hplus]

theorem SpellsPower.ends {p : Option (Bool × List Char)} {cs r : List Char} (H : SpellsPower p cs)
    (hr : EndsNumber r) : EndsDigits (cs ++ r) ∧ ∀ c ∈ (cs ++ r).head?, c ≠ '.' := by
  cases H with
  | absent => exact ⟨fun c hc => (hr c hc).1, fun c hc => (hr c hc).2.1⟩
  | minus he | plus he | bare he =>
    constructor
    all_goals
      rintro _ ⟨⟩
      obtain rfl | rfl := he <;> decide

theorem SpellsFraction.fraction? {f : Option (List Char)} {cs r : List Char}
    (H : SpellsFraction f cs) (hr : EndsDigits r ∧ ∀ c ∈ r.head?, c ≠ '.') :
    fraction? (cs ++ r) = some (f, r) := by
  cases H with
  | absent =>
    rw [List.nil_append, Json.fraction?.eq_def]
    split
    · exact absurd rfl (hr.2 '.' rfl)
    · rfl
  | digits h =>
    rw [List.cons_append, Json.fraction?, digits?_append h hr.1]
    rfl

theorem SpellsFraction.ends {f : Option (List Char)} {cs r : List Char} (H : SpellsFraction f cs)
    (hr : EndsDigits r) : EndsDigits (cs ++ r) := by
  cases H with
  | absent => exact hr
  | digits => rintro _ ⟨⟩; rfl

/-- The first digit before the point; a minus sign may only stand before it. -/
theorem IsWhole.head {ds : List Char} (H : IsWhole ds) : ∃ d ds', ds = d :: ds' ∧ isDigit d = true := by
  obtain rfl | ⟨hds, _⟩ := H
  · exact ⟨'0', [], rfl, rfl⟩
  · cases ds with
    | nil => exact absurd rfl hds.1
    | cons d ds => exact ⟨d, ds, rfl, hds.2 d List.mem_cons_self⟩

theorem SpellsNumeral.numeral? {n : Numeral} {cs r : List Char} (H : SpellsNumeral n cs)
    (hr : EndsNumber r) : numeral? (cs ++ r) = some (n, r) := by
  obtain @⟨negative, whole, fraction, power, fs, ps, hw, hf, hp⟩ := H
  have hpower := hp.power? hr
  have hfraction := hf.fraction? (hp.ends hr)
  have hwhole := hw.whole? (hf.ends (hp.ends hr).1)
  have hunsigned : unsigned? negative (whole ++ (fs ++ (ps ++ r))) =
      some (⟨negative, whole, fraction, power⟩, r) := by
    simp [unsigned?, hwhole, hfraction, hpower]
  rw [List.append_assoc, List.append_assoc, List.append_assoc]
  cases negative with
  | true => exact hunsigned
  | false =>
    obtain ⟨d, ds, rfl, hd⟩ := hw.head
    have hne : d ≠ '-' := by rintro rfl; cases hd
    change Json.numeral? (d :: (ds ++ (fs ++ (ps ++ r)))) = _
    rw [Json.numeral?.eq_def]
    split
    next heq => exact absurd (List.cons.inj heq).1 hne
    next => exact hunsigned

/-! ## Values -/

/-- A character at which a value begins: no white space and no closing bracket. -/
def IsStart (c : Char) : Prop := isSpace c = false ∧ c ≠ ']' ∧ c ≠ '\x7d'

theorem IsStart.of_isDigit {c : Char} (h : isDigit c = true) : IsStart c := by
  have hne : ∀ d, isDigit d = false → c ≠ d := by
    rintro d hd rfl; simp [hd] at h
  refine ⟨?_, hne _ rfl, hne _ rfl⟩
  simp [isSpace, hne ' ' rfl, hne '\t' rfl, hne '\n' rfl, hne '\r' rfl]

theorem SpellsNumeral.head {n : Numeral} {cs : List Char} (H : SpellsNumeral n cs) :
    ∃ c ds, cs = c :: ds ∧ (c = '-' ∨ isDigit c = true) := by
  obtain @⟨negative, whole, _, _, _, _, hw, _, _⟩ := H
  cases negative with
  | true => exact ⟨'-', _, rfl, .inl rfl⟩
  | false =>
    obtain ⟨d, ds, rfl, hd⟩ := hw.head
    exact ⟨d, _, rfl, .inr hd⟩

theorem Spells.head {t : Tree} {cs : List Char} (H : Spells t cs) :
    ∃ c ds, cs = c :: ds ∧ IsStart c := by
  cases H with
  | number h =>
    obtain ⟨c, ds, rfl, hc⟩ := h.head
    refine ⟨c, ds, rfl, ?_⟩
    obtain rfl | hc := hc
    · exact ⟨rfl, by decide, by decide⟩
    · exact .of_isDigit hc
  | _ => exact ⟨_, _, rfl, rfl, by decide, by decide⟩

/-- White space before a value is skipped, and no more. -/
theorem Spells.skipSpace {t : Tree} {cs : List Char} (H : Spells t cs) {w : List Char}
    (hw : IsBlank w) (r : List Char) : skipSpace (w ++ (cs ++ r)) = cs ++ r := by
  obtain ⟨c, ds, rfl, hc⟩ := H.head
  rw [skipSpace_append hw, List.cons_append, skipSpace_cons hc.1]

theorem SpellsNumeral.value? {n : Numeral} {cs : List Char} (H : SpellsNumeral n cs) (fuel : Nat)
    {r : List Char} (hr : EndsNumber r) : value? (fuel + 1) (cs ++ r) = some (.number n, r) := by
  obtain ⟨c, ds, rfl, hc⟩ := H.head
  have hread := H.numeral? hr
  rw [List.cons_append] at hread ⊢
  have hne : ∀ d, isDigit d = false → d ≠ '-' → c ≠ d := by
    rintro d hd hd' rfl
    obtain rfl | hc := hc
    · exact hd' rfl
    · simp [hd] at hc
  rw [Json.value?.eq_def]
  split
  · contradiction
  next heq =>
    obtain rfl := Nat.succ.inj heq
    split
    all_goals first
      | (next heq => exact absurd (List.cons.inj heq).1 (hne _ rfl (by decide)))
      | simp [hread]

/-- Behind white space the items begin as the first of them does. -/
theorem SpellsItems.head {xs : List Tree} {cs : List Char} (H : SpellsItems xs cs) (r : List Char) :
    ∃ c ds, Json.skipSpace (cs ++ r) = c :: ds ∧ IsStart c := by
  have hstart : ∀ {x w cs v}, IsBlank w → Spells x cs →
      ∃ c ds, Json.skipSpace (w ++ (cs ++ v) ++ r) = c :: ds ∧ IsStart c := by
    intro x w cs v hw hx
    obtain ⟨c, ds, rfl, hc⟩ := hx.head
    refine ⟨c, ds ++ (v ++ r), ?_, hc⟩
    rw [List.append_assoc, skipSpace_append hw, List.append_assoc, List.cons_append,
      skipSpace_cons hc.1]
  cases H with
  | one hw hx => exact hstart hw hx
  | cons hw hx => exact hstart hw hx

theorem SpellsMember.head {m : Option String × Tree} {cs : List Char} (H : SpellsMember m cs)
    (r : List Char) : ∃ ds, Json.skipSpace (cs ++ r) = '"' :: ds := by
  obtain @⟨_, _, _, _, _, _, _, _, hu, _, _, _, _, _⟩ := H
  exact ⟨_, by rw [List.append_assoc, skipSpace_append hu]; rfl⟩

theorem SpellsMembers.head {ms : List (Option String × Tree)} {cs : List Char}
    (H : SpellsMembers ms cs) (r : List Char) : ∃ ds, Json.skipSpace (cs ++ r) = '"' :: ds := by
  cases H with
  | one hm => exact hm.head r
  | cons hm =>
    rw [List.append_assoc]
    exact hm.head _

/-! Each level of the grammar takes one unit of fuel, and of the levels of a value two share a
character at most; so twice the length is enough. Between brackets the closing one counts too. -/

mutual

theorem Spells.value? {t : Tree} {cs : List Char} (H : Spells t cs) {n : Nat} {r : List Char}
    (hf : 2 * cs.length ≤ n) (hr : EndsNumber r) : Json.value? n (cs ++ r) = some (t, r) := by
  obtain ⟨fuel, rfl⟩ : ∃ fuel, n = fuel + 1 := by
    obtain ⟨c, ds, rfl, _⟩ := H.head
    exact ⟨n - 1, by simp at hf; omega⟩
  cases H with
  | null | true | false => simp [Json.value?]
  | number h => exact h.value? fuel hr
  | text h => simp [Json.value?, h.textBody]
  | @noItems w hw =>
    have hskip : Json.skipSpace (w ++ ']' :: r) = ']' :: r := by
      rw [skipSpace_append hw, skipSpace_cons rfl]
    simp [Json.value?, hskip]
  | @noMembers w hw =>
    have hskip : Json.skipSpace (w ++ '\x7d' :: r) = '\x7d' :: r := by
      rw [skipSpace_append hw, skipSpace_cons rfl]
    simp [Json.value?, hskip]
  | @array xs cs h =>
    obtain ⟨c, ds, hskip, hc⟩ := h.head (']' :: r)
    have hread := h.items? (r := r) (n := fuel) (by simp at hf; omega)
    simp only [hskip] at hread
    simp only [Json.value?, List.cons_append, List.append_assoc, List.nil_append, hskip]
    split
    next heq => exact absurd (List.cons.inj heq).1 hc.2.1
    next => rw [hread]; rfl
  | @object ms cs h =>
    obtain ⟨ds, hskip⟩ := h.head ('\x7d' :: r)
    have hread := h.members? (r := r) (n := fuel) (by simp at hf; omega)
    simp only [hskip] at hread
    simp [Json.value?, hskip, hread]

theorem SpellsItems.items? {xs : List Tree} {cs : List Char} (H : SpellsItems xs cs) {n : Nat}
    {r : List Char} (hf : 2 * (cs.length + 1) ≤ n) :
    Json.items? n (Json.skipSpace (cs ++ ']' :: r)) = some (xs, r) := by
  obtain ⟨fuel, rfl⟩ : ∃ fuel, n = fuel + 1 := ⟨n - 1, by omega⟩
  cases H with
  | @one x w cs v hw hx hv =>
    have hread := hx.value? (n := fuel) (by simp at hf; omega)
      (.blank_append hv (.cons (by decide) r) : EndsNumber (v ++ ']' :: r))
    rw [List.append_assoc, List.append_assoc, hx.skipSpace hw, Json.items?, hread]
    simp only [skipSpace_append hv, skipSpace_cons (c := ']') rfl]
  | @cons x xs w cs v ds hw hx hv h =>
    have hread := hx.value? (n := fuel) (by simp at hf; omega)
      (.blank_append hv (.cons (by decide) _) : EndsNumber (v ++ ',' :: (ds ++ ']' :: r)))
    have hrest := h.items? (r := r) (n := fuel) (by simp at hf; omega)
    simp only [List.append_assoc, List.cons_append]
    rw [hx.skipSpace hw, Json.items?, hread]
    simp only [skipSpace_append hv, skipSpace_cons (c := ',') rfl, hrest, Option.map_some]

theorem SpellsMembers.members? {ms : List (Option String × Tree)} {cs : List Char}
    (H : SpellsMembers ms cs) {n : Nat} {r : List Char} (hf : 2 * (cs.length + 1) ≤ n) :
    Json.members? n (Json.skipSpace (cs ++ '\x7d' :: r)) = some (ms, r) := by
  obtain ⟨fuel, rfl⟩ : ∃ fuel, n = fuel + 1 := ⟨n - 1, by omega⟩
  have hcolon : ∀ cs, Json.skipSpace (':' :: cs) = ':' :: cs := fun _ => rfl
  cases H with
  | one hm =>
    obtain @⟨k, x, u, ks, v, w, cs, z, hu, hk, hv, hw, hx, hz⟩ := hm
    have hread := hx.value? (n := fuel) (by simp at hf; omega)
      (.blank_append hz (.cons (by decide) r) : EndsNumber (z ++ '\x7d' :: r))
    simp only [List.append_assoc, List.cons_append]
    rw [skipSpace_append hu, skipSpace_cons rfl]
    simp only [Json.members?, hk.textBody, skipSpace_append hv, hcolon, hx.skipSpace hw, hread,
      skipSpace_append hz, skipSpace_cons (c := '\x7d') rfl]
  | @cons _ ms _ ds hm h =>
    obtain @⟨k, x, u, ks, v, w, cs, z, hu, hk, hv, hw, hx, hz⟩ := hm
    have hread := hx.value? (n := fuel) (by simp at hf; omega)
      (.blank_append hz (.cons (by decide) _) : EndsNumber (z ++ ',' :: (ds ++ '\x7d' :: r)))
    have hrest := h.members? (r := r) (n := fuel) (by simp at hf; omega)
    simp only [List.append_assoc, List.cons_append]
    rw [skipSpace_append hu, skipSpace_cons rfl]
    simp only [Json.members?, hk.textBody, skipSpace_append hv, hcolon, hx.skipSpace hw, hread,
      skipSpace_append hz, skipSpace_cons (c := ',') rfl, hrest, Option.map_some]

end

/-- The reader takes every spelling of a tree, with white space around it, and finds that tree. -/
theorem Writes.read?_eq {t : Tree} {raw : String} (H : Writes t raw) : Tree.read? raw = some t := by
  obtain ⟨w, cs, v, hraw, hw, hs, hv⟩ := H
  have hread := hs.value? (n := fuelFor (w ++ (cs ++ v))) (by simp [fuelFor]; omega)
    (EndsNumber.blank_append hv .nil)
  rw [List.append_nil] at hread
  rw [Tree.read?, Tree.ofChars?, hraw, hs.skipSpace hw, hread]
  simp [skipSpace_blank hv]

end SessionKeeper.Json
