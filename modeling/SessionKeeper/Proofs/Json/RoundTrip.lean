import SessionKeeper.Json.Printer
import SessionKeeper.Proofs.Json.Grammar

/-!
# Reading back what is printed

The compact form of a value without doubles is a spelling of its syntax tree `Json.tree?`
(`spells_chars`), and the form of a dictionary spread over lines is one of the object of its entries
(`writes_prettyDictionary`), so the reader finds these trees in them. The parts come first: texts
with their escapes, decimal digits, numbers.
-/

namespace SessionKeeper.Json

/-! ## Texts -/

theorem hexDigit?_hexChar {n : Nat} (h : n < 16) : hexDigit? (hexChar n) = some n := by
  revert n; decide

/-- A character reads as itself, or as the unit of its code if it is written as one. -/
def IsPieceOf (c : Char) (p : Piece) : Prop :=
  p = .char c ∨ p = .unit c.toNat ∧ c.toNat < 0x20

theorem spellsPiece_escapeChar (c : Char) : ∃ p, IsPieceOf c p ∧ SpellsPiece p (escapeChar c) := by
  unfold escapeChar
  split
  case h_8 hquote hescape _ _ _ _ _ =>
    split
    next hc =>
      refine ⟨.unit c.toNat, .inr ⟨rfl, hc⟩, ?_⟩
      have hhigh : hexDigit? (hexChar (c.toNat / 16)) = _ := hexDigit?_hexChar (by omega)
      have hlow : hexDigit? (hexChar (c.toNat % 16)) = _ := hexDigit?_hexChar (by omega)
      have h0 : hexDigit? '0' = some 0 := rfl
      have H := SpellsPiece.unit h0 h0 hhigh hlow
      rwa [show ((0 * 16 + 0) * 16 + c.toNat / 16) * 16 + c.toNat % 16 = c.toNat by omega] at H
    next hc => exact ⟨.char c, .inl rfl, .plain hquote hescape (by omega)⟩
  all_goals exact ⟨_, .inl rfl, .letter rfl⟩

theorem joinPieces_cons {c : Char} {p : Piece} (H : IsPieceOf c p) (ps : List Piece) :
    joinPieces (p :: ps) = (joinPieces ps).map (c :: ·) := by
  obtain rfl | ⟨rfl, hc⟩ := H
  · rw [joinPieces]
  · have hhigh : isHighSurrogate c.toNat = false := by simp [isHighSurrogate]; omega
    have hlow : isLowSurrogate c.toNat = false := by simp [isLowSurrogate]; omega
    match ps with
    | [] | .char d :: ps => simp [joinPieces, hhigh, hlow, Char.ofNat_toNat]
    | .unit m :: ps => rw [joinPieces]; simp [hhigh, hlow, Char.ofNat_toNat]

theorem spellsPieces_escaped (cs : List Char) :
    ∃ ps, SpellsPieces ps (cs.flatMap escapeChar) ∧ joinPieces ps = some cs := by
  induction cs with
  | nil => exact ⟨[], .nil, rfl⟩
  | cons c cs ih =>
    obtain ⟨ps, hps, hjoin⟩ := ih
    obtain ⟨p, hp, hc⟩ := spellsPiece_escapeChar c
    exact ⟨p :: ps, .cons hc hps, by rw [joinPieces_cons hp, hjoin]; rfl⟩

theorem spellsText_escaped (s : String) : SpellsText (some s) (s.toList.flatMap escapeChar) := by
  obtain ⟨ps, hps, hjoin⟩ := spellsPieces_escaped s.toList
  exact ⟨ps, hps, by simp [hjoin]⟩

/-- A written text, between its quotes, is a spelling of itself. -/
theorem spells_textChars (s : String) : Spells (.text (some s)) (textChars s) :=
  .text (spellsText_escaped s)

/-! ## Numbers -/

theorem isDigit_of_mem_toDigits {n : Nat} {c : Char} (h : c ∈ Nat.toDigits 10 n) :
    isDigit c = true := by
  have := Nat.isDigit_of_mem_toDigits (by decide) (by decide) h
  simpa [isDigit, Char.isDigit, Char.le_def] using this

/-- The decimal notation of a positive number does not begin with a zero. -/
theorem toDigits_head_ne_zero {n : Nat} (h : 0 < n) :
    ∃ d ds, Nat.toDigits 10 n = d :: ds ∧ d ≠ '0' := by
  induction n using Nat.base_induction 10 (by decide) with
  | single m hm =>
    refine ⟨_, [], Nat.toDigits_of_lt_base hm, ?_⟩
    revert m; decide
  | digit m k hk hm ih =>
    obtain ⟨d, ds, hd, hne⟩ := ih hm
    rw [← Nat.toDigits_append_toDigits (by decide) hm hk, hd]
    exact ⟨d, _, rfl, hne⟩

theorem isWhole_toDigits (n : Nat) : IsWhole (Nat.toDigits 10 n) := by
  rcases Nat.eq_zero_or_pos n with rfl | hn
  · exact .inl (Nat.toDigits_zero 10)
  · obtain ⟨d, ds, hd, hne⟩ := toDigits_head_ne_zero hn
    refine .inr ⟨⟨Nat.toDigits_ne_nil, fun _ => isDigit_of_mem_toDigits⟩, ?_⟩
    simpa [hd] using hne

/-- An integer as it is written. -/
def numeralOf (n : Int) : Numeral := ⟨n < 0, Nat.toDigits 10 n.natAbs, none, none⟩

theorem spellsNumeral_intChars (n : Int) : SpellsNumeral (numeralOf n) (intChars n) := by
  have H : SpellsNumeral (numeralOf n) _ := .mk (isWhole_toDigits n.natAbs) .absent .absent
  rw [intChars]
  split
  next h => simpa [h] using H
  next h => simpa [h] using H

theorem digitsValue_toDigits (n : Nat) : digitsValue (Nat.toDigits 10 n) = n := by
  have : digitsValue (Nat.toDigits 10 n) = Nat.ofDigitChars 10 (Nat.toDigits 10 n) 0 := by
    simp [digitsValue, Nat.ofDigitChars_eq_foldl, Nat.mul_comm]
  rw [this, Nat.ofDigitChars_ten_toDigits]

/-- An integer of 64 bits, with or without a sign, has the value it was written for. -/
theorem value?_numeralOf {n : Int} (hlow : -(UInt64.size / 2 : Nat) ≤ n) (hhigh : n < UInt64.size) :
    (numeralOf n).value? = some (.int n) := by
  have hsize : UInt64.size = 18446744073709551616 := rfl
  simp only [hsize] at hlow hhigh
  simp only [Numeral.value?, numeralOf, digitsValue_toDigits, hsize]
  by_cases h : n < 0
  · have habs : -(n.natAbs : Int) = n := by omega
    rw [if_neg (by simp [h]), if_pos (by simp [h]; omega), habs]
  · have habs : (n.natAbs : Int) = n := by omega
    rw [if_pos (by simp [h]; omega), habs]

/-! ## Values -/

mutual

/-- The syntax tree of the compact form of a value, if no double is in it. -/
def tree? : Json → Option Tree
  | .null => some .null
  | .bool b => some (.bool b)
  | .int n => some (.number (numeralOf n))
  | .float _ => none
  | .text s => some (.text (some s))
  | .array xs => (itemTrees? xs).map .array
  | .object ms => (memberTrees? ms).map .object

/-- The trees of the items. -/
def itemTrees? : List Json → Option (List Tree)
  | [] => some []
  | x :: xs => do return (← x.tree?) :: (← itemTrees? xs)

/-- The members with their trees. -/
def memberTrees? : List (String × Json) → Option (List (Option String × Tree))
  | [] => some []
  | (k, x) :: ms => do return (some k, ← x.tree?) :: (← memberTrees? ms)

end

theorem itemTrees?_cons {x : Json} {xs : List Json} {ts : List Tree}
    (h : itemTrees? (x :: xs) = some ts) :
    ∃ t ts', ts = t :: ts' ∧ x.tree? = some t ∧ itemTrees? xs = some ts' := by
  simp only [itemTrees?, Option.bind_eq_bind, Option.bind_eq_some_iff] at h
  obtain ⟨t, ht, ts', hts, h⟩ := h
  exact ⟨t, ts', (Option.some.inj h).symm, ht, hts⟩

theorem memberTrees?_cons {k : String} {x : Json} {ms : List (String × Json)}
    {ts : List (Option String × Tree)} (h : memberTrees? ((k, x) :: ms) = some ts) :
    ∃ t ts', ts = (some k, t) :: ts' ∧ x.tree? = some t ∧ memberTrees? ms = some ts' := by
  simp only [memberTrees?, Option.bind_eq_bind, Option.bind_eq_some_iff] at h
  obtain ⟨t, ht, ts', hts, h⟩ := h
  exact ⟨t, ts', (Option.some.inj h).symm, ht, hts⟩

theorem IsBlank.nil : IsBlank [] := nofun

theorem spellsItem_compact {t : Tree} {cs : List Char} (H : Spells t cs) : SpellsItems [t] cs := by
  simpa using SpellsItems.one .nil H .nil

/-- A member without white space. -/
theorem spellsMember_compact {k : String} {t : Tree} {cs : List Char} (H : Spells t cs) :
    SpellsMember (some k, t) (textChars k ++ ':' :: cs) := by
  simpa [textChars] using SpellsMember.mk .nil (spellsText_escaped k) .nil .nil H .nil

/-! The rest of an array, and of an object, is printed with the bracket that closes it. -/

mutual

theorem spells_chars : ∀ (v : Json) {t : Tree}, v.tree? = some t → Spells t v.chars
  | .null, _, ht => by cases ht; exact .null
  | .bool true, _, ht => by cases ht; exact .true
  | .bool false, _, ht => by cases ht; exact .false
  | .int n, _, ht => by cases ht; exact .number (spellsNumeral_intChars n)
  | .text s, _, ht => by cases ht; exact spells_textChars s
  | .array [], _, ht => by cases ht; exact .noItems .nil
  | .object [], _, ht => by cases ht; exact .noMembers .nil
  | .array (x :: xs), _, ht => by
    obtain ⟨ts, hts, rfl⟩ := Option.map_eq_some_iff.1 ht
    obtain ⟨t, us, rfl, hx, hxs⟩ := itemTrees?_cons hts
    obtain ⟨cs, hcs, H⟩ := spells_itemChars xs hxs (spells_chars x hx)
    rw [chars, hcs]
    exact .array H
  | .object ((k, x) :: ms), _, ht => by
    obtain ⟨ts, hts, rfl⟩ := Option.map_eq_some_iff.1 ht
    obtain ⟨t, us, rfl, hx, hms⟩ := memberTrees?_cons hts
    obtain ⟨cs, hcs, H⟩ := spells_memberChars ms hms (spellsMember_compact (spells_chars x hx))
    rw [List.append_assoc, List.cons_append] at hcs
    rw [chars, hcs]
    exact .object H

theorem spells_itemChars : ∀ (xs : List Json) {ts : List Tree} {t : Tree} {ds : List Char},
    itemTrees? xs = some ts → Spells t ds →
      ∃ cs, ds ++ itemChars xs = cs ++ [']'] ∧ SpellsItems (t :: ts) cs
  | [], _, _, ds, ht, H => by cases ht; exact ⟨ds, rfl, spellsItem_compact H⟩
  | x :: xs, _, _, ds, ht, H => by
    obtain ⟨t, ts, rfl, hx, hxs⟩ := itemTrees?_cons ht
    obtain ⟨cs, hcs, Hs⟩ := spells_itemChars xs hxs (spells_chars x hx)
    refine ⟨ds ++ ',' :: cs, by rw [itemChars, hcs]; simp, ?_⟩
    simpa using SpellsItems.cons .nil H .nil Hs

theorem spells_memberChars : ∀ (ms : List (String × Json)) {ts : List (Option String × Tree)}
    {m : Option String × Tree} {ds : List Char}, memberTrees? ms = some ts → SpellsMember m ds →
      ∃ cs, ds ++ memberChars ms = cs ++ ['\x7d'] ∧ SpellsMembers (m :: ts) cs
  | [], _, _, ds, ht, H => by cases ht; exact ⟨ds, rfl, .one H⟩
  | (k, x) :: ms, _, _, ds, ht, H => by
    obtain ⟨t, ts, rfl, hx, hms⟩ := memberTrees?_cons ht
    obtain ⟨cs, hcs, Hs⟩ := spells_memberChars ms hms (spellsMember_compact (spells_chars x hx))
    rw [List.append_assoc, List.cons_append] at hcs
    exact ⟨ds ++ ',' :: cs, by rw [memberChars, hcs]; simp, .cons H Hs⟩

end

theorem Writes.of_spells {t : Tree} {cs : List Char} (H : Spells t cs) :
    Writes t (String.ofList cs) :=
  ⟨[], cs, [], by simp, .nil, H, .nil⟩

/-- The compact text of a value without doubles is written as the tree of that value. -/
theorem writes_compact {v : Json} {t : Tree} (h : v.tree? = some t) : Writes t v.compact :=
  .of_spells (spells_chars v h)

/-- The compact text of a value without doubles has the tree of that value. -/
theorem read?_compact {v : Json} {t : Tree} (h : v.tree? = some t) : Tree.read? v.compact = some t :=
  (writes_compact h).read?_eq

/-! ## Dictionaries over lines -/

/-- An entry behind the end of a line, with the indentation of two spaces. -/
theorem spellsMember_line (k v : String) {z : List Char} (hz : IsBlank z) :
    SpellsMember (some k, .text (some v))
      ('\n' :: ' ' :: ' ' :: (textChars k ++ ':' :: ' ' :: (textChars v ++ z))) := by
  have hindent : IsBlank ['\n', ' ', ' '] := by simp [IsBlank, isSpace]
  have hspace : IsBlank [' '] := by simp [IsBlank, isSpace]
  simpa [textChars] using
    SpellsMember.mk hindent (spellsText_escaped k) .nil hspace (spells_textChars v) hz

theorem spellsMembers_lines (e : String × String) (es : List (String × String)) :
    SpellsMembers ((e :: es).map fun e => (some e.1, .text (some e.2)))
      ('\n' :: ([',', '\n'].intercalate ((e :: es).map fun e =>
        ' ' :: ' ' :: (textChars e.1 ++ ':' :: ' ' :: textChars e.2)) ++ ['\n'])) := by
  have hbreak : IsBlank ['\n'] := by simp [IsBlank, isSpace]
  induction es generalizing e with
  | nil => simpa [List.intercalate] using SpellsMembers.one (spellsMember_line e.1 e.2 hbreak)
  | cons d es ih =>
    have H := SpellsMembers.cons (spellsMember_line e.1 e.2 .nil) (ih d)
    simpa [List.intercalate, List.intersperse] using H

theorem writes_prettyDictionary (d : Dictionary String) :
    Writes (.object (d.toList.map fun e => (some e.1, .text (some e.2)))) (prettyDictionary d) := by
  rw [prettyDictionary]
  split
  next h => rw [h]; exact .of_spells (.noMembers .nil)
  next h =>
    cases hd : d.toList with
    | nil => exact absurd hd h
    | cons e es =>
      have H := Spells.object (spellsMembers_lines e es)
      exact .of_spells (by simpa using H)

end SessionKeeper.Json
