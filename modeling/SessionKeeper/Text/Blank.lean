/-! # White space

The Unicode property White_Space and the removal of white space at both ends of a text. The zero-width
space and the byte order mark are not white space; the next-line control and the no-break space are.

The main statement: white space put around a text does not change what trimming leaves
(`trimChars_surround`). -/

namespace SessionKeeper.Text

/-- The ranges of the property White_Space, in ascending order. -/
def blankRanges : List (Nat × Nat) := [
  (0x9, 0xd), (0x20, 0x20), (0x85, 0x85), (0xa0, 0xa0), (0x1680, 0x1680), (0x2000, 0x200a),
  (0x2028, 0x2029), (0x202f, 0x202f), (0x205f, 0x205f), (0x3000, 0x3000)]

/-- Whether a code point lies in one of the ranges. -/
def inRanges (ranges : List (Nat × Nat)) (n : Nat) : Bool :=
  ranges.any fun r => r.1 ≤ n && n ≤ r.2

/-- The character has the property White_Space. -/
def isBlank (c : Char) : Bool := inRanges blankRanges c.toNat

/-- The characters from the first one on that is not white space. -/
def trimStart (cs : List Char) : List Char := cs.dropWhile isBlank

/-- The characters up to the last one that is not white space. -/
def trimEnd (cs : List Char) : List Char := (cs.reverse.dropWhile isBlank).reverse

/-- The characters without the white space at either end. -/
def trimChars (cs : List Char) : List Char := trimEnd (trimStart cs)

/-- The text without the white space at either end. -/
def trim (s : String) : String := String.ofList (trimChars s.toList)

/-- The trimmed text, or nothing if the text is blank. -/
def nonBlank? (s : String) : Option String :=
  let t := trim s
  if t.isEmpty then none else some t

/-- The text without the trailing characters that satisfy `p`. -/
def dropTrailing (p : Char → Bool) (cs : List Char) : List Char :=
  (cs.reverse.dropWhile p).reverse

theorem dropTrailing_append (p : Char → Bool) (xs ys : List Char) :
    dropTrailing p (xs ++ ys) =
      if (dropTrailing p ys).isEmpty then dropTrailing p xs else xs ++ dropTrailing p ys := by
  simp only [dropTrailing, List.reverse_append, List.dropWhile_append, List.isEmpty_reverse]
  split
  next => rfl
  next => rw [List.reverse_append, List.reverse_reverse]

theorem dropTrailing_eq_nil (H : ∀ c ∈ cs, p c) : dropTrailing p cs = [] := by
  have H' : ∀ c ∈ cs.reverse, p c := by simpa using H
  have hdrop : (cs.reverse ++ []).dropWhile p = [] := List.dropWhile_append_of_pos H'
  simpa [dropTrailing] using hdrop

theorem dropTrailing_append_of_all (H : ∀ c ∈ ys, p c) (xs : List Char) :
    dropTrailing p (xs ++ ys) = dropTrailing p xs := by
  rw [dropTrailing_append, dropTrailing_eq_nil H, List.isEmpty_nil, if_pos rfl]

/-- A character that does not go keeps all before it. -/
theorem dropTrailing_append_cons (h : p c = false) (xs ys : List Char) :
    dropTrailing p (xs ++ c :: ys) = xs ++ c :: dropTrailing p ys := by
  have hsingle : dropTrailing p [c] = [c] := by simp [dropTrailing, h]
  have hcons : dropTrailing p (c :: ys) = c :: dropTrailing p ys := by
    rw [← List.singleton_append, dropTrailing_append]
    split
    next hnil => rw [hsingle, List.isEmpty_iff.1 hnil]
    next => rfl
  rw [dropTrailing_append, hcons, List.isEmpty_cons, if_neg Bool.false_ne_true]

/-- What ends in a character that does not go stays as it is. -/
theorem dropTrailing_concat (h : p c = false) (cs : List Char) :
    dropTrailing p (cs ++ [c]) = cs ++ [c] := dropTrailing_append_cons h cs []

theorem getLast?_dropTrailing (h : (dropTrailing p cs).getLast? = some c) : p c = false := by
  rw [dropTrailing, List.getLast?_reverse] at h
  simpa [h] using List.head?_dropWhile_not p cs.reverse

theorem dropTrailing_split (p : Char → Bool) (cs : List Char) :
    ∃ post, (∀ c ∈ post, p c) ∧ cs = dropTrailing p cs ++ post := by
  refine ⟨(cs.reverse.takeWhile p).reverse, fun c hc => ?_, ?_⟩
  · exact List.all_eq_true.1 List.all_takeWhile c (List.mem_reverse.1 hc)
  · rw [dropTrailing, ← List.reverse_append, List.takeWhile_append_dropWhile, List.reverse_reverse]

theorem dropTrailing_eq_self (H : ∀ c ∈ cs, p c = false) : dropTrailing p cs = cs := by
  obtain ⟨post, hpost, hcs⟩ := dropTrailing_split p cs
  cases post with
  | nil => exact (hcs.trans (List.append_nil _)).symm
  | cons c post =>
    have hc : c ∈ cs := by
      rw [hcs]
      exact List.mem_append_right _ List.mem_cons_self
    cases (H c hc).symm.trans (hpost c List.mem_cons_self)

theorem dropTrailing_split_beq (a : Char) (cs : List Char) :
    ∃ n, cs = dropTrailing (· == a) cs ++ List.replicate n a := by
  obtain ⟨post, hpost, hcs⟩ := dropTrailing_split (· == a) cs
  have hreplicate : post = List.replicate post.length a :=
    List.eq_replicate_of_mem fun c hc => by simpa using hpost c hc
  exact ⟨post.length, hreplicate ▸ hcs⟩

theorem trimStart_append (H : ∀ c ∈ xs, isBlank c) : trimStart (xs ++ ys) = trimStart ys := by
  induction xs with
  | nil => rfl
  | cons x xs ih =>
    simp only [List.mem_cons, forall_eq_or_imp] at H
    simp [trimStart, H.1] at ih ⊢
    exact ih H.2

theorem trimEnd_append (H : ∀ c ∈ ys, isBlank c) : trimEnd (xs ++ ys) = trimEnd xs :=
  dropTrailing_append_of_all H xs

theorem trimStart_eq_nil (H : ∀ c ∈ xs, isBlank c) : trimStart xs = [] := by
  have : trimStart (xs ++ []) = trimStart [] := trimStart_append H
  simpa [trimStart] using this

theorem trimStart_split (cs : List Char) :
    ∃ pre, (∀ c ∈ pre, isBlank c) ∧ cs = pre ++ trimStart cs :=
  ⟨cs.takeWhile isBlank, fun _ h => List.all_eq_true.1 List.all_takeWhile _ h,
    (List.takeWhile_append_dropWhile ..).symm⟩

/-- White space around the text is invisible to trimming. -/
theorem trimChars_surround (hx : ∀ c ∈ xs, isBlank c) (hy : ∀ c ∈ ys, isBlank c) :
    trimChars (xs ++ (cs ++ ys)) = trimChars cs := by
  rw [trimChars, trimStart_append hx, trimChars]
  by_cases h : ∀ c ∈ cs, isBlank c
  · rw [trimStart_append h, trimStart_eq_nil hy, trimStart_eq_nil h]
  · have hne : trimStart cs ≠ [] := fun e => by
      obtain ⟨pre, hp, hc⟩ := trimStart_split cs
      exact h fun c hm => hp c (by rw [e] at hc; simpa [hc] using hm)
    have : trimStart (cs ++ ys) = trimStart cs ++ ys := by
      simp only [trimStart, List.dropWhile_append]
      rw [if_neg (by simpa [trimStart] using hne)]
    rw [this, trimEnd_append hy]

theorem trimEnd_split (cs : List Char) :
    ∃ post, (∀ c ∈ post, isBlank c) ∧ cs = trimEnd cs ++ post :=
  dropTrailing_split isBlank cs

theorem trimChars_split (cs : List Char) :
    ∃ pre post, (∀ c ∈ pre, isBlank c) ∧ (∀ c ∈ post, isBlank c) ∧
      cs = pre ++ (trimChars cs ++ post) := by
  obtain ⟨pre, hpre, hcs⟩ := trimStart_split cs
  obtain ⟨post, hpost, hrest⟩ := trimEnd_split (trimStart cs)
  exact ⟨pre, post, hpre, hpost, hcs.trans (congrArg (pre ++ ·) hrest)⟩

/-- What is trimmed already stays as it is. -/
theorem trimChars_trimChars (cs : List Char) : trimChars (trimChars cs) = trimChars cs := by
  obtain ⟨pre, post, hpre, hpost, hcs⟩ := trimChars_split cs
  have hsurround : trimChars (pre ++ (trimChars cs ++ post)) = trimChars (trimChars cs) :=
    trimChars_surround hpre hpost
  rw [← hcs] at hsurround
  exact hsurround.symm

theorem trimChars_eq_self (H : ∀ c ∈ cs, isBlank c = false) : trimChars cs = cs := by
  have hstart : trimStart cs = cs := by
    cases cs with
    | nil => rfl
    | cons c cs => exact List.dropWhile_cons_of_neg (by simp [H c List.mem_cons_self])
  rw [trimChars, hstart]
  exact dropTrailing_eq_self H

end SessionKeeper.Text
