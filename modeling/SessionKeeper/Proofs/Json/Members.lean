import Mathlib.Data.List.Forall2
import Mathlib.Data.List.Nodup
import Mathlib.Data.List.Pairwise
import SessionKeeper.Json.Decode
import SessionKeeper.Json.Value

/-!
# Records in any order

What a record says does not depend on how its object is laid out. A `Slot` holds the value of one
field, `Presents` says that the members of an object give every field once or leave out a default,
among members under other names. Such an object passes a layout that the slots fit, and what is
looked up under the name of a field is what its slot holds (`Layout.read_presented`).
-/

namespace SessionKeeper.Json

/-- A field of a record: the names it goes by, its value, and the value it has if it is left out. -/
structure Slot where
  names : List String
  value : Json
  default? : Option Json

/-- The member has one of the names of the field. -/
def Slot.takes (s : Slot) (m : Option String × Tree) : Bool := m.1.any s.names.contains

/-- The tree has the value of the field, or there is none and the value is the default. -/
def Slot.Shown (s : Slot) (found : Option Tree) : Prop :=
  (∃ t, found = some t ∧ t.evaluate? = some s.value) ∨ found = none ∧ s.default? = some s.value

/-- At most one member has a name of the field, and it shows the value. -/
def Slot.Filled (s : Slot) (ms : List (Option String × Tree)) : Prop :=
  (ms.filter s.takes).length ≤ 1 ∧ s.Shown ((ms.filter s.takes).head?.map (·.2))

/-- The object has each field, or leaves it out for its default; what the other members are does not
matter, so long as their names are well-formed. -/
structure Presents (ss : List Slot) (ms : List (Option String × Tree)) : Prop where
  named : ∀ m ∈ ms, ∃ k, m.1 = some k
  filled : ∀ s ∈ ss, s.Filled ms

/-! ## The fields that are read -/

theorem lookupKey_append (k : String) (es es' : List (String × α)) :
    lookupKey k (es ++ es') = (lookupKey k es).or (lookupKey k es') := by
  induction es with
  | nil => simp [lookupKey]
  | cons e es ih =>
    simp only [List.cons_append, lookupKey, ih]
    split <;> rfl

/-- The names that a field goes by. -/
def Field.names (f : Field) : List String := f.name :: f.aliases

/-- No name is that of two fields. -/
def Layout.IsDistinct (l : Layout) : Prop := (l.fields.flatMap Field.names).Nodup

theorem Field.answersTo_iff {f : Field} {k : String} : f.answersTo k = true ↔ k ∈ f.names := by
  simp [answersTo, names, eq_comm (a := f.name)]

@[simp] theorem Field.name_required (name : String) (dec : Decoder α) :
    (Field.required name dec).name = name := rfl

@[simp] theorem Field.name_defaulted (name : String) (dec : Decoder α) (aliases : List String) :
    (Field.defaulted name dec aliases).name = name := rfl

@[simp] theorem Field.name_omissible (name : String) (dec : Decoder α) :
    (Field.omissible name dec).name = name := rfl

theorem Field.answersTo_name (f : Field) : f.answersTo f.name = true := by simp [answersTo]

theorem Layout.IsDistinct.eq {l : Layout} (H : l.IsDistinct) {f g : Field} (hf : f ∈ l.fields)
    (hg : g ∈ l.fields) {k : String} (hfk : f.answersTo k = true) (hgk : g.answersTo k = true) :
    f = g := by
  by_contra hne
  have : Std.Symm (Function.onFun List.Disjoint Field.names) := ⟨fun _ _ h _ ha hb => h hb ha⟩
  have hdisjoint := ((List.nodup_flatMap.1 H).2.forall hf hg hne : f.names.Disjoint g.names)
  exact hdisjoint (Field.answersTo_iff.1 hfk) (Field.answersTo_iff.1 hgk)

/-- The members that have a name of the field. -/
def Field.among (f : Field) (ms : List (Option String × Tree)) : List (Option String × Tree) :=
  ms.filter fun m => m.1.any f.answersTo

theorem Field.among_cons_of_pos {f : Field} {k : String} (h : f.answersTo k = true) (t : Tree)
    (ms : List (Option String × Tree)) : f.among ((some k, t) :: ms) = (some k, t) :: f.among ms :=
  List.filter_cons_of_pos h

theorem Field.among_cons_of_neg {f : Field} {k : String} (h : ¬f.answersTo k = true) (t : Tree)
    (ms : List (Option String × Tree)) : f.among ((some k, t) :: ms) = f.among ms :=
  List.filter_cons_of_neg h

/-- The members can be read after what has been seen: each field comes once at most, passes, and has not
been seen if it comes. -/
structure Layout.Accepts (l : Layout) (seen : List (String × Tree)) (ms : List (Option String × Tree)) :
    Prop where
  named : ∀ m ∈ ms, ∃ k, m.1 = some k
  passes : ∀ f ∈ l.fields, ∀ m ∈ f.among ms, f.check m.2 = .ok ()
  once : ∀ f ∈ l.fields, (f.among ms).length ≤ 1
  fresh : ∀ f ∈ l.fields, (lookupKey f.name seen).isSome → f.among ms = []

section

variable {l : Layout} {seen : List (String × Tree)} {ms : List (Option String × Tree)} {k : String}
  {t : Tree} {f g : Field}

theorem Layout.IsDistinct.among_cons_of_ne (H : l.IsDistinct) (hf : f ∈ l.fields) (hg : g ∈ l.fields)
    (hne : g ≠ f) (hk : f.answersTo k = true) : g.among ((some k, t) :: ms) = g.among ms :=
  Field.among_cons_of_neg (fun hgk => hne (H.eq hg hf hgk hk)) t ms

theorem Layout.IsDistinct.lookupKey_append_of_ne (H : l.IsDistinct) (hf : f ∈ l.fields)
    (hg : g ∈ l.fields) (hne : g ≠ f) :
    lookupKey g.name (seen ++ [(f.name, t)]) = lookupKey g.name seen := by
  have : g.name ≠ f.name := fun h => hne (H.eq hg hf g.answersTo_name (h ▸ f.answersTo_name))
  simp [lookupKey_append, lookupKey, this]

namespace Layout.Accepts

/-- A member that is no field is passed over. -/
theorem skip (H : l.Accepts seen ((some k, t) :: ms)) (hk : ∀ f ∈ l.fields, ¬f.answersTo k = true) :
    l.Accepts seen ms := by
  have hskip : ∀ f ∈ l.fields, f.among ((some k, t) :: ms) = f.among ms := fun f hf =>
    Field.among_cons_of_neg (hk f hf) t ms
  exact {
    named m hm := H.named m (List.mem_cons_of_mem _ hm)
    passes f hf := hskip f hf ▸ H.passes f hf
    once f hf := hskip f hf ▸ H.once f hf
    fresh f hf := hskip f hf ▸ H.fresh f hf }

variable (H : l.Accepts seen ((some k, t) :: ms)) (hf : f ∈ l.fields) (hk : f.answersTo k = true)

include H hf hk

theorem lookupKey_eq_none : lookupKey f.name seen = none := by
  refine Option.not_isSome_iff_eq_none.1 fun h => ?_
  have := H.fresh f hf h
  rw [Field.among_cons_of_pos hk] at this
  cases this

theorem among_eq_nil : f.among ms = [] := by
  have := H.once f hf
  rw [Field.among_cons_of_pos hk] at this
  exact List.eq_nil_of_length_eq_zero (by simpa using this)

/-- A member that is a field has been seen then, and no other member is that field. -/
theorem take (hdistinct : l.IsDistinct) : l.Accepts (seen ++ [(f.name, t)]) ms := by
  have hlast := H.among_eq_nil hf hk
  have hrest : ∀ g ∈ l.fields, g.among ms = g.among ((some k, t) :: ms) ∨ g = f := fun g hg => by
    by_cases h : g = f
    · exact .inr h
    · exact .inl (hdistinct.among_cons_of_ne hf hg h hk).symm
  refine ⟨fun m hm => H.named m (List.mem_cons_of_mem _ hm), fun g hg => ?_, fun g hg => ?_,
    fun g hg => ?_⟩
  · obtain h | rfl := hrest g hg
    · exact h ▸ H.passes g hg
    · simp [hlast]
  · obtain h | rfl := hrest g hg
    · exact h ▸ H.once g hg
    · simp [hlast]
  · by_cases h : g = f
    · exact fun _ => h ▸ hlast
    · rw [hdistinct.lookupKey_append_of_ne hf hg h, ← hdistinct.among_cons_of_ne hf hg h hk]
      exact H.fresh g hg

end Layout.Accepts

end

/-- Under the name of a field stands what was there already, or what its first member has. -/
theorem Layout.fromMembers_lookupKey {l : Layout} (hdistinct : l.IsDistinct)
    {ms : List (Option String × Tree)} {seen : List (String × Tree)} (H : l.Accepts seen ms) :
    ∃ seen', l.fromMembers seen ms = .ok seen' ∧ ∀ f ∈ l.fields,
      lookupKey f.name seen' = (lookupKey f.name seen).or ((f.among ms).head?.map (·.2)) := by
  induction ms generalizing seen with
  | nil => exact ⟨seen, rfl, fun f _ => by simp [Field.among]⟩
  | cons m ms ih =>
    obtain ⟨k, t⟩ := m
    obtain ⟨k, rfl⟩ : ∃ k', k = some k' := H.named _ List.mem_cons_self
    cases hfind : l.fields.find? (·.answersTo k) with
    | none =>
      have hk := List.find?_eq_none.1 hfind
      obtain ⟨seen', hread, hlook⟩ := ih (H.skip hk)
      refine ⟨seen', by rw [fromMembers, hfind]; exact hread, fun f hf => ?_⟩
      rw [hlook f hf, Field.among_cons_of_neg (hk f hf)]
    | some f =>
      have hf := List.mem_of_find?_eq_some hfind
      have hk : f.answersTo k = true := List.find?_some (p := fun f : Field => f.answersTo k) hfind
      have htake := Field.among_cons_of_pos hk t ms
      have hnone := H.lookupKey_eq_none hf hk
      have hlast := H.among_eq_nil hf hk
      have hpass : f.check t = .ok () := H.passes f hf (some k, t) (by rw [htake]; simp)
      obtain ⟨seen', hread, hlook⟩ := ih (H.take hf hk hdistinct)
      refine ⟨seen', ?_, fun g hg => ?_⟩
      · rw [fromMembers, hfind]
        simp [hnone, hpass, hread]
      · rw [hlook g hg]
        by_cases h : g = f
        · subst h
          simp [lookupKey_append, lookupKey, hnone, hlast, htake]
        · rw [hdistinct.lookupKey_append_of_ne hf hg h, hdistinct.among_cons_of_ne hf hg h hk]

/-- The slot is one for that field of a layout. -/
structure Slot.Fits (f : Field) (s : Slot) : Prop where
  names : f.names = s.names
  passes : ∀ t, t.evaluate? = some s.value → f.check t = .ok ()
  absent : s.default?.isSome → f.maybeAbsent = true

theorem Slot.Fits.among_eq {f : Field} {s : Slot} (H : s.Fits f) (ms : List (Option String × Tree)) :
    f.among ms = ms.filter s.takes := by
  have : f.answersTo = s.names.contains := funext fun k => by
    rw [Bool.eq_iff_iff, Field.answersTo_iff, H.names, List.contains_iff_mem]
  rw [Field.among, this]
  rfl

/-- What has a name of the field has its value, since nothing else has a name of it. -/
theorem Slot.Fits.check_eq {f : Field} {s : Slot} (H : s.Fits f) {ms : List (Option String × Tree)}
    (hs : s.Filled ms) {m : Option String × Tree} (hm : m ∈ f.among ms) : f.check m.2 = .ok () := by
  obtain ⟨hlen, hshown⟩ := hs
  rw [H.among_eq] at hm
  have hone : (ms.filter s.takes).length = 1 := by
    have := List.length_pos_of_mem hm
    omega
  obtain ⟨m', hm'⟩ := List.length_eq_one_iff.1 hone
  rw [hm'] at hm hshown
  obtain rfl := List.mem_singleton.1 hm
  obtain ⟨_, ⟨⟩, hv⟩ | ⟨h, _⟩ := hshown
  · exact H.passes _ hv
  · cases h

/-! Fields of each kind, with the slots that fit them. -/

section

variable {dec : Decoder α} {a : α} {v : Json} (hdec : ∀ t, t.evaluate? = some v → dec t = .ok a)

include hdec

theorem Decoder.check_eq (t : Tree) (h : t.evaluate? = some v) : dec.check t = .ok () := by
  rw [Decoder.check, hdec t h]; rfl

theorem Slot.fits_required (name : String) : Slot.Fits (.required name dec) ⟨[name], v, none⟩ where
  names := rfl
  passes := Decoder.check_eq hdec
  absent := nofun

theorem Slot.fits_defaulted (name : String) (aliases : List String) (d : Json) :
    Slot.Fits (.defaulted name dec aliases) ⟨name :: aliases, v, some d⟩ where
  names := rfl
  passes := Decoder.check_eq hdec
  absent _ := rfl

theorem Slot.fits_omissible (name : String) (d : Json) :
    Slot.Fits (.omissible name dec) ⟨[name], v, some d⟩ where
  names := rfl
  passes := Decoder.check_eq hdec
  absent _ := rfl

end

/-- An object that presents the slots of a layout passes it, and every field reads as its slot shows
it. -/
theorem Layout.read_presented {l : Layout} {ss : List Slot} {ms : List (Option String × Tree)}
    (H : l.IsDistinct) (hfit : List.Forall₂ Slot.Fits l.fields ss) (hp : Presents ss ms) :
    ∃ seen, l.read (.object ms) = .ok seen ∧
      List.Forall₂ (fun f s => Slot.Shown s (lookupKey f.name seen)) l.fields ss := by
  have hslot : ∀ f ∈ l.fields, ∃ s ∈ ss, s.Fits f := fun f hf => by
    obtain ⟨i, hi, rfl⟩ := List.mem_iff_getElem.1 hf
    exact ⟨_, List.getElem_mem (hfit.length_eq ▸ hi), hfit.get hi _⟩
  have haccepts : l.Accepts [] ms := {
    named := hp.named
    passes f hf m hm := by
      obtain ⟨s, hs, h⟩ := hslot f hf
      exact h.check_eq (hp.filled s hs) hm
    once f hf := by
      obtain ⟨s, hs, h⟩ := hslot f hf
      exact h.among_eq ms ▸ (hp.filled s hs).1
    fresh f _ h := by simp [lookupKey] at h }
  obtain ⟨seen, hread, hlook⟩ := Layout.fromMembers_lookupKey H haccepts
  have hshown : ∀ f ∈ l.fields, ∀ s ∈ ss, s.Fits f → s.Shown (lookupKey f.name seen) := by
    intro f hf s hs h
    have := (hp.filled s hs).2
    rwa [hlook f hf, lookupKey, Option.none_or, h.among_eq]
  have hmissing : l.firstMissing? seen = none := by
    rw [firstMissing?, Option.map_eq_none_iff, List.find?_eq_none]
    intro f hf h
    simp only [Bool.and_eq_true, Bool.not_eq_true', Option.isNone_iff_eq_none] at h
    obtain ⟨s, hs, hs'⟩ := hslot f hf
    obtain ⟨t, ht, _⟩ | ⟨_, hdefault⟩ := hshown f hf s hs hs'
    · rw [h.2] at ht; cases ht
    · have := hs'.absent (by rw [hdefault]; rfl)
      rw [h.1] at this; cases this
  refine ⟨seen, by simp [read, hread, hmissing], List.forall₂_iff_zip.2 ⟨hfit.length_eq, ?_⟩⟩
  intro f s hfs
  obtain ⟨hf, hs⟩ := List.of_mem_zip hfs
  exact hshown f hf s hs (List.forall₂_zip hfit hfs)

/-! ## The values that are read -/

theorem need_shown {dec : Decoder α} {a : α} {s : Slot} {seen : List (String × Tree)} {name : String}
    (H : s.Shown (lookupKey name seen)) (hdefault : s.default? = none)
    (hdec : ∀ t, t.evaluate? = some s.value → dec t = .ok a) : need seen name dec = .ok a := by
  obtain ⟨t, ht, hv⟩ | ⟨_, h⟩ := H
  · rw [need, ht]; exact hdec t hv
  · rw [hdefault] at h; cases h

theorem orElse_shown {dec : Decoder α} {a d : α} {s : Slot} {seen : List (String × Tree)}
    {name : String} (H : s.Shown (lookupKey name seen))
    (hdec : ∀ t, t.evaluate? = some s.value → dec t = .ok a)
    (hdefault : s.default? = some s.value → d = a) : orElse seen name dec d = .ok a := by
  obtain ⟨t, ht, hv⟩ | ⟨ht, h⟩ := H
  · rw [orElse, ht]; exact hdec t hv
  · rw [orElse, ht, hdefault h]

theorem Numeral.value?_number {n : Numeral} {v : Json} (h : n.value? = some v) :
    (∃ i, v = .int i) ∨ ∃ x, v = .float x := by
  simp only [Numeral.value?] at h
  split at h
  · split at h
    · exact .inl ⟨_, (Option.some.inj h).symm⟩
    · split at h
      · exact .inl ⟨_, (Option.some.inj h).symm⟩
      · obtain ⟨x, _, rfl⟩ := Option.map_eq_some_iff.1 h
        exact .inr ⟨x, rfl⟩
  · obtain ⟨x, _, rfl⟩ := Option.map_eq_some_iff.1 h
    exact .inr ⟨x, rfl⟩

theorem Tree.eq_of_evaluate?_text {t : Tree} {s : String} (h : t.evaluate? = some (.text s)) :
    t = .text (some s) := by
  cases t with
  | text o => cases o <;> simp_all [Tree.evaluate?]
  | number n => obtain ⟨_, h⟩ | ⟨_, h⟩ := n.value?_number h <;> cases h
  | _ => simp [Tree.evaluate?] at h

theorem Tree.eq_of_evaluate?_bool {t : Tree} {b : Bool} (h : t.evaluate? = some (.bool b)) :
    t = .bool b := by
  cases t with
  | bool b => cases h; rfl
  | number n => obtain ⟨_, h⟩ | ⟨_, h⟩ := n.value?_number h <;> cases h
  | _ => simp [Tree.evaluate?] at h

theorem Tree.eq_of_evaluate?_null {t : Tree} (h : t.evaluate? = some .null) : t = .null := by
  cases t with
  | null => rfl
  | number n => obtain ⟨_, h⟩ | ⟨_, h⟩ := n.value?_number h <;> cases h
  | _ => simp [Tree.evaluate?] at h

theorem Tree.found?_of_evaluate?_int {t : Tree} {i : Int} (h : t.evaluate? = some (.int i)) :
    t.found? = some (.int i) := by
  cases t with
  | number n => simp only [Tree.evaluate?] at h; simp only [Tree.found?, h]
  | _ => simp [Tree.evaluate?] at h

end SessionKeeper.Json
