/-! # Dictionaries

Finite maps from texts, kept as lists of entries in strictly ascending key order, so that what can be
looked up in a dictionary determines it and listing a dictionary is listing it in order. Keys are
compared character by character, by code point.

`get?_insert` and `get?_filterKeys` say what these operations do to the look-up, and `toList_ofList` what
entries come to that are put in one after the other. -/

namespace SessionKeeper

/-- The value that an association list gives a key. -/
def lookupKey (k : String) : List (String × α) → Option α
  | [] => none
  | (k', v) :: r => if k = k' then some v else lookupKey k r

/-- Puts an entry at its place in an ascending list, in the place of one with the same key. -/
def insertKey (k : String) (v : α) : List (String × α) → List (String × α)
  | [] => [(k, v)]
  | (k', v') :: r =>
    if k < k' then (k, v) :: (k', v') :: r
    else if k = k' then (k, v) :: r
    else (k', v') :: insertKey k v r

/-- Keys strictly ascend. -/
def Ascending (es : List (String × α)) : Prop := es.Pairwise (·.1 < ·.1)

theorem lookupKey_insertKey (k k' : String) (v : α) (es) :
    lookupKey k' (insertKey k v es) = if k' = k then some v else lookupKey k' es := by
  induction es with
  | nil => simp [insertKey, lookupKey]
  | cons e es ih => simp only [insertKey]; grind [lookupKey]

theorem mem_insertKey (H : e ∈ insertKey k v es) : e = (k, v) ∨ e ∈ es := by
  induction es with
  | nil => simpa [insertKey] using H
  | cons d es ih => simp only [insertKey] at H; grind

theorem lt_of_not_lt {k k' : String} (h : ¬k < k') (hne : k ≠ k') : k' < k := by
  by_cases hlt : k' < k
  · exact hlt
  · exact absurd (String.le_antisymm (String.not_lt.1 hlt) (String.not_lt.1 h)) hne

theorem Ascending.insertKey (H : Ascending es) : Ascending (insertKey k v es) := by
  induction es with
  | nil => exact List.pairwise_singleton ..
  | cons d es ih =>
    obtain ⟨k', v'⟩ := d
    have hd : ∀ e ∈ es, k' < e.1 := fun e he => List.rel_of_pairwise_cons H he
    have hes : Ascending es := List.Pairwise.of_cons H
    simp only [SessionKeeper.insertKey]
    split
    next h =>
      have hall : ∀ e ∈ (k', v') :: es, k < e.1 :=
        List.forall_mem_cons.2 ⟨h, fun e he => String.lt_trans h (hd e he)⟩
      exact List.pairwise_cons.2 ⟨hall, H⟩
    next h =>
      split
      next heq =>
        subst heq
        exact List.pairwise_cons.2 ⟨hd, hes⟩
      next hne =>
        refine List.pairwise_cons.2 ⟨fun e he => ?_, ih hes⟩
        obtain rfl | he := mem_insertKey he
        · exact lt_of_not_lt h hne
        · exact hd e he

theorem Ascending.lookupKey_of_mem (H : Ascending es) (h : (k, v) ∈ es) :
    lookupKey k es = some v := by
  induction es with
  | nil => cases h
  | cons d es ih =>
    obtain ⟨k', v'⟩ := d
    rcases List.mem_cons.1 h with h | h
    · cases h; simp [lookupKey]
    · have : k' < k := List.rel_of_pairwise_cons H h
      have : k ≠ k' := fun e => String.lt_irrefl k (e ▸ this)
      simpa [lookupKey, this] using ih (List.Pairwise.of_cons H) h

theorem mem_of_lookupKey (h : lookupKey k es = some v) : (k, v) ∈ es := by
  induction es with
  | nil => cases h
  | cons d es ih =>
    obtain ⟨k', v'⟩ := d
    simp only [lookupKey] at h
    split at h
    · simp_all
    · exact List.mem_cons_of_mem _ (ih h)

theorem insertKey_of_ascending {es : List (String × α)} {k : String} {v : α}
    (h : Ascending (es ++ [(k, v)])) : insertKey k v es = es ++ [(k, v)] := by
  induction es with
  | nil => rfl
  | cons e es ih =>
    obtain ⟨j, w⟩ := e
    have hlt : j < k := List.rel_of_pairwise_cons h (by simp : (k, v) ∈ es ++ [(k, v)])
    have hnlt : ¬k < j := fun h => String.lt_irrefl _ (String.lt_trans h hlt)
    have hne : k ≠ j := by rintro rfl; exact String.lt_irrefl _ hlt
    rw [insertKey, if_neg hnlt, if_neg hne, ih (List.Pairwise.of_cons h), List.cons_append]

/-- Entries that ascend are put behind one another. -/
theorem foldl_insertKey {es : List (String × α)} (acc : List (String × α)) (h : Ascending (acc ++ es)) :
    es.foldl (fun acc e => insertKey e.1 e.2 acc) acc = acc ++ es := by
  induction es generalizing acc with
  | nil => simp
  | cons e es ih =>
    have happ : acc ++ e :: es = acc ++ [e] ++ es := by simp
    rw [happ] at h ⊢
    rw [List.foldl_cons, insertKey_of_ascending (List.pairwise_append.1 h).1, ih _ h]

/-- A finite map from texts. -/
structure Dictionary (α : Type) where
  /-- The entries, in ascending key order. -/
  toList : List (String × α)
  ascending : Ascending toList

namespace Dictionary

instance [DecidableEq α] : DecidableEq (Dictionary α) := fun a b =>
  decidable_of_iff (a.toList = b.toList) ⟨fun h => by cases a; cases b; simp_all, fun h => h ▸ rfl⟩

/-- The dictionary without entries. -/
def empty : Dictionary α := ⟨[], List.Pairwise.nil⟩

instance : Inhabited (Dictionary α) := ⟨empty⟩

/-- The value under a key. -/
def get? (d : Dictionary α) (k : String) : Option α := lookupKey k d.toList

/-- Whether the key has a value. -/
def contains (d : Dictionary α) (k : String) : Bool := (d.get? k).isSome

/-- Whether there is no entry. -/
def isEmpty (d : Dictionary α) : Bool := d.toList.isEmpty

/-- The dictionary with the key's value set. -/
def insert (d : Dictionary α) (k : String) (v : α) : Dictionary α :=
  ⟨insertKey k v d.toList, d.ascending.insertKey⟩

/-- The entries whose key satisfies `p`. -/
def filterKeys (d : Dictionary α) (p : String → Bool) : Dictionary α :=
  ⟨d.toList.filter (p ·.1), d.ascending.sublist List.filter_sublist⟩

/-- The dictionary of a list of entries; of several with one key the last counts. -/
def ofList (es : List (String × α)) : Dictionary α := es.foldl (fun d e => d.insert e.1 e.2) empty

@[simp] theorem get?_empty : (empty : Dictionary α).get? k = none := rfl

@[simp] theorem isEmpty_empty : (empty : Dictionary α).isEmpty = true := rfl

theorem get?_insert (d : Dictionary α) (k v k') :
    (d.insert k v).get? k' = if k' = k then some v else d.get? k' :=
  lookupKey_insertKey ..

theorem get?_filterKeys (d : Dictionary α) (p k) :
    (d.filterKeys p).get? k = if p k then d.get? k else none := by
  obtain ⟨es, h⟩ := d
  simp only [get?, filterKeys]
  clear h
  induction es with
  | nil => simp [lookupKey]
  | cons e es ih =>
    obtain ⟨k', v⟩ := e
    simp only [List.filter_cons]
    by_cases hp : p k' <;> simp only [hp] <;> grind [lookupKey]

theorem isEmpty_iff {d : Dictionary α} : d.isEmpty = true ↔ d = empty := by
  obtain ⟨es, h⟩ := d
  cases es with
  | nil => simp [isEmpty, empty]
  | cons e es => exact iff_of_false (by simp [isEmpty]) fun e => by cases congrArg toList e

theorem eq_of_toList {d d' : Dictionary α} (h : d.toList = d'.toList) : d = d' := by
  cases d; cases d'; cases h; rfl

theorem toList_ofList (es : List (String × α)) :
    (ofList es).toList = es.foldl (fun acc e => insertKey e.1 e.2 acc) [] := by
  have hfold : ∀ d : Dictionary α, (es.foldl (fun d e => d.insert e.1 e.2) d).toList =
      es.foldl (fun acc e => insertKey e.1 e.2 acc) d.toList := by
    induction es with
    | nil => exact fun _ => rfl
    | cons e es ih => exact fun d => ih (d.insert e.1 e.2)
  exact hfold empty

theorem toList_ofList_of_ascending {es : List (String × α)} (h : Ascending es) :
    (ofList es).toList = es := (toList_ofList es).trans (foldl_insertKey [] h)

theorem ofList_toList (d : Dictionary α) : ofList d.toList = d :=
  eq_of_toList (toList_ofList_of_ascending d.ascending)

end Dictionary

end SessionKeeper
