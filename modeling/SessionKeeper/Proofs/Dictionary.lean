import Mathlib.Data.List.Nodup
import Mathlib.Data.List.Sort
import SessionKeeper.Dictionary

/-!
# What determines a dictionary

Dictionaries with the same look-ups are equal (`Dictionary.ext_get?`), since their entries stand in
strictly ascending order. So entries under different keys can be put in in any order
(`Dictionary.ofList_perm`), and what is put in under the keys of a list is found there
(`Dictionary.get?_ofList_filterMap`).
-/

namespace SessionKeeper

theorem Ascending.subset_of_lookupKey {es es' : List (String × α)} (H : Ascending es)
    (h : ∀ k, lookupKey k es = lookupKey k es') : es ⊆ es' := by
  rintro ⟨k, v⟩ hmem
  have hlookup : lookupKey k es = some v := H.lookupKey_of_mem hmem
  rw [h] at hlookup
  exact mem_of_lookupKey hlookup

theorem Ascending.eq_of_lookupKey {es es' : List (String × α)} (H : Ascending es)
    (H' : Ascending es') (h : ∀ k, lookupKey k es = lookupKey k es') : es = es' := by
  have hirrefl : Std.Irrefl fun e e' : String × α => e.1 < e'.1 :=
    ⟨fun e => String.lt_irrefl e.1⟩
  have hantisymm : Std.Antisymm fun e e' : String × α => e.1 < e'.1 :=
    ⟨fun e _ h h' => absurd (String.lt_trans h h') (String.lt_irrefl e.1)⟩
  exact List.Subset.antisymm_of_pairwise H H' (H.subset_of_lookupKey h)
    (H'.subset_of_lookupKey fun k => (h k).symm)

namespace Dictionary

variable {α β : Type}

theorem ext_get? {a b : Dictionary α} (h : ∀ k, a.get? k = b.get? k) : a = b :=
  eq_of_toList (a.ascending.eq_of_lookupKey b.ascending h)

/-! ## Entries put in one after the other -/

theorem mem_of_mem_foldl_insertKey {e : String × α} {es acc : List (String × α)}
    (h : e ∈ es.foldl (fun acc e => insertKey e.1 e.2 acc) acc) : e ∈ acc ∨ e ∈ es := by
  induction es generalizing acc with
  | nil => exact .inl h
  | cons d es ih =>
    obtain hacc | hes := ih h
    · obtain rfl | hacc := mem_insertKey hacc
      · exact .inr List.mem_cons_self
      · exact .inl hacc
    · exact .inr (List.mem_cons_of_mem d hes)

theorem mem_of_mem_ofList {e : String × α} {es : List (String × α)} (h : e ∈ (ofList es).toList) :
    e ∈ es := by
  rw [toList_ofList] at h
  exact (mem_of_mem_foldl_insertKey h).resolve_left List.not_mem_nil

theorem insert_comm {k k' : String} (h : k ≠ k') (d : Dictionary α) (v v' : α) :
    (d.insert k v).insert k' v' = (d.insert k' v').insert k v := by
  refine ext_get? fun j => ?_
  simp only [get?_insert]
  split
  next hj => rw [if_neg (fun hk => h (hk.symm.trans hj))]
  next => rfl

/-- Entries under different keys can be put in in any order. -/
theorem ofList_perm {es es' : List (String × α)} (h : es.Perm es')
    (hnodup : (es.map Prod.fst).Nodup) : ofList es = ofList es' := by
  refine h.foldl_eq' (fun x hx y hy d => ?_) empty
  by_cases hxy : x = y
  · rw [hxy]
  · exact insert_comm (fun hk => hxy (List.inj_on_of_nodup_map hnodup hx hy hk)) d x.2 y.2

variable {key : β → String} {f : β → Option α} {xs : List β}

/-- Where each element has a key of its own, its value, if it has one, is found under the key. -/
theorem get?_foldl_filterMap (hnodup : (xs.map key).Nodup) (d : Dictionary α) :
    (∀ k ∉ xs.map key, ((xs.filterMap fun x => (f x).map (key x, ·)).foldl
      (fun d e => d.insert e.1 e.2) d).get? k = d.get? k) ∧
    ∀ x ∈ xs, d.get? (key x) = none → ((xs.filterMap fun x => (f x).map (key x, ·)).foldl
      (fun d e => d.insert e.1 e.2) d).get? (key x) = f x := by
  induction xs generalizing d with
  | nil => exact ⟨fun _ _ => rfl, List.forall_mem_nil _⟩
  | cons y xs ih =>
    obtain ⟨hy, hxs⟩ := List.nodup_cons.1 hnodup
    have hne : ∀ x ∈ xs, key x ≠ key y := fun x hx h => hy (h ▸ List.mem_map_of_mem hx)
    rw [List.filterMap_cons]
    cases hf : f y with
    | none =>
      obtain ⟨hout, hin⟩ := ih hxs d
      refine ⟨fun k hk => hout k fun hmem => hk (List.mem_cons_of_mem _ hmem), ?_⟩
      refine List.forall_mem_cons.2 ⟨fun hd => ?_, hin⟩
      rw [hf]
      exact (hout _ hy).trans hd
    | some v =>
      obtain ⟨hout, hin⟩ := ih hxs (d.insert (key y) v)
      constructor
      · intro k hk
        obtain ⟨hky, hk⟩ := not_or.1 (mt List.mem_cons.2 hk)
        exact (hout k hk).trans ((get?_insert ..).trans (if_neg hky))
      · refine List.forall_mem_cons.2 ⟨fun _ => ?_, fun x hx hd => hin x hx ?_⟩
        · rw [hf]
          exact (hout _ hy).trans ((get?_insert ..).trans (if_pos rfl))
        · exact (get?_insert ..).trans ((if_neg (hne x hx)).trans hd)

theorem get?_ofList_filterMap (hnodup : (xs.map key).Nodup) {x : β} (hx : x ∈ xs) :
    (ofList (xs.filterMap fun x => (f x).map (key x, ·))).get? (key x) = f x :=
  (get?_foldl_filterMap hnodup empty).2 x hx rfl

end Dictionary

end SessionKeeper
