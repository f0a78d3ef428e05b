import Mathlib.Data.List.Forall2
import Mathlib.Data.List.Perm.Basic
import SessionKeeper.Proofs.Dictionary
import SessionKeeper.Proofs.Json.Members

/-!
# Objects as they are read

The members of an object that is read stand in ascending order, also in an object inside another one
(`Tree.ascending_of_evaluate?`). An object of texts and the like is read as its members are written,
if these ascend (`Tree.value?_of_flat`). If no key comes twice, the order in which they were written
makes no difference to what is read (`read?_perm`).
-/

namespace SessionKeeper

namespace Json

namespace Tree

variable {ts ts' : List (Option String × Tree)} {t : Tree} {ms : List (String × Json)} {v : Json}

/-! ## What an object is read as -/

theorem evaluate?_object (ts : List (Option String × Tree)) :
    (Tree.object ts).evaluate? =
      (evaluateMembers? ts).map fun es => .object (Dictionary.ofList es).toList := by
  rw [evaluate?]
  exact congrArg (Option.map · _)
    (funext fun es => congrArg Json.object (Dictionary.toList_ofList es).symm)

/-- The member has that key, and that value. -/
def Denotes (m : Option String × Tree) (e : String × Json) : Prop :=
  m.1 = some e.1 ∧ m.2.evaluate? = some e.2

/-- The members have values just if each has a well-formed key and a value. -/
theorem evaluateMembers?_eq_some_iff {es : List (String × Json)} :
    evaluateMembers? ts = some es ↔ List.Forall₂ Denotes ts es := by
  induction ts generalizing es with
  | nil => simp [evaluateMembers?, eq_comm]
  | cons m ts ih =>
    obtain ⟨k, x⟩ := m
    rw [List.forall₂_cons_left_iff, evaluateMembers?]
    constructor
    · intro h
      obtain ⟨k', hk, h⟩ := Option.bind_eq_some_iff.1 h
      obtain ⟨v, hv, h⟩ := Option.bind_eq_some_iff.1 h
      obtain ⟨es', hes, h⟩ := Option.bind_eq_some_iff.1 h
      cases h
      exact ⟨(k', v), es', ⟨hk, hv⟩, ih.1 hes, rfl⟩
    · rintro ⟨⟨k', v⟩, es', ⟨hk, hv⟩, hes, rfl⟩
      have hk : k = some k' := hk
      have hv : x.evaluate? = some v := hv
      rw [hk, hv, ih.2 hes]
      rfl

/-- An object is read from an object. -/
theorem eq_object_of_evaluate? (h : t.evaluate? = some (.object ms)) :
    ∃ ts es, t = .object ts ∧ List.Forall₂ Denotes ts es ∧ ms = (Dictionary.ofList es).toList := by
  cases t with
  | object ts =>
    rw [evaluate?_object] at h
    obtain ⟨es, hes, h⟩ := Option.map_eq_some_iff.1 h
    cases h
    exact ⟨ts, es, rfl, evaluateMembers?_eq_some_iff.1 hes, rfl⟩
  | number n => obtain ⟨_, h⟩ | ⟨_, h⟩ := n.value?_number h <;> cases h
  | _ => simp [evaluate?] at h

theorem ascending_of_evaluate? (h : t.evaluate? = some (.object ms)) : Ascending ms := by
  obtain ⟨_, es, _, _, rfl⟩ := eq_object_of_evaluate? h
  exact (Dictionary.ofList es).ascending

/-- What is read inside an object is read from a tree of its own. -/
theorem exists_evaluate?_of_mem (h : t.evaluate? = some (.object ms)) {k : String} (hm : (k, v) ∈ ms) :
    ∃ t' : Tree, t'.evaluate? = some v := by
  obtain ⟨ts, es, _, hes, rfl⟩ := eq_object_of_evaluate? h
  obtain ⟨i, hi, hget⟩ := List.mem_iff_getElem.1 (Dictionary.mem_of_mem_ofList hm)
  have hi' : i < ts.length := hes.length_eq ▸ hi
  have hdenotes : Denotes ts[i] es[i] := hes.get hi' hi
  rw [hget] at hdenotes
  exact ⟨_, hdenotes.2⟩

/-! ## Objects of scalars -/

/-- The member has that key and that value, and nothing is nested in it. -/
def DenotesFlat (m : Option String × Tree) (e : String × Json) : Prop :=
  Denotes m e ∧ m.2.nesting = 0

theorem nestingMembers_of_flat {es : List (String × Json)} (H : List.Forall₂ DenotesFlat ts es) :
    nestingMembers ts = 0 := by
  induction H with
  | nil => rfl
  | cons hm _ ih => rw [nestingMembers, hm.2, ih, Nat.max_self]

/-- An object without another one inside it has the value that its members spell out in ascending
order. -/
theorem value?_of_flat {es : List (String × Json)} (H : List.Forall₂ DenotesFlat ts es)
    (hasc : Ascending es) : (Tree.object ts).value? = some (.object es) := by
  have hmembers : evaluateMembers? ts = some es :=
    evaluateMembers?_eq_some_iff.2 (H.imp fun _ _ h => h.1)
  rw [value?, nesting, nestingMembers_of_flat H, if_pos (by decide), evaluate?_object, hmembers,
    Option.map_some, Dictionary.toList_ofList_of_ascending hasc]

/-! ## Members in another order -/

theorem nestingMembers_perm (h : ts.Perm ts') : nestingMembers ts = nestingMembers ts' := by
  induction h with
  | nil => rfl
  | cons m _ ih => simp only [nestingMembers, ih]
  | swap m m' ts => simp only [nestingMembers, Nat.max_left_comm]
  | trans _ _ ih ih' => exact ih.trans ih'

theorem keys_of_denotes {es : List (String × Json)} (h : List.Forall₂ Denotes ts es) :
    ts.map Prod.fst = es.map fun e => some e.1 := by
  induction h with
  | nil => rfl
  | cons hm _ ih => rw [List.map_cons, List.map_cons, hm.1, ih]

theorem evaluate?_perm (h : ts.Perm ts') (hnodup : (ts.map Prod.fst).Nodup)
    (hv : (Tree.object ts).evaluate? = some v) : (Tree.object ts').evaluate? = some v := by
  rw [evaluate?_object] at hv ⊢
  obtain ⟨es, hes, rfl⟩ := Option.map_eq_some_iff.1 hv
  have hdenotes := evaluateMembers?_eq_some_iff.1 hes
  have hkeys : (es.map Prod.fst).Nodup := by
    rw [keys_of_denotes hdenotes] at hnodup
    have hsome : es.map (fun e => some e.1) = (es.map Prod.fst).map some := by rw [List.map_map]; rfl
    rw [hsome] at hnodup
    exact hnodup.of_map some
  -- the values move with their members
  obtain ⟨es', hdenotes', hperm⟩ := List.perm_comp_forall₂ h.symm hdenotes
  rw [evaluateMembers?_eq_some_iff.2 hdenotes', Option.map_some,
    Dictionary.ofList_perm hperm.symm hkeys]

end Tree

theorem read?_perm {s s' : String} {ts ts' : List (Option String × Tree)}
    (hs : Tree.read? s = some (.object ts)) (hs' : Tree.read? s' = some (.object ts'))
    (h : ts.Perm ts') (hnodup : (ts.map Prod.fst).Nodup) (hv : (read? s).isSome) :
    read? s' = read? s := by
  obtain ⟨v, hv⟩ := Option.isSome_iff_exists.1 hv
  rw [hv]
  rw [read?, hs, Option.bind_some, Tree.value?] at hv
  rw [read?, hs', Option.bind_some, Tree.value?]
  obtain ⟨hnesting, hv⟩ := Option.ite_none_right_eq_some.1 hv
  have hnesting' : (Tree.object ts').nesting = (Tree.object ts).nesting := by
    rw [Tree.nesting, Tree.nesting, Tree.nestingMembers_perm h]
  rw [if_pos (hnesting' ▸ hnesting), Tree.evaluate?_perm h hnodup hv]

end Json

end SessionKeeper
