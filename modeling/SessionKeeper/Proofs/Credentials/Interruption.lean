import SessionKeeper.Proofs.Credentials.Saving

/-!
# Interrupted saves

A save of the credential file can stop anywhere in its list of actions. All but the last one leave
what is loaded as it was (`Grown.perform`): they make directories above the file or write beside it.
The last one either fails, and changes nothing, or puts the whole payload in place, and then the save
has succeeded (`saved_of_saveActions`).
-/

namespace SessionKeeper

namespace CredentialFile

open DiskAction

variable {p : FilePath} {d d' d'' : Disk}

/-! ## The temporary file -/

theorem isPlain_temporary (hp : p.IsPlain) : (temporary p).IsPlain := by
  obtain ⟨pre, name, _, hparts, htmp⟩ := temporary_parts p
  intro q hq
  rw [htmp] at hq
  obtain hq | hq := List.mem_append.1 hq
  · exact hp q (by rw [hparts]; exact List.mem_append_left _ hq)
  · rw [List.mem_singleton.1 hq]
    exact (append_tmp_ne _).1

theorem placeOf_temporary (p : FilePath) (d : Disk) :
    (d.placeOf p).length ≤ (d.placeOf (temporary p)).length ∧
      d.placeOf p ≠ d.placeOf (temporary p) := by
  obtain ⟨pre, name, _, hparts, htmp⟩ := temporary_parts p
  have hstart : d.start (temporary p) = d.start p := rfl
  rw [Disk.placeOf, Disk.placeOf, hstart, hparts, htmp]
  cases name with
  | none => simp
  | some name => simp [(append_tmp_ne name).2.symm]

/-! ## All but the last action -/

/-- The places of the parents lie above that of the file. -/
theorem mem_parents {q : FilePath} (hq : q ∈ parents p) :
    q.absolute = p.absolute ∧ q.parts.length < p.parts.length ∧ ∀ r ∈ q.parts, r ∈ p.parts := by
  obtain ⟨i, hi, rfl⟩ := List.mem_map.1 hq
  rw [List.mem_range] at hi
  refine ⟨rfl, ?_, fun r hr => ?_⟩
  · simp [FilePath.parent] at hi ⊢
    omega
  · exact List.dropLast_subset _ (List.mem_of_mem_take hr)

/-- No preparation is more than a directory above the file, or a write beside it. -/
theorem Grown.perform (hp : p.IsPlain) (H : Disk.Grown (d.placeOf (temporary p)) (d.placeOf p) d d')
    {a : DiskAction} {es : Entries} (ha : a ∈ preparations p es) (h : a.perform d' = .ok d'') :
    Disk.Grown (d.placeOf (temporary p)) (d.placeOf p) d d'' := by
  have htmp := isPlain_temporary hp
  rw [← Disk.placeOf_congr H.here (temporary p)] at H ⊢
  obtain ha | ha := List.mem_append.1 ha
  · obtain ⟨q, hq, ha⟩ := makes_of_mem ha
    obtain ⟨habs, hlen, hsub⟩ := mem_parents hq
    obtain rfl | ⟨place, hl, hn, rfl⟩ := ha.cases h
    · exact H
    · obtain rfl := Disk.locate_eq (fun r hr => hp r (hsub r hr)) hl
      refine H.put_above ?_ hn
      rw [← Disk.placeOf_congr H.here p, Disk.placeOf, Disk.placeOf, Disk.start, habs]
      simpa [Disk.start] using hlen
  · obtain rfl | ha := List.mem_cons.1 ha
    · obtain ⟨place, hl, _, rfl⟩ := Disk.truncate_eq h
      obtain rfl := Disk.locate_eq htmp hl
      exact H.put_beside _
    · obtain ⟨b, _, rfl⟩ := List.mem_map.1 ha
      obtain ⟨place, old, mode, hl, _, rfl⟩ := Disk.append_eq h
      obtain rfl := Disk.locate_eq htmp hl
      exact H.put_beside _

/-- Wherever the preparations stop, the file loads as before. -/
theorem load_of_preparations (hp : p.IsPlain) (hd : d.IsTree) {es : Entries} {as : List DiskAction}
    (has : ∀ a ∈ as, a ∈ preparations p es) :
    load ⟨p, (performAll d as).2⟩ = load ⟨p, d⟩ := by
  have H : Disk.Grown (d.placeOf (temporary p)) (d.placeOf p) d (performAll d as).2 :=
    performAll_invariant (fun a ha _ _ H h => Grown.perform hp H (has a ha) h) (.refl _ _ d)
  obtain ⟨hlen, hne⟩ := placeOf_temporary p d
  rw [load, load, H.readText_eq hp hd hlen hne]

/-! ## Saves -/

theorem load_of_failed (hp : p.IsPlain) (hd : d.IsTree) {es : Entries} {e : DiskError}
    (h : performAll d (saveActions p es) = (.error e, d')) : load ⟨p, d'⟩ = load ⟨p, d⟩ := by
  cases he : es.isEmpty with
  | true =>
    simp only [saveActions, he, if_true, performAll] at h
    split at h <;> cases h
    rfl
  | false =>
    have hsame : load ⟨p, (performAll d (preparations p es)).2⟩ = load ⟨p, d⟩ :=
      load_of_preparations hp hd fun _ ha => ha
    rw [saveActions_eq he, performAll_append] at h
    split at h
    next d₁ h₁ =>
      rw [h₁] at hsame
      simp only [performAll] at h
      split at h <;> cases h
      exact hsame
    next h₁ =>
      cases h
      rwa [h₁] at hsame

end CredentialFile

end SessionKeeper
