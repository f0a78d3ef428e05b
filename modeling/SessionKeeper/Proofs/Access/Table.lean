import SessionKeeper.Access.Route

/-!
# The table of routes by the path as it is asked for

A path is looked up without the slashes at its end. `Access.Lists` says what the table has to say about
the path with its slashes on, and the rule for a path is the one under which the table lists it, if
there is such a one (`Access.ofPath_classifies`).
-/

namespace SessionKeeper.Access

/-- So many slashes. -/
def slashes (n : Nat) : String := String.ofList (List.replicate n '/')

/-- The pages that stand for themselves alone under a rule. -/
def pages : Access → List String
  | .authenticated => [profilePath]
  | .guestOnly => guestPaths
  | .everyone => openPaths
  | .role _ | .unknown => []

/-- The table lists the path under the rule: as the home of a role or as something below it, or as a
page with any number of slashes behind it. -/
def Lists : Access → String → Prop
  | .role r, path => path = r.home ∨ (r.home ++ "/").toList <+: path.toList
  | a, path => ∃ page ∈ a.pages, ∃ n, path = page ++ slashes n

/-- The part of the path that is looked up. -/
def key (path : String) : List Char := Text.dropTrailing (· == '/') path.toList

/-- The rule is the one for the part that is looked up. -/
def Covers : Access → List Char → Prop
  | .role r, cs => under cs r.home.toList = true
  | a, cs => String.ofList cs ∈ a.pages

variable {path page : List Char}

/-! ## Slashes at the end -/

theorem isSlash_of_mem_slashes {n : Nat} {c : Char} (h : c ∈ (slashes n).toList) :
    (c == '/') = true := by
  rw [slashes, String.toList_ofList] at h
  simp [List.eq_of_mem_replicate h]

theorem key_append_slashes (path : String) (n : Nat) : key (path ++ slashes n) = key path := by
  rw [key, String.toList_append]
  exact Text.dropTrailing_append_of_all (fun _ => isSlash_of_mem_slashes) _

theorem exists_slashes (path : String) : ∃ n, path = String.ofList (key path) ++ slashes n := by
  obtain ⟨n, hsplit⟩ := Text.dropTrailing_split_beq '/' path.toList
  refine ⟨n, ?_⟩
  rw [← String.toList_inj, String.toList_append, slashes, String.toList_ofList,
    String.toList_ofList]
  exact hsplit

/-- A page has no slash at its end, and neither has a home. -/
theorem key_eq_self {page : String} (h : page.toList.getLast? ≠ some '/') :
    key page = page.toList := by
  rcases List.eq_nil_or_concat page.toList with hnil | ⟨cs, c, hcs⟩
  · rw [key, hnil]
    rfl
  · rw [hcs, List.concat_eq_append, List.getLast?_concat] at h
    rw [key, hcs, List.concat_eq_append]
    exact Text.dropTrailing_concat (by simpa using h) cs

theorem ofList_key_eq_iff {path page : String} (h : page.toList.getLast? ≠ some '/') :
    String.ofList (key path) = page ↔ ∃ n, path = page ++ slashes n := by
  constructor
  · rintro rfl
    exact exists_slashes path
  · rintro ⟨n, rfl⟩
    rw [key_append_slashes, key_eq_self h, String.ofList_toList]

/-! ## What lies below a page -/

theorem under_iff : under path page = true ↔ path = page ∨ page ++ ['/'] <+: path := by
  rw [under, Bool.and_eq_true, List.isPrefixOf_iff_prefix]
  constructor
  · rintro ⟨⟨rest, rfl⟩, hrest⟩
    rw [List.drop_left] at hrest
    cases rest with
    | nil => exact .inl (List.append_nil page)
    | cons c cs =>
      obtain rfl : c = '/' := by simpa using hrest
      exact .inr ⟨cs, List.append_assoc page ['/'] cs⟩
  · rintro (rfl | ⟨cs, rfl⟩)
    · simp
    · simp [List.append_assoc]

/-- Who lies below a home lies below it with slashes at the end, and without. -/
theorem under_key_iff {path page : String} (h : page.toList.getLast? ≠ some '/') :
    under (key path) page.toList = true ↔ path = page ∨ (page ++ "/").toList <+: path.toList := by
  obtain ⟨n, hn⟩ := exists_slashes path
  have hself := key_eq_self h
  rw [under_iff, String.toList_append]
  constructor
  · rintro (hkey | ⟨cs, hcs⟩)
    · rw [hkey, String.ofList_toList] at hn
      cases n with
      | zero => exact .inl (by simpa [slashes] using hn)
      | succ n =>
        refine .inr ⟨List.replicate n '/', ?_⟩
        rw [hn, String.toList_append, slashes, String.toList_ofList]
        simp [List.replicate_succ]
    · refine .inr ⟨cs ++ (slashes n).toList, ?_⟩
      rw [hn, ← hcs]
      simp
  · rintro (rfl | ⟨cs, hcs⟩)
    · exact .inl hself
    · have hcs : path.toList = page.toList ++ '/' :: cs := by
        rw [← hcs, List.append_assoc]
        rfl
      rw [key, hcs, Text.dropTrailing_append]
      split
      next => exact .inl hself
      next hne =>
        refine .inr ?_
        -- what is left of the part below the home still begins with its slash
        obtain ⟨post, -, hsplit⟩ := Text.dropTrailing_split (· == '/') ('/' :: cs)
        cases hrest : Text.dropTrailing (· == '/') ('/' :: cs) with
        | nil => exact absurd (by rw [hrest]; rfl) hne
        | cons c ds =>
          rw [hrest, List.cons_append] at hsplit
          obtain rfl : '/' = c := (List.cons.inj hsplit).1
          exact ⟨ds, List.append_assoc page.toList ['/'] ds⟩

/-! ## Rules by what is looked up -/

theorem getLast?_home (r : Role) : r.home.toList.getLast? ≠ some '/' := by cases r <;> decide

theorem getLast?_page (a : Access) : ∀ page ∈ a.pages, page.toList.getLast? ≠ some '/' := by
  cases a <;> simp only [pages] <;> decide

theorem lists_iff (a : Access) (path : String) : a.Lists path ↔ a.Covers (key path) := by
  cases a with
  | role r => exact (under_key_iff (getLast?_home r)).symm
  | everyone | guestOnly | authenticated | unknown =>
    constructor
    · rintro ⟨page, hpage, hn⟩
      have hkey := (ofList_key_eq_iff (getLast?_page _ page hpage)).2 hn
      change String.ofList (key path) ∈ _
      rw [hkey]
      exact hpage
    · intro h
      exact ⟨_, h, exists_slashes path⟩

/-- Nothing lies below the homes of two roles. -/
theorem role_eq_of_under {cs : List Char} {r r' : Role} (h : under cs r.home.toList = true)
    (h' : under cs r'.home.toList = true) : r = r' := by
  have hbegins {r : Role} (h : under cs r.home.toList = true) : r.home.toList <+: cs :=
    List.isPrefixOf_iff_prefix.1 (Bool.and_eq_true _ _ ▸ h).1
  have hlength : r.home.toList.length = r'.home.toList.length := by
    cases r <;> cases r' <;> decide
  have heq := List.IsPrefix.eq_of_length
    (List.prefix_of_prefix_length_le (hbegins h) (hbegins h') (Nat.le_of_eq hlength)) hlength
  cases r <;> cases r' <;> first | rfl | exact absurd heq (by decide)

/-- No page of the table lies below a home. -/
theorem not_under_page (a : Access) (r : Role) :
    ∀ page ∈ a.pages, under page.toList r.home.toList = false := by
  cases a <;> cases r <;> simp only [pages] <;> decide

theorem pages_disjoint {a b : Access} {page : String} (ha : page ∈ a.pages) (hb : page ∈ b.pages) :
    a = b := by
  have hdisjoint : ∀ x ∈ [everyone, guestOnly, authenticated],
      ∀ y ∈ [everyone, guestOnly, authenticated], ∀ page ∈ x.pages, page ∈ y.pages → x = y := by
    decide
  have hmem {a : Access} (h : page ∈ a.pages) : a ∈ [everyone, guestOnly, authenticated] := by
    cases a <;> simp [pages] at h ⊢
  exact hdisjoint a (hmem ha) b (hmem hb) page ha hb

theorem Covers.unique {cs : List Char} {a b : Access} (ha : a.Covers cs) (hb : b.Covers cs) :
    a = b := by
  have hmixed {r : Role} {a : Access} (hr : under cs r.home.toList = true)
      (ha : String.ofList cs ∈ a.pages) : False := by
    have hnot := not_under_page a r _ ha
    rw [String.toList_ofList, hr] at hnot
    cases hnot
  cases a with
  | role r =>
    cases b with
    | role r' => rw [role_eq_of_under ha hb]
    | _ => exact (hmixed ha hb).elim
  | _ =>
    cases b with
    | role r' => exact (hmixed hb ha).elim
    | _ => exact pages_disjoint ha hb

/-- The rule for a path covers what is looked up, and a path is unknown only if no rule does. -/
theorem ofPath_covers {path : String} {a : Access} (h : ofPath path = a) :
    a.Covers (key path) ∨ a = .unknown ∧ ∀ b : Access, ¬b.Covers (key path) := by
  rw [ofPath] at h
  split at h
  next hfaculty => exact .inl (h ▸ hfaculty)
  next hfaculty =>
    split at h
    next hstudent => exact .inl (h ▸ hstudent)
    next hstudent =>
      split at h
      next hprofile => exact .inl (h ▸ List.mem_singleton.2 hprofile)
      next hprofile =>
        split at h
        next hguest => exact .inl (h ▸ List.contains_iff_mem.1 hguest)
        next hguest =>
          split at h
          next hopen => exact .inl (h ▸ List.contains_iff_mem.1 hopen)
          next hopen =>
            refine .inr ⟨h.symm, fun b hb => ?_⟩
            cases b with
            | role r =>
              cases r with
              | faculty => exact hfaculty hb
              | student => exact hstudent hb
            | authenticated => exact hprofile (List.mem_singleton.1 hb)
            | guestOnly => exact hguest (List.contains_iff_mem.2 hb)
            | everyone => exact hopen (List.contains_iff_mem.2 hb)
            | unknown => cases hb

/-- For every path: the rule is that of a role, or that of pages, just if the table lists the path so,
and that the path is unknown just if the table does not list it at all; it never lists a path twice,
and slashes put behind a path change nothing. -/
theorem ofPath_classifies (path : String) :
    (∀ a : Access, a ≠ .unknown → (ofPath path = a ↔ a.Lists path)) ∧
      (ofPath path = .unknown ↔ ∀ a : Access, ¬a.Lists path) ∧
      (∀ a b : Access, a.Lists path → b.Lists path → a = b) ∧
      ∀ n, ofPath (path ++ slashes n) = ofPath path := by
  simp only [lists_iff]
  have hcovers := ofPath_covers (Eq.refl (ofPath path))
  refine ⟨?_, ?_, ?_, ?_⟩
  · intro a ha
    constructor
    · rintro rfl
      exact hcovers.resolve_right fun h => ha h.1
    · intro h
      rcases hcovers with hrule | ⟨-, hnone⟩
      · exact hrule.unique h
      · exact absurd h (hnone a)
  · constructor
    · intro h
      rcases hcovers with hrule | ⟨-, hnone⟩
      · rw [h] at hrule
        cases hrule
      · exact hnone
    · intro hnone
      exact (hcovers.resolve_left (hnone _)).1
  · intro a b ha hb
    exact ha.unique hb
  · intro n
    have hkey := key_append_slashes path n
    rw [key, key] at hkey
    rw [ofPath, ofPath, hkey]

/-- A page whose name begins like a home is not below it. -/
example : ofPath "/faculty-dashboard//" = .everyone ∧ ofPath "/faculty//" = .role .faculty := by
  decide

end SessionKeeper.Access
