import SessionKeeper.Client.Delivery
import SessionKeeper.Proofs.Url.Controls

/-!
# Where requests go

A base URL is validated as an address, while the address of an endpoint is made of its text. The two
agree just where the text has no query and no fragment and ends in a character that counts: then the
endpoint's path comes right after the base's path (`Config.reaches_endpoints`). With a query or a
fragment the endpoint's path ends up in it, and every request goes to the base's path alone; after a
control character at the end nothing is reached.
-/

namespace SessionKeeper

open Url

/-- The paths of all endpoints. -/
def Endpoint.paths : List String :=
  [registration, login, logout, profile, verification, forgotPassword, verifyCode, resetPassword,
    Renewal.endpoint]

/-- The path is one slash and then a text that is a path as it is written and has no slash first. -/
structure Endpoint.IsPath (path : String) (cs : List Char) : Prop where
  toList_eq : path.toList = '/' :: cs
  head : cs.head?.any (· != '/') = true
  plain : IsPlainPath cs
  chars : ∀ c ∈ cs, isMark c = false ∧ isEdge c = false ∧ Text.isBlank c = false

theorem Endpoint.isPath {path : String} (h : path ∈ Endpoint.paths) :
    Endpoint.IsPath path path.toList.tail := by
  have hall : ∀ p ∈ Endpoint.paths, p.toList = '/' :: p.toList.tail ∧
      p.toList.tail.head?.any (· != '/') = true ∧ IsPlainPath p.toList.tail ∧
      (p.toList.tail.all fun c => !isMark c && !isEdge c && !Text.isBlank c) = true := by
    decide +kernel
  obtain ⟨hslash, hhead, hplain, hchars⟩ := hall path h
  refine ⟨hslash, hhead, hplain, fun c hc => ?_⟩
  simpa [and_assoc] using List.all_eq_true.1 hchars c hc

/-! ## The text of an address -/

theorem joinUrl_toList {base path : String} {cs : List Char} (hpath : Endpoint.IsPath path cs)
    (htrim : Text.trimChars base.toList = base.toList)
    (hne : Text.dropTrailing (· == '/') base.toList ≠ []) :
    (joinUrl base path).toList = Text.dropTrailing (· == '/') base.toList ++ '/' :: cs := by
  have hblank : ∀ c ∈ '/' :: cs, Text.isBlank c = false :=
    List.forall_mem_cons.2 ⟨by decide, fun c hc => (hpath.chars c hc).2.2⟩
  have hdrop : ('/' :: cs).dropWhile (· == '/') = cs := by
    cases cs with
    | nil => rfl
    | cons c cs =>
      have hc : (c == '/') = false := by simpa using hpath.head
      simp [hc]
  rw [joinUrl, htrim, hpath.toList_eq, Text.trimChars_eq_self hblank, hdrop,
    List.isEmpty_eq_false_iff.2 hne, if_neg Bool.false_ne_true, String.toList_ofList]

theorem Config.validateBaseUrl_eq_ok_iff {s : String} :
    Config.validateBaseUrl s = .ok () ↔ ∃ u, Url.parse s = .ok u ∧ u.IsHttp ∧ u.hasHost = true := by
  rw [validateBaseUrl]
  cases Url.parse s with
  | error e => simp
  | ok u => by_cases hscheme : u.IsHttp <;> cases hhost : u.hasHost <;> simp_all [IsHttp]

/-- An accepted base URL is trimmed, whatever was around it. -/
theorem Config.ofBaseUrl_eq_ok {raw : String} {c : Config} (h : Config.ofBaseUrl raw = .ok c) :
    Config.validateBaseUrl c.apiBaseUrl = .ok () ∧
      Text.trimChars c.apiBaseUrl.toList = c.apiBaseUrl.toList := by
  -- the equation of this definition takes long to derive
  delta ofBaseUrl at h
  split at h
  next c' heq =>
    rw [override] at heq
    cases h
    obtain ⟨hvalid, rfl⟩ := Prod.mk.inj heq
    refine ⟨hvalid, ?_⟩
    simp only [withOverrides, Text.nonBlank?]
    split
    · decide +kernel
    · rw [Option.getD_some, Text.trim, String.toList_ofList, Text.trimChars_trimChars]
  next => cases h

/-! ## The text and the address -/

/-- An address has a colon, so it is not made of slashes. -/
theorem dropTrailing_slashes_ne_nil {base : String} {u : Url} (h : Url.parse base = .ok u)
    (hu : u.IsHttp) : Text.dropTrailing (· == '/') base.toList ≠ [] := by
  intro hnil
  obtain ⟨k, hbase⟩ := Text.dropTrailing_split_beq '/' base.toList
  rw [hnil, List.nil_append] at hbase
  obtain ⟨rest, hsplit⟩ := splitScheme?_of_parse h hu
  have hdrop := (splitScheme?_eq_some_iff.1 hsplit).1
  have hcolon : ':' ∈ relevant base :=
    (List.dropWhile_suffix isSchemeChar).subset (by rw [hdrop]; exact List.mem_cons_self)
  have hlast : ∀ c ∈ base.toList.getLast?, isEdge c = false := fun c hc => by
    rw [hbase] at hc
    rw [List.eq_of_mem_replicate (List.mem_of_getLast? hc)]
    rfl
  rw [relevant_eq_begun hlast, hbase] at hcolon
  cases List.eq_of_mem_replicate (mem_of_mem_begun hcolon)

/-- The requests to an endpoint go to the path of the base and then that of the endpoint. The slashes
that are left out between the two are one, or as many as the base ends in. -/
structure Reaches (base path : String) : Prop where
  accepted : Config.validateBaseUrl (joinUrl base path) = .ok ()
  ends : path.toList <:+ (joinUrl base path).toList.takeWhile (!isMark ·)
  goes : ∃ u front n, Url.parse base = .ok u ∧ u.path = front ++ List.replicate n '/' ∧
    (n ≤ 1 ∨ List.replicate n '/' <:+ base.toList) ∧
    ∀ call : Call, call.path = path →
      (∀ ch ∈ (call.bearer.getD "").toList, isHeaderChar ch = true) →
      call.wire base =
        .ok ⟨call.method, { u with path := front ++ path.toList }, call.bearer,
          call.body.map Json.compact⟩

/-- The requests to an endpoint go to the path of the base alone. -/
structure Strays (base path : String) : Prop where
  accepted : Config.validateBaseUrl (joinUrl base path) = .ok ()
  front : (joinUrl base path).toList.takeWhile (!isMark ·) = base.toList.takeWhile (!isMark ·)
  goes : ∃ u query fragment, Url.parse base = .ok u ∧
    ∀ call : Call, call.path = path →
      (∀ ch ∈ (call.bearer.getD "").toList, isHeaderChar ch = true) →
      call.wire base =
        .ok ⟨call.method, { u with query := query, fragment := fragment }, call.bearer,
          call.body.map Json.compact⟩

theorem Call.wire_of_parse {base path : String} {u : Url}
    (h : Url.parse (joinUrl base path) = .ok u) (hu : u.IsHttp) (hhost : u.hasHost = true)
    (call : Call) (hcall : call.path = path)
    (hbearer : ∀ ch ∈ (call.bearer.getD "").toList, isHeaderChar ch = true) :
    call.wire base = .ok ⟨call.method, u, call.bearer, call.body.map Json.compact⟩ :=
  Call.wire_eq_ok_iff.2 ⟨u, by rw [hcall, h], hhost, hbearer, hu, rfl⟩

theorem reaches_of_plain {base path : String} (hpath : path ∈ Endpoint.paths)
    (hvalid : Config.validateBaseUrl base = .ok ())
    (htrim : Text.trimChars base.toList = base.toList)
    (hmarks : ∀ c ∈ base.toList, isMark c = false)
    (hlast : ∀ c ∈ base.toList.getLast?, isEdge c = false) : Reaches base path := by
  have H := Endpoint.isPath hpath
  obtain ⟨u, hparse, hu, hhost⟩ := Config.validateBaseUrl_eq_ok_iff.1 hvalid
  have hne := dropTrailing_slashes_ne_nil hparse hu
  have hjoined := joinUrl_toList H htrim hne
  obtain ⟨k, hbase⟩ := Text.dropTrailing_split_beq '/' base.toList
  generalize Text.dropTrailing (· == '/') base.toList = stem at hjoined hbase
  generalize path.toList.tail = cs at H hjoined
  have hstem : ∀ c ∈ stem, isMark c = false := fun c hc =>
    hmarks c (by rw [hbase]; exact List.mem_append_left _ hc)
  -- up to the slashes between them the same characters count in both addresses
  have hrelevant : relevant base = begun stem ++ List.replicate k '/' := by
    rw [relevant_eq_begun hlast, hbase, begun_append_slashes]
  have hrelevant' : relevant (joinUrl base path) = begun stem ++ '/' :: cs :=
    relevant_append_slash hjoined fun c hc => (H.chars c hc).2.1
  obtain ⟨front, n, hn, hfront, hlonger⟩ :=
    parse_append hparse hu hrelevant fun c hc => hstem c (mem_of_mem_begun hc)
  have hparse' := hlonger _ cs H.plain (fun c hc => (H.chars c hc).1) hrelevant'
  have hjoinedMarks : ∀ c ∈ (joinUrl base path).toList, isMark c = false := by
    rw [hjoined, List.forall_mem_append, List.forall_mem_cons]
    exact ⟨hstem, rfl, fun c hc => (H.chars c hc).1⟩
  refine ⟨Config.validateBaseUrl_eq_ok_iff.2 ⟨_, hparse', hu, hhost⟩, ?_, u, front, n, hparse,
    hfront, ?_, ?_⟩
  · rw [List.takeWhile_eq_self_iff.2 fun c hc => by rw [hjoinedMarks c hc]; rfl, hjoined,
      H.toList_eq]
    exact List.suffix_append stem ('/' :: cs)
  · have hcases : n ≤ 1 ∨ n ≤ k := by omega
    refine hcases.imp_right fun hk => ⟨stem ++ List.replicate (k - n) '/', ?_⟩
    rw [List.append_assoc, List.replicate_append_replicate, Nat.sub_add_cancel hk, hbase]
  · rw [H.toList_eq]
    exact Call.wire_of_parse hparse' hu hhost

theorem strays_of_mark {base path : String} (hpath : path ∈ Endpoint.paths)
    (hvalid : Config.validateBaseUrl base = .ok ())
    (htrim : Text.trimChars base.toList = base.toList)
    (hmark : ∃ c ∈ base.toList, isMark c = true) : Strays base path := by
  obtain ⟨u, hparse, hu, hhost⟩ := Config.validateBaseUrl_eq_ok_iff.1 hvalid
  obtain ⟨m, hmem, hm⟩ := hmark
  have hjoined := joinUrl_toList (Endpoint.isPath hpath) htrim
    (dropTrailing_slashes_ne_nil hparse hu)
  obtain ⟨xs, ys, hbase⟩ := List.append_of_mem hmem
  have hedge : isEdge m = false ∧ m ≠ '/' := by
    have hmark : m = '?' ∨ m = '#' := by simpa [isMark] using hm
    rcases hmark with rfl | rfl <;> decide
  have hstem : Text.dropTrailing (· == '/') base.toList =
      xs ++ m :: Text.dropTrailing (· == '/') ys := by
    rw [hbase]
    exact Text.dropTrailing_append_cons (by simpa using hedge.2) xs ys
  rw [hstem, List.append_assoc, List.cons_append] at hjoined
  obtain ⟨query, fragment, hparse'⟩ := parse_append_mark hparse hu hm
    (relevant_append_cons hbase hedge.1) (relevant_append_cons hjoined hedge.1)
  refine ⟨Config.validateBaseUrl_eq_ok_iff.2 ⟨_, hparse', hu, hhost⟩, ?_, u, query, fragment,
    hparse, Call.wire_of_parse hparse' hu hhost⟩
  rw [hbase, hjoined, takeWhile_append_of_head (by simpa using hm),
    takeWhile_append_of_head (by simpa using hm)]

/-- Where the requests to an endpoint go is the address that the joined text is read as. -/
theorem Call.eq_of_wire {base path : String} {u v : Url}
    (hv : Url.parse (joinUrl base path) = .ok v)
    (hgoes : ∀ call : Call, call.path = path →
      (∀ ch ∈ (call.bearer.getD "").toList, isHeaderChar ch = true) →
      call.wire base = .ok ⟨call.method, u, call.bearer, call.body.map Json.compact⟩) : u = v := by
  -- any request tells
  have hwire := hgoes ⟨"GET", path, none, none⟩ rfl nofun
  obtain ⟨v', hv', -, -, -, heq⟩ := Call.wire_eq_ok_iff.1 hwire
  cases hv.symm.trans hv'
  exact congrArg WireRequest.url heq

theorem Reaches.path_eq {base path : String} (H : Reaches base path) {u v : Url}
    (hu : Url.parse base = .ok u) (hv : Url.parse (joinUrl base path) = .ok v) :
    ∃ front n, u.path = front ++ List.replicate n '/' ∧ v.path = front ++ path.toList := by
  obtain ⟨u', front, n, hu', hfront, -, hgoes⟩ := H.goes
  cases hu.symm.trans hu'
  obtain rfl := Call.eq_of_wire hv hgoes
  exact ⟨front, n, hfront, rfl⟩

theorem Strays.not_reaches {base path : String} (hpath : path ∈ Endpoint.paths)
    (H : Strays base path) : ¬ Reaches base path := by
  intro hreaches
  obtain ⟨v, hv, -, -⟩ := Config.validateBaseUrl_eq_ok_iff.1 H.accepted
  obtain ⟨u, query, fragment, hu, hgoes⟩ := H.goes
  obtain ⟨front, n, hfront, hend⟩ := hreaches.path_eq hu hv
  have hurl : { u with query := query, fragment := fragment } = v := Call.eq_of_wire hv hgoes
  have hsame : u.path = v.path := by rw [← hurl]
  -- the path of the endpoint would be made of slashes
  rw [hfront, hend] at hsame
  have hslashes := List.append_cancel_left hsame
  have H' := Endpoint.isPath hpath
  generalize path.toList.tail = cs at H'
  rw [H'.toList_eq] at hslashes
  cases cs with
  | nil => cases H'.head
  | cons d cs =>
    have hd : d ∈ List.replicate n '/' := by
      rw [hslashes]
      exact List.mem_cons_of_mem _ List.mem_cons_self
    have hne : d ≠ '/' := by simpa using H'.head
    exact hne (List.eq_of_mem_replicate hd)

/-- A control character at the end stands between the two paths, if there is an address at all. -/
theorem not_reaches_of_edge {base path : String} (hpath : path ∈ Endpoint.paths)
    (hvalid : Config.validateBaseUrl base = .ok ())
    (htrim : Text.trimChars base.toList = base.toList)
    (hmarks : ∀ c ∈ base.toList, isMark c = false)
    (hlast : ∃ c ∈ base.toList.getLast?, isEdge c = true) : ¬ Reaches base path := by
  intro hreaches
  have H := Endpoint.isPath hpath
  obtain ⟨u, hparse, hu, -⟩ := Config.validateBaseUrl_eq_ok_iff.1 hvalid
  obtain ⟨v, hv, -, -⟩ := Config.validateBaseUrl_eq_ok_iff.1 hreaches.accepted
  obtain ⟨c, hc, hedge⟩ := hlast
  have hblank : Text.isBlank c = false := by
    rw [← htrim] at hc
    exact Text.getLast?_dropTrailing hc
  obtain ⟨hcontrol, hinner⟩ := isControl_of_isEdge hedge hblank
  have hne : relevant base ≠ [] := by
    intro hnil
    obtain ⟨rest, hsplit⟩ := splitScheme?_of_parse hparse hu
    rw [hnil] at hsplit
    cases hsplit
  obtain ⟨zs, hzs, hzsLast, hbegun⟩ := begun_eq_of_control hcontrol hinner hc hne
  -- no slash is left out before the path of the endpoint
  have hjoined : (joinUrl base path).toList = base.toList ++ '/' :: path.toList.tail := by
    have hstem : Text.dropTrailing (· == '/') base.toList = base.toList := by
      obtain ⟨bs, hbs⟩ := List.getLast?_eq_some_iff.1 hc
      rw [hbs]
      exact Text.dropTrailing_concat (by simpa using hcontrol.ne (d := '/') (by decide)) bs
    rw [joinUrl_toList H htrim (dropTrailing_slashes_ne_nil hparse hu), hstem]
  have hrelevant : relevant (joinUrl base path) =
      relevant base ++ (zs ++ '/' :: path.toList.tail) := by
    rw [relevant_append_slash hjoined fun c hc => (H.chars c hc).2.1, hbegun, List.append_assoc]
  have hrelevantMarks : ∀ d ∈ relevant base, isMark d = false := fun d hd =>
    hmarks d (mem_of_mem_begun (by rw [hbegun]; exact List.mem_append_left zs hd))
  rcases parse_append_of_control hcontrol hparse hu rfl hrelevantMarks hzs hzsLast H.plain
    (fun d hd => (H.chars d hd).1) hrelevant with ⟨e, he⟩ | ⟨front, hlonger, hok⟩
  · cases hv.symm.trans he
  · obtain ⟨front', n, hfront', hend⟩ := hreaches.path_eq hparse hok
    rw [H.toList_eq] at hend
    have hfront : front = front' := List.append_cancel_right hend
    rw [hfront', ← hfront, List.length_append] at hlonger
    omega

/-- From an accepted base URL the requests to an endpoint reach it just if the base has no query and no
fragment and ends in a character that counts; with a query or a fragment they go to its path alone. -/
theorem Config.reaches_endpoints {raw path : String} {c : Config}
    (hc : Config.ofBaseUrl raw = .ok c) (hpath : path ∈ Endpoint.paths) :
    (Reaches c.apiBaseUrl path ↔ (∀ ch ∈ c.apiBaseUrl.toList, isMark ch = false) ∧
      ∀ ch ∈ c.apiBaseUrl.toList.getLast?, isEdge ch = false) ∧
    ((∃ ch ∈ c.apiBaseUrl.toList, isMark ch = true) → Strays c.apiBaseUrl path) := by
  obtain ⟨hvalid, htrim⟩ := ofBaseUrl_eq_ok hc
  have hstrays := strays_of_mark hpath hvalid htrim
  refine ⟨⟨fun H => ?_, fun ⟨hmarks, hlast⟩ => ?_⟩, hstrays⟩
  · have hmarks : ∀ ch ∈ c.apiBaseUrl.toList, isMark ch = false := fun ch hch =>
      Bool.eq_false_iff.2 fun hmark => (hstrays ⟨ch, hch, hmark⟩).not_reaches hpath H
    exact ⟨hmarks, fun ch hch => Bool.eq_false_iff.2 fun hedge =>
      not_reaches_of_edge hpath hvalid htrim hmarks ⟨ch, hch, hedge⟩ H⟩
  · exact reaches_of_plain hpath hvalid htrim hmarks hlast

theorem exists_of_toOption_map {ε α β : Type} {x : Except ε α} {f : α → β} {b : β}
    (h : x.toOption.map f = some b) : ∃ a, x = .ok a ∧ f a = b := by
  cases x with
  | error e => cases h
  | ok a => exact ⟨a, rfl, Option.some.inj h⟩

/-- A base URL with blanks around it and slashes at its end. -/
theorem Config.reaches_endpoints_of_slashes :
    ∃ c, Config.ofBaseUrl " http://backend.test/api// " = .ok c ∧
      Endpoint.login ∈ Endpoint.paths ∧
      ((Reaches c.apiBaseUrl Endpoint.login ↔
          (∀ ch ∈ c.apiBaseUrl.toList, isMark ch = false) ∧
            ∀ ch ∈ c.apiBaseUrl.toList.getLast?, isEdge ch = false) ∧
        ((∃ ch ∈ c.apiBaseUrl.toList, isMark ch = true) → Strays c.apiBaseUrl Endpoint.login)) ∧
      Reaches "http://backend.test/api//" Endpoint.login := by
  have hlogin : Endpoint.login ∈ Endpoint.paths := by simp [Endpoint.paths]
  have haccepted : (Config.ofBaseUrl " http://backend.test/api// ").toOption.map (·.apiBaseUrl) =
      some "http://backend.test/api//" := by decide +kernel
  obtain ⟨c, hc, hbase⟩ := exists_of_toOption_map haccepted
  have hreaches := reaches_endpoints hc hlogin
  refine ⟨c, hc, hlogin, hreaches, ?_⟩
  rw [hbase] at hreaches
  have hmarks : "http://backend.test/api//".toList.all (!isMark ·) = true := by decide +kernel
  have hlast : "http://backend.test/api//".toList.getLast? = some '/' := by decide +kernel
  refine hreaches.1.2 ⟨fun ch hch => by simpa using List.all_eq_true.1 hmarks ch hch, ?_⟩
  rw [hlast]
  rintro _ ⟨⟩
  rfl

/-- Two base URLs that are accepted: one has a query, and the path of the endpoint ends up in it; the
other ends in a control character, and the address of the endpoint is refused. -/
theorem Config.reaches_endpoints_not :
    (∃ c u, Config.ofBaseUrl "http://backend.test/api?v=1" = .ok c ∧
      Url.parse (joinUrl c.apiBaseUrl Endpoint.login) = .ok u ∧ u.path = "/api".toList ∧
      ¬ Endpoint.login.toList <:+
        (joinUrl c.apiBaseUrl Endpoint.login).toList.takeWhile (!isMark ·)) ∧
    ∃ c, Config.ofBaseUrl "http://backend.test\x01" = .ok c ∧
      Config.validateBaseUrl (joinUrl c.apiBaseUrl Endpoint.login) ≠ .ok () := by
  constructor
  · have haccepted : (Config.ofBaseUrl "http://backend.test/api?v=1").toOption.map (·.apiBaseUrl) =
        some "http://backend.test/api?v=1" := by decide +kernel
    obtain ⟨c, hc, hbase⟩ := exists_of_toOption_map haccepted
    have hread : (Url.parse (joinUrl c.apiBaseUrl Endpoint.login)).toOption.map (·.path) =
        some "/api".toList := by
      rw [hbase]
      decide +kernel
    obtain ⟨u, hu, hpath⟩ := exists_of_toOption_map hread
    refine ⟨c, u, hc, hu, hpath, ?_⟩
    rw [hbase]
    decide +kernel
  · have haccepted : (Config.ofBaseUrl "http://backend.test\x01").toOption.map (·.apiBaseUrl) =
        some "http://backend.test\x01" := by decide +kernel
    obtain ⟨c, hc, hbase⟩ := exists_of_toOption_map haccepted
    have hrefused : (Config.validateBaseUrl (joinUrl c.apiBaseUrl Endpoint.login)).toOption =
        none := by
      rw [hbase]
      decide +kernel
    refine ⟨c, hc, fun hvalid => ?_⟩
    rw [hvalid] at hrefused
    cases hrefused

end SessionKeeper
