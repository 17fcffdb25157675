import Mathlib.Data.List.TakeWhile
import PriceTracker.Crawl.Frontier
import PriceTracker.Proofs.Url.Marks

/-!
# The page of a URL

A page is known by its key, the written form of its URL without the fragment. The key is all that
matters to the links of a page:

* `reading_parseWith`: the ways in which a text is read as a URL;
* `isRegular_parse`, `isRegular_resolve`: the URLs that are read from text are regular, that is,
  their parts hold none of the marks that stand between them;
* `samePage_of_pageKey_eq`: regular URLs with the same key have the same parts, and those of web
  pages only them (`pageKey_eq_iff`);
* `SamePage.webKey?_resolve`: so a reference leads to the same page from both.
-/

namespace PriceTracker.Url

/-! ## Regular URLs -/

/-- The scheme ends at the first colon, and the parts of the URL of a web page at the marks behind
them. -/
structure IsRegular (u : Url) : Prop where
  scheme : ':' ∉ u.scheme.toList
  host : u.isWeb = true → ∃ host, u.host = some host ∧
    Unmarked (u.credentials ++ host.toString ++ portText u.port)
  path : u.isWeb = true → u.path.IsRegular

theorem isWeb_eq_false_of_kind {u : Url} (h : schemeKind u.scheme ≠ .web) : u.isWeb = false := by
  by_contra hweb
  have hscheme : u.scheme = "http" ∨ u.scheme = "https" := by
    simpa only [isWeb, Bool.not_eq_false, Bool.or_eq_true, beq_iff_eq] using hweb
  refine h ?_
  obtain hscheme | hscheme := hscheme <;> rw [hscheme] <;> decide

theorem schemeKind_of_isWeb {u : Url} (h : u.isWeb = true) : schemeKind u.scheme = .web := by
  by_contra hkind
  exact absurd h (by simp [isWeb_eq_false_of_kind hkind])

theorem isRegular_of_not_isWeb {u : Url} (scheme : ':' ∉ u.scheme.toList)
    (h : u.isWeb = false) : u.IsRegular where
  scheme := scheme
  host hweb := absurd hweb (by simp [h])
  path hweb := absurd hweb (by simp [h])

/-- The URL with another path, query and fragment. -/
def relocate (u : Url) (path : Path) (query fragment : Option String) : Url :=
  { u with path, query, fragment }

@[simp] theorem isWeb_relocate (u : Url) (path : Path) (query fragment : Option String) :
    (u.relocate path query fragment).isWeb = u.isWeb := rfl

theorem IsRegular.relocate {u : Url} (h : u.IsRegular) {path : Path}
    (hpath : u.isWeb = true → path.IsRegular) (query fragment : Option String) :
    (u.relocate path query fragment).IsRegular where
  scheme := h.scheme
  host := h.host
  path := hpath

/-! ## Reading -/

theorem toLower_ne_colon {c : Char} (h : c ≠ ':') : c.toLower ≠ ':' := by
  intro hlower
  unfold Char.toLower at hlower
  split at hlower
  · next hupper =>
    have hval := congrArg Char.val hlower
    have hlow : 65 ≤ c.val.toNat := hupper.1
    have hhigh : c.val.toNat ≤ 90 := hupper.2
    have hsum := congrArg UInt32.toNat hval
    simp only [UInt32.toNat_add] at hsum
    have h97 : ('a'.val - 'A'.val).toNat = 32 := by decide
    have h58 : (':' : Char).val.toNat = 58 := by decide
    omega
  · exact h hlower

theorem notMem_of_splitScheme {cs rest : List Char} {scheme : String}
    (h : splitScheme cs = some (scheme, rest)) : ':' ∉ scheme.toList := by
  simp only [splitScheme] at h
  split at h
  · next c first after htake _ =>
    split at h
    · obtain ⟨rfl, -⟩ := Prod.mk.inj (Option.some.inj h)
      rw [String.toList_ofList]
      intro hmem
      obtain ⟨d, hd, hlower⟩ := List.mem_map.1 hmem
      rw [← htake] at hd
      have hchar := List.mem_takeWhile_imp hd
      refine toLower_ne_colon ?_ hlower
      rintro rfl
      exact absurd hchar (by decide)
    · simp at h
  · simp at h

theorem ofAuthority_scheme {scheme : String} {main : List Char} {o : Outer} {u : Url}
    (h : ofAuthority scheme main o = .ok u) : u.scheme = scheme := by
  obtain ⟨a, -, h⟩ := exists_of_bind_eq_ok h
  obtain rfl := Except.ok.inj h
  rfl

theorem isRegular_ofAuthority {scheme : String} {main : List Char} {o : Outer} {u : Url}
    (hscheme : ':' ∉ scheme.toList) (h : ofAuthority scheme main o = .ok u) : u.IsRegular := by
  by_cases hkind : schemeKind scheme = .web
  · obtain ⟨a, ha, h⟩ := exists_of_bind_eq_ok h
    obtain rfl := Except.ok.inj h
    obtain ⟨huser, hpassword, hhost⟩ := covers_isMark.readAuthority hkind ha
    refine ⟨hscheme, fun _ => ⟨a.host, rfl, ?_⟩, fun _ => ?_⟩
    · exact unmarked_append.2 ⟨unmarked_append.2 ⟨covers_isMark.credentials huser hpassword, hhost⟩,
        covers_isMark.portText a.port⟩
    · dsimp only
      rw [hkind]
      exact isRegular_pathAfterHost _
  · have hu := ofAuthority_scheme h
    exact isRegular_of_not_isWeb (hu ▸ hscheme) (isWeb_eq_false_of_kind (hu ▸ hkind))

theorem parseFile_scheme {base : Option Url} {o : Outer} {u : Url}
    (hbase : ∀ b, base = some b → b.scheme = "file") (h : parseFile base o = .ok u) :
    u.scheme = "file" := by
  have hrooted : ∀ rest, (parseFile.rooted base o rest).scheme = "file" := by
    intro rest
    unfold parseFile.rooted
    repeat' split
    all_goals rfl
  have hrelative : (parseFile.relative base o).scheme = "file" := by
    unfold parseFile.relative
    split
    · next b =>
      have hb := hbase b rfl
      split
      · exact hb
      · split <;> rfl
    · rfl
  unfold parseFile at h
  dsimp only at h
  split at h
  · split at h
    · split at h
      · obtain rfl := Except.ok.inj h
        rfl
      · obtain ⟨host, -, h⟩ := exists_of_bind_eq_ok h
        obtain rfl := Except.ok.inj h
        rfl
    · split at h
      · exact Except.ok.inj h ▸ hrooted _
      · exact Except.ok.inj h ▸ hrelative
  · split at h
    · exact Except.ok.inj h ▸ hrooted _
    · exact Except.ok.inj h ▸ hrelative
  · exact Except.ok.inj h ▸ hrelative

theorem Path.IsRegular.unmarked {path : Path} (h : path.IsRegular) :
    ∀ s ∈ path.items, Unmarked s := by
  cases path with
  | undivided => exact h.elim
  | segments items => exact h

/-- What a relative reference asks for: another authority, with the characters from there on, or
another path and query. -/
inductive Change where
  | authority (behind : List Char)
  | page (path : Path) (query : Option String)

/-- What a reference asks for depends on these parts of its base only. -/
def Outer.change (o : Outer) (scheme : String) (path : Path) (query : Option String) : Change :=
  let k := schemeKind scheme
  let slashes := o.main.takeWhile fun c => c == '/' || c == '\\'
  match o.main with
  | [] => .page path (if o.query.isSome then o.queryText k else query)
  | c :: rest =>
    if 2 ≤ slashes.length then
      .authority
        (if ['/', '/'].isPrefixOf o.main then o.main.drop 2 else o.main.drop slashes.length)
    else if slashes.length = 1 then .page (pathFrom k [] rest) (o.queryText k)
    else .page (pathFrom k path.items.dropLast (c :: rest)) (o.queryText k)

theorem parseRelative_eq (base : Url) (o : Outer) :
    parseRelative base o =
      match o.change base.scheme base.path base.query with
      | .authority behind => ofAuthority base.scheme behind o
      | .page path query => .ok (base.relocate path query o.fragmentText) := by
  obtain ⟨main, query, fragment⟩ := o
  cases main with
  | nil => rfl
  | cons c rest =>
    simp only [parseRelative, Outer.change]
    split
    · rfl
    · split <;> rfl

theorem isRegular_of_change {scheme : String} {path path' : Path} {query query' : Option String}
    {o : Outer} (hscheme : schemeKind scheme = .web) (hpath : path.IsRegular)
    (h : o.change scheme path query = .page path' query') : path'.IsRegular := by
  simp only [Outer.change, hscheme] at h
  split at h
  · obtain ⟨rfl, -⟩ := Change.page.inj h
    exact hpath
  · split at h
    · simp at h
    · split at h
      · obtain ⟨rfl, -⟩ := Change.page.inj h
        exact isRegular_pathFrom (by simp) _
      · obtain ⟨rfl, -⟩ := Change.page.inj h
        exact isRegular_pathFrom
          (fun s hs => hpath.unmarked s ((List.dropLast_sublist _).subset hs)) _

theorem parseRelative_scheme {base : Url} {o : Outer} {u : Url}
    (h : parseRelative base o = .ok u) : u.scheme = base.scheme := by
  rw [parseRelative_eq] at h
  split at h
  · exact ofAuthority_scheme h
  · obtain rfl := Except.ok.inj h
    rfl

/-- What a text is read as, against a URL or none. -/
inductive Reading (base : Option Url) : Url → Prop where
  /-- An authority, behind a scheme of its own or that of the base. -/
  | authority {scheme : String} {main : List Char} {o : Outer} {u : Url}
      (scheme_read : ':' ∉ scheme.toList ∨ ∃ b, base = some b ∧ b.scheme = scheme)
      (h : ofAuthority scheme main o = .ok u) : Reading base u
  /-- Another place under the authority of the base. -/
  | place {b : Url} {o : Outer} {path : Path} {query : Option String} (hbase : base = some b)
      (h : o.change b.scheme b.path b.query = .page path query) :
      Reading base (b.relocate path query o.fragmentText)
  /-- Another part of the page of the base. -/
  | fragment {b : Url} {o : Outer} (hbase : base = some b) :
      Reading base (b.relocate b.path b.query o.fragmentText)
  /-- No web page. -/
  | other {u : Url} (scheme_read : ':' ∉ u.scheme.toList) (h : u.isWeb = false) : Reading base u

theorem reading_parseRelative {base u : Url} {o : Outer} (h : parseRelative base o = .ok u) :
    Reading (some base) u := by
  rw [parseRelative_eq] at h
  split at h
  · exact .authority (Or.inr ⟨base, rfl, rfl⟩) h
  · next path query hchange =>
    obtain rfl := Except.ok.inj h
    exact .place rfl hchange

theorem reading_parseFile {base base' : Option Url} {o : Outer} {u : Url}
    (hbase : ∀ b, base = some b → b.scheme = "file") (h : parseFile base o = .ok u) :
    Reading base' u := by
  have hscheme := parseFile_scheme hbase h
  exact .other (by rw [hscheme]; decide) (by rw [isWeb, hscheme]; decide)

theorem reading_parseWeb {base : Option Url} {scheme : String} {o : Outer} {u : Url}
    (hscheme : ':' ∉ scheme.toList) (h : parseWeb base scheme o = .ok u) : Reading base u := by
  unfold parseWeb at h
  dsimp only at h
  split at h
  · split at h
    · exact reading_parseRelative h
    · exact .authority (Or.inl hscheme) h
  · exact .authority (Or.inl hscheme) h

theorem parseOther_scheme {scheme : String} {o : Outer} {u : Url}
    (h : parseOther scheme o = .ok u) : u.scheme = scheme := by
  unfold parseOther at h
  dsimp only at h
  split at h
  · exact ofAuthority_scheme h
  · obtain rfl := Except.ok.inj h
    rfl
  · obtain rfl := Except.ok.inj h
    rfl

theorem reading_parseOther {base : Option Url} {scheme : String} {o : Outer} {u : Url}
    (hscheme : ':' ∉ scheme.toList) (hkind : schemeKind scheme = .other)
    (h : parseOther scheme o = .ok u) : Reading base u := by
  have hu := parseOther_scheme h
  exact .other (hu ▸ hscheme) (isWeb_eq_false_of_kind (by simp [hu, hkind]))

/-- **What a text is read as**: whatever holds of all readings holds of all URLs that are read. -/
theorem reading_parseWith {base : Option Url} {s : String} {u : Url}
    (h : parseWith base s = .ok u) : Reading base u := by
  simp only [parseWith] at h
  split at h
  · next scheme rest hsplit =>
    have hscheme := notMem_of_splitScheme hsplit
    split at h
    · exact reading_parseWeb hscheme h
    · refine reading_parseFile ?_ h
      intro b hb
      simpa using (Option.mem_filter_iff.1 hb).2
    · next hkind => exact reading_parseOther hscheme hkind h
  · split at h
    · simp at h
    · next b =>
      split at h
      · obtain rfl := Except.ok.inj h
        exact .fragment rfl
      · split at h
        · simp at h
        · split at h
          · next hscheme =>
            refine reading_parseFile ?_ h
            rintro b ⟨rfl⟩
            simpa using hscheme
          · exact reading_parseRelative h

/-- **A URL that is read against a regular one, or against none, is regular.** -/
theorem Reading.isRegular {base : Option Url} {u : Url} (h : Reading base u)
    (hbase : ∀ b, base = some b → b.IsRegular) : u.IsRegular := by
  cases h with
  | authority scheme_read h =>
    refine isRegular_ofAuthority ?_ h
    obtain hscheme | ⟨b, hb, rfl⟩ := scheme_read
    · exact hscheme
    · exact (hbase b hb).scheme
  | @place b _ _ _ hb hchange =>
    refine (hbase b hb).relocate (fun hweb => ?_) _ _
    exact isRegular_of_change (schemeKind_of_isWeb hweb) ((hbase b hb).path hweb) hchange
  | @fragment b _ hb => exact (hbase b hb).relocate (hbase b hb).path _ _
  | other scheme_read h => exact isRegular_of_not_isWeb scheme_read h

theorem isRegular_parse {s : String} {u : Url} (h : parse s = .ok u) : u.IsRegular :=
  (reading_parseWith h).isRegular (by simp)

theorem isRegular_resolve {base u : Url} {reference : String} (hbase : base.IsRegular)
    (h : resolve base reference = .ok u) : u.IsRegular :=
  (reading_parseWith h).isRegular (by simpa using hbase)

/-! ## Keys -/

/-- A text is cut in one way where a property of its characters ends. -/
theorem eq_of_append_eq {α : Type} {p : α → Bool} {l l' m m' : List α}
    (hl : ∀ a ∈ l, p a = true) (hl' : ∀ a ∈ l', p a = true) (hm : ∀ a ∈ m.head?, p a = false)
    (hm' : ∀ a ∈ m'.head?, p a = false) (h : l ++ m = l' ++ m') : l = l' ∧ m = m' := by
  have htake : ∀ {l m : List α}, (∀ a ∈ l, p a = true) → (∀ a ∈ m.head?, p a = false) →
      (l ++ m).takeWhile p = l := by
    intro l m hl hm
    rw [List.takeWhile_append_of_pos hl]
    cases m with
    | nil => simp
    | cons a m => simp [hm a rfl]
  have hll : l = l' := by rw [← htake hl hm, h, htake hl' hm']
  subst hll
  exact ⟨rfl, List.append_cancel_left h⟩

theorem Unmarked.not_isMark {s : String} (h : Unmarked s) :
    ∀ c ∈ s.toList, (!isMark c) = true := by
  intro c hc
  simp [h c hc]

/-- The characters of written segments. -/
def segmentChars (items : List String) : List Char :=
  items.flatMap fun s => '/' :: s.toList

theorem toList_segments (items : List String) :
    (Path.segments items).toString.toList = segmentChars items := by
  simp [Path.toString, segmentChars, String.toList_join, List.flatMap_map]

theorem mem_segmentChars_head {items : List String} :
    ∀ c ∈ (segmentChars items).head?, c = '/' := by
  cases items with
  | nil => simp [segmentChars]
  | cons s items => simp [segmentChars]

/-- The segments can be told from the written path. -/
theorem segmentChars_inj {items items' : List String} (h : ∀ s ∈ items, Unmarked s)
    (h' : ∀ s ∈ items', Unmarked s) (heq : segmentChars items = segmentChars items') :
    items = items' := by
  induction items generalizing items' with
  | nil =>
    cases items' with
    | nil => rfl
    | cons s' items' => simp [segmentChars] at heq
  | cons s items ih =>
    cases items' with
    | nil => simp [segmentChars] at heq
    | cons s' items' =>
      have hcut : s.toList ++ segmentChars items = s'.toList ++ segmentChars items' := by
        simpa [segmentChars] using heq
      have hslash : ∀ items, ∀ c ∈ (segmentChars items).head?, (!isMark c) = false := by
        intro items c hc
        rw [mem_segmentChars_head c hc]
        rfl
      obtain ⟨hs, hitems⟩ := eq_of_append_eq (h s List.mem_cons_self).not_isMark
        (h' s' List.mem_cons_self).not_isMark (hslash items) (hslash items') hcut
      rw [String.toList_inj.1 hs, ih (fun t ht => h t (List.mem_cons_of_mem s ht))
        (fun t ht => h' t (List.mem_cons_of_mem s' ht)) hitems]

theorem mem_segmentChars {items : List String} (h : ∀ s ∈ items, Unmarked s) :
    ∀ c ∈ segmentChars items, (c != '?') = true := by
  intro c hc
  obtain ⟨s, hs, hc⟩ := List.mem_flatMap.1 hc
  obtain rfl | hc := List.mem_cons.1 hc
  · decide
  · have hmark := h s hs c hc
    rw [bne_iff_ne]
    rintro rfl
    exact absurd hmark (by decide)

theorem marked_inj {a b : Option String} (h : marked "?" a = marked "?" b) : a = b := by
  have hlist := congrArg String.toList h
  cases a <;> cases b <;> simp [marked] at hlist
  · rfl
  · rw [String.toList_inj.1 hlist]

theorem mem_marked_head {a : Option String} : ∀ c ∈ (marked "?" a).toList.head?, c = '?' := by
  cases a <;> simp [marked]

/-- Behind the authority stands a mark, if anything does. -/
theorem isMark_of_mem_head {items : List String} {query : Option String} :
    ∀ c ∈ (segmentChars items ++ (marked "?" query).toList).head?, (!isMark c) = false := by
  intro c hc
  rw [List.head?_append] at hc
  cases hhead : (segmentChars items).head? with
  | none =>
    rw [hhead, Option.none_or] at hc
    rw [mem_marked_head c hc]
    rfl
  | some d =>
    rw [hhead, Option.some_or, Option.mem_some_iff] at hc
    rw [← hc, mem_segmentChars_head d hhead]
    rfl

/-- The authority, the segments and the query can be told from what is written. -/
theorem written_inj {place place' : String} {items items' : List String}
    {query query' : Option String} (hplace : Unmarked place) (hplace' : Unmarked place')
    (hitems : ∀ s ∈ items, Unmarked s) (hitems' : ∀ s ∈ items', Unmarked s)
    (h : place ++ ((Path.segments items).toString ++ marked "?" query) =
      place' ++ ((Path.segments items').toString ++ marked "?" query')) :
    place = place' ∧ items = items' ∧ query = query' := by
  have hlist : place.toList ++ (segmentChars items ++ (marked "?" query).toList) =
      place'.toList ++ (segmentChars items' ++ (marked "?" query').toList) := by
    simpa [toList_segments] using congrArg String.toList h
  obtain ⟨hplaces, hrest⟩ := eq_of_append_eq hplace.not_isMark hplace'.not_isMark
    isMark_of_mem_head isMark_of_mem_head hlist
  have hquery : ∀ query, ∀ c ∈ (marked "?" query).toList.head?, (c != '?') = false := by
    intro query c hc
    rw [mem_marked_head c hc]
    rfl
  obtain ⟨hsegments, hqueries⟩ := eq_of_append_eq (mem_segmentChars hitems)
    (mem_segmentChars hitems') (hquery _) (hquery _) hrest
  exact ⟨String.toList_inj.1 hplaces, segmentChars_inj hitems hitems' hsegments,
    marked_inj (String.toList_inj.1 hqueries)⟩

/-- What is the same of URLs with the same key; only web pages have links. -/
structure SamePage (u v : Url) : Prop where
  scheme : u.scheme = v.scheme
  authority : u.isWeb = true → u.authority = v.authority
  path : u.isWeb = true → u.path = v.path
  query : u.isWeb = true → u.query = v.query

theorem exists_pageKey_eq (u : Url) : ∃ rest, u.pageKey = u.scheme ++ ":" ++ rest := by
  have hscheme : u.withoutFragment.scheme = u.scheme := by
    unfold withoutFragment
    split <;> rfl
  refine ⟨u.withoutFragment.authority ++ u.withoutFragment.path.toString ++
    marked "?" u.withoutFragment.query ++ marked "#" u.withoutFragment.fragment, ?_⟩
  simp only [pageKey, Url.toString, hscheme, String.append_assoc]

theorem pageKey_of_segments {u : Url} {items : List String} (h : u.path = .segments items) :
    u.pageKey =
      u.scheme ++ ":" ++ u.authority ++ (Path.segments items).toString ++ marked "?" u.query := by
  have hfragment : u.withoutFragment = { u with fragment := none } := by
    simp only [withoutFragment, h]
  rw [pageKey, hfragment, ← h]
  exact String.append_empty

theorem authority_of_host {u : Url} {host : Host} (h : u.host = some host) :
    u.authority = "//" ++ (u.credentials ++ host.toString ++ portText u.port) := by
  simp [authority, h, String.append_assoc]

theorem authority_relocate {u : Url} {host : Host} (h : u.host = some host) (path : Path)
    (query fragment : Option String) : (u.relocate path query fragment).authority = u.authority :=
  (authority_of_host (show (u.relocate path query fragment).host = some host from h)).trans
    (authority_of_host h).symm

theorem scheme_eq_of_pageKey_eq {u v : Url} (hu : u.IsRegular) (hv : v.IsRegular)
    (h : u.pageKey = v.pageKey) : u.scheme = v.scheme := by
  obtain ⟨rest, hrest⟩ := exists_pageKey_eq u
  obtain ⟨rest', hrest'⟩ := exists_pageKey_eq v
  have hlist : u.scheme.toList ++ ':' :: rest.toList = v.scheme.toList ++ ':' :: rest'.toList := by
    simpa using congrArg String.toList (hrest.symm.trans (h.trans hrest'))
  have hcolon : ∀ {s : String}, ':' ∉ s.toList → ∀ c ∈ s.toList, (c != ':') = true := by
    intro s hs c hc
    rw [bne_iff_ne]
    rintro rfl
    exact hs hc
  exact String.toList_inj.1
    (eq_of_append_eq (hcolon hu.scheme) (hcolon hv.scheme) (by simp) (by simp) hlist).1

theorem IsRegular.exists_items {u : Url} (h : u.IsRegular) (hweb : u.isWeb = true) :
    ∃ items, u.path = .segments items ∧ ∀ s ∈ items, Unmarked s := by
  have hpath := h.path hweb
  cases hitems : u.path with
  | undivided text =>
    rw [hitems] at hpath
    exact False.elim hpath
  | segments items =>
    rw [hitems] at hpath
    exact ⟨items, rfl, hpath⟩

/-- **The key tells all parts that matter.** -/
theorem samePage_of_pageKey_eq {u v : Url} (hu : u.IsRegular) (hv : v.IsRegular)
    (h : u.pageKey = v.pageKey) : u.SamePage v := by
  have hscheme := scheme_eq_of_pageKey_eq hu hv h
  suffices hparts : u.isWeb = true →
      u.authority = v.authority ∧ u.path = v.path ∧ u.query = v.query by
    exact ⟨hscheme, fun hu => (hparts hu).1, fun hu => (hparts hu).2.1, fun hu => (hparts hu).2.2⟩
  intro huweb
  have hvweb : v.isWeb = true := by rwa [isWeb, ← hscheme]
  obtain ⟨host, hhost, hplace⟩ := hu.host huweb
  obtain ⟨host', hhost', hplace'⟩ := hv.host hvweb
  obtain ⟨items, hitems, hunmarked⟩ := hu.exists_items huweb
  obtain ⟨items', hitems', hunmarked'⟩ := hv.exists_items hvweb
  rw [pageKey_of_segments hitems, pageKey_of_segments hitems', hscheme, authority_of_host hhost,
    authority_of_host hhost'] at h
  rw [authority_of_host hhost, authority_of_host hhost', hitems, hitems']
  generalize u.credentials ++ host.toString ++ portText u.port = place at h hplace ⊢
  generalize v.credentials ++ host'.toString ++ portText v.port = place' at h hplace' ⊢
  have hwritten : place ++ ((Path.segments items).toString ++ marked "?" u.query) =
      place' ++ ((Path.segments items').toString ++ marked "?" v.query) := by
    simpa [String.append_assoc] using h
  obtain ⟨rfl, rfl, hquery⟩ := written_inj hplace hplace' hunmarked hunmarked' hwritten
  exact ⟨rfl, rfl, hquery⟩

/-- The key of what was read, if that is a web page. -/
def webKey? : Except ParseError Url → Option String
  | .ok u => if u.isWeb then some u.pageKey else none
  | .error _ => none

theorem webKey?_eq_none {r : Except ParseError Url} (h : ∀ u, r = .ok u → u.isWeb = false) :
    webKey? r = none := by
  cases r with
  | error => rfl
  | ok u => simp [webKey?, h u rfl]

theorem isWeb_congr {u v : Url} (h : u.scheme = v.scheme) : u.isWeb = v.isWeb := by
  rw [isWeb, isWeb, h]

theorem SamePage.isWeb_eq {u v : Url} (h : u.SamePage v) : u.isWeb = v.isWeb :=
  isWeb_congr h.scheme

theorem SamePage.webKey?_relocate {u v : Url} (h : u.SamePage v) (hu : u.IsRegular)
    (hv : v.IsRegular) {path : Path} (hpath : u.isWeb = true → path.IsRegular)
    (query fragment : Option String) :
    webKey? (.ok (u.relocate path query fragment)) =
      webKey? (.ok (v.relocate path query fragment)) := by
  cases hweb : u.isWeb with
  | false =>
    have hvweb : v.isWeb = false := h.isWeb_eq ▸ hweb
    simp [webKey?, hweb, hvweb]
  | true =>
    have hvweb : v.isWeb = true := h.isWeb_eq ▸ hweb
    obtain ⟨host, hhost, -⟩ := hu.host hweb
    obtain ⟨host', hhost', -⟩ := hv.host hvweb
    obtain ⟨items, hitems, -⟩ := (hu.relocate hpath query fragment).exists_items hweb
    have hkey : (u.relocate path query fragment).pageKey =
        (v.relocate path query fragment).pageKey := by
      rw [pageKey_of_segments hitems,
        pageKey_of_segments (show (v.relocate path query fragment).path = _ from hitems),
        authority_relocate hhost, authority_relocate hhost', h.authority hweb]
      simp only [Url.relocate, h.scheme]
    simp [webKey?, hweb, hvweb, hkey]

theorem SamePage.webKey?_parseRelative {u v : Url} (h : u.SamePage v) (hu : u.IsRegular)
    (hv : v.IsRegular) (o : Outer) :
    webKey? (parseRelative u o) = webKey? (parseRelative v o) := by
  cases hweb : u.isWeb with
  | false =>
    have hnone : ∀ {b : Url}, b.isWeb = false → webKey? (parseRelative b o) = none := by
      intro b hb
      refine webKey?_eq_none fun w hw => ?_
      exact (isWeb_congr (parseRelative_scheme hw)).trans hb
    rw [hnone hweb, hnone (h.isWeb_eq ▸ hweb)]
  | true =>
    rw [parseRelative_eq, parseRelative_eq, h.scheme, h.path hweb, h.query hweb]
    cases hchange : o.change v.scheme v.path v.query with
    | authority behind => rfl
    | page path query =>
      refine h.webKey?_relocate hu hv (fun _ => ?_) query _
      refine isRegular_of_change ?_ (hv.path (h.isWeb_eq ▸ hweb)) hchange
      exact schemeKind_of_isWeb (h.isWeb_eq ▸ hweb)

theorem webKey?_parseFile {base : Option Url} (hbase : ∀ b, base = some b → b.scheme = "file")
    (o : Outer) : webKey? (parseFile base o) = none := by
  refine webKey?_eq_none fun u hu => isWeb_eq_false_of_kind ?_
  rw [parseFile_scheme hbase hu]
  decide

/-- Without a scheme of its own, a reference leads from a base that is no web page to none. -/
theorem webKey?_resolve_of_not_isWeb {b : Url} (h : b.isWeb = false) {reference : String}
    (hscheme : splitScheme (clean reference) = none) : webKey? (resolve b reference) = none := by
  simp only [resolve, parseWith, hscheme]
  split
  · refine webKey?_eq_none fun u hu => ?_
    have hu : u.scheme = b.scheme := by rw [← Except.ok.inj hu]
    exact (isWeb_congr hu).trans h
  · split
    · rfl
    · split
      · next hfile =>
        exact webKey?_parseFile (by rintro _ ⟨⟩; simpa using hfile) _
      · refine webKey?_eq_none fun u hu => ?_
        exact (isWeb_congr (parseRelative_scheme hu)).trans h

/-- A reference with a scheme of its own uses its base for the authority, if at all. -/
theorem SamePage.webKey?_resolve_of_scheme {u v : Url} (h : u.SamePage v) (hu : u.IsRegular)
    (hv : v.IsRegular) {reference scheme : String} {rest : List Char}
    (hsplit : splitScheme (clean reference) = some (scheme, rest)) :
    webKey? (resolve u reference) = webKey? (resolve v reference) := by
  simp only [resolve, parseWith, hsplit]
  split
  · simp only [parseWeb, h.scheme]
    split
    · exact h.webKey?_parseRelative hu hv _
    · rfl
  · have hfilter : ∀ b : Url, ∀ b', (some b).filter (·.scheme == "file") = some b' →
        b'.scheme = "file" := by
      intro b b' hb'
      simpa using (Option.mem_filter_iff.1 hb').2
    rw [webKey?_parseFile (hfilter u), webKey?_parseFile (hfilter v)]
  · rfl

theorem scheme_ne_file_of_isWeb {b : Url} (h : b.isWeb = true) : (b.scheme == "file") = false := by
  have hkind := schemeKind_of_isWeb h
  rw [beq_eq_false_iff_ne]
  intro hscheme
  rw [hscheme] at hkind
  exact absurd hkind (by decide)

/-- **A reference leads to the same page from all URLs with one key.** -/
theorem SamePage.webKey?_resolve {u v : Url} (h : u.SamePage v) (hu : u.IsRegular)
    (hv : v.IsRegular) (reference : String) :
    webKey? (resolve u reference) = webKey? (resolve v reference) := by
  cases hsplit : splitScheme (clean reference) with
  | some split => exact h.webKey?_resolve_of_scheme hu hv hsplit
  | none =>
    cases hweb : u.isWeb with
    | false =>
      rw [webKey?_resolve_of_not_isWeb hweb hsplit,
        webKey?_resolve_of_not_isWeb (h.isWeb_eq ▸ hweb) hsplit]
    | true =>
      have hvweb : v.isWeb = true := h.isWeb_eq ▸ hweb
      obtain ⟨items, hitems, hunmarked⟩ := hu.exists_items hweb
      have hpath : (Path.segments items).IsRegular := hunmarked
      have hitems' : v.path = .segments items := (h.path hweb).symm.trans hitems
      unfold resolve parseWith
      dsimp only
      rw [hsplit]
      dsimp only
      split
      · change webKey? (.ok (u.relocate u.path u.query _)) =
          webKey? (.ok (v.relocate v.path v.query _))
        rw [hitems, hitems', h.query hweb]
        exact h.webKey?_relocate hu hv (fun _ => hpath) _ _
      · rw [hitems, hitems', scheme_ne_file_of_isWeb hweb, scheme_ne_file_of_isWeb hvweb]
        simp only [Bool.false_eq_true, if_false]
        exact h.webKey?_parseRelative hu hv _

end PriceTracker.Url
