import PriceTracker.Proofs.Text.Trimming
import PriceTracker.Proofs.Url.Page

/-!
# The URLs of web pages

Whatever text a web page is read from, its URL has a host and is written in visible ASCII
characters: users, paths, queries and fragments are percent-encoded, the rest are domain names,
addresses and numbers. So nothing can be cut off the ends of its written form.

* `IsWebPage` says that of the parts of a URL;
* `isWebPage_parse` and `isWebPage_resolve`: web pages are read as such;
* `IsWebPage.visible_toString`: then all of the written form is visible, and trimming leaves it as
  it is (`IsWebPage.trim_toString`).
-/

namespace PriceTracker

namespace Url

/-! ## Visible characters -/

/-- An ASCII character that is no control character and no space. -/
def IsVisible (c : Char) : Prop :=
  0x20 < c.toNat ∧ c.toNat < 0x7F

instance (c : Char) : Decidable (IsVisible c) :=
  inferInstanceAs (Decidable (_ ∧ _))

theorem IsVisible.isBlank {c : Char} (h : IsVisible c) : Text.isBlank c = false := by
  obtain ⟨hlow, hhigh⟩ := h
  simp only [Text.isBlank, Bool.or_eq_false_iff, Bool.and_eq_false_iff, decide_eq_false_iff_not,
    beq_eq_false_iff_ne]
  omega

/-- What is neither a control character nor a space is visible. -/
theorem isVisible_of_inControlSet {c : Char} (hset : inControlSet c = false) (hspace : c ≠ ' ') :
    IsVisible c := by
  have hne : c.toNat ≠ 0x20 := by
    intro h
    exact hspace (Char.toNat_inj.1 h)
  simp only [inControlSet, Bool.or_eq_false_iff, decide_eq_false_iff_not] at hset
  exact ⟨by omega, by omega⟩

theorem isVisible_of_inFragmentSet {c : Char} (h : inFragmentSet c = false) : IsVisible c := by
  rw [inFragmentSet, Bool.or_eq_false_iff] at h
  refine isVisible_of_inControlSet h.1 ?_
  rintro rfl
  exact absurd h.2 (by decide)

theorem isVisible_of_inPathSet {c : Char} (h : inPathSet c = false) : IsVisible c := by
  rw [inPathSet, Bool.or_eq_false_iff] at h
  exact isVisible_of_inFragmentSet h.1

theorem isVisible_of_inSpecialQuerySet {c : Char} (h : inSpecialQuerySet c = false) :
    IsVisible c := by
  rw [inSpecialQuerySet, inQuerySet, Bool.or_eq_false_iff, Bool.or_eq_false_iff] at h
  refine isVisible_of_inControlSet h.1.1 ?_
  rintro rfl
  exact absurd h.1.2 (by decide)

theorem covers_isVisible : Covers IsVisible where
  user c hc := by
    rw [inUserSet, Bool.or_eq_false_iff] at hc
    exact isVisible_of_inPathSet hc.1
  domain c hc := by
    obtain ⟨hascii, hforbidden⟩ := hc
    simp only [Domain.isForbidden, Bool.or_eq_false_iff, decide_eq_false_iff_not,
      beq_eq_false_iff_ne] at hforbidden
    exact ⟨by omega, by omega⟩
  marks := by decide

theorem visible_queryText {o : Outer} : ∀ text ∈ o.queryText .web, MadeOf IsVisible text := by
  intro text htext
  obtain ⟨cs, -, rfl⟩ := Option.map_eq_some_iff.1 htext
  exact covers_isVisible.percentEncode fun c _ => isVisible_of_inSpecialQuerySet

theorem visible_fragmentText {o : Outer} : ∀ text ∈ o.fragmentText, MadeOf IsVisible text := by
  intro text htext
  obtain ⟨cs, -, rfl⟩ := Option.map_eq_some_iff.1 htext
  exact covers_isVisible.percentEncode fun c _ => isVisible_of_inFragmentSet

/-! ## Web pages -/

/-- The URL of a web page: it has a scheme of web pages and a host, and all of it is visible. -/
structure IsWebPage (u : Url) : Prop where
  web : u.isWeb = true
  host : ∃ host, u.host = some host ∧ host ≠ .name "" ∧
    MadeOf IsVisible (u.credentials ++ host.toString ++ portText u.port)
  path : ∃ items, u.path = .segments items ∧ ∀ s ∈ items, MadeOf IsVisible s
  query : ∀ text ∈ u.query, MadeOf IsVisible text
  fragment : ∀ text ∈ u.fragment, MadeOf IsVisible text

/-- The host of a web page is not empty. -/
theorem ne_empty_of_parse {cs : List Char} {host : Host} (h : Host.parse cs = .ok host) :
    host ≠ .name "" := by
  unfold Host.parse Host.bracketed at h
  split at h
  · split at h
    · obtain rfl := Except.ok.inj h
      exact Host.noConfusion
    · simp at h
  · split at h
    · simp at h
    · simp at h
    · next domain hne _ =>
      split at h
      · split at h
        · obtain rfl := Except.ok.inj h
          exact Host.noConfusion
        · simp at h
      · obtain rfl := Except.ok.inj h
        intro hempty
        have hnil := congrArg String.toList (Host.name.inj hempty)
        rw [String.toList_ofList] at hnil
        exact hne hnil

theorem isWebPage_ofAuthority {scheme : String} {main : List Char} {o : Outer} {u : Url}
    (h : ofAuthority scheme main o = .ok u) (web : u.isWeb = true) : u.IsWebPage := by
  have hkind : schemeKind scheme = .web := ofAuthority_scheme h ▸ schemeKind_of_isWeb web
  obtain ⟨a, ha, h⟩ := exists_of_bind_eq_ok h
  obtain rfl := Except.ok.inj h
  obtain ⟨huser, hpassword, hhost⟩ := covers_isVisible.readAuthority hkind ha
  obtain ⟨-, -, place, hplace⟩ := parts_of_readAuthority hkind ha
  rw [hkind] at web ⊢
  refine ⟨web, ⟨a.host, rfl, ne_empty_of_parse hplace, ?_⟩,
    covers_isVisible.pathAfterHost (fun _ _ => isVisible_of_inPathSet) _, visible_queryText,
    visible_fragmentText⟩
  exact madeOf_append.2 ⟨madeOf_append.2 ⟨covers_isVisible.credentials huser hpassword, hhost⟩,
    covers_isVisible.portText a.port⟩

/-- Another place under the same authority. -/
theorem IsWebPage.relocate {u : Url} (h : u.IsWebPage) {path : Path}
    {query fragment : Option String}
    (hpath : ∃ items, path = .segments items ∧ ∀ s ∈ items, MadeOf IsVisible s)
    (hquery : ∀ text ∈ query, MadeOf IsVisible text)
    (hfragment : ∀ text ∈ fragment, MadeOf IsVisible text) :
    (u.relocate path query fragment).IsWebPage :=
  ⟨h.web, h.host, hpath, hquery, hfragment⟩

theorem IsWebPage.of_change {u : Url} (h : u.IsWebPage) {o : Outer} {path : Path}
    {query : Option String} (hchange : o.change u.scheme u.path u.query = .page path query) :
    (u.relocate path query o.fragmentText).IsWebPage := by
  obtain ⟨items, hitems, hvisible⟩ := h.path
  have hset : ∀ c : Char, c ≠ '/' → inPathSet c = false → IsVisible c :=
    fun _ _ => isVisible_of_inPathSet
  simp only [Outer.change, schemeKind_of_isWeb h.web] at hchange
  split at hchange
  · obtain ⟨rfl, rfl⟩ := Change.page.inj hchange
    refine h.relocate h.path ?_ visible_fragmentText
    split
    · exact visible_queryText
    · exact h.query
  · split at hchange
    · simp at hchange
    · split at hchange
      · obtain ⟨rfl, rfl⟩ := Change.page.inj hchange
        exact h.relocate (covers_isVisible.pathFrom hset (List.forall_mem_nil _) _)
          visible_queryText visible_fragmentText
      · obtain ⟨rfl, rfl⟩ := Change.page.inj hchange
        rw [hitems]
        exact h.relocate
          (covers_isVisible.pathFrom hset
            (fun s hs => hvisible s ((List.dropLast_sublist _).subset hs)) _)
          visible_queryText visible_fragmentText

theorem isWebPage_of_reading {base : Option Url} {u : Url}
    (hbase : ∀ b, base = some b → b.isWeb = true → b.IsWebPage) (h : Reading base u)
    (web : u.isWeb = true) : u.IsWebPage := by
  cases h with
  | authority _ h => exact isWebPage_ofAuthority h web
  | place hb hchange => exact (hbase _ hb web).of_change hchange
  | fragment hb =>
    have hpage := hbase _ hb web
    exact hpage.relocate hpage.path hpage.query visible_fragmentText
  | other _ h => exact absurd web (by simp [h])

/-- **A web page that is read from a text is written in visible characters.** -/
theorem isWebPage_parse {text : String} {u : Url} (h : parse text = .ok u)
    (web : u.isWeb = true) : u.IsWebPage :=
  isWebPage_of_reading (by simp) (reading_parseWith h) web

/-- So is one that a reference leads to. -/
theorem isWebPage_resolve {base u : Url} {reference : String}
    (hbase : base.isWeb = true → base.IsWebPage) (h : resolve base reference = .ok u)
    (web : u.isWeb = true) : u.IsWebPage := by
  refine isWebPage_of_reading ?_ (reading_parseWith h) web
  rintro b ⟨rfl⟩
  exact hbase

/-! ## The written form -/

theorem visible_marked {mark : String} (hmark : MadeOf IsVisible mark) {part : Option String}
    (hpart : ∀ text ∈ part, MadeOf IsVisible text) : MadeOf IsVisible (marked mark part) := by
  cases part with
  | none => exact madeOf_empty
  | some text => exact madeOf_append.2 ⟨hmark, hpart text rfl⟩

theorem visible_segments {items : List String} (h : ∀ s ∈ items, MadeOf IsVisible s) :
    MadeOf IsVisible (Path.segments items).toString := by
  intro c hc
  rw [toList_segments] at hc
  obtain ⟨s, hs, hc⟩ := List.mem_flatMap.1 hc
  obtain rfl | hc := List.mem_cons.1 hc
  · decide
  · exact h s hs c hc

theorem IsWebPage.scheme_eq {u : Url} (h : u.IsWebPage) :
    u.scheme = "http" ∨ u.scheme = "https" := by
  simpa only [isWeb, Bool.or_eq_true, beq_iff_eq] using h.web

theorem IsWebPage.visible_toString {u : Url} (h : u.IsWebPage) : MadeOf IsVisible u.toString := by
  obtain ⟨host, hhost, -, hplace⟩ := h.host
  obtain ⟨items, hitems, hsegments⟩ := h.path
  have hscheme : MadeOf IsVisible u.scheme := by
    obtain hscheme | hscheme := h.scheme_eq <;> rw [hscheme] <;> decide
  have hslashes : MadeOf IsVisible "//" := by decide
  rw [Url.toString, authority_of_host hhost, hitems]
  refine madeOf_append.2 ⟨madeOf_append.2 ⟨madeOf_append.2 ⟨?_, visible_segments hsegments⟩,
    visible_marked (by decide) h.query⟩, visible_marked (by decide) h.fragment⟩
  exact madeOf_append.2 ⟨madeOf_append.2 ⟨hscheme, by decide⟩, madeOf_append.2 ⟨hslashes, hplace⟩⟩

theorem IsWebPage.trim_toString {u : Url} (h : u.IsWebPage) :
    Text.trim u.toString = u.toString := by
  have hkeep : ∀ c ∈ u.toString.toList, Text.isBlank c = false :=
    fun c hc => (h.visible_toString c hc).isBlank
  rw [Text.trim, Text.trimBy_of_forall hkeep, String.ofList_toList]

end Url

end PriceTracker
