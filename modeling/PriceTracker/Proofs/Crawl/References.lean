import PriceTracker.Proofs.Crawl.Handover
import PriceTracker.Proofs.Product.Blocks
import PriceTracker.Proofs.Url.Visible

/-!
# The references of a page

A page may hold any text as a reference: blank ones, parts of itself, scripts in any spelling, mail
addresses, nonsense. Whether a crawl follows it is for `Catalog.resolveLink` to say, which all
links, products and images of a page go through.

* `LeadsNowhere` lists why a reference leads nowhere, and `resolveLink_eq_none_iff` says that there
  is no other reason. Scripts need no check of their own: they never lead to a web page
  (`isWeb_of_script`);
* `ignores_of_leadsNowhere`: such a reference adds no link, no record and no image to what is read;
* `isWebPage_of_mem_leadsTo` and `hasWebAddresses_of_mem_blocks`: all that a page does add has the
  URLs of web pages.
-/

namespace PriceTracker

/-! ## Scripts -/

namespace Url

/-- Whatever becomes a letter in lower case is one. -/
theorem isAlpha_of_toLower {c : Char} (h : c.toLower.isAlpha = true) : c.isAlpha = true := by
  unfold Char.toLower at h
  split at h
  · next hupper =>
    exact (Bool.or_eq_true _ _).mpr (Or.inl (decide_eq_true hupper))
  · exact h

/-- A name of letters before a colon is a scheme, in lower case. -/
theorem splitScheme_of_prefix {name cs : List Char} (hne : name ≠ [])
    (letters : name.all Char.isAlpha = true) (h : name ++ [':'] <+: cs.map Char.toLower) :
    ∃ rest, splitScheme cs = some (String.ofList name, rest) := by
  obtain ⟨tail, htail⟩ := h
  obtain ⟨front, rest, rfl, hfront, -⟩ := List.map_eq_append_iff.1 htail.symm
  obtain ⟨spelled, last, rfl, rfl, hlast⟩ := List.map_eq_append_iff.1 hfront
  obtain ⟨colon, rfl, hcolon⟩ := List.map_eq_singleton_iff.1 hlast
  obtain rfl : colon = ':' := by
    by_contra hne
    exact toLower_ne_colon hne hcolon
  have hletter : ∀ c ∈ spelled, c.isAlpha = true :=
    fun c hc => isAlpha_of_toLower (List.all_eq_true.1 letters _ (List.mem_map_of_mem hc))
  have hchar : ∀ c ∈ spelled,
      (c.isAlphanum || c == '+' || c == '-' || c == '.') = true := by
    intro c hc
    simp [Char.isAlphanum, hletter c hc]
  have htake : (spelled ++ [':'] ++ rest).takeWhile
      (fun c => c.isAlphanum || c == '+' || c == '-' || c == '.') = spelled := by
    rw [List.append_assoc, List.takeWhile_append_of_pos hchar]
    simp
  have hdrop : (spelled ++ [':'] ++ rest).dropWhile
      (fun c => c.isAlphanum || c == '+' || c == '-' || c == '.') = ':' :: rest := by
    rw [List.append_assoc, List.dropWhile_append_of_pos hchar]
    simp
  refine ⟨rest, ?_⟩
  simp only [splitScheme, htake, hdrop]
  cases spelled with
  | nil => exact absurd rfl hne
  | cons c cs => simp [hletter c List.mem_cons_self]

/-- **No script is a web page**, however it is spelled. -/
theorem isWeb_of_script {base u : Url} {reference : String}
    (h : "javascript:".toList <+: (clean reference).map Char.toLower)
    (hresolve : resolve base reference = .ok u) : u.isWeb = false := by
  obtain ⟨rest, hsplit⟩ : ∃ rest, splitScheme (clean reference) =
      some (String.ofList "javascript".toList, rest) :=
    splitScheme_of_prefix (by decide) (by decide) h
  simp only [resolve, parseWith, hsplit] at hresolve
  have hkind : schemeKind (String.ofList "javascript".toList) = .other := by decide
  rw [hkind] at hresolve
  exact isWeb_eq_false_of_kind (by rw [parseOther_scheme hresolve, hkind]; decide)

/-- Cleaning leaves the front of a text as it is if nothing in it is to be dropped. -/
theorem prefix_clean {front cs : List Char} (keep : front.all (0x20 < ·.toNat) = true)
    (h : front <+: cs) : front <+: clean (String.ofList cs) := by
  obtain ⟨tail, rfl⟩ := h
  have hlow : ∀ c ∈ front, 0x20 < c.toNat :=
    fun c hc => of_decide_eq_true (List.all_eq_true.1 keep c hc)
  have hkeep : ∀ c ∈ front, decide (c.toNat ≤ 0x20) = false :=
    fun c hc => decide_eq_false (Nat.not_le.2 (hlow c hc))
  have htrim : front <+: Text.trimBy (·.toNat ≤ 0x20) (front ++ tail) :=
    Text.prefix_trimBy hkeep tail
  have hfilter := htrim.filter fun c => c != '\t' && c != '\n' && c != '\r'
  have hfront : front.filter (fun c => c != '\t' && c != '\n' && c != '\r') = front := by
    rw [List.filter_eq_self]
    intro c hc
    simp only [Bool.and_eq_true, bne_iff_ne]
    refine ⟨⟨?_, ?_⟩, ?_⟩ <;> rintro rfl <;> exact absurd (hlow _ hc) (by decide)
  rw [hfront] at hfilter
  rwa [clean, String.toList_ofList]

end Url

/-! ## Links -/

namespace Catalog

variable {base u : Url} {reference : String}

/-- Why a reference leads nowhere. -/
inductive LeadsNowhere (base : Url) (reference : String) : Prop where
  /-- There are only blanks. -/
  | blank (h : Text.trim reference = "")
  /-- It leads to a part of the page itself. -/
  | fragment (h : (Text.trim reference).toList.head? = some '#')
  /-- It is a script, in upper or lower case and with tabs and line breaks anywhere. -/
  | script (h : "javascript:".toList <+: (Url.clean (Text.trim reference)).map Char.toLower)
  /-- It leads to something else than a web page. -/
  | foreign {url : Url} (h : Url.resolve base (Text.trim reference) = .ok url)
      (web : url.isWeb = false)
  /-- It cannot be read. -/
  | unreadable {cause : Url.ParseError} (h : Url.resolve base (Text.trim reference) = .error cause)

theorem resolve_of_resolveLink (h : resolveLink base reference = some u) :
    Url.resolve base (Text.trim reference) = .ok u ∧ u.isWeb = true := by
  simp only [resolveLink] at h
  split at h
  · simp at h
  · split at h
    · next hresolve =>
      split at h
      · next hweb =>
        obtain rfl := Option.some.inj h
        exact ⟨hresolve, hweb⟩
      · simp at h
    · simp at h

/-- **A reference is left out for one of these reasons, and for no other.** -/
theorem resolveLink_eq_none_iff :
    resolveLink base reference = none ↔ LeadsNowhere base reference := by
  have htext : (Text.trim reference).toList = Text.trimBy Text.isBlank reference.toList :=
    String.toList_ofList
  constructor
  · intro h
    unfold resolveLink at h
    dsimp only at h
    split at h
    · next hskip =>
      rw [← htext, Bool.or_eq_true, Bool.or_eq_true] at hskip
      obtain (hempty | hhash) | hscript := hskip
      · exact .blank (String.toList_inj.1 (List.isEmpty_iff.1 hempty))
      · exact .fragment (by simpa using hhash)
      · refine .script ?_
        have hprefix := Url.prefix_clean (by decide) (List.isPrefixOf_iff_prefix.1 hscript)
        rw [String.ofList_toList] at hprefix
        exact hprefix.map Char.toLower
    · split at h
      · next hresolve =>
        split at h
        · simp at h
        · next hweb => exact .foreign hresolve (by simpa using hweb)
      · next hresolve => exact .unreadable hresolve
  · intro hnowhere
    by_contra hlink
    obtain ⟨u, hlink⟩ := Option.ne_none_iff_exists'.1 hlink
    obtain ⟨hresolve, hweb⟩ := resolve_of_resolveLink hlink
    cases hnowhere with
    | blank h =>
      have hnil : Text.trimBy Text.isBlank reference.toList = [] := by rw [← htext, h]; rfl
      simp [resolveLink, hnil] at hlink
    | fragment h =>
      rw [htext] at h
      simp [resolveLink, h] at hlink
    | script h => exact absurd hweb (by simp [Url.isWeb_of_script h hresolve])
    | foreign h web =>
      obtain rfl := Except.ok.inj (h.symm.trans hresolve)
      exact absurd hweb (by simp [web])
    | unreadable h => exact absurd (h.symm.trans hresolve) (by simp)

/-- The last one is a category. -/
example :
    let root : Url :=
      { scheme := "http", host := some (.ipv6 [0, 0, 0, 0, 0, 0, 0, 1]), path := .segments [""] }
    ["\u00A0", "#b", "java\tScript:b()", "mailto:b", "http://", " /b "].map (resolveLink root) =
      [none, none, none, none, none, some { root with path := .segments ["b"] }] := by
  decide +kernel

/-! ## What a page adds -/

/-- Wherever it stands on a page, the reference adds nothing: no link, no record, no image. -/
structure Ignores (base : Url) (reference : String) : Prop where
  link : ∀ (d : Html.Document) (id : Html.NodeId) (before after : List Html.NodeId),
    d.attribute? id "href" = some reference →
      links d base (before ++ id :: after) = links d base (before ++ after)
  product : ∀ (label : String) (d : Html.Document) (block : Html.NodeId),
    d.firstAttribute? block productLink "href" = some reference →
      ∃ e, ProductRecord.ofRaw (rawProduct label d base block) = .error e
  image : ∀ (label : String) (d : Html.Document) (block : Html.NodeId) (r : ProductRecord),
    d.firstAttribute? block productImage imageAttribute = some reference →
      ProductRecord.ofRaw (rawProduct label d base block) = .ok r → r.imageUrl = none

end Catalog

/-- The addresses of a record are those of its product block. -/
theorem ProductRecord.addresses_of_ofRaw {raw : RawProduct} {r : ProductRecord}
    (h : ProductRecord.ofRaw raw = .ok r) :
    (∃ written, raw.url = some written ∧ r.url = Text.trim written) ∧
      r.imageUrl = raw.imageUrl.filter (!Text.isBlankText ·) := by
  have hdescribes := RawProduct.ofRaw_eq_ok_iff.1 h
  obtain ⟨-, written, hwritten, htrims⟩ := hdescribes.url
  exact ⟨⟨written, hwritten, Text.trims_iff.1 htrims⟩, hdescribes.imageUrl⟩

namespace Catalog

variable {base u : Url} {reference : String}

/-- **A reference that leads nowhere adds nothing.** -/
theorem ignores_of_leadsNowhere (h : LeadsNowhere base reference) : Ignores base reference := by
  have hnone := resolveLink_eq_none_iff.2 h
  refine ⟨fun d id before after hid => ?_, fun label d block hblock => ?_,
    fun label d block r hblock hr => ?_⟩
  · simp [links, List.filterMap_append, hid, hnone]
  · have hurl : (rawProduct label d base block).url = none := by
      simp [rawProduct, hblock, hnone]
    cases hr : ProductRecord.ofRaw (rawProduct label d base block) with
    | error e => exact ⟨e, rfl⟩
    | ok r =>
      obtain ⟨⟨written, hwritten, -⟩, -⟩ := ProductRecord.addresses_of_ofRaw hr
      exact absurd (hurl.symm.trans hwritten) (by simp)
  · rw [(ProductRecord.addresses_of_ofRaw hr).2]
    simp [rawProduct, hblock, hnone]

/-- The reference on a web page leads to one. -/
theorem isWebPage_resolveLink (hbase : base.isWeb = true → base.IsWebPage)
    (h : resolveLink base reference = some u) : u.IsWebPage := by
  obtain ⟨hresolve, hweb⟩ := resolve_of_resolveLink h
  exact Url.isWebPage_resolve hbase hresolve hweb

theorem isWebPage_of_mem_links (hbase : base.isWeb = true → base.IsWebPage) {d : Html.Document}
    {elements : List Html.NodeId} : ∀ url ∈ links d base elements, url.IsWebPage := by
  intro url hurl
  obtain ⟨id, -, hid⟩ := List.mem_filterMap.1 hurl
  obtain ⟨reference, -, hlink⟩ := Option.bind_eq_some_iff.1 hid
  exact isWebPage_resolveLink hbase hlink

end Catalog

/-- The address of the product and that of its image, if there is one, are written forms of URLs of
web pages. -/
structure ProductRecord.HasWebAddresses (r : ProductRecord) : Prop where
  url : ∃ u : Url, u.IsWebPage ∧ r.url = u.toString
  image : ∀ text ∈ r.imageUrl, ∃ u : Url, u.IsWebPage ∧ text = u.toString

namespace Catalog

theorem hasWebAddresses_of_ofRaw {base : Url} (hbase : base.isWeb = true → base.IsWebPage)
    {label : String} {d : Html.Document} {block : Html.NodeId} {r : ProductRecord}
    (h : ProductRecord.ofRaw (rawProduct label d base block) = .ok r) : r.HasWebAddresses := by
  have hwritten : ∀ {reference : Option String} {text : String},
      (reference.bind (resolveLink base)).map (·.toString) = some text →
        ∃ u : Url, u.IsWebPage ∧ text = u.toString := by
    intro reference text htext
    obtain ⟨u, hu, rfl⟩ := Option.map_eq_some_iff.1 htext
    obtain ⟨href, -, hlink⟩ := Option.bind_eq_some_iff.1 hu
    exact ⟨u, isWebPage_resolveLink hbase hlink, rfl⟩
  obtain ⟨⟨text, htext, hurl⟩, himage⟩ := ProductRecord.addresses_of_ofRaw h
  refine ⟨?_, fun text htext => ?_⟩
  · obtain ⟨u, hu, rfl⟩ := hwritten htext
    exact ⟨u, hu, hurl.trans hu.trim_toString⟩
  · rw [himage] at htext
    exact hwritten (Option.mem_filter_iff.1 htext).1

end Catalog

namespace CrawlTask

variable {task next : CrawlTask} {body : Except FetchError String}

theorem isWebPage_of_mem_leadsTo (htask : task.url.isWeb = true → task.url.IsWebPage)
    (h : next ∈ task.leadsTo body) : next.url.IsWebPage := by
  cases body with
  | error e => exact absurd h List.not_mem_nil
  | ok page =>
    obtain ⟨url, hurl, rfl⟩ := List.mem_map.1 h
    split at hurl
    · exact Catalog.isWebPage_of_mem_links htask url hurl
    · exact Catalog.isWebPage_of_mem_links htask url hurl

theorem hasWebAddresses_of_mem_blocks (htask : task.url.isWeb = true → task.url.IsWebPage)
    {label : String} : ∀ r ∈ recordsOf (task.blocks label body), r.HasWebAddresses := by
  intro r hr
  obtain ⟨page, hpage⟩ := exists_of_mem_blocks hr
  obtain ⟨block, hblock⟩ := Catalog.exists_of_mem_listing hpage
  exact Catalog.hasWebAddresses_of_ofRaw htask hblock

end CrawlTask

end PriceTracker
