import Mathlib.Data.List.Basic
import PriceTracker.Crawl.Site
import PriceTracker.Proofs.Url.Page

/-!
# The links of a page

Links are resolved against the URL that the page was asked for under. Two URLs with the same key
give the same page and links with the same keys (`map_pageKey_categories`, `map_pageKey_nextPages`),
so it does not matter which of them was queued first. All links are regular.
-/

namespace PriceTracker

open Url

namespace Catalog

variable {u v : Url}

/-- Whether a link leads nowhere does not depend on the page that it stands on. -/
theorem pageKey_resolveLink (base : Url) (href : String) :
    let text := Text.trimBy Text.isBlank href.toList
    (resolveLink base href).map Url.pageKey =
      if text.isEmpty || text.head? == some '#' || "javascript:".toList.isPrefixOf text then none
      else webKey? (Url.resolve base (String.ofList text)) := by
  intro text
  unfold resolveLink
  dsimp only
  split
  · rfl
  · generalize Url.resolve base (String.ofList _) = result
    cases result with
    | error e => rfl
    | ok url =>
      simp only [webKey?]
      split <;> rfl

theorem map_pageKey_resolveLink (hu : u.IsRegular) (hv : v.IsRegular) (h : u.pageKey = v.pageKey)
    (href : String) :
    (resolveLink u href).map Url.pageKey = (resolveLink v href).map Url.pageKey := by
  have hsame := (samePage_of_pageKey_eq hu hv h).webKey?_resolve hu hv
  simp only [pageKey_resolveLink, hsame]

theorem isRegular_resolveLink {base url : Url} {href : String} (hbase : base.IsRegular)
    (h : resolveLink base href = some url) : url.IsRegular := by
  simp only [resolveLink] at h
  split at h
  · simp at h
  · split at h
    · next hresolve =>
      split at h
      · obtain rfl := Option.some.inj h
        exact isRegular_resolve hbase hresolve
      · simp at h
    · simp at h

theorem map_pageKey_links (hu : u.IsRegular) (hv : v.IsRegular) (h : u.pageKey = v.pageKey)
    (d : Html.Document) (elements : List Html.NodeId) :
    (links d u elements).map Url.pageKey = (links d v elements).map Url.pageKey := by
  rw [links, links, List.map_filterMap, List.map_filterMap]
  refine List.filterMap_congr fun id _ => ?_
  generalize d.attribute? id "href" = href?
  cases href? with
  | none => simp only [Option.bind_none]
  | some href =>
    rw [Option.bind_some, Option.bind_some]
    exact map_pageKey_resolveLink hu hv h href

theorem isRegular_links {base : Url} (hbase : base.IsRegular) (d : Html.Document)
    (elements : List Html.NodeId) : ∀ url ∈ links d base elements, url.IsRegular := by
  intro url hurl
  obtain ⟨id, -, hid⟩ := List.mem_filterMap.1 hurl
  obtain ⟨href, -, hlink⟩ := Option.bind_eq_some_iff.1 hid
  exact isRegular_resolveLink hbase hlink

theorem map_pageKey_categories (hu : u.IsRegular) (hv : v.IsRegular) (h : u.pageKey = v.pageKey)
    (page : String) :
    (categories page u).map Url.pageKey = (categories page v).map Url.pageKey :=
  map_pageKey_links hu hv h _ _

theorem map_pageKey_nextPages (hu : u.IsRegular) (hv : v.IsRegular) (h : u.pageKey = v.pageKey)
    (label page : String) :
    (listing label page u).nextPages.map Url.pageKey =
      (listing label page v).nextPages.map Url.pageKey := by
  simp only [listing, listingOf]
  exact map_pageKey_links hu hv h _ _

theorem isRegular_categories {base : Url} (hbase : base.IsRegular) (page : String) :
    ∀ url ∈ categories page base, url.IsRegular :=
  isRegular_links hbase _ _

theorem isRegular_nextPages {base : Url} (hbase : base.IsRegular) (label page : String) :
    ∀ url ∈ (listing label page base).nextPages, url.IsRegular := by
  simp only [listing, listingOf]
  exact isRegular_links hbase _ _

end Catalog

/-! ## All links -/

/-- A web answers all URLs of a page alike; the reason for a failure may name the URL. -/
def Web.IgnoresFragments (web : Web) : Prop :=
  ∀ u v : Url, u.pageKey = v.pageKey → (web u).body.toOption = (web v).body.toOption

theorem Web.IgnoresFragments.body_cases {web : Web} (fixed : web.IgnoresFragments) {u v : Url}
    (h : u.pageKey = v.pageKey) :
    (∃ page, (web u).body = .ok page ∧ (web v).body = .ok page) ∨
      ∃ e e', (web u).body = .error e ∧ (web v).body = .error e' := by
  have hbody := fixed u v h
  cases hu : (web u).body with
  | ok page =>
    cases hv : (web v).body with
    | ok page' =>
      rw [hu, hv] at hbody
      obtain rfl : page = page' := Option.some.inj hbody
      exact Or.inl ⟨page, rfl, rfl⟩
    | error e => simp [hu, hv, Except.toOption] at hbody
  | error e =>
    cases hv : (web v).body with
    | ok page => simp [hu, hv, Except.toOption] at hbody
    | error e' => exact Or.inr ⟨e, e', rfl, rfl⟩

theorem Site.map_pageKey_linksOf {web : Web} (fixed : web.IgnoresFragments) {u v : Url}
    (hu : u.IsRegular) (hv : v.IsRegular) (h : u.pageKey = v.pageKey) :
    (Site.linksOf u (web u)).map Url.pageKey = (Site.linksOf v (web v)).map Url.pageKey := by
  unfold Site.linksOf
  obtain ⟨page, hpu, hpv⟩ | ⟨e, e', heu, hev⟩ := fixed.body_cases h
  · simp only [hpu, hpv, List.map_append, Catalog.map_pageKey_categories hu hv h,
      Catalog.map_pageKey_nextPages hu hv h]
  · simp only [heu, hev]

theorem Site.isRegular_of_mem_linksOf {url : Url} (h : url.IsRegular) {reply : Reply} :
    ∀ link ∈ Site.linksOf url reply, link.IsRegular := by
  intro link hlink
  unfold Site.linksOf at hlink
  split at hlink
  · obtain hlink | hlink := List.mem_append.1 hlink
    · exact Catalog.isRegular_categories h _ link hlink
    · exact Catalog.isRegular_nextPages h "" _ link hlink
  · simp at hlink

end PriceTracker
