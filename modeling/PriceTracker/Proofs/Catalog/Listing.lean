import PriceTracker.Proofs.Crawl.References
import PriceTracker.Proofs.Html.Trees

/-!
# The blocks of a listing page

A listing page gives one entry for each product block, in the order in which the blocks were made,
and the pages that its pagination links lead to (`IsProductBlock`, `IsPagingLink`). An entry is read
from its own block and the elements around it. So a block that stands alone (`StandsAlone`) may hold
anything: the entries of the other blocks and the links stay the same.

* `products_around`, `nextPages_around`: what a page gives before and after a block;
* `blocks_are_independent`: two pages that differ only within one block.
-/

namespace PriceTracker.Catalog

open Html Html.Document

variable {d d' : Document} {b b' c n : NodeId} {base : Url} {label : String}

/-! ## What is selected -/

/-- An element of class `ProductView` with an element of the identifier `ProductListDefault` around
it. -/
def IsProductBlock (d : Document) (n : NodeId) : Prop :=
  ∃ e, d.element? n = some e ∧ "ProductView".toList ∈ e.classes ∧
    ∃ outer ∈ d.ancestors n, outer.attribute? "id" = some "ProductListDefault"

/-- An `a` of class `page` and not of class `active` with an element of the identifier
`CompoundPagingBottom` around it. -/
def IsPagingLink (d : Document) (n : NodeId) : Prop :=
  ∃ e, d.element? n = some e ∧ e.name = "a" ∧ "page".toList ∈ e.classes ∧
    "active".toList ∉ e.classes ∧
    ∃ outer ∈ d.ancestors n, outer.attribute? "id" = some "CompoundPagingBottom"

/-- One condition on the elements around is met if one of them meets it. -/
theorem metInOrder_singleton (condition : Condition) (elements : List Element) :
    metInOrder [condition] elements = elements.any condition.holds := by
  induction elements with
  | nil => rfl
  | cons e elements ih =>
    rw [metInOrder, List.any_cons, ih]
    cases condition.holds e <;> simp [metInOrder]

theorem holds_id_iff (id : String) (e : Element) :
    ({ id := some id } : Condition).holds e = true ↔ e.attribute? "id" = some id := by
  simp [Condition.holds]

/-- An element with others around it hangs below something and is found. -/
theorem mem_select_iff {target : Condition} {id : String} :
    n ∈ d.select { around := [{ id := some id }], target } ↔
      ∃ e, d.element? n = some e ∧ target.holds e = true ∧
        ∃ outer ∈ d.ancestors n, outer.attribute? "id" = some id := by
  rw [select_eq, List.mem_filter, List.mem_range, Selector.picks, Selector.names]
  cases helement : d.element? n with
  | none => simp
  | some e =>
    dsimp only
    rw [List.reverse_singleton, metInOrder_singleton]
    simp only [Bool.and_eq_true, List.any_eq_true, holds_id_iff, Option.isSome_some, true_and,
      Option.some.injEq, exists_eq_left']
    refine ⟨fun h => h.2.2, fun h => ⟨?_, ?_, h⟩⟩
    · by_contra hle
      simp [element?, node_of_le (Nat.le_of_not_lt hle)] at helement
    · obtain ⟨-, outer, houter, -⟩ := h
      rw [ancestors_eq] at houter
      cases hparent : (d.node n).parent with
      | none => simp [above_of_none hparent] at houter
      | some p => rfl

theorem mem_select_productBlock_iff : n ∈ d.select productBlock ↔ IsProductBlock d n := by
  rw [productBlock, mem_select_iff]
  simp [Condition.holds, Element.hasClass, IsProductBlock, -String.reduceToList]

theorem mem_select_paginationLink_iff : n ∈ d.select paginationLink ↔ IsPagingLink d n := by
  rw [paginationLink, mem_select_iff]
  simp [Condition.holds, Element.hasClass, IsPagingLink, and_assoc, -String.reduceToList]

/-! ## Around a block -/

/-- A product block that neither holds another one nor stands in one, and that holds no pagination
link. -/
structure StandsAlone (d : Document) (b : NodeId) : Prop where
  block : b ∈ d.select productBlock
  blocks : ∀ c ∈ d.select productBlock, c ≠ b → d.KeepsClear b c
  links : ∀ n ∈ d.select paginationLink, b ∉ d.above n

/-- In a tree it is enough that no other block is above or below it, and no link below. -/
theorem StandsAlone.of_isTree (h : d.IsTree) (block : b ∈ d.select productBlock)
    (blocks : ∀ c ∈ d.select productBlock, c ≠ b → b ∉ d.above c ∧ c ∉ d.above b)
    (links : ∀ n ∈ d.select paginationLink, b ∉ d.above n) : StandsAlone d b where
  block := block
  blocks c hc ne := h.keepsClear ne (blocks c hc ne).1 (blocks c hc ne).2
  links := links

/-- The entry of a product block. -/
def entry (label : String) (d : Document) (base : Url) (block : NodeId) :
    Except ExtractionError ProductRecord :=
  ProductRecord.ofRaw (rawProduct label d base block)

/-- What a block says is read from the block and the elements around it. -/
theorem entry_without (h : d.IsFinite) (hc : c < d.nodes.size) (clear : d.KeepsClear b c) :
    entry label (d.without b) base (d.newNumber b c) = entry label d base c := by
  obtain ⟨houtside, hne⟩ := clear.outside_of_mem h hc List.mem_cons_self
  simp only [entry, rawProduct, attribute?_without houtside hne, firstText?_without h hc clear,
    firstAttribute?_without h hc clear]

/-- **The entries before and after a block that stands alone can be read without the block.** -/
theorem products_around (label : String) (base : Url) (h : d.IsFinite) (alone : StandsAlone d b) :
    (listingOf label d base).products =
      ((d.without b).selectBefore productBlock (d.newNumber b b)).map
          (entry label (d.without b) base) ++
        entry label d base b ::
          ((d.without b).selectAfter productBlock (d.newNumber b b)).map
            (entry label (d.without b) base) := by
  have hproducts : (listingOf label d base).products =
      (d.select productBlock).map (entry label d base) := rfl
  have hbelow : ∀ c ∈ d.select productBlock, b ∉ d.above c := fun c hc => by
    by_cases hne : c = b
    · rw [hne]
      exact h.not_mem_above b
    · exact (alone.blocks c hc hne).above
  have hsame : ∀ c ∈ d.select productBlock, c ≠ b →
      (some ∘ entry label (d.without b) base) (d.newNumber b c) = (some ∘ entry label d base) c :=
    fun c hc hne => congrArg some (entry_without h (lt_of_mem_select hc) (alone.blocks c hc hne))
  have haround := filterMap_select_around h (lt_of_mem_select alone.block) hbelow hsame
  rw [if_pos alone.block] at haround
  simpa only [hproducts, List.filterMap_eq_map, List.map_singleton, List.singleton_append] using
    haround

/-- The links before and after a block that holds none can be read without the block, too. -/
theorem nextPages_around (label : String) (base : Url) (h : d.IsFinite) (alone : StandsAlone d b) :
    (listingOf label d base).nextPages =
      links (d.without b) base ((d.without b).selectBefore paginationLink (d.newNumber b b)) ++
        (links d base (if b ∈ d.select paginationLink then [b] else []) ++
          links (d.without b) base
            ((d.without b).selectAfter paginationLink (d.newNumber b b))) := by
  refine filterMap_select_around h (lt_of_mem_select alone.block) alone.links fun n hn hne => ?_
  rw [attribute?_without (mem_outside.2 ⟨lt_of_mem_select hn, alone.links n hn⟩) hne]

/-- A block that is itself a link leads to the same page if it is the same element. -/
theorem own_links_eq (base : Url) (differ : DifferWithin d b d' b') (h : d.IsFinite)
    (h' : d'.IsFinite) (hb : b < d.nodes.size) (hb' : b' < d'.nodes.size)
    (same : b ∈ d.select paginationLink ∨ b' ∈ d'.select paginationLink →
      d.element? b = d'.element? b') :
    links d' base (if b' ∈ d'.select paginationLink then [b'] else []) =
      links d base (if b ∈ d.select paginationLink then [b] else []) := by
  by_cases hlink : b ∈ d.select paginationLink ∨ b' ∈ d'.select paginationLink
  · have hiff := differ.mem_select_iff h h' hb hb' (same hlink) paginationLink
    have hattribute : d'.attribute? b' "href" = d.attribute? b "href" := by
      rw [attribute?, attribute?, same hlink]
    rw [if_pos (hlink.elim hiff.1 id), if_pos (hlink.elim id hiff.2), links, links]
    exact congrArg Option.toList (congrArg (·.bind (resolveLink base)) hattribute)
  · rw [not_or] at hlink
    rw [if_neg hlink.1, if_neg hlink.2]
    rfl

/-- **A listing page gives one independent entry for each product block.** The product blocks are
the elements of class `ProductView` below `#ProductListDefault`; the entries come in the order in
which the blocks were made while the page was read. The links to other pages are those of the `a`
elements of class `page` and not of class `active` below `#CompoundPagingBottom`, in the same order,
each as often as it is there, if its address resolves to a web page.

Two pages may differ within a block that stands alone in both: in what is below it, and in the
attributes of the block. Then the other entries are the same and in the same places, and so are the
links; only a block that is itself a link has to be the same element in both. This holds of any two
webs of nodes, linked well or not, as long as the ways up and the walks through them end. In a tree
they do, and there a block stands alone if it is neither below nor above another one and has no link
to another page below it. -/
theorem blocks_are_independent (label : String) (base : Url) (d : Document) :
    let listing := listingOf label d base
    let blocks := d.select productBlock
    let pages := d.select paginationLink
    (blocks.Pairwise (· < ·) ∧ (∀ n, n ∈ blocks ↔ IsProductBlock d n) ∧
      listing.products = blocks.map fun n => ProductRecord.ofRaw (rawProduct label d base n)) ∧
    (pages.Pairwise (· < ·) ∧ (∀ n, n ∈ pages ↔ IsPagingLink d n) ∧
      (listing.nextPages =
        pages.filterMap fun n => (d.attribute? n "href").bind (resolveLink base)) ∧
      ∀ url ∈ listing.nextPages, url.isWeb = true) ∧
    (∀ (d' : Document) (b b' : NodeId), d.IsFinite → d'.IsFinite → StandsAlone d b →
      StandsAlone d' b' → DifferWithin d b d' b' →
      (b ∈ pages ∨ b' ∈ d'.select paginationLink → d.element? b = d'.element? b') →
        let listing' := listingOf label d' base
        ∃ before after,
          listing.products =
            before ++ ProductRecord.ofRaw (rawProduct label d base b) :: after ∧
          listing'.products =
            before ++ ProductRecord.ofRaw (rawProduct label d' base b') :: after ∧
          listing'.nextPages = listing.nextPages) ∧
    ∀ b ∈ blocks, d.IsTree → (∀ c ∈ blocks, c ≠ b → b ∉ d.above c ∧ c ∉ d.above b) →
      (∀ n ∈ pages, b ∉ d.above n) → d.IsFinite ∧ StandsAlone d b := by
  intro listing blocks pages
  refine ⟨⟨pairwise_select d _, fun _ => mem_select_productBlock_iff, rfl⟩,
    ⟨pairwise_select d _, fun _ => mem_select_paginationLink_iff, rfl, fun url hurl => ?_⟩,
    fun d' b b' h h' alone alone' differ same => ?_, fun b block tree others below =>
      ⟨tree.isFinite, .of_isTree tree block others below⟩⟩
  · obtain ⟨n, -, hlink⟩ := List.mem_filterMap.1 hurl
    obtain ⟨href, -, hresolve⟩ := Option.bind_eq_some_iff.1 hlink
    exact (resolve_of_resolveLink hresolve).2
  · intro listing'
    have hproducts := products_around label base h alone
    have hproducts' := products_around label base h' alone'
    rw [← differ.rest, ← differ.place] at hproducts'
    have hpages := nextPages_around label base h alone
    have hpages' := nextPages_around label base h' alone'
    have hown := own_links_eq base differ h h' (lt_of_mem_select alone.block)
      (lt_of_mem_select alone'.block) same
    rw [← differ.rest, ← differ.place, hown] at hpages'
    exact ⟨_, _, hproducts, hproducts', hpages'.trans hpages.symm⟩

/-- A list with a block of the given attributes and nodes below it, and a block that holds a lamp,
made after them. -/
def blockBeforeLamp (attributes : List Attribute) (below : List Node) : Document :=
  let block (attributes : List Attribute) : Content :=
    .element { name := "div", attributes := ⟨"class", "ProductView"⟩ :: attributes }
  let lamp := 3 + below.length
  let before : List Node := [
    { content := .document, children := some (1, 1) },
    { content := .element { name := "div", attributes := [⟨"id", "ProductListDefault"⟩] }
      parent := some 0, children := some (2, lamp) },
    { content := block attributes, parent := some 1, next := some lamp
      children := if below.isEmpty then none else some (3, 3) }]
  let after : List Node := [
    { content := block [⟨"data-clipboard", "2"⟩], parent := some 1, previous := some 2
      children := some (lamp + 1, lamp + 1) },
    { content := .element { name := "h2" }, parent := some lamp
      children := some (lamp + 2, lamp + 2) },
    { content := .text "Lamp", parent := some (lamp + 1) }]
  { nodes := (before ++ below ++ after).toArray }

/-- The entry of the lamp is the same behind a bell and behind a block without a number and a
name. -/
theorem lamp_behind_malformed_block :
    let base : Url := { scheme := "http", host := some (.name "a"), path := .segments [""] }
    let bell : List Node :=
      [{ content := .element { name := "h2" }, parent := some 2, children := some (4, 4) },
        { content := .text "Bell", parent := some 3 }]
    let d := blockBeforeLamp [⟨"data-clipboard", "1"⟩] bell
    let d' := blockBeforeLamp [] []
    (d.IsFinite ∧ d'.IsFinite ∧ StandsAlone d 2 ∧ StandsAlone d' 2 ∧ DifferWithin d 2 d' 2 ∧
      (2 ∈ d.select paginationLink ∨ 2 ∈ d'.select paginationLink →
        d.element? 2 = d'.element? 2)) ∧
      d.select productBlock = [2, 5] ∧ d'.select productBlock = [2, 3] ∧
      ∃ before after,
        (listingOf "Skladem" d base).products =
          before ++ ProductRecord.ofRaw (rawProduct "Skladem" d base 2) :: after ∧
        (listingOf "Skladem" d' base).products =
          before ++ ProductRecord.ofRaw (rawProduct "Skladem" d' base 2) :: after ∧
        (listingOf "Skladem" d' base).nextPages = (listingOf "Skladem" d base).nextPages := by
  intro base bell d d'
  have hd : d.select productBlock = [2, 5] ∧ d.select paginationLink = [] := by decide +kernel
  have hd' : d'.select productBlock = [2, 3] ∧ d'.select paginationLink = [] := by decide +kernel
  have tree : d.IsTree := isTree_of_numbered (by decide +kernel) (by decide +kernel)
    (by decide +kernel)
  have tree' : d'.IsTree := isTree_of_numbered (by decide +kernel) (by decide +kernel)
    (by decide +kernel)
  have alone : StandsAlone d 2 := by
    refine .of_isTree tree ?_ ?_ ?_
    · rw [hd.1]
      decide
    · rw [hd.1]
      decide +kernel
    · rw [hd.2]
      exact List.forall_mem_nil _
  have alone' : StandsAlone d' 2 := by
    refine .of_isTree tree' ?_ ?_ ?_
    · rw [hd'.1]
      decide
    · rw [hd'.1]
      decide +kernel
    · rw [hd'.2]
      exact List.forall_mem_nil _
  have differ : DifferWithin d 2 d' 2 := ⟨by decide +kernel, by decide +kernel⟩
  have noLink : 2 ∈ d.select paginationLink ∨ 2 ∈ d'.select paginationLink →
      d.element? 2 = d'.element? 2 := by
    rw [hd.2, hd'.2]
    exact fun h => (h.elim (List.not_mem_nil) (List.not_mem_nil)).elim
  exact ⟨⟨tree.isFinite, tree'.isFinite, alone, alone', differ, noLink⟩, hd.1, hd'.1,
    (blocks_are_independent "Skladem" base d).2.2.1 d' 2 2 tree.isFinite tree'.isFinite alone alone'
      differ noLink⟩

/-- A block in a table but in no cell is put before the table, and so before a block in a cell that
was made earlier. The entries come in the order of making. -/
theorem entries_not_in_tree_order :
    let page := "<div id=ProductListDefault><table><td><p class=ProductView data-clipboard=1></td>" ++
      "<p class=ProductView></table></div>"
    let base : Url := { scheme := "http", host := some (.name "a"), path := .segments [""] }
    let d := Html.parse page
    let inTreeOrder := (d.inside root).filter (productBlock.names d)
    let faults (entries : List (Except ExtractionError ProductRecord)) :
        List (Option ExtractionError) :=
      entries.map fun
        | .error fault => some fault
        | .ok _ => none
    faults (listing "Skladem" page base).products =
        [some (.missingField .name), some (.missingField .pid)] ∧
      faults (inTreeOrder.map (entry "Skladem" d base)) =
        [some (.missingField .pid), some (.missingField .name)] ∧
      (listing "Skladem" page base).products ≠ inTreeOrder.map (entry "Skladem" d base) := by
  intro page base d inTreeOrder faults
  have hfaults : faults (listing "Skladem" page base).products =
        [some (.missingField .name), some (.missingField .pid)] ∧
      faults (inTreeOrder.map (entry "Skladem" d base)) =
        [some (.missingField .pid), some (.missingField .name)] := by
    decide +kernel
  refine ⟨hfaults.1, hfaults.2, fun hsame => ?_⟩
  have hlists := hfaults.1.symm.trans ((congrArg faults hsame).trans hfaults.2)
  exact absurd hlists (by decide)

end PriceTracker.Catalog
