import PriceTracker.Catalog
import PriceTracker.Proofs.Product.Blocks
import PriceTracker.Proofs.Text.Words
import PriceTracker.Settings.Validation

/-!
# The label of products in stock

A product is in stock if its availability, as it looks on the page, is the label of the settings.
Words stand on a page with one space between neighbours, so a label with other blanks is never met,
not even by a page that shows just this label. The settings only ask that the label is not blank.

* `inStock_rawProduct_iff`: what the availability of a block has to look like;
* `label_works_iff_tidy`: an accepted label works exactly if it is tidy.
-/

namespace PriceTracker

open Html Text

/-- An accepted label is not blank. -/
theorem CrawlSettings.label_of_validate {settings : CrawlSettings}
    (h : settings.validate = .ok ()) : isBlankText settings.inStockLabel = false := by
  rw [validate] at h
  split at h
  · simp [throw, throwThe, MonadExceptOf.throw, bind, Except.bind] at h
  · split at h
    · simp [throw, throwThe, MonadExceptOf.throw, bind, Except.bind] at h
    · dsimp only at h
      split at h
      · simp [throw, throwThe, MonadExceptOf.throw, bind, Except.bind] at h
      · split at h
        · simp [throw, throwThe, MonadExceptOf.throw, bind, Except.bind] at h
        · split at h
          · simp [throw, throwThe, MonadExceptOf.throw] at h
          · next hlabel => simpa using hlabel

/-- The text of the first named element is what that element looks like, unless it is blank. -/
theorem Html.Document.firstText?_eq_some_iff {d : Document} {id : NodeId} {s : Selector}
    {text : String} :
    d.firstText? id s = some text ↔
      text ≠ "" ∧ ∃ first, (d.inside id).find? (s.names d) = some first ∧
        d.visibleText first = text.toList := by
  rw [firstText?]
  cases (d.inside id).find? (s.names d) with
  | none => simp
  | some first =>
    dsimp only
    constructor
    · intro h
      split at h
      · simp at h
      · next hne =>
        obtain rfl := Option.some.inj h
        refine ⟨fun hempty => hne ?_, first, rfl, String.toList_ofList.symm⟩
        rw [← String.toList_ofList (l := d.visibleText first), hempty]
        rfl
    · rintro ⟨ne, _, ⟨⟩, htext⟩
      have hne : ¬text.toList.isEmpty = true := by simpa using ne
      rw [htext, if_neg hne, String.ofList_toList]

namespace Catalog

variable {label : String} {d : Document} {base : Url} {block : NodeId}

/-- The availability of the block is the text and nothing else. -/
def Shows (text : String) (d : Document) (block : NodeId) : Prop :=
  ∃ first, (d.inside block).find? (availability.names d) = some first ∧ d.texts first = [text.toList]

/-- A block is in stock if its availability looks like the label, which is not empty. -/
theorem inStock_rawProduct_iff (label : String) (d : Document) (base : Url) (block : NodeId) :
    (rawProduct label d base block).inStock = true ↔
      label ≠ "" ∧ ∃ first, (d.inside block).find? (availability.names d) = some first ∧
        d.visibleText first = label.toList := by
  rw [rawProduct, beq_iff_eq, Document.firstText?_eq_some_iff]

/-- No availability looks like a label that is not tidy. -/
theorem isTidy_of_inStock (h : (rawProduct label d base block).inStock = true) :
    IsTidy label.toList := by
  obtain ⟨-, first, -, htext⟩ := (inStock_rawProduct_iff label d base block).1 h
  rw [← htext]
  exact isTidy_squeeze _

/-- Where the label is all that is shown, it is found if it looks as it is written. -/
theorem inStock_iff_of_shows (ne : label ≠ "") (shows : Shows label d block) :
    (rawProduct label d base block).inStock = true ↔ IsTidy label.toList := by
  obtain ⟨first, hfirst, htexts⟩ := shows
  have hvisible : d.visibleText first = squeeze label.toList := by
    rw [Document.visibleText, htexts, List.intercalate_singleton]
  refine ⟨isTidy_of_inStock, fun htidy => ?_⟩
  refine (inStock_rawProduct_iff label d base block).2 ⟨ne, first, hfirst, ?_⟩
  rw [hvisible, squeeze_eq_self_iff.2 htidy]

/-- **Which labels work.** The settings accept any label that is not blank. A complete product block
that shows just this label, character by character, gives a record; the record is in stock if the
label is tidy: no blank at its ends, no two blanks next to each other, and no blank but the space.
With any other label no record of any page is in stock. -/
theorem label_works_iff_tidy {settings : CrawlSettings} (accepted : settings.validate = .ok ())
    (d : Document) (base : Url) :
    let label := settings.inStockLabel
    let listing := listingOf label d base
    (∀ (n : Nat) (block : NodeId), (d.select productBlock)[n]? = some block →
      (rawProduct label d base block).IsComplete → Shows label d block →
      ∃ r, listing.products[n]? = some (.ok r) ∧ (r.inStock = true ↔ IsTidy label.toList)) ∧
    (¬IsTidy label.toList → ∀ r, .ok r ∈ listing.products → r.inStock = false) := by
  intro label listing
  have hblank : isBlankText label = false := settings.label_of_validate accepted
  have ne : label ≠ "" := fun hempty => by simp [hempty, isBlankText] at hblank
  refine ⟨fun n block hblock complete shows => ?_, fun huntidy r hr => ?_⟩
  · obtain ⟨r, hr, hdescribes⟩ := RawProduct.ofRaw_of_isComplete complete
    refine ⟨r, ?_, ?_⟩
    · simp only [listing, listingOf, List.getElem?_map, hblock, Option.map_some, hr]
    · rw [hdescribes.inStock]
      exact inStock_iff_of_shows ne shows
  · obtain ⟨block, -, hblock⟩ := List.mem_map.1 hr
    rw [(RawProduct.ofRaw_eq_ok_iff.1 hblock).inStock, ← Bool.not_eq_true]
    exact fun hstock => huntidy (isTidy_of_inStock hstock)

theorem products_listing (label page : String) (base : Url) :
    (listing label page base).products = ((Html.parse page).select productBlock).map fun block =>
      ProductRecord.ofRaw (rawProduct label (Html.parse page) base block) := rfl

/-- A listing page with a bell and its availability. -/
def bellPage (shown : String) : String :=
  "<div id=ProductListDefault><div class=ProductView data-clipboard=1><h2><a href=/p>Bell</a></h2>" ++
    "<div class=\"price vat primary user\"><i class=value>99</i></div>" ++
      "<div class=AvailabilityView><b class=label>" ++ shown ++ "</b></div></div></div>"

theorem isComplete_of_bell {inStock : Bool} (h : rawProduct label d base block =
    { pid := "1", name := "Bell", url := "http://a/p", currentPrice := "99", inStock }) :
    (rawProduct label d base block).IsComplete := by
  rw [h]
  exact ⟨⟨_, rfl, rfl⟩, ⟨_, rfl, rfl⟩, ⟨_, rfl, rfl⟩, ⟨_, rfl, rfl⟩, nofun⟩

/-- The usual label works. -/
theorem usual_label_works :
    let settings : CrawlSettings := { startUrl := "http://[::1]/" }
    let d := Html.parse (bellPage "Skladem")
    let base : Url := { scheme := "http", host := some (.name "a"), path := .segments [""] }
    settings.validate = .ok () ∧ d.select productBlock = [5] ∧ Shows "Skladem" d 5 ∧
      ∃ r, (listingOf "Skladem" d base).products[0]? = some (.ok r) ∧ r.inStock = true := by
  intro settings d base
  have accepted : settings.validate = .ok () := by decide +kernel
  have hpage : d.select productBlock = [5] ∧ (d.inside 5).find? (availability.names d) = some 13 ∧
      d.texts 13 = ["Skladem".toList] ∧ rawProduct "Skladem" d base 5 =
        { pid := "1", name := "Bell", url := "http://a/p", currentPrice := "99", inStock := true } := by
    decide +kernel
  obtain ⟨hselect, hfirst, htexts, hraw⟩ := hpage
  have shows : Shows "Skladem" d 5 := ⟨13, hfirst, htexts⟩
  obtain ⟨r, hr, hstock⟩ := (label_works_iff_tidy accepted d base).1 0 5 (by rw [hselect]; rfl)
    (isComplete_of_bell hraw) shows
  have htidy : IsTidy "Skladem".toList := squeeze_eq_self_iff.1 (by decide)
  exact ⟨accepted, hselect, shows, r, hr, hstock.2 htidy⟩

/-- A label with a blank behind it is accepted. A page that shows it gives a record that is not in
stock. -/
theorem label_with_blank_behind_not_met :
    let settings : CrawlSettings := { startUrl := "http://[::1]/", inStockLabel := "Skladem " }
    let d := Html.parse (bellPage "Skladem ")
    let base : Url := { scheme := "http", host := some (.name "a"), path := .segments [""] }
    settings.validate = .ok () ∧ d.select productBlock = [5] ∧ Shows "Skladem " d 5 ∧
      (rawProduct "Skladem " d base 5).IsComplete ∧
      ∃ r, (listing "Skladem " (bellPage "Skladem ") base).products = [.ok r] ∧
        r.inStock = false := by
  intro settings d base
  have hpage : d.select productBlock = [5] ∧ (d.inside 5).find? (availability.names d) = some 13 ∧
      d.texts 13 = ["Skladem ".toList] ∧ rawProduct "Skladem " d base 5 =
        { pid := "1", name := "Bell", url := "http://a/p", currentPrice := "99", inStock := false } := by
    decide +kernel
  obtain ⟨hselect, hfirst, htexts, hraw⟩ := hpage
  have complete := isComplete_of_bell hraw
  obtain ⟨r, hr, hdescribes⟩ := RawProduct.ofRaw_of_isComplete complete
  refine ⟨by decide +kernel, hselect, ⟨13, hfirst, htexts⟩, complete, r, ?_, ?_⟩
  · rw [products_listing, hselect, List.map_singleton, hr]
  · rw [hdescribes.inStock, hraw]

end Catalog

end PriceTracker
