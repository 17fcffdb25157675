import PriceTracker.Product
import PriceTracker.Proofs.Price.Reading

/-!
# Complete product blocks

Which product blocks give a record, what is in the record, and what is said of the other blocks.

* `RawProduct.fault?` says what is wrong with one part of a block, looked at by itself;
* `RawProduct.IsComplete`: the parts that a record needs are there, and both prices have digits;
* `RawProduct.Describes`: what a record takes from its block;
* `ofRaw_eq_ok_iff` and `ofRaw_eq_error_iff`: a block gives the record that it describes, or its
  first fault.
-/

namespace PriceTracker

/-! ## The parts of a block -/

namespace ProductField

/-- The parts in the order in which they are told. -/
def inOrder : List ProductField :=
  [.pid, .name, .url, .currentPrice, .originalPrice]

/-- Only the price before the discount may be missing. -/
def isRequired : ProductField → Bool
  | .originalPrice => false
  | _ => true

/-- The parts that are read as amounts. -/
def isPrice : ProductField → Bool
  | .currentPrice | .originalPrice => true
  | _ => false

theorem mem_inOrder (field : ProductField) : field ∈ inOrder := by
  cases field <;> decide

end ProductField

namespace RawProduct

variable {raw : RawProduct} {field : ProductField} {pid text label : String}

/-- The text of a part. -/
def part (raw : RawProduct) : ProductField → Option String
  | .pid => raw.pid
  | .name => raw.name
  | .url => raw.url
  | .currentPrice => raw.currentPrice
  | .originalPrice => raw.originalPrice

/-- What is wrong with a part. A blank part counts as missing, and a price has to have a digit. -/
def fault? (raw : RawProduct) (field : ProductField) : Option ExtractionError :=
  let missing := if field.isRequired then some (.missingField field) else none
  match raw.part field with
  | none => missing
  | some text =>
    if Text.isBlankText text then missing
    else if field.isPrice && !text.toList.any Char.isDigit then
      some (.invalidPrice field (Text.trim (raw.pid.getD "")) (.noDigits (Text.trim text)))
    else none

/-- The first of all faults. -/
def firstFault? (raw : RawProduct) : Option ExtractionError :=
  ProductField.inOrder.findSome? raw.fault?

/-- The part is there and is not blank. -/
def IsGiven (part : Option String) : Prop :=
  ∃ text, part = some text ∧ Text.isBlankText text = false

/-- The part has the text, with blanks around it or none. -/
def HasText (part : Option String) (text : String) : Prop :=
  text ≠ "" ∧ ∃ written, part = some written ∧ Text.Trims written text

/-- Nothing that a record needs is missing, and there is an amount on each label. -/
structure IsComplete (raw : RawProduct) : Prop where
  pid : IsGiven raw.pid
  name : IsGiven raw.name
  url : IsGiven raw.url
  currentPrice : ∃ label, raw.currentPrice = some label ∧ label.toList.any Char.isDigit = true
  originalPrice : ∀ label, raw.originalPrice = some label →
    Text.isBlankText label = true ∨ label.toList.any Char.isDigit = true

/-- What the record of a block holds. -/
structure Describes (raw : RawProduct) (r : ProductRecord) : Prop where
  pid : HasText raw.pid r.pid
  name : HasText raw.name r.name
  url : HasText raw.url r.url
  imageUrl : r.imageUrl = raw.imageUrl.filter fun text => !Text.isBlankText text
  currentPrice : ∃ label, raw.currentPrice = some label ∧
    Price.ofLabel label = .ok (some r.currentPrice)
  originalPrice : ∀ label, raw.originalPrice = some label →
    Price.ofLabel label = .ok r.originalPrice
  /-- A block that shows no other price, or a blank one, has no discount. -/
  undiscounted : (∀ label, raw.originalPrice = some label → Text.isBlankText label = true) →
    r.originalPrice = none
  inStock : r.inStock = raw.inStock
  shop : r.shop = shopName
  currency : r.currency = shopCurrency

/-! ## Faults -/

theorem fault?_eq_none_iff_of_text (required : field.isRequired = true)
    (price : field.isPrice = false) : raw.fault? field = none ↔ IsGiven (raw.part field) := by
  unfold fault? IsGiven
  simp only [required, price]
  cases raw.part field with
  | none => simp
  | some text => cases Text.isBlankText text <;> simp

theorem fault?_currentPrice_eq_none_iff : raw.fault? .currentPrice = none ↔
    ∃ label, raw.currentPrice = some label ∧ label.toList.any Char.isDigit = true := by
  have hpart : raw.part .currentPrice = raw.currentPrice := rfl
  rw [fault?, hpart]
  cases raw.currentPrice with
  | none => simp [ProductField.isRequired]
  | some label =>
    have hblank := @Price.isBlankText_of_digit label
    simp only [Option.some.injEq, exists_eq_left', ProductField.isRequired, ProductField.isPrice]
    generalize label.toList.any Char.isDigit = digit at hblank ⊢
    cases digit with
    | true => simp [hblank rfl]
    | false => cases Text.isBlankText label <;> simp

theorem fault?_originalPrice_eq_none_iff : raw.fault? .originalPrice = none ↔
    ∀ label, raw.originalPrice = some label →
      Text.isBlankText label = true ∨ label.toList.any Char.isDigit = true := by
  have hpart : raw.part .originalPrice = raw.originalPrice := rfl
  rw [fault?, hpart]
  cases raw.originalPrice with
  | none => simp [ProductField.isRequired]
  | some label =>
    simp only [Option.some.injEq, forall_eq', ProductField.isRequired, ProductField.isPrice]
    generalize label.toList.any Char.isDigit = digit
    cases Text.isBlankText label <;> cases digit <;> simp

/-- **A block without a fault is complete.** -/
theorem firstFault?_eq_none_iff : raw.firstFault? = none ↔ raw.IsComplete := by
  rw [firstFault?, List.findSome?_eq_none_iff]
  constructor
  · intro h
    have hnone (field : ProductField) : raw.fault? field = none := h field field.mem_inOrder
    exact ⟨(fault?_eq_none_iff_of_text rfl rfl).1 (hnone .pid),
      (fault?_eq_none_iff_of_text rfl rfl).1 (hnone .name),
      (fault?_eq_none_iff_of_text rfl rfl).1 (hnone .url),
      fault?_currentPrice_eq_none_iff.1 (hnone .currentPrice),
      fault?_originalPrice_eq_none_iff.1 (hnone .originalPrice)⟩
  · rintro ⟨hpid, hname, hurl, hcurrent, horiginal⟩ field -
    cases field with
    | pid => exact (fault?_eq_none_iff_of_text rfl rfl).2 hpid
    | name => exact (fault?_eq_none_iff_of_text rfl rfl).2 hname
    | url => exact (fault?_eq_none_iff_of_text rfl rfl).2 hurl
    | currentPrice => exact fault?_currentPrice_eq_none_iff.2 hcurrent
    | originalPrice => exact fault?_originalPrice_eq_none_iff.2 horiginal

/-! ## What is done with the parts -/

theorem require_some (field : ProductField) (text : String) : require field (some text) =
    if Text.isBlankText text then .error (.missingField field) else .ok (Text.trim text) := by
  rw [require, Option.map_some, ← Text.isEmpty_trim]

/-- A required part that is there is trimmed. -/
theorem exists_require_of_isGiven {part : Option String} (h : IsGiven part) :
    ∃ text, HasText part text ∧ ∀ field, require field part = .ok text := by
  obtain ⟨written, rfl, hblank⟩ := h
  refine ⟨Text.trim written, ⟨fun hempty => ?_, written, rfl, Text.trims_iff.2 rfl⟩,
    fun field => by rw [require_some, hblank]; rfl⟩
  rw [← Text.isEmpty_trim, hempty] at hblank
  cases hblank

/-- A required text is refused with its fault, or it is there and is trimmed. -/
theorem require_part {part : Option String} (hpart : raw.part field = part)
    (required : field.isRequired = true) (price : field.isPrice = false) :
    (∃ e, raw.fault? field = some e ∧ require field part = .error e) ∨
      raw.fault? field = none ∧ ∃ text, HasText part text ∧ require field part = .ok text := by
  subst hpart
  cases hfault : raw.fault? field with
  | none =>
    obtain ⟨text, htext, hrequire⟩ :=
      exists_require_of_isGiven ((fault?_eq_none_iff_of_text required price).1 hfault)
    exact Or.inr ⟨rfl, text, htext, hrequire field⟩
  | some e =>
    refine Or.inl ⟨e, rfl, ?_⟩
    simp only [fault?, required, price] at hfault
    cases hvalue : raw.part field with
    | none => simpa [hvalue, require] using hfault
    | some text =>
      rw [require_some]
      cases hblank : Text.isBlankText text <;> simp_all

theorem ofLabel_trim (label : String) : Price.ofLabel (Text.trim label) = Price.ofLabel label := by
  rw [Price.ofLabel, Text.toList_trim, Text.trimBy_trimBy]
  rfl

/-- A label that is there has an amount or none that can be read, so the current price is never
missed after it was found. -/
theorem amount_ne_none_of_require {part : Option String}
    (h : require .currentPrice part = .ok label) (pid : String) :
    amount .currentPrice pid label ≠ .ok none := by
  intro hnone
  cases part with
  | none => simp [require] at h
  | some text =>
    rw [require_some] at h
    cases hblank : Text.isBlankText text with
    | true => simp [hblank] at h
    | false =>
      rw [hblank] at h
      obtain rfl : Text.trim text = label := Except.ok.inj h
      rw [amount, ofLabel_trim] at hnone
      cases hdigit : text.toList.any Char.isDigit with
      | true =>
        obtain ⟨v, hv, -⟩ := Price.ofLabel_of_digit hdigit
        simp [hv] at hnone
      | false => simp [Price.ofLabel_of_no_digit hdigit, hblank] at hnone

theorem amount_of_ofLabel {v : Option Float} (h : Price.ofLabel label = .ok v)
    (field : ProductField) (pid : String) : amount field pid label = .ok v := by
  rw [amount, h]

/-- A label that is blank or has a digit can be read. -/
theorem exists_ofLabel
    (h : Text.isBlankText label = true ∨ label.toList.any Char.isDigit = true) :
    ∃ v, Price.ofLabel label = .ok v ∧ (Text.isBlankText label = true → v = none) := by
  cases hdigit : label.toList.any Char.isDigit with
  | true =>
    obtain ⟨v, hv, -⟩ := Price.ofLabel_of_digit hdigit
    refine ⟨some v, hv, fun hblank => ?_⟩
    rw [Price.isBlankText_of_digit hdigit] at hblank
    cases hblank
  | false =>
    have hblank : Text.isBlankText label = true := h.resolve_right (by simp [hdigit])
    exact ⟨none, by rw [Price.ofLabel_of_no_digit hdigit, if_pos hblank], fun _ => rfl⟩

/-- A current price with a digit is an amount. -/
theorem exists_amount_of_current
    (h : ∃ label, raw.currentPrice = some label ∧ label.toList.any Char.isDigit = true) :
    ∃ label v, require .currentPrice raw.currentPrice = .ok label ∧
      (∀ pid, amount .currentPrice pid label = .ok (some v)) ∧
      ∃ written, raw.currentPrice = some written ∧ Price.ofLabel written = .ok (some v) := by
  obtain ⟨written, hwritten, hdigit⟩ := h
  obtain ⟨v, hv, -⟩ := Price.ofLabel_of_digit hdigit
  refine ⟨Text.trim written, v, ?_, fun pid => ?_, written, hwritten, hv⟩
  · rw [hwritten, require_some, Price.isBlankText_of_digit hdigit]
    rfl
  · exact amount_of_ofLabel ((ofLabel_trim written).trans hv) _ _

/-- A label without a digit is refused, and told with the number of the product. -/
theorem amount_of_no_digit (hpid : HasText raw.pid pid)
    (hblank : Text.isBlankText label = false) (hdigit : label.toList.any Char.isDigit = false)
    (field : ProductField) : amount field pid label =
      .error (.invalidPrice field (Text.trim (raw.pid.getD "")) (.noDigits (Text.trim label))) := by
  obtain ⟨-, written, hwritten, htrims⟩ := hpid
  rw [amount, Price.ofLabel_of_no_digit hdigit, hblank, hwritten, Text.trims_iff.1 htrims]
  rfl

/-- A current price at fault is refused as a part that is missing or as an amount. -/
theorem currentPrice_of_fault? {e : ExtractionError} (hpid : HasText raw.pid pid)
    (h : raw.fault? .currentPrice = some e) :
    require .currentPrice raw.currentPrice = .error e ∨
      ∃ label, require .currentPrice raw.currentPrice = .ok label ∧
        amount .currentPrice pid label = .error e := by
  have hpart : raw.part .currentPrice = raw.currentPrice := rfl
  rw [fault?, hpart] at h
  cases hcurrent : raw.currentPrice with
  | none =>
    left
    simpa [hcurrent, ProductField.isRequired, require] using h
  | some text =>
    rw [require_some]
    simp only [hcurrent, ProductField.isRequired, ProductField.isPrice] at h
    cases hblank : Text.isBlankText text with
    | true =>
      left
      simpa [hblank] using h
    | false =>
      right
      refine ⟨Text.trim text, rfl, ?_⟩
      cases hdigit : text.toList.any Char.isDigit with
      | true => simp [hblank, hdigit] at h
      | false =>
        have hamount := amount_of_no_digit hpid hblank hdigit .currentPrice
        rw [amount, ofLabel_trim, ← amount, hamount]
        simpa only [hblank, hdigit, Bool.false_eq_true, if_false, Bool.not_false, Bool.and_self,
          if_true, Option.some.injEq, Except.error.injEq] using h

/-- Another price at fault is refused as an amount. -/
theorem originalPrice_of_fault? {e : ExtractionError} (hpid : HasText raw.pid pid)
    (h : raw.fault? .originalPrice = some e) : ∃ label, raw.originalPrice = some label ∧
      amount .originalPrice pid label = .error e := by
  have hpart : raw.part .originalPrice = raw.originalPrice := rfl
  rw [fault?, hpart] at h
  cases hother : raw.originalPrice with
  | none => simp [hother, ProductField.isRequired] at h
  | some label =>
    refine ⟨label, rfl, ?_⟩
    simp only [hother, ProductField.isRequired, ProductField.isPrice] at h
    cases hblank : Text.isBlankText label with
    | true => simp [hblank] at h
    | false =>
      cases hdigit : label.toList.any Char.isDigit with
      | true => simp [hblank, hdigit] at h
      | false =>
        rw [amount_of_no_digit hpid hblank hdigit]
        simpa only [hblank, hdigit, Bool.false_eq_true, if_false, Bool.not_false, Bool.and_self,
          if_true, Option.some.injEq, Except.error.injEq] using h

/-! ## What becomes of a block -/

/-- **A complete block gives a record that it describes.** -/
theorem ofRaw_of_isComplete (h : raw.IsComplete) :
    ∃ r, ProductRecord.ofRaw raw = .ok r ∧ raw.Describes r := by
  obtain ⟨pid, hpid, hpid'⟩ := exists_require_of_isGiven h.pid
  obtain ⟨name, hname, hname'⟩ := exists_require_of_isGiven h.name
  obtain ⟨url, hurl, hurl'⟩ := exists_require_of_isGiven h.url
  obtain ⟨label, v, hlabel, hamount, hv⟩ := exists_amount_of_current h.currentPrice
  rw [ProductRecord.ofRaw, hpid', hname', hurl', hlabel]
  simp only [bind, Except.bind, hamount]
  cases hother : raw.originalPrice with
  | none =>
    exact ⟨_, rfl, hpid, hname, hurl, rfl, hv, by simp [hother], fun _ => rfl, rfl, rfl, rfl⟩
  | some other =>
    obtain ⟨w, hw, hblank⟩ := exists_ofLabel (h.originalPrice other hother)
    simp only [amount_of_ofLabel hw]
    refine ⟨_, rfl, hpid, hname, hurl, rfl, hv, ?_, fun hall => hblank (hall other hother), rfl,
      rfl, rfl⟩
    simpa [hother] using hw

theorem HasText.unique {part : Option String} {text' : String} (h : HasText part text)
    (h' : HasText part text') : text = text' := by
  obtain ⟨-, written, rfl, htrims⟩ := h
  obtain ⟨-, written', hwritten, htrims'⟩ := h'
  obtain rfl := Option.some.inj hwritten
  rw [Text.trims_iff.1 htrims, Text.trims_iff.1 htrims']

/-- A block describes one record only. -/
theorem Describes.unique {r r' : ProductRecord} (h : raw.Describes r) (h' : raw.Describes r') :
    r = r' := by
  have hcurrent : r.currentPrice = r'.currentPrice := by
    obtain ⟨label, hlabel, hv⟩ := h.currentPrice
    obtain ⟨label', hlabel', hv'⟩ := h'.currentPrice
    obtain rfl : label = label' := Option.some.inj (hlabel.symm.trans hlabel')
    simpa [hv] using hv'
  have horiginal : r.originalPrice = r'.originalPrice := by
    cases hother : raw.originalPrice with
    | none => rw [h.undiscounted (by simp [hother]), h'.undiscounted (by simp [hother])]
    | some other => simpa [h.originalPrice other hother] using h'.originalPrice other hother
  have hpid := h.pid.unique h'.pid
  have hname := h.name.unique h'.name
  have hurl := h.url.unique h'.url
  have himage := h.imageUrl.trans h'.imageUrl.symm
  have hstock := h.inStock.trans h'.inStock.symm
  have hshop := h.shop.trans h'.shop.symm
  have hcurrency := h.currency.trans h'.currency.symm
  cases r
  cases r'
  simp_all

theorem HasText.isGiven {part : Option String} (h : HasText part text) : IsGiven part := by
  obtain ⟨hne, written, rfl, htrims⟩ := h
  refine ⟨written, rfl, ?_⟩
  rw [← Text.isEmpty_trim, ← Text.trims_iff.1 htrims, Bool.eq_false_iff, ne_eq, String.isEmpty_iff]
  exact hne

/-- A block that describes a record is complete. -/
theorem Describes.isComplete {r : ProductRecord} (h : raw.Describes r) : raw.IsComplete := by
  refine ⟨h.pid.isGiven, h.name.isGiven, h.url.isGiven, ?_, fun label hlabel => ?_⟩
  · obtain ⟨label, hlabel, hv⟩ := h.currentPrice
    exact ⟨label, hlabel, Price.any_isDigit_of_ok hv⟩
  · have hread := h.originalPrice label hlabel
    cases hdigit : label.toList.any Char.isDigit with
    | true => exact Or.inr rfl
    | false =>
      left
      rw [Price.ofLabel_of_no_digit hdigit] at hread
      by_contra hblank
      rw [if_neg hblank] at hread
      cases hread

/-- An original price was read off a label. -/
theorem Describes.exists_label_of_original {r : ProductRecord} {x : Float} (h : raw.Describes r)
    (hx : r.originalPrice = some x) :
    ∃ label, raw.originalPrice = some label ∧ Price.ofLabel label = .ok (some x) := by
  cases hother : raw.originalPrice with
  | none =>
    rw [h.undiscounted (by simp [hother])] at hx
    cases hx
  | some other => exact ⟨other, rfl, hx ▸ h.originalPrice other hother⟩

/-- **A block with a fault is refused with the first one.** The parts are looked at one after the
other, up to that fault. -/
theorem ofRaw_of_firstFault? {e : ExtractionError} (h : raw.firstFault? = some e) :
    ProductRecord.ofRaw raw = .error e := by
  simp only [firstFault?, ProductField.inOrder, List.findSome?_cons, List.findSome?_nil] at h
  rw [ProductRecord.ofRaw]
  obtain ⟨fault, hpid, hrequire⟩ | ⟨hpid, pid, hpidText, hrequire⟩ :=
    require_part (show raw.part .pid = raw.pid from rfl) rfl rfl
  · obtain rfl : fault = e := by simpa [hpid] using h
    rw [hrequire]
    rfl
  rw [hrequire]
  obtain ⟨fault, hname, hrequire⟩ | ⟨hname, name, -, hrequire⟩ :=
    require_part (show raw.part .name = raw.name from rfl) rfl rfl
  · obtain rfl : fault = e := by simpa [hpid, hname] using h
    rw [hrequire]
    rfl
  rw [hrequire]
  obtain ⟨fault, hurl, hrequire⟩ | ⟨hurl, url, -, hrequire⟩ :=
    require_part (show raw.part .url = raw.url from rfl) rfl rfl
  · obtain rfl : fault = e := by simpa [hpid, hname, hurl] using h
    rw [hrequire]
    rfl
  rw [hrequire]
  cases hcurrent : raw.fault? .currentPrice with
  | some fault =>
    obtain rfl : fault = e := by simpa [hpid, hname, hurl, hcurrent] using h
    obtain hmissing | ⟨label, hlabel, hamount⟩ := currentPrice_of_fault? hpidText hcurrent
    · rw [hmissing]
      rfl
    · rw [hlabel]
      simp only [bind, Except.bind, hamount]
  | none =>
    obtain ⟨label, v, hlabel, hv, -⟩ :=
      exists_amount_of_current (fault?_currentPrice_eq_none_iff.1 hcurrent)
    have horiginal : raw.fault? .originalPrice = some e := by
      simp only [hpid, hname, hurl, hcurrent] at h
      cases hother : raw.fault? .originalPrice with
      | none => simp [hother] at h
      | some fault => simpa [hother] using h
    obtain ⟨other, hother, hamount⟩ := originalPrice_of_fault? hpidText horiginal
    rw [hlabel, hother]
    simp only [bind, Except.bind, hv, hamount]

/-- **A block gives the record that it describes.** -/
theorem ofRaw_eq_ok_iff {r : ProductRecord} :
    ProductRecord.ofRaw raw = .ok r ↔ raw.Describes r := by
  constructor
  · intro h
    cases hfault : raw.firstFault? with
    | some e => simp [ofRaw_of_firstFault? hfault] at h
    | none =>
      obtain ⟨r', hr', hdescribes⟩ := ofRaw_of_isComplete (firstFault?_eq_none_iff.1 hfault)
      obtain rfl : r' = r := Except.ok.inj (hr'.symm.trans h)
      exact hdescribes
  · intro h
    obtain ⟨r', hr', hdescribes⟩ := ofRaw_of_isComplete h.isComplete
    rw [hr', hdescribes.unique h]

theorem ofRaw_eq_error_iff {e : ExtractionError} :
    ProductRecord.ofRaw raw = .error e ↔ raw.firstFault? = some e := by
  refine ⟨fun h => ?_, ofRaw_of_firstFault?⟩
  cases hfault : raw.firstFault? with
  | some e' => exact congrArg some (Except.error.inj ((ofRaw_of_firstFault? hfault).symm.trans h))
  | none =>
    obtain ⟨r, hr, -⟩ := ofRaw_of_isComplete (firstFault?_eq_none_iff.1 hfault)
    simp [hr] at h

/-- **Complete blocks give records, and all others are refused with their first fault.** A block is
complete if number, name and address are there and not blank, the current price is there with a
digit, and the other price is missing, blank or has a digit. The record of a block has its three
texts without the blanks around them, its image unless that is blank, the amounts on its labels and
its availability. A block that is not complete is refused with the fault of the first part that has
one: a part that is required and missing or blank is told as missing, and a price without a digit
with its label and the number of the product, both trimmed. A current price that was found is not
missed later. -/
theorem complete_blocks_give_records (raw : RawProduct) :
    ((∃ r, ProductRecord.ofRaw raw = .ok r) ↔ raw.IsComplete) ∧
      (∀ r, ProductRecord.ofRaw raw = .ok r ↔ raw.Describes r) ∧
      (∀ e, ProductRecord.ofRaw raw = .error e ↔
        ProductField.inOrder.findSome? raw.fault? = some e) ∧
      ∀ label, require .currentPrice raw.currentPrice = .ok label →
        ∀ pid, amount .currentPrice pid label ≠ .ok none := by
  refine ⟨⟨fun ⟨r, hr⟩ => (ofRaw_eq_ok_iff.1 hr).isComplete, fun h => ?_⟩,
    fun _ => ofRaw_eq_ok_iff, fun _ => ofRaw_eq_error_iff,
    fun _ hlabel => amount_ne_none_of_require hlabel⟩
  obtain ⟨r, hr, -⟩ := ofRaw_of_isComplete h
  exact ⟨r, hr⟩

/-- Number and label are told without the blanks around them. -/
example : ProductRecord.ofRaw
    { pid := " 7\n", name := "Bell", url := "http://a/", currentPrice := " on request " } =
      .error (.invalidPrice .currentPrice "7" (.noDigits "on request")) := by
  rfl

end RawProduct

end PriceTracker
