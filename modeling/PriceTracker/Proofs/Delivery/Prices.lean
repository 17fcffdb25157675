import Mathlib
import PriceTracker.Proofs.Delivery.Tables
import PriceTracker.Proofs.Product.Blocks

/-!
# Prices can be kept

A price table takes no snapshot whose current price is not a number, and keeps a negative zero
without its sign. But an amount that was read off a label is neither. So the prices of every record
that a product block gives can be kept (`ProductRecord.isAmount_of_ofRaw`, `exists_mapM_priceRow?`),
and as they are (`IsAmount.storedReal?_eq`).
-/

namespace PriceTracker

/-! ## Kept prices -/

/-- **An amount is kept as it is.** -/
theorem IsAmount.storedReal?_eq {x : Float} (h : IsAmount x) : Storage.storedReal? x = some x := by
  rw [Storage.storedReal?, h.isNaN, if_neg Bool.false_ne_true]
  split
  · next hzero =>
    obtain ⟨-, -, rfl | ⟨rfl, -⟩ | ⟨rfl, -⟩⟩ := Float.beq_iff_ne_nan_and_eq.1 hzero
    · rfl
    · rfl
    · exact absurd rfl h.ne_neg_zero
  · rfl

/-! ## Labels and product blocks -/

theorem Price.isAmount_of_ofLabel {label : String} {x : Float}
    (h : Price.ofLabel label = .ok (some x)) : IsAmount x := by
  obtain ⟨v, hv, hnear⟩ := ofLabel_of_digit (any_isDigit_of_ok h)
  obtain rfl : v = x := by simpa [hv] using h
  exact hnear.isAmount

/-- **The prices of a record are amounts.** -/
theorem ProductRecord.isAmount_of_ofRaw {raw : RawProduct} {r : ProductRecord}
    (h : ProductRecord.ofRaw raw = .ok r) :
    IsAmount r.currentPrice ∧ ∀ x ∈ r.originalPrice, IsAmount x := by
  have hdescribes := RawProduct.ofRaw_eq_ok_iff.1 h
  obtain ⟨label, -, hprice⟩ := hdescribes.currentPrice
  refine ⟨Price.isAmount_of_ofLabel hprice, fun x hx => ?_⟩
  obtain ⟨other, -, hread⟩ := hdescribes.exists_label_of_original hx
  exact Price.isAmount_of_ofLabel hread

/-- **The current price of a record is a number.** -/
theorem ProductRecord.isNaN_of_ofRaw {raw : RawProduct} {r : ProductRecord}
    (h : ProductRecord.ofRaw raw = .ok r) : r.currentPrice.isNaN = false :=
  (isAmount_of_ofRaw h).1.isNaN

/-! ## Rows -/

/-- Records whose prices are numbers have price rows. -/
theorem exists_mapM_priceRow? {rs : List ProductRecord} (h : ∀ r ∈ rs, r.currentPrice.isNaN = false)
    (day : Date) : ∃ rows, rs.mapM (ProductRecord.priceRow? day) = some rows := by
  rw [← Storage.Store.mapM_snapshot_row?, Storage.exists_mapM_row?_iff]
  intro x hx
  obtain ⟨r, hr, rfl⟩ := List.mem_map.1 hx
  exact h r hr

end PriceTracker
