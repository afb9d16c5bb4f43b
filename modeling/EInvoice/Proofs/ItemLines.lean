import EInvoice.Proofs.ExponentRange
import Mathlib

/-!
# Item lines read back

Each `gCamItem` of a document's tree writes the item's quantity in its shortest form, and its
unit price and gross amount (`dTotBruOpeItem`) with the amount places of the currency. The gross
amount is computed from the unit price as given, before it is rounded for writing. Read back as
decimals, a line therefore shows:

* the item's quantity, its unit price rounded half up to the amount places, and the quantity times
  the unrounded unit price, rounded half up (`itemLineShows`);
* a gross amount equal to its written price times its written quantity, rounded, whenever the unit
  price has no more places than the amounts (`ItemLineShows.reproducible`).

A price with more places breaks the second point: in guaraníes a unit price of 0.5 is written as 1,
and three units come to 2 (1.5 rounded), not to the 3 the written price gives
(`halfPrice_line_not_reproducible`).

The lines are those of the tree the program computes, which it does for a new document exactly
when no item's product leaves the exponent range (`item_lines_read_back`).
-/

namespace EInvoice.Invoice

open EInvoice.Xml EInvoice.Text EInvoice.Decimal

/-- Where a `gCamItem` element writes the quantity. -/
def quantityPath : List String := ["dCantProSer"]

/-- Where a `gCamItem` element writes the unit price. -/
def pricePath : List String := ["gValorItem", "dPUniProSer"]

/-- Where a `gCamItem` element writes the gross amount of the line. -/
def grossPath : List String := ["gValorItem", "dTotBruOpeItem"]

/-- `x` rounded half away from zero to `p` places. -/
def halfAway (x : ℚ) (p : ℤ) : ℚ := if 0 ≤ x then halfUp x p else -halfUp (-x) p

theorem halfAway_of_nonneg {x : ℚ} (hx : 0 ≤ x) (p : ℤ) : halfAway x p = halfUp x p := by
  simp [halfAway, hx]

theorem itemElement_line_texts (p : Int) (it : Item) :
    (itemElement p it).textAt quantityPath = some it.quantity.toString ∧
    (itemElement p it).textAt pricePath = some (it.unitPrice.toFixed p) ∧
    (itemElement p it).textAt grossPath = some ((lineAmount it p).toFixed p) := by
  simp [quantityPath, pricePath, grossPath, itemElement, itemNode, Element.textAt, Element.descend,
    Element.selectElement, Element.childElements, leaf, group, answers_of_colon_free]

/-- What the `gCamItem` element of an item shows, read back as decimals: the item's quantity, its
unit price rounded half up to `p` places, and its gross amount, the quantity times the unit price
as given, rounded half up to `p` places. -/
structure ItemLineShows (p : ℤ) (c : Element) (it : Item) : Prop where
  quantity : amountAt c quantityPath = some it.quantity.val
  price : amountAt c pricePath = some (halfUp it.unitPrice.val p)
  gross : amountAt c grossPath = some (halfUp (it.quantity.val * it.unitPrice.val) p)

/-- A `gCamItem` element whose gross amount is its written unit price times its written quantity,
rounded half away from zero to `p` places, all three read as decimals. -/
def LineReproducible (p : ℤ) (c : Element) : Prop :=
  ∃ u q, amountAt c pricePath = some u ∧ amountAt c quantityPath = some q ∧
    amountAt c grossPath = some (halfAway (u * q) p)

section Line

variable {p : ℤ} {it : Item}

/-- An accepted item's line shows its quantity, its rounded unit price and its gross amount. The
quantity has an exponent a decimal can have, so that its shortest form reads back. -/
theorem itemLineShows (h : it.Accepted) (hp : 0 ≤ p ∧ p ≤ 2)
    (hq : -2147483648 ≤ it.quantity.exp) : ItemLineShows p (itemElement p it) it := by
  obtain ⟨tq, tu, tg⟩ := itemElement_line_texts p it
  obtain ⟨q', hq', hval⟩ := ofString?_toString h.quantity_pos.le hq
  refine ⟨?_, ?_, ?_⟩
  · rw [amountAt, tq, Option.bind_some, hq', Option.map_some, hval]
  · rw [amountAt, tu, Option.bind_some, ofString?_toFixed _ h.price_nonneg hp.1 (by omega),
      Option.map_some, val_round _ _ h.price_nonneg]
  · rw [amountAt_of_textAt tg (lineAmount_wholeUnits h) hp, val_lineAmount h]

/-- A line whose unit price has no more places than the amounts is reproducible from what it
shows: the written price is the price itself. -/
theorem ItemLineShows.reproducible {c : Element} (hs : ItemLineShows p c it)
    (hu : WholeUnits p it.unitPrice.val) (hq : 0 ≤ it.quantity.val) : LineReproducible p c := by
  refine ⟨_, _, hs.price, hs.quantity, ?_⟩
  rw [hs.gross, halfUp_of_wholeUnits hu, halfAway_of_nonneg (mul_nonneg hu.nonneg hq), mul_comm]

end Line

/-! ## The lines of a new document -/

/-- The program computes the tree of a new document exactly when every item's product stays in
the exponent range. The item lines of the tree it computes, in item order, read back as decimals:
each shows its item's quantity, its unit price rounded half up to the amount places (none for
guaraníes, two for any other currency) and its gross amount, the quantity times the unit price as
given, rounded; a line whose unit price has no more places than the amounts has a gross amount
equal to its written price times its written quantity, rounded half away from zero. -/
theorem item_lines_read_back {f : Fields} {d : Document} (h : Document.new f = .ok d)
    (hq : ∀ it ∈ f.items, -2147483648 ≤ it.quantity.exp) (signedAt : Clock.Time) :
    amountPlaces d.fields.currency = (if d.fields.currency = "PYG" then 0 else 2) ∧
    ((∃ rde, d.elementChecked signedAt = .ok rde) ↔ ∀ it ∈ f.items, it.productFits = true) ∧
    ∀ rde, d.elementChecked signedAt = .ok rde →
      List.Forall₂ (fun c it => ItemLineShows (amountPlaces d.fields.currency) c it ∧
          (WholeUnits (amountPlaces d.fields.currency) it.unitPrice.val →
            LineReproducible (amountPlaces d.fields.currency) c))
        (itemElements rde) d.fields.items := by
  obtain ⟨hc, hf, helem⟩ := Document.new_accepted h
  have hitems : d.fields.items = f.items := by rw [(Document.new_eq_ok h).2]; rfl
  refine ⟨amountPlaces_of_ne_empty hc,
    (Document.elementChecked_new_ok_iff h signedAt).trans (Document.totalsChecked_new_ok_iff h),
    fun rde hrde => ?_⟩
  -- the tree computed is the one built from the fields, with one element per item, each its own
  obtain ⟨rfl, -⟩ := Document.elementChecked_new_eq_ok h hrde
  rw [helem, itemElements_toElement, List.forall₂_map_left_iff]
  refine List.forall₂_same.2 fun it hit => ?_
  have hs := itemLineShows (p := amountPlaces d.fields.currency) (hf it hit) (amountPlaces_bounds _)
    (hq it (hitems ▸ hit))
  exact ⟨hs, fun hu => hs.reproducible hu ((coeff_nonneg_iff _).1 (hf it hit).quantity_pos.le)⟩

theorem mixedRateDocument_item_lines :
    Document.new mixedRateInvoice = .ok mixedRateDocument ∧
    (∀ it ∈ mixedRateInvoice.items, -2147483648 ≤ it.quantity.exp) ∧
    amountPlaces mixedRateDocument.fields.currency =
      (if mixedRateDocument.fields.currency = "PYG" then 0 else 2) ∧
    ((∃ rde, mixedRateDocument.elementChecked Clock.Time.zero = .ok rde) ↔
      ∀ it ∈ mixedRateInvoice.items, it.productFits = true) ∧
    ∀ rde, mixedRateDocument.elementChecked Clock.Time.zero = .ok rde →
      List.Forall₂ (fun c it => ItemLineShows (amountPlaces mixedRateDocument.fields.currency) c it ∧
          (WholeUnits (amountPlaces mixedRateDocument.fields.currency) it.unitPrice.val →
            LineReproducible (amountPlaces mixedRateDocument.fields.currency) c))
        (itemElements rde) mixedRateDocument.fields.items := by
  have hq : ∀ it ∈ mixedRateInvoice.items, -2147483648 ≤ it.quantity.exp := by decide
  exact ⟨new_mixedRateInvoice, hq, item_lines_read_back new_mixedRateInvoice hq Clock.Time.zero⟩

/-! ## A price with more places than the amounts -/

/-- Three units at half a guaraní each. -/
def halfPriceItem : Item :=
  { code := "10", description := "Consultoría", quantity := 3, unitPrice := ⟨5, -1⟩, vatRate := 10 }

/-- An invoice in guaraníes of one line, `halfPriceItem`. -/
def halfPriceInvoice : Fields := { Signing.sampleInvoice with items := [halfPriceItem] }

/-- The document made from `halfPriceInvoice`. -/
def halfPriceDocument : Document :=
  { fields := halfPriceInvoice.withDefaults, id := "01800897528001001000000122024011510000001236" }

theorem new_halfPriceInvoice : Document.new halfPriceInvoice = .ok halfPriceDocument :=
  Signing.new_eq_ok_of (Except.eq_ok_of_toOption (by decide +kernel)) rfl
    (Option.isNone_iff_eq_none.1 (by decide +kernel))

/-- Its line writes a unit price of 1, a quantity of 3 and a gross amount of 2. -/
example : (itemElements (halfPriceDocument.element Clock.Time.zero)).map
      (fun c => (c.textAt pricePath, c.textAt quantityPath, c.textAt grossPath)) =
    [(some "1", some "3", some "2")] := by
  decide +kernel

/-- A line of an accepted document, in the tree the program computes, whose gross amount is not
its written unit price times its written quantity: 0.5 is written as 1, and the three units come
to 1.5, rounded to 2, where the written price gives 3. -/
theorem halfPrice_line_not_reproducible :
    Document.new halfPriceInvoice = .ok halfPriceDocument ∧
    amountPlaces halfPriceDocument.fields.currency = 0 ∧
    ∃ rde, halfPriceDocument.elementChecked Clock.Time.zero = .ok rde ∧
      ∃ c ∈ itemElements rde, ¬ LineReproducible 0 c := by
  have hp : amountPlaces halfPriceDocument.fields.currency = 0 := by decide
  obtain ⟨-, hf, helem⟩ := Document.new_accepted new_halfPriceInvoice
  have hfits : ∀ it ∈ halfPriceInvoice.items, it.productFits = true := by decide
  obtain ⟨rde, hrde⟩ := (Document.elementChecked_new_ok_iff new_halfPriceInvoice Clock.Time.zero).2
    ((Document.totalsChecked_new_ok_iff new_halfPriceInvoice).2 hfits)
  obtain ⟨rfl, -⟩ := Document.elementChecked_new_eq_ok new_halfPriceInvoice hrde
  have hs := itemLineShows (p := 0) (hf halfPriceItem (by simp [halfPriceDocument, halfPriceInvoice,
    Fields.withDefaults])) (by omega) (by decide)
  refine ⟨new_halfPriceInvoice, hp, _, hrde, itemElement 0 halfPriceItem, ?_, ?_⟩
  · rw [helem, itemElements_toElement, hp]
    simp [halfPriceDocument, halfPriceInvoice, Fields.withDefaults]
  · rintro ⟨u, q, hu, hq, hg⟩
    rw [hs.price] at hu
    rw [hs.quantity] at hq
    rw [hs.gross] at hg
    cases hu; cases hq
    -- the line is 3 × 0.5 = 1.5, rounded to 2; the written price and quantity give 1 × 3 = 3
    have hval : halfPriceItem.quantity.val = 3 ∧ halfPriceItem.unitPrice.val = 1 / 2 :=
      ⟨by simp [halfPriceItem], by norm_num [val, halfPriceItem]⟩
    rw [hval.1, hval.2] at hg
    norm_num [halfAway, halfUp] at hg

end EInvoice.Invoice
