import EInvoice.Proofs.WrittenTotals
import EInvoice.Proofs.Signing
import Mathlib

/-!
# Where the arithmetic of a document leaves the exponent range

The decimal library keeps exponents in 32 bits and stops the program when a product or a
division leaves that range. A document's lines are computed as quantity times unit price,
rounded to the amount places, and, for a taxed line, the amount times 100 divided by 100 plus the
rate. The rounding brings the amount to exponent `0` or `-2`, so the VAT split always stays in
range (`splitVatChecked_eq`); the product is the one operation that can leave it, exactly when
the exponents of quantity and unit price add up to a value outside 32 bits (`Item.overflow_eq`).

Accepting a document checks the signs of quantities and prices but not their exponents, so an
accepted document can stop the program: a quantity of `0.1` and a unit price of `0` written with
exponent `-2147483648` (`overflowInvoice_stops`).

Main statement: `accepted_document_overflow`. Where the program does compute the totals and the
tree of a new document, the totals add up and the tree writes them so (`document_totals_add_up`).
-/

namespace EInvoice

namespace Decimal

theorem exponentFits_iff (e : Int) :
    exponentFits e = true ↔ -2147483648 ≤ e ∧ e ≤ 2147483647 := by
  simp [exponentFits]

@[simp] theorem exp_mul (a b : Decimal) : (a * b).exp = a.exp + b.exp := rfl

theorem mulChecked_of_fits {a b : Decimal} (h : exponentFits (a.exp + b.exp) = true) :
    a.mulChecked b = .ok (a * b) := by
  simp [mulChecked, h]

theorem mulChecked_of_not_fits {a b : Decimal} (h : exponentFits (a.exp + b.exp) = false) :
    a.mulChecked b = .error (.product (a.exp + b.exp)) := by
  simp [mulChecked, h]

theorem divChecked_of_fits {a b : Decimal} (hb : b.coeff ≠ 0)
    (h : exponentFits (a.exp - b.exp + 16) = true) : a.divChecked b = .ok (a / b) := by
  simp [divChecked, hb, h]

end Decimal

namespace Invoice

open Decimal

/-- Whether the product of an item's quantity and unit price has an exponent the library
keeps. -/
def Item.productFits (it : Item) : Bool := exponentFits (it.quantity.exp + it.unitPrice.exp)

theorem lineAmountChecked_of_fits {it : Item} (p : Int) (h : it.productFits = true) :
    lineAmountChecked it p = .ok (lineAmount it p) := by
  simp [lineAmountChecked, mulChecked_of_fits h, lineAmount]

theorem lineAmountChecked_of_not_fits {it : Item} (p : Int) (h : it.productFits = false) :
    lineAmountChecked it p = .error (.product (it.quantity.exp + it.unitPrice.exp)) := by
  simp [lineAmountChecked, mulChecked_of_not_fits h]

/-- The VAT split of an amount at zero, one or two places, at a rate a document accepts, stays
in range: the amount times 100 keeps the amount's exponent, and the division's scale is 16 more
than that. -/
theorem splitVatChecked_eq {amount : Decimal} {r p : Int} (hexp : amount.exp = -p)
    (hp : 0 ≤ p ∧ p ≤ 2) (hr : r = 0 ∨ r = 5 ∨ r = 10) :
    splitVatChecked amount r p = .ok (splitVat amount r p) := by
  by_cases h0 : r = 0
  · simp [splitVatChecked, splitVat, h0]
  have hmul : exponentFits (amount.exp + (100 : Decimal).exp) = true := by
    rw [exponentFits_iff, hexp]
    show -2147483648 ≤ -p + 0 ∧ -p + 0 ≤ 2147483647
    omega
  have hcoeff : (Decimal.ofInt (100 + r)).coeff ≠ 0 := by
    show 100 + r ≠ 0
    omega
  have hdiv : exponentFits ((amount * 100).exp - (Decimal.ofInt (100 + r)).exp + 16) = true := by
    rw [exponentFits_iff, exp_mul, hexp]
    show -2147483648 ≤ -p + 0 - 0 + 16 ∧ -p + 0 - 0 + 16 ≤ 2147483647
    omega
  simp only [splitVatChecked, splitVat, h0, if_false, mulChecked_of_fits hmul, bind, Except.bind,
    divChecked_of_fits hcoeff hdiv]
  rfl

/-- A line of an accepted item, at zero to two places, stops the program exactly when the
product of its quantity and unit price leaves the range, and then at that product. -/
theorem Item.overflow_eq {it : Item} {p : Int} (hp : 0 ≤ p ∧ p ≤ 2)
    (hr : it.vatRate = 0 ∨ it.vatRate = 5 ∨ it.vatRate = 10) :
    it.overflow p =
      if it.productFits then none else some (.product (it.quantity.exp + it.unitPrice.exp)) := by
  cases hfit : it.productFits with
  | false => simp [Item.overflow, lineAmountChecked_of_not_fits p hfit, bind, Except.bind]
  | true =>
    -- the rounded amount has exponent `-p`, so its split stays in range
    have hsplit : splitVatChecked (lineAmount it p) it.vatRate p =
        .ok (splitVat (lineAmount it p) it.vatRate p) := splitVatChecked_eq (round_exp _ p) hp hr
    simp [Item.overflow, lineAmountChecked_of_fits p hfit, bind, Except.bind, hsplit]

/-- Along accepted items, the first line that stops the program is the first item whose product
leaves the range. -/
theorem findSome_overflow_eq {p : Int} (hp : 0 ≤ p ∧ p ≤ 2) :
    ∀ items : List Item, (∀ it ∈ items, it.Accepted) →
      items.findSome? (Item.overflow p) = (items.find? (fun it => !it.productFits)).map
        fun it => .product (it.quantity.exp + it.unitPrice.exp)
  | [], _ => rfl
  | it :: rest, hitems => by
    have hit := Item.overflow_eq hp (hitems it List.mem_cons_self).rate
    rw [List.findSome?_cons, hit,
      findSome_overflow_eq hp rest (fun x hx => hitems x (List.mem_cons_of_mem _ hx))]
    cases hfit : it.productFits <;> simp [hfit]

/-- The totals of fields whose items are all accepted stop the program at the first item whose
product leaves the range, and only there. -/
theorem Fields.overflow_eq {f : Fields} (hitems : ∀ it ∈ f.items, it.Accepted) :
    f.overflow = (f.items.find? (fun it => !it.productFits)).map
      fun it => .product (it.quantity.exp + it.unitPrice.exp) :=
  findSome_overflow_eq (amountPlaces_bounds f.currency) f.items hitems

theorem Fields.overflow_eq_none_iff {f : Fields} (hitems : ∀ it ∈ f.items, it.Accepted) :
    f.overflow = none ↔ ∀ it ∈ f.items, it.productFits = true := by
  rw [Fields.overflow_eq hitems, Option.map_eq_none_iff, List.find?_eq_none]
  simp

theorem Fields.overflow_eq_some {f : Fields} (hitems : ∀ it ∈ f.items, it.Accepted)
    {e : Decimal.Overflow} (h : f.overflow = some e) :
    ∃ pre it post, f.items = pre ++ it :: post ∧ (∀ x ∈ pre, x.productFits = true) ∧
      it.productFits = false ∧ e = .product (it.quantity.exp + it.unitPrice.exp) := by
  rw [Fields.overflow_eq hitems, Option.map_eq_some_iff] at h
  obtain ⟨it, hfind, rfl⟩ := h
  obtain ⟨hit, ⟨pre, post, hsplit, hpre⟩⟩ := List.find?_eq_some_iff_append.1 hfind
  refine ⟨pre, it, post, hsplit, fun x hx => by simpa using hpre x hx, by simpa using hit, rfl⟩

/-! ## What the program computes of a new document -/

/-- The program computes the totals of a new document exactly when every item's product stays in
the range. -/
theorem Document.totalsChecked_new_ok_iff {f : Fields} {d : Document} (h : Document.new f = .ok d) :
    (∃ tot, d.totalsChecked = .ok tot) ↔ ∀ it ∈ f.items, it.productFits = true := by
  obtain ⟨-, hacc, -⟩ := Document.new_accepted h
  have hitems : d.fields.items = f.items := by rw [(Document.new_eq_ok h).2]; rfl
  rw [Document.totalsChecked_ok_iff, Fields.overflow_eq_none_iff hacc, hitems]

/-- For every document `Document.new` accepts and every signing time, computing the totals and
the tree stops the program exactly when some item's quantity and unit price have exponents that
add up to a value outside 32 bits, and then at the first such item; otherwise both give the
document's totals and tree. The VAT split of every line never stops it. -/
theorem accepted_document_overflow {f : Fields} {d : Document} (h : Document.new f = .ok d)
    (t : Clock.Time) :
    (d.totalsChecked = .ok d.totals ∧ d.elementChecked t = .ok (d.element t) ↔
      ∀ it ∈ f.items, it.productFits = true) ∧
    (∀ e, d.totalsChecked = .error e ∨ d.elementChecked t = .error e →
      ∃ pre it post, f.items = pre ++ it :: post ∧ (∀ x ∈ pre, x.productFits = true) ∧
        it.productFits = false ∧ e = .product (it.quantity.exp + it.unitPrice.exp)) ∧
    ∀ it ∈ f.items, it.productFits = true →
      splitVatChecked (lineAmount it (amountPlaces d.fields.currency)) it.vatRate
          (amountPlaces d.fields.currency) =
        .ok (splitVat (lineAmount it (amountPlaces d.fields.currency)) it.vatRate
          (amountPlaces d.fields.currency)) := by
  obtain ⟨-, hacc, -⟩ := Document.new_accepted h
  have hitems : d.fields.items = f.items := by rw [(Document.new_eq_ok h).2]; rfl
  have hsplits : ∀ it ∈ d.fields.items, it.productFits = true →
      splitVatChecked (lineAmount it (amountPlaces d.fields.currency)) it.vatRate
          (amountPlaces d.fields.currency) =
        .ok (splitVat (lineAmount it (amountPlaces d.fields.currency)) it.vatRate
          (amountPlaces d.fields.currency)) := fun it hit _ =>
    splitVatChecked_eq (round_exp _ _) (amountPlaces_bounds _) (hacc it hit).rate
  -- a new document has neither a signed nor a read tree, so its tree is built from the fields
  rw [← hitems, Document.elementChecked_new h t]
  -- the totals, and so the tree, stop at the first line that leaves the range, if there is one
  cases hf : d.fields.overflow with
  | none =>
    rw [Document.totalsChecked_of_overflow_none hf]
    refine ⟨iff_of_true ⟨rfl, rfl⟩ ((Fields.overflow_eq_none_iff hacc).1 hf), ?_, hsplits⟩
    rintro e (he | he) <;> cases he
  | some e =>
    obtain ⟨pre, it, post, hsplit, hpre, hfit, rfl⟩ := Fields.overflow_eq_some hacc hf
    rw [Document.totalsChecked_of_overflow_some hf]
    refine ⟨iff_of_false (by simp) fun hall => ?_, ?_, hsplits⟩
    · rw [hall it (by simp [hsplit])] at hfit
      cases hfit
    · rintro e (he | he) <;> cases he <;> exact ⟨pre, it, post, hsplit, hpre, hfit, rfl⟩

/-- The sample invoice of one line at 10% stays in range. -/
theorem sampleInvoice_within_range :
    Document.new Signing.sampleInvoice = .ok Signing.sampleDocument ∧
    (∀ it ∈ Signing.sampleInvoice.items, it.productFits = true) ∧
    Signing.sampleDocument.totalsChecked = .ok Signing.sampleDocument.totals ∧
    Signing.sampleDocument.elementChecked Clock.Time.zero =
      .ok (Signing.sampleDocument.element Clock.Time.zero) := by
  have hfits : ∀ it ∈ Signing.sampleInvoice.items, it.productFits = true := by decide
  exact ⟨Signing.new_sampleInvoice, hfits,
    (accepted_document_overflow Signing.new_sampleInvoice Clock.Time.zero).1.2 hfits⟩

/-! ## An accepted document that stops the program -/

/-- A tenth of a unit at a price of zero written with the smallest exponent. -/
def overflowItem : Item :=
  { code := "10", description := "Consultoría", quantity := ⟨1, -1⟩, unitPrice := ⟨0, -2147483648⟩,
    vatRate := 10 }

/-- The sample invoice with `overflowItem` as its one line. -/
def overflowInvoice : Fields := { Signing.sampleInvoice with items := [overflowItem] }

/-- The document made from `overflowInvoice`. -/
def overflowDocument : Document :=
  { fields := overflowInvoice.withDefaults, id := "01800897528001001000000122024011510000001236" }

theorem overflowDocument_new : Document.new overflowInvoice = .ok overflowDocument :=
  Signing.new_eq_ok_of (Except.eq_ok_of_toOption (by decide +kernel)) rfl
    (Option.isNone_iff_eq_none.1 (by decide +kernel))

theorem overflowDocument_totalsChecked :
    overflowDocument.totalsChecked = .error (.product (-2147483649)) := by
  have hover : overflowDocument.fields.overflow = some (.product (-2147483649)) := by decide
  exact Document.totalsChecked_of_overflow_some hover

/-- The tree of the document stops the program at every signing time. -/
theorem overflowDocument_elementChecked (t : Clock.Time) :
    overflowDocument.elementChecked t = .error (.product (-2147483649)) := by
  rw [Document.elementChecked_new overflowDocument_new, overflowDocument_totalsChecked]
  rfl

/-- `Document.new` accepts the invoice, whose quantity and unit price both parse from text
(`0.1` and `0e-2147483648`), yet computing its totals or its tree stops the program: the
product's exponent is `-2147483649`. -/
theorem overflowInvoice_stops :
    Decimal.ofString? "0.1" = some overflowItem.quantity ∧
    Decimal.ofString? "0e-2147483648" = some overflowItem.unitPrice ∧
    Document.new overflowInvoice = .ok overflowDocument ∧
    overflowDocument.totalsChecked = .error (.product (-2147483649)) ∧
    overflowDocument.elementChecked Clock.Time.zero = .error (.product (-2147483649)) :=
  ⟨by decide +kernel, by decide +kernel, overflowDocument_new, overflowDocument_totalsChecked,
    overflowDocument_elementChecked _⟩

/-! ## The totals the program computes -/

/-- For every document `Document.new` accepts and every signing time, the program computes its
totals and its tree exactly when every line's product stays in the range. The totals it computes
add up at the document's amount places, none for guaraníes and two for any other currency; the
tree it computes writes one `gCamItem` per item, and its written amounts, read back as decimals,
add up as the totals do. -/
theorem document_totals_add_up {f : Fields} {d : Document} (h : Document.new f = .ok d)
    (signedAt : Clock.Time) :
    amountPlaces d.fields.currency = (if d.fields.currency = "PYG" then 0 else 2) ∧
    ((∃ t, d.totalsChecked = .ok t) ∧ (∃ rde, d.elementChecked signedAt = .ok rde) ↔
      ∀ it ∈ f.items, it.productFits = true) ∧
    (∀ t, d.totalsChecked = .ok t → t.Consistent (amountPlaces d.fields.currency)) ∧
    ∀ rde, d.elementChecked signedAt = .ok rde →
      (itemElements rde).length = d.fields.items.length ∧ TotalsWritten rde := by
  obtain ⟨hc, hf, helem⟩ := Document.new_accepted h
  have htotals := Document.totalsChecked_new_ok_iff h
  have hcomputed : (∃ t, d.totalsChecked = .ok t) ∧ (∃ rde, d.elementChecked signedAt = .ok rde) ↔
      ∀ it ∈ f.items, it.productFits = true :=
    ⟨fun ⟨ht, _⟩ => htotals.1 ht,
      fun hfits => ⟨htotals.2 hfits, (Document.elementChecked_new_ok_iff h signedAt).2 (htotals.2 hfits)⟩⟩
  refine ⟨amountPlaces_of_ne_empty hc, hcomputed, fun t ht => ?_, fun rde hrde => ?_⟩
  · rw [Document.totalsChecked_eq_ok ht]
    exact totals_consistent d.fields hf
  · -- the tree computed is the one built from the fields
    obtain ⟨rfl, -⟩ := Document.elementChecked_new_eq_ok h hrde
    rw [helem, itemElements_toElement, List.length_map]
    exact ⟨rfl, totalsWritten_toElement _ _ _ hf⟩

theorem mixedRateDocument_totals_add_up :
    Document.new mixedRateInvoice = .ok mixedRateDocument ∧
    (∀ it ∈ mixedRateInvoice.items, it.productFits = true) ∧
    amountPlaces mixedRateDocument.fields.currency =
      (if mixedRateDocument.fields.currency = "PYG" then 0 else 2) ∧
    ((∃ t, mixedRateDocument.totalsChecked = .ok t) ∧
        (∃ rde, mixedRateDocument.elementChecked Clock.Time.zero = .ok rde) ↔
      ∀ it ∈ mixedRateInvoice.items, it.productFits = true) ∧
    (∀ t, mixedRateDocument.totalsChecked = .ok t →
      t.Consistent (amountPlaces mixedRateDocument.fields.currency)) ∧
    ∀ rde, mixedRateDocument.elementChecked Clock.Time.zero = .ok rde →
      (itemElements rde).length = mixedRateDocument.fields.items.length ∧ TotalsWritten rde :=
  ⟨new_mixedRateInvoice, by decide, document_totals_add_up new_mixedRateInvoice Clock.Time.zero⟩

/-- The document of `overflowInvoice` is accepted, yet the program computes no totals for it:
there are none to add up. -/
theorem overflowDocument_totals_uncomputed :
    Document.new overflowInvoice = .ok overflowDocument ∧
      ¬ ∃ t, overflowDocument.totalsChecked = .ok t := by
  refine ⟨overflowDocument_new, ?_⟩
  rintro ⟨t, ht⟩
  rw [overflowDocument_totalsChecked] at ht
  cases ht

/-- Nor does it compute a tree for it at any signing time: there is no text to write and read
back. -/
theorem overflowDocument_unwritten :
    Document.new overflowInvoice = .ok overflowDocument ∧
      ∀ t, ¬ ∃ rde, overflowDocument.elementChecked t = .ok rde := by
  refine ⟨overflowDocument_new, fun t => ?_⟩
  rintro ⟨rde, he⟩
  rw [overflowDocument_elementChecked] at he
  cases he

end Invoice

end EInvoice
