import EInvoice.Invoice.Fields

/-!
# Line amounts, VAT split and document totals

Amounts have no decimal places in guaraníes (currency `PYG`, also when no currency is
given) and two places in any other currency.

* The amount of a line is quantity × unit price, rounded half away from zero to the
  amount places.
* A line with VAT rate `r` (5 or 10) includes its tax: its taxable base is
  `amount × 100 / (100 + r)`, first rounded to sixteen places and then to the amount
  places; its tax is the amount minus the base. An exempt line (rate 0) has neither.
* The totals add the lines up per rate: lines at 5 and 10 go to their own subtotals, tax
  and base; any other rate counts as exempt.

Main statement: `splitVat_add` (base and tax add up to the amount).
-/

namespace EInvoice.Invoice

/-- Decimal places of amounts in a currency. -/
def amountPlaces (currency : String) : Int :=
  if currency = "" ∨ currency = "PYG" then 0 else 2

/-- The amount of a line, rounded to `p` places. -/
def lineAmount (it : Item) (p : Int) : Decimal := (it.quantity * it.unitPrice).round p

/-- Taxable base and tax of a VAT-inclusive amount at rate `r`, `p` places. -/
def splitVat (amount : Decimal) (r : Int) (p : Int) : Decimal × Decimal :=
  if r = 0 then (0, 0)
  else
    let base := ((amount * 100) / Decimal.ofInt (100 + r)).round p
    (base, amount - base)

/-- The document totals. -/
structure Totals where
  exempt : Decimal := 0
  sub5 : Decimal := 0
  sub10 : Decimal := 0
  operation : Decimal := 0
  vat5 : Decimal := 0
  vat10 : Decimal := 0
  vat : Decimal := 0
  base5 : Decimal := 0
  base10 : Decimal := 0
  taxableBase : Decimal := 0
  deriving Repr, Inhabited

/-- Add one line to running totals (before the overall sums are taken). -/
def Totals.addLine (p : Int) (t : Totals) (it : Item) : Totals :=
  let line := lineAmount it p
  let (base, tax) := splitVat line it.vatRate p
  let t := { t with operation := t.operation + line }
  if it.vatRate = 5 then { t with sub5 := t.sub5 + line, vat5 := t.vat5 + tax, base5 := t.base5 + base }
  else if it.vatRate = 10 then
    { t with sub10 := t.sub10 + line, vat10 := t.vat10 + tax, base10 := t.base10 + base }
  else { t with exempt := t.exempt + line }

/-- The totals of the document's items. -/
def Fields.totals (f : Fields) : Totals :=
  let p := amountPlaces f.currency
  let t := f.items.foldl (Totals.addLine p) {}
  { t with vat := t.vat5 + t.vat10, taxableBase := t.base5 + t.base10 }

/-! ## Where the arithmetic stops

The decimal library stops the program when a product or a division leaves its exponent range
(`Decimal.Overflow`). Each line computes its amount and, when taxed, its base, in that order; the
totals go through the lines in order, so they stop at the first line that overflows. -/

/-- The amount of a line as the library computes it. -/
def lineAmountChecked (it : Item) (p : Int) : Except Decimal.Overflow Decimal :=
  (·.round p) <$> it.quantity.mulChecked it.unitPrice

/-- Taxable base and tax as the library computes them. -/
def splitVatChecked (amount : Decimal) (r : Int) (p : Int) :
    Except Decimal.Overflow (Decimal × Decimal) :=
  if r = 0 then .ok (0, 0)
  else do
    let scaled ← amount.mulChecked 100
    let q ← scaled.divChecked (Decimal.ofInt (100 + r))
    let base := q.round p
    pure (base, amount - base)

/-- Where computing a line stops the program, if it does. -/
def Item.overflow (p : Int) (it : Item) : Option Decimal.Overflow :=
  match lineAmountChecked it p >>= fun line => splitVatChecked line it.vatRate p with
  | .ok _ => none
  | .error e => some e

/-- Where computing the totals stops the program, if it does: at the first line that stops it. -/
def Fields.overflow (f : Fields) : Option Decimal.Overflow :=
  f.items.findSome? (Item.overflow (amountPlaces f.currency))

/-- The totals as the program computes them. -/
def Fields.totalsChecked (f : Fields) : Except Decimal.Overflow Totals :=
  match f.overflow with
  | some e => .error e
  | none => .ok f.totals

theorem sub_add_cancel_scaled (a b : Decimal) (e : Int) (ha : e ≤ a.exp) (hb : e ≤ b.exp) :
    ((a - b) + b).scaledTo e = a.scaledTo e := by
  have hsub : e ≤ (a - b).exp := by
    show e ≤ (Decimal.add a (Decimal.neg b)).exp
    simp only [Decimal.add, Decimal.neg]; omega
  show (Decimal.add (a - b) b).scaledTo e = a.scaledTo e
  rw [Decimal.add_exact _ _ e hsub hb]
  show (Decimal.add a (Decimal.neg b)).scaledTo e + b.scaledTo e = a.scaledTo e
  rw [Decimal.add_exact _ _ e ha (by simpa [Decimal.neg] using hb)]
  simp only [Decimal.scaledTo, Decimal.neg]
  rw [Int.neg_mul]
  omega

/-- Base and tax add up to the amount (at any exponent at or below both). -/
theorem splitVat_add (amount : Decimal) (r p e : Int) (hr : r ≠ 0)
    (ha : e ≤ amount.exp) (hb : e ≤ -p) :
    ((splitVat amount r p).2 + (splitVat amount r p).1).scaledTo e = amount.scaledTo e := by
  simp only [splitVat, hr, if_false]
  apply sub_add_cancel_scaled _ _ e ha
  rw [Decimal.round_exp]; exact hb

end EInvoice.Invoice
