import EInvoice.Proofs.DecimalValue
import EInvoice.Invoice.Document
import Mathlib

/-!
# Document totals

The totals of a document, as values: `Decimal.val` reads each amount as a rational, an item's
amount is its quantity times its unit price rounded half up to the amount places of the
currency, and at a taxed rate the base is split off the amount by rounding and the VAT is what
is left.

- `itemError_eq_none_iff`: the item checks of a new document pass exactly on accepted items.
- `itemBase_add_itemTax`, `itemBase_itemTax_of_exempt`: a taxed item's base and VAT make up its
  amount, and an exempt item has neither; all three are whole units of the amount places.
- `totals_sums`: each running total ends as the sum over the items at its rate.
- `totals_consistent`: the totals of accepted items add up (`Totals.Consistent`).
-/

namespace EInvoice.Invoice

open EInvoice.Decimal

/-- An item a new document accepts: a description, a positive quantity, a unit price that is not
negative, and a VAT rate of 0, 5 or 10. -/
@[mk_iff]
structure Item.Accepted (it : Item) : Prop where
  description : it.description ≠ ""
  quantity_pos : 0 < it.quantity.coeff
  price_nonneg : 0 ≤ it.unitPrice.coeff
  rate : it.vatRate = 0 ∨ it.vatRate = 5 ∨ it.vatRate = 10

/-- The four item checks, as the checker reads them. -/
theorem Item.accepted_iff_checks (it : Item) :
    it.Accepted ↔ it.description.isEmpty = false ∧ it.quantity.isPositive = true ∧
      it.unitPrice.isNegative = false ∧ (it.vatRate = 0 ∨ it.vatRate = 5 ∨ it.vatRate = 10) := by
  simp [Item.accepted_iff, Decimal.isPositive, Decimal.isNegative]

theorem Item.Accepted.rate_nonneg {it : Item} (h : it.Accepted) : 0 ≤ it.vatRate := by
  rcases h.rate with h' | h' | h' <;> omega

/-- The item checks find no fault exactly when every item is accepted. -/
theorem itemError_eq_none_iff : ∀ (i : Nat) (items : List Item),
    itemError i items = none ↔ ∀ it ∈ items, it.Accepted
  | _, [] => by simp [itemError]
  | i, it :: rest => by
    rw [itemError, List.forall_mem_cons, Item.accepted_iff_checks, ← itemError_eq_none_iff (i + 1) rest]
    -- each check on the head either reports it or passes it on
    split_ifs with h1 h2 h3 h4 <;> simp_all
    omega

/-! ## Amount places -/

theorem amountPlaces_of_ne_empty {c : String} (h : c ≠ "") :
    amountPlaces c = if c = "PYG" then 0 else 2 := by
  simp [amountPlaces, h]

/-- The currency of a document's fields is never empty: an empty one becomes guaraníes. -/
theorem withDefaults_currency_ne_empty (f : Fields) : f.withDefaults.currency ≠ "" := by
  simp only [Fields.withDefaults]
  split
  · decide
  · rename_i hc
    simpa [String.isEmpty_iff] using hc

theorem amountPlaces_bounds (c : String) : 0 ≤ amountPlaces c ∧ amountPlaces c ≤ 2 := by
  unfold amountPlaces; split <;> omega

/-! ## Line amounts and their VAT split -/

/-- The taxable base of an item. -/
def itemBase (p : Int) (it : Item) : Decimal := (splitVat (lineAmount it p) it.vatRate p).1

/-- The VAT of an item. -/
def itemTax (p : Int) (it : Item) : Decimal := (splitVat (lineAmount it p) it.vatRate p).2

section Line

variable {p : Int} {it : Item}

/-- The amount of an accepted item is its quantity times its unit price, rounded half up. -/
theorem val_lineAmount (h : it.Accepted) :
    (lineAmount it p).val = halfUp (it.quantity.val * it.unitPrice.val) p := by
  rw [lineAmount, val_round _ _ (mul_nonneg h.quantity_pos.le h.price_nonneg), val_mul]

theorem lineAmount_wholeUnits (h : it.Accepted) : WholeUnits p (lineAmount it p).val := by
  rw [val_lineAmount h]
  exact halfUp_wholeUnits (mul_nonneg ((coeff_nonneg_iff _).1 h.quantity_pos.le)
    ((coeff_nonneg_iff _).1 h.price_nonneg))

/-- The base of a VAT-inclusive amount at a positive rate is the amount without its VAT, rounded
half up to sixteen places and then to the amount places. -/
theorem val_splitVat_fst {line : Decimal} {r : Int} (hl : 0 ≤ line.val) (hr : 0 < r) :
    (splitVat line r p).1.val = halfUp (halfUp (line.val * 100 / (100 + r)) 16) p := by
  have hl100 : 0 ≤ (line * 100).coeff := by
    rw [coeff_nonneg_iff, val_mul]; simp; positivity
  have hdiv : ((line * 100) / ofInt (100 + r)).val = halfUp (line.val * 100 / (100 + r)) 16 := by
    show (divRound (line * 100) (ofInt (100 + r)) 16).val = _
    rw [val_divRound _ _ _ hl100 (by show 0 < 100 + r; omega), val_mul, val_ofInt]
    simp
  simp only [splitVat, if_neg hr.ne']
  rw [val_round _ _ ((coeff_nonneg_iff _).2 (by rw [hdiv]; exact halfUp_nonneg (by positivity))),
    hdiv]

/-- At a positive rate the base is whole units of the amount places and at most the amount, and
the VAT is the rest. -/
theorem splitVat_of_pos {line : Decimal} {r : Int} (hl : WholeUnits p line.val) (hp : p ≤ 16)
    (hr : 0 < r) :
    WholeUnits p (splitVat line r p).1.val ∧ (splitVat line r p).1.val ≤ line.val ∧
      (splitVat line r p).2.val = line.val - (splitVat line r p).1.val := by
  have hl0 := hl.nonneg
  have hr' : (0 : ℚ) < r := by exact_mod_cast hr
  -- without its VAT the amount is smaller, and rounding keeps it so
  have hle : line.val * 100 / (100 + r) ≤ line.val := by
    rw [div_le_iff₀ (by positivity)]
    nlinarith
  refine ⟨?_, ?_, by simp [splitVat, hr.ne']⟩
  · rw [val_splitVat_fst hl0 hr]
    exact halfUp_wholeUnits (halfUp_nonneg (by positivity))
  · calc (splitVat line r p).1.val
        = halfUp (halfUp (line.val * 100 / (100 + r)) 16) p := val_splitVat_fst hl0 hr
      _ ≤ halfUp (halfUp line.val 16) p := halfUp_mono (halfUp_mono hle)
      _ = line.val := by rw [halfUp_of_wholeUnits (hl.finer hp), halfUp_of_wholeUnits hl]

theorem splitVat_zero (line : Decimal) : splitVat line 0 p = (0, 0) := by
  simp [splitVat]

/-- An exempt item has neither base nor VAT. -/
theorem itemBase_itemTax_of_exempt (h0 : it.vatRate = 0) :
    (itemBase p it).val = 0 ∧ (itemTax p it).val = 0 := by
  simp [itemBase, itemTax, h0, splitVat_zero]

/-- A taxed item's base is whole units of the amount places and at most its amount, and its VAT
is the rest. -/
theorem itemBase_of_taxed (h : it.Accepted) (hp : p ≤ 16) (h0 : it.vatRate ≠ 0) :
    WholeUnits p (itemBase p it).val ∧ (itemBase p it).val ≤ (lineAmount it p).val ∧
      (itemTax p it).val = (lineAmount it p).val - (itemBase p it).val :=
  splitVat_of_pos (lineAmount_wholeUnits h) hp (lt_of_le_of_ne h.rate_nonneg (Ne.symm h0))

theorem itemBase_add_itemTax (h : it.Accepted) (hp : p ≤ 16) (h0 : it.vatRate ≠ 0) :
    (itemBase p it).val + (itemTax p it).val = (lineAmount it p).val := by
  rw [(itemBase_of_taxed h hp h0).2.2]
  ring

theorem itemBase_wholeUnits (h : it.Accepted) (hp : p ≤ 16) : WholeUnits p (itemBase p it).val := by
  by_cases h0 : it.vatRate = 0
  · rw [(itemBase_itemTax_of_exempt h0).1]
    exact wholeUnits_zero
  · exact (itemBase_of_taxed h hp h0).1

theorem itemTax_wholeUnits (h : it.Accepted) (hp : p ≤ 16) : WholeUnits p (itemTax p it).val := by
  by_cases h0 : it.vatRate = 0
  · rw [(itemBase_itemTax_of_exempt h0).2]
    exact wholeUnits_zero
  · obtain ⟨hb, hle, ht⟩ := itemBase_of_taxed h hp h0
    rw [ht]
    exact (lineAmount_wholeUnits h).sub hb hle

theorem itemBase_le (h : it.Accepted) (hp : p ≤ 16) : (itemBase p it).val ≤ (lineAmount it p).val := by
  by_cases h0 : it.vatRate = 0
  · rw [(itemBase_itemTax_of_exempt h0).1]
    exact (lineAmount_wholeUnits h).nonneg
  · exact (itemBase_of_taxed h hp h0).2.1

end Line

/-! ## Running totals -/

section Fold

variable (p : Int)

/-- What one item adds to each running total. -/
theorem addLine_vals (t : Totals) (it : Item) :
    (t.addLine p it).operation.val = t.operation.val + (lineAmount it p).val ∧
    (t.addLine p it).exempt.val = t.exempt.val +
      (if it.vatRate = 5 ∨ it.vatRate = 10 then 0 else (lineAmount it p).val) ∧
    (t.addLine p it).sub5.val = t.sub5.val + (if it.vatRate = 5 then (lineAmount it p).val else 0) ∧
    (t.addLine p it).vat5.val = t.vat5.val + (if it.vatRate = 5 then (itemTax p it).val else 0) ∧
    (t.addLine p it).base5.val = t.base5.val + (if it.vatRate = 5 then (itemBase p it).val else 0) ∧
    (t.addLine p it).sub10.val =
      t.sub10.val + (if it.vatRate = 10 then (lineAmount it p).val else 0) ∧
    (t.addLine p it).vat10.val = t.vat10.val + (if it.vatRate = 10 then (itemTax p it).val else 0) ∧
    (t.addLine p it).base10.val =
      t.base10.val + (if it.vatRate = 10 then (itemBase p it).val else 0) := by
  unfold Totals.addLine
  by_cases h5 : it.vatRate = 5
  · simp [h5, itemBase, itemTax]
  · by_cases h10 : it.vatRate = 10
    · simp [h10, itemBase, itemTax]
    · simp [h5, h10]

/-- A running total that each item moves by its own share ends at its start plus the shares. -/
theorem foldl_addLine_val (π : Totals → Decimal) (g : Item → ℚ)
    (hstep : ∀ t it, (π (t.addLine p it)).val = (π t).val + g it) :
    ∀ (items : List Item) (t : Totals),
      (π (items.foldl (Totals.addLine p) t)).val = (π t).val + (items.map g).sum
  | [], t => by simp
  | it :: items, t => by
    rw [List.foldl_cons, foldl_addLine_val π g hstep items, hstep, List.map_cons, List.sum_cons]
    ring

end Fold

/-- The sum of an amount over the items at one VAT rate. -/
def sumAtRate (items : List Item) (r : Int) (g : Item → Decimal) : ℚ :=
  ((items.filter (·.vatRate = r)).map fun it => (g it).val).sum

theorem sum_map_ite_zero {α : Type} (P : α → Prop) [DecidablePred P] (g : α → ℚ) (l : List α) :
    (l.map fun x => if P x then g x else 0).sum = ((l.filter P).map g).sum := by
  rw [List.sum_map_ite]
  simp

/-- The totals of a document with accepted items: the operation total is the sum of the item
amounts, each subtotal, VAT and base the sum over the items at its rate, and the two overall
sums add the rates up. -/
theorem totals_sums (f : Fields) (hf : ∀ it ∈ f.items, it.Accepted) :
    f.totals.operation.val = (f.items.map fun it => (lineAmount it (amountPlaces f.currency)).val).sum ∧
    f.totals.exempt.val = sumAtRate f.items 0 (lineAmount · (amountPlaces f.currency)) ∧
    f.totals.sub5.val = sumAtRate f.items 5 (lineAmount · (amountPlaces f.currency)) ∧
    f.totals.vat5.val = sumAtRate f.items 5 (itemTax (amountPlaces f.currency)) ∧
    f.totals.base5.val = sumAtRate f.items 5 (itemBase (amountPlaces f.currency)) ∧
    f.totals.sub10.val = sumAtRate f.items 10 (lineAmount · (amountPlaces f.currency)) ∧
    f.totals.vat10.val = sumAtRate f.items 10 (itemTax (amountPlaces f.currency)) ∧
    f.totals.base10.val = sumAtRate f.items 10 (itemBase (amountPlaces f.currency)) ∧
    f.totals.vat.val = f.totals.vat5.val + f.totals.vat10.val ∧
    f.totals.taxableBase.val = f.totals.base5.val + f.totals.base10.val := by
  set p := amountPlaces f.currency
  -- each running total starts at zero and moves by its share of each item
  have hrun : ∀ (π : Totals → Decimal) (g : Item → ℚ),
      (∀ t it, (π (t.addLine p it)).val = (π t).val + g it) → (π {}).val = 0 →
        (π (f.items.foldl (Totals.addLine p) {})).val = (f.items.map g).sum := by
    intro π g hstep h0
    rw [foldl_addLine_val p π g hstep, h0, zero_add]
  -- among accepted items, those at neither 5 nor 10 are the exempt ones
  have hexempt : f.items.filter (fun it => ¬(it.vatRate = 5 ∨ it.vatRate = 10)) =
      f.items.filter (·.vatRate = 0) := by
    apply List.filter_congr
    intro it hit
    rcases (hf it hit).rate with h | h | h <;> simp [h]
  refine ⟨?_, ?_, ?_, ?_, ?_, ?_, ?_, ?_, ?_, ?_⟩
  · exact hrun (·.operation) _ (fun t it => (addLine_vals p t it).1) (by simp)
  · rw [sumAtRate, ← hexempt, ← sum_map_ite_zero]
    exact hrun (·.exempt) _ (fun t it => by rw [(addLine_vals p t it).2.1]; split_ifs <;> rfl)
      (by simp)
  · rw [sumAtRate, ← sum_map_ite_zero]
    exact hrun (·.sub5) _ (fun t it => (addLine_vals p t it).2.2.1) (by simp)
  · rw [sumAtRate, ← sum_map_ite_zero]
    exact hrun (·.vat5) _ (fun t it => (addLine_vals p t it).2.2.2.1) (by simp)
  · rw [sumAtRate, ← sum_map_ite_zero]
    exact hrun (·.base5) _ (fun t it => (addLine_vals p t it).2.2.2.2.1) (by simp)
  · rw [sumAtRate, ← sum_map_ite_zero]
    exact hrun (·.sub10) _ (fun t it => (addLine_vals p t it).2.2.2.2.2.1) (by simp)
  · rw [sumAtRate, ← sum_map_ite_zero]
    exact hrun (·.vat10) _ (fun t it => (addLine_vals p t it).2.2.2.2.2.2.1) (by simp)
  · rw [sumAtRate, ← sum_map_ite_zero]
    exact hrun (·.base10) _ (fun t it => (addLine_vals p t it).2.2.2.2.2.2.2) (by simp)
  · exact val_add _ _
  · exact val_add _ _

/-! ## Consistent totals -/

/-- Totals that add up: the operation total is the exempt total and the two subtotals, each
subtotal its base and its VAT, the overall VAT and base the sums over the two rates; every total
is a whole number of units of the amount places, and no base exceeds its subtotal. -/
structure Totals.Consistent (p : Int) (t : Totals) : Prop where
  operation : t.operation.val = t.exempt.val + t.sub5.val + t.sub10.val
  sub5 : t.sub5.val = t.base5.val + t.vat5.val
  sub10 : t.sub10.val = t.base10.val + t.vat10.val
  vat : t.vat.val = t.vat5.val + t.vat10.val
  taxableBase : t.taxableBase.val = t.base5.val + t.base10.val
  wholeUnits : ∀ v ∈ [t.exempt, t.sub5, t.sub10, t.operation, t.vat5, t.vat10, t.vat, t.base5,
    t.base10, t.taxableBase], WholeUnits p v.val
  base5_le : t.base5.val ≤ t.sub5.val
  base10_le : t.base10.val ≤ t.sub10.val

section Sums

variable {p : Int} {items : List Item}

/-- Accepted items are at rate 0, 5 or 10, so a sum over them is the sum of the three. -/
theorem sum_eq_sumAtRate (h : ∀ it ∈ items, it.Accepted) (g : Item → Decimal) :
    (items.map fun it => (g it).val).sum =
      sumAtRate items 0 g + sumAtRate items 5 g + sumAtRate items 10 g := by
  induction items with
  | nil => simp [sumAtRate]
  | cons it items ih =>
    have ih' := ih fun it' hit' => h it' (List.mem_cons_of_mem it hit')
    simp only [sumAtRate, List.map_cons, List.sum_cons, List.filter_cons] at ih' ⊢
    rcases (h it List.mem_cons_self).rate with hr | hr | hr <;> simp [hr, ih'] <;> ring

/-- At a taxed rate, the base and the VAT over the items make up their amounts. -/
theorem sumAtRate_base_add_tax (h : ∀ it ∈ items, it.Accepted) (hp : p ≤ 16) {r : Int}
    (hr : r ≠ 0) :
    sumAtRate items r (lineAmount · p) = sumAtRate items r (itemBase p) + sumAtRate items r (itemTax p) := by
  simp only [sumAtRate, ← List.sum_map_add]
  congr 1
  apply List.map_congr_left
  intro it hit
  obtain ⟨hit, hrate⟩ := List.mem_filter.1 hit
  have hrate : it.vatRate = r := by simpa using hrate
  exact (itemBase_add_itemTax (h it hit) hp (hrate ▸ hr)).symm

theorem sumAtRate_wholeUnits {g : Item → Decimal} (hg : ∀ it ∈ items, WholeUnits p (g it).val)
    (r : Int) : WholeUnits p (sumAtRate items r g) :=
  wholeUnits_sum fun x hx => by
    obtain ⟨it, hit, rfl⟩ := List.mem_map.1 hx
    exact hg it (List.mem_filter.1 hit).1

theorem sumAtRate_base_le (h : ∀ it ∈ items, it.Accepted) (hp : p ≤ 16) (r : Int) :
    sumAtRate items r (itemBase p) ≤ sumAtRate items r (lineAmount · p) := by
  apply List.sum_le_sum
  intro it hit
  exact itemBase_le (h it (List.mem_filter.1 hit).1) hp

end Sums

/-- The totals of a document with accepted items are consistent at its amount places. -/
theorem totals_consistent (f : Fields) (hf : ∀ it ∈ f.items, it.Accepted) :
    f.totals.Consistent (amountPlaces f.currency) := by
  set p := amountPlaces f.currency
  have hp : p ≤ 16 := by have := amountPlaces_bounds f.currency; omega
  obtain ⟨hop, hex, hs5, hv5, hb5, hs10, hv10, hb10, hvat, hbase⟩ := totals_sums f hf
  have hline : ∀ it ∈ f.items, WholeUnits p (lineAmount it p).val :=
    fun it hit => lineAmount_wholeUnits (hf it hit)
  have hbu : ∀ it ∈ f.items, WholeUnits p (itemBase p it).val :=
    fun it hit => itemBase_wholeUnits (hf it hit) hp
  have htu : ∀ it ∈ f.items, WholeUnits p (itemTax p it).val :=
    fun it hit => itemTax_wholeUnits (hf it hit) hp
  refine ⟨?_, ?_, ?_, hvat, hbase, ?_, ?_, ?_⟩
  · rw [hop, hex, hs5, hs10]
    exact sum_eq_sumAtRate hf _
  · rw [hs5, hb5, hv5]
    exact sumAtRate_base_add_tax hf hp (by norm_num)
  · rw [hs10, hb10, hv10]
    exact sumAtRate_base_add_tax hf hp (by norm_num)
  · intro v hv
    simp only [List.mem_cons, List.not_mem_nil, or_false] at hv
    rcases hv with rfl | rfl | rfl | rfl | rfl | rfl | rfl | rfl | rfl | rfl
    · rw [hex]; exact sumAtRate_wholeUnits hline 0
    · rw [hs5]; exact sumAtRate_wholeUnits hline 5
    · rw [hs10]; exact sumAtRate_wholeUnits hline 10
    · rw [hop]
      exact wholeUnits_sum fun x hx => by
        obtain ⟨it, hit, rfl⟩ := List.mem_map.1 hx
        exact hline it hit
    · rw [hv5]; exact sumAtRate_wholeUnits htu 5
    · rw [hv10]; exact sumAtRate_wholeUnits htu 10
    · rw [hvat, hv5, hv10]; exact (sumAtRate_wholeUnits htu 5).add (sumAtRate_wholeUnits htu 10)
    · rw [hb5]; exact sumAtRate_wholeUnits hbu 5
    · rw [hb10]; exact sumAtRate_wholeUnits hbu 10
    · rw [hbase, hb5, hb10]; exact (sumAtRate_wholeUnits hbu 5).add (sumAtRate_wholeUnits hbu 10)
  · rw [hb5, hs5]; exact sumAtRate_base_le hf hp 5
  · rw [hb10, hs10]; exact sumAtRate_base_le hf hp 10

end EInvoice.Invoice
