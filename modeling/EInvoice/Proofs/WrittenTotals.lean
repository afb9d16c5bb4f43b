import EInvoice.Proofs.DocumentTotals
import EInvoice.Proofs.DecimalText
import EInvoice.Proofs.DocumentReading
import Mathlib

/-!
# Written totals

The amounts the tree of a document writes, read back as decimals. Every amount is written with
the amount places of the currency and is a whole number of their units, so reading its text
gives back its value; the written totals then add up over the written items as the totals add up
over the items.

- `itemElements_toElement`, `toElement_gTotSub`: the tree writes one `gCamItem` per item and the
  totals in `gTotSub`.
- `totalsWritten_toElement`: the written amounts add up (`TotalsWritten`).
- `Document.new_accepted`: a new document has accepted items and its tree is the one built from
  its fields. The totals and the tree the program computes for it, which stop where the arithmetic
  leaves the exponent range, are read with these lemmas once that range is understood.
-/

namespace EInvoice.Xml

theorem Element.descend_append (e : Element) (xs ys : List String) :
    e.descend (xs ++ ys) = (e.descend xs).bind (·.descend ys) := by
  induction xs generalizing e with
  | nil => rfl
  | cons x xs ih =>
    simp only [List.cons_append, Element.descend, Option.bind_assoc]
    cases e.selectElement x <;> simp [ih]

end EInvoice.Xml

namespace EInvoice.Invoice

open EInvoice.Xml EInvoice.Text EInvoice.Decimal

/-! ## The written tree -/

/-- The `gCamItem` element of an item. -/
def itemElement (p : Int) (it : Item) : Element :=
  (itemNode p it).element?.get (by simp [itemNode, group, Node.element?])

/-- The `gTotSub` element of some totals. -/
def totalsElement (p : Int) (t : Totals) : Element :=
  (totalsNode p t).element?.get (by simp [totalsNode, group, Node.element?])

theorem element?_itemNode (p : Int) (it : Item) :
    (itemNode p it).element? = some (itemElement p it) :=
  (Option.some_get _).symm

theorem element?_totalsNode (p : Int) (t : Totals) :
    (totalsNode p t).element? = some (totalsElement p t) :=
  (Option.some_get _).symm

theorem itemElement_tag (p : Int) (it : Item) : (itemElement p it).tag = "gCamItem" := by
  simp [itemElement, itemNode, group, Node.element?]

theorem totalsElement_tag (p : Int) (t : Totals) : (totalsElement p t).tag = "gTotSub" := by
  simp [totalsElement, totalsNode, group, Node.element?]

/-- The `gCamItem` elements of a document tree, in order. -/
def itemElements (root : Element) : List Element :=
  ((root.descend ["DE", "gDtipDE"]).map (·.selectElements "gCamItem")).getD []

theorem toElement_gTotSub (f : Fields) (id : String) (t : Clock.Time) :
    (f.toElement id t).descend ["DE", "gTotSub"] =
      some (totalsElement (amountPlaces f.currency) f.totals) := by
  simp [Fields.toElement, Element.descend, Element.selectElement, Element.childElements, leaf,
    group, answers_of_colon_free, element?_totalsNode, totalsElement_tag]

theorem itemElements_toElement (f : Fields) (id : String) (t : Clock.Time) :
    itemElements (f.toElement id t) = f.items.map (itemElement (amountPlaces f.currency)) := by
  have hitems : Node.element? ∘ itemNode (amountPlaces f.currency) =
      some ∘ itemElement (amountPlaces f.currency) := funext fun it => element?_itemNode _ it
  simp only [itemElements, Fields.toElement, Element.descend, Element.selectElement,
    Element.selectElements, Element.childElements, leaf, group]
  simp only [Node.element?, String.reduceToList, ↓Char.isValue, List.mem_cons, Char.reduceEq, List.not_mem_nil,
    or_self, not_false_eq_true, answers_of_colon_free, List.find?_filterMap, String.isEmpty_iff,
    String.ofList_eq_empty_iff, List.drop_eq_nil_iff, String.reduceEq, ↓reduceIte, List.cons_append, List.nil_append,
    List.append_assoc, Option.any_some, String.reduceBEq, Bool.false_eq_true, List.find?_cons_of_neg, BEq.rfl,
    List.find?_cons_of_pos, Option.bind_some, Option.bind_fun_some, Option.map_some, List.filterMap_append,
    Option.some.injEq, List.filterMap_cons_some, List.filterMap_map, Function.comp_apply, hitems, List.filterMap_eq_map,
    List.filter_append, List.filter_cons_of_neg, Option.getD_some]
  split <;> simp [Node.element?, answers_of_colon_free, itemElement_tag]

/-- Where a `gCamItem` element writes its VAT rate. -/
def ratePath : List String := ["gCamIVA", "dTasaIVA"]

/-- Where a `gCamItem` element writes its taxable base. -/
def basePath : List String := ["gCamIVA", "dBasGravIVA"]

/-- Where a `gCamItem` element writes its VAT. -/
def taxPath : List String := ["gCamIVA", "dLiqIVAItem"]

/-- Where a `gCamItem` element writes its amount. -/
def linePath : List String := ["gValorItem", "gValorRestaItem", "dTotOpeItem"]

section Texts

variable (p : Int)

theorem totalsElement_texts (t : Totals) :
    (totalsElement p t).textAt ["dSubExe"] = some (t.exempt.toFixed p) ∧
    (totalsElement p t).textAt ["dSub5"] = some (t.sub5.toFixed p) ∧
    (totalsElement p t).textAt ["dSub10"] = some (t.sub10.toFixed p) ∧
    (totalsElement p t).textAt ["dTotOpe"] = some (t.operation.toFixed p) ∧
    (totalsElement p t).textAt ["dTotGralOpe"] = some (t.operation.toFixed p) ∧
    (totalsElement p t).textAt ["dIVA5"] = some (t.vat5.toFixed p) ∧
    (totalsElement p t).textAt ["dIVA10"] = some (t.vat10.toFixed p) ∧
    (totalsElement p t).textAt ["dTotIVA"] = some (t.vat.toFixed p) ∧
    (totalsElement p t).textAt ["dBaseGrav5"] = some (t.base5.toFixed p) ∧
    (totalsElement p t).textAt ["dBaseGrav10"] = some (t.base10.toFixed p) ∧
    (totalsElement p t).textAt ["dTBasGraIVA"] = some (t.taxableBase.toFixed p) := by
  simp [totalsElement, totalsNode, Element.textAt, Element.descend, Element.selectElement,
    Element.childElements, leaf, group, answers_of_colon_free]

theorem itemElement_texts (it : Item) :
    (itemElement p it).textAt ratePath = some (showInt it.vatRate) ∧
    (itemElement p it).textAt basePath = some ((itemBase p it).toFixed p) ∧
    (itemElement p it).textAt taxPath = some ((itemTax p it).toFixed p) ∧
    (itemElement p it).textAt linePath = some ((lineAmount it p).toFixed p) := by
  by_cases h0 : it.vatRate = 0 <;>
    simp [h0, ratePath, basePath, taxPath, linePath, itemElement, itemNode, itemBase, itemTax,
      Element.textAt, Element.descend,
      Element.selectElement, Element.childElements, leaf, group, answers_of_colon_free]

end Texts

/-! ## Reading the written amounts -/

/-- The amount written at a path below an element, read as a decimal, by its value. -/
def amountAt (e : Element) (path : List String) : Option ℚ :=
  ((e.textAt path).bind Decimal.ofString?).map Decimal.val

/-- The sum of the amounts written at a path below each of some elements; `none` when one of
them does not read. -/
def amountSum (cs : List Element) (path : List String) : Option ℚ :=
  (cs.mapM fun c => amountAt c path).map List.sum

/-- An amount of whole units, written with its places, reads back as its value. -/
theorem amountAt_of_textAt {e : Element} {path : List String} {v : Decimal} {p : Int}
    (h : e.textAt path = some (v.toFixed p)) (hv : WholeUnits p v.val) (hp : 0 ≤ p ∧ p ≤ 2) :
    amountAt e path = some v.val := by
  have hc : 0 ≤ v.coeff := (coeff_nonneg_iff v).2 hv.nonneg
  rw [amountAt, h, Option.bind_some, ofString?_toFixed v hc hp.1 (by omega), Option.map_some,
    val_round v p hc, halfUp_of_wholeUnits hv]

theorem amountSum_map {items : List Item} {el : Item → Element} {path : List String}
    {g : Item → ℚ} (h : ∀ it ∈ items, amountAt (el it) path = some (g it)) :
    amountSum (items.map el) path = some (items.map g).sum := by
  induction items with
  | nil => rfl
  | cons it items ih =>
    have ih' := ih fun it' hit' => h it' (List.mem_cons_of_mem it hit')
    simp only [amountSum, List.map_cons, List.mapM_cons, h it List.mem_cons_self] at ih' ⊢
    cases hm : (items.map el).mapM fun c => amountAt c path with
    | none => simp [hm] at ih'
    | some vs =>
      simp only [hm, Option.map_some, Option.some.injEq] at ih'
      simp [ih']

/-! ## The written totals -/

/-- The amount a document tree writes for one of its totals. -/
def totalAt (root : Element) (name : String) : Option ℚ := amountAt root ["DE", "gTotSub", name]

/-- The items a document tree writes at a VAT rate. -/
def itemsAtRate (root : Element) (rate : String) : List Element :=
  (itemElements root).filter fun c => c.textAt ratePath = some rate

/-- The amounts a document tree writes add up, read back as decimals: each item is at rate 0, 5
or 10; a taxed item's base and VAT make up its amount and an exempt item writes zero for both;
each subtotal, VAT total and base total is the sum over the items at its rate, the operation
total and the grand total the sum over all items, and the overall VAT and base add the two
rates up. -/
structure TotalsWritten (root : Element) : Prop where
  rates : ∀ c ∈ itemElements root,
    c.textAt ratePath = some "0" ∨ c.textAt ratePath = some "5" ∨ c.textAt ratePath = some "10"
  taxed : ∀ c ∈ itemElements root, c.textAt ratePath ≠ some "0" →
    ∃ base vat, amountAt c basePath = some base ∧ amountAt c taxPath = some vat ∧
      amountAt c linePath = some (base + vat)
  exempt : ∀ c ∈ itemsAtRate root "0",
    amountAt c basePath = some 0 ∧ amountAt c taxPath = some 0 ∧ (amountAt c linePath).isSome
  subExe : totalAt root "dSubExe" = amountSum (itemsAtRate root "0") linePath
  sub5 : totalAt root "dSub5" = amountSum (itemsAtRate root "5") linePath
  sub10 : totalAt root "dSub10" = amountSum (itemsAtRate root "10") linePath
  operation : totalAt root "dTotOpe" = amountSum (itemElements root) linePath
  grandTotal : totalAt root "dTotGralOpe" = amountSum (itemElements root) linePath
  vat5 : totalAt root "dIVA5" = amountSum (itemsAtRate root "5") taxPath
  vat10 : totalAt root "dIVA10" = amountSum (itemsAtRate root "10") taxPath
  base5 : totalAt root "dBaseGrav5" = amountSum (itemsAtRate root "5") basePath
  base10 : totalAt root "dBaseGrav10" = amountSum (itemsAtRate root "10") basePath
  vat : totalAt root "dTotIVA" = Option.map₂ (· + ·) (totalAt root "dIVA5") (totalAt root "dIVA10")
  taxableBase : totalAt root "dTBasGraIVA" =
    Option.map₂ (· + ·) (totalAt root "dBaseGrav5") (totalAt root "dBaseGrav10")

/-- Two non-negative integers are written alike exactly when they are equal. -/
theorem showInt_inj {a b : Int} (ha : 0 ≤ a) (hb : 0 ≤ b) : showInt a = showInt b ↔ a = b := by
  refine ⟨fun h => ?_, fun h => h ▸ rfl⟩
  have := congrArg String.toList h
  rw [showInt_toList ha, showInt_toList hb] at this
  have := paddedDigits_inj this
  omega

section Items

variable {p : Int} {it : Item}

/-- An accepted item's base, VAT and amount read back as their values. -/
theorem itemElement_amounts (h : it.Accepted) (hp : 0 ≤ p ∧ p ≤ 2) :
    amountAt (itemElement p it) basePath = some (itemBase p it).val ∧
    amountAt (itemElement p it) taxPath = some (itemTax p it).val ∧
    amountAt (itemElement p it) linePath = some (lineAmount it p).val := by
  have hp16 : p ≤ 16 := by omega
  obtain ⟨-, hb, ht, hl⟩ := itemElement_texts p it
  exact ⟨amountAt_of_textAt hb (itemBase_wholeUnits h hp16) hp,
    amountAt_of_textAt ht (itemTax_wholeUnits h hp16) hp,
    amountAt_of_textAt hl (lineAmount_wholeUnits h) hp⟩

/-- An accepted item writes the text of a rate `r` of 0, 5 or 10 exactly when it is at `r`. -/
theorem itemElement_rate (h : it.Accepted) {r : Int} (hr : r = 0 ∨ r = 5 ∨ r = 10) :
    (itemElement p it).textAt ratePath = some (showInt r) ↔ it.vatRate = r := by
  rw [(itemElement_texts p it).1, Option.some.injEq, showInt_inj h.rate_nonneg (by omega)]

end Items

section Tree

variable (f : Fields) (id : String) (t : Clock.Time)

theorem totalAt_toElement (name : String) :
    totalAt (f.toElement id t) name = amountAt (totalsElement (amountPlaces f.currency) f.totals) [name] := by
  simp only [totalAt, amountAt, Element.textAt]
  rw [show ["DE", "gTotSub", name] = ["DE", "gTotSub"] ++ [name] from rfl, Element.descend_append,
    toElement_gTotSub, Option.bind_some]

theorem itemsAtRate_toElement (hf : ∀ it ∈ f.items, it.Accepted) {r : Int}
    (hr : r = 0 ∨ r = 5 ∨ r = 10) :
    itemsAtRate (f.toElement id t) (showInt r) =
      (f.items.filter (·.vatRate = r)).map (itemElement (amountPlaces f.currency)) := by
  rw [itemsAtRate, itemElements_toElement, List.filter_map]
  congr 1
  apply List.filter_congr
  intro it hit
  simp [itemElement_rate (hf it hit) hr]

theorem totalsWritten_toElement (hf : ∀ it ∈ f.items, it.Accepted) :
    TotalsWritten (f.toElement id t) := by
  set p := amountPlaces f.currency
  have hp := amountPlaces_bounds f.currency
  have hcons := totals_consistent f hf
  obtain ⟨hop, hex, hs5, hv5, hb5, hs10, hv10, hb10, -, -⟩ := totals_sums f hf
  -- each total is written with the amount places and reads back as its value
  have htotal : ∀ (name : String) (v : Decimal),
      (totalsElement p f.totals).textAt [name] = some (v.toFixed p) →
      v ∈ [f.totals.exempt, f.totals.sub5, f.totals.sub10, f.totals.operation, f.totals.vat5,
        f.totals.vat10, f.totals.vat, f.totals.base5, f.totals.base10, f.totals.taxableBase] →
      totalAt (f.toElement id t) name = some v.val := by
    intro name v htext hv
    rw [totalAt_toElement]
    exact amountAt_of_textAt htext (hcons.wholeUnits v hv) hp
  obtain ⟨tExe, t5, t10, tOpe, tGral, tIVA5, tIVA10, tIVA, tB5, tB10, tB⟩ :=
    totalsElement_texts p f.totals
  -- the written items at a rate read back as the sum over the items at that rate
  have hsum : ∀ (path : List String) (g : Item → Decimal) {r : Int}, r = 0 ∨ r = 5 ∨ r = 10 →
      (∀ it, it.Accepted → amountAt (itemElement p it) path = some (g it).val) →
      amountSum (itemsAtRate (f.toElement id t) (showInt r)) path = some (sumAtRate f.items r g) := by
    intro path g r hr hg
    rw [itemsAtRate_toElement f id t hf hr]
    exact amountSum_map fun it hit => hg it (hf it (List.mem_filter.1 hit).1)
  have hline := fun it (h : Item.Accepted it) => (itemElement_amounts (p := p) h hp).2.2
  have hbase := fun it (h : Item.Accepted it) => (itemElement_amounts (p := p) h hp).1
  have htax := fun it (h : Item.Accepted it) => (itemElement_amounts (p := p) h hp).2.1
  have h0 : showInt 0 = "0" := by decide +kernel
  have h5 : showInt 5 = "5" := by decide +kernel
  have h10 : showInt 10 = "10" := by decide +kernel
  refine ⟨?rates, ?taxed, ?exempt, ?_, ?_, ?_, ?_, ?_, ?_, ?_, ?_, ?_, ?_, ?_⟩
  case rates =>
    intro c hc
    rw [itemElements_toElement] at hc
    obtain ⟨it, hit, rfl⟩ := List.mem_map.1 hc
    rcases (hf it hit).rate with hr | hr | hr
    · exact .inl (h0 ▸ (itemElement_rate (hf it hit) (.inl rfl)).2 hr)
    · exact .inr (.inl (h5 ▸ (itemElement_rate (hf it hit) (.inr (.inl rfl))).2 hr))
    · exact .inr (.inr (h10 ▸ (itemElement_rate (hf it hit) (.inr (.inr rfl))).2 hr))
  case taxed =>
    intro c hc hne
    rw [itemElements_toElement] at hc
    obtain ⟨it, hit, rfl⟩ := List.mem_map.1 hc
    have hr : it.vatRate ≠ 0 := fun hr => hne (h0 ▸ (itemElement_rate (hf it hit) (.inl rfl)).2 hr)
    refine ⟨_, _, hbase it (hf it hit), htax it (hf it hit), ?_⟩
    rw [hline it (hf it hit), itemBase_add_itemTax (hf it hit) (show p ≤ 16 by omega) hr]
  case exempt =>
    intro c hc
    rw [← h0, itemsAtRate_toElement f id t hf (.inl rfl)] at hc
    obtain ⟨it, hit, rfl⟩ := List.mem_map.1 hc
    obtain ⟨hit, hr⟩ := List.mem_filter.1 hit
    have hzero := itemBase_itemTax_of_exempt (p := p) (of_decide_eq_true hr)
    rw [hbase it (hf it hit), htax it (hf it hit), hline it (hf it hit), hzero.1, hzero.2]
    exact ⟨rfl, rfl, rfl⟩
  · rw [htotal _ _ tExe (by simp), ← h0, hsum linePath _ (.inl rfl) hline, hex]
  · rw [htotal _ _ t5 (by simp), ← h5, hsum linePath _ (.inr (.inl rfl)) hline, hs5]
  · rw [htotal _ _ t10 (by simp), ← h10, hsum linePath _ (.inr (.inr rfl)) hline, hs10]
  · rw [htotal _ _ tOpe (by simp), itemElements_toElement,
      amountSum_map fun it hit => hline it (hf it hit), hop]
  · rw [htotal _ _ tGral (by simp), itemElements_toElement,
      amountSum_map fun it hit => hline it (hf it hit), hop]
  · rw [htotal _ _ tIVA5 (by simp), ← h5, hsum taxPath _ (.inr (.inl rfl)) htax, hv5]
  · rw [htotal _ _ tIVA10 (by simp), ← h10, hsum taxPath _ (.inr (.inr rfl)) htax, hv10]
  · rw [htotal _ _ tB5 (by simp), ← h5, hsum basePath _ (.inr (.inl rfl)) hbase, hb5]
  · rw [htotal _ _ tB10 (by simp), ← h10, hsum basePath _ (.inr (.inr rfl)) hbase, hb10]
  · rw [htotal _ _ tIVA (by simp), htotal _ _ tIVA5 (by simp), htotal _ _ tIVA10 (by simp),
      Option.map₂_some_some, hcons.vat]
  · rw [htotal _ _ tB (by simp), htotal _ _ tB5 (by simp), htotal _ _ tB10 (by simp),
      Option.map₂_some_some, hcons.taxableBase]

end Tree

/-! ## New documents -/

/-- A new document has a currency and accepted items, and its tree is the one built from its
fields. -/
theorem Document.new_accepted {f : Fields} {d : Document} (h : Document.new f = .ok d) :
    d.fields.currency ≠ "" ∧ (∀ it ∈ d.fields.items, it.Accepted) ∧
      ∀ t, d.element t = d.fields.toElement d.id t := by
  have hd := (Document.new_eq_ok h).2
  -- `new` refuses an empty item list and then the first faulty item
  simp only [Document.new, Except.bind_eq_ok] at h
  obtain ⟨id, -, h⟩ := h
  split at h
  · cases h
  split at h
  · cases h
  rename_i herr
  rw [hd]
  exact ⟨withDefaults_currency_ne_empty f, (itemError_eq_none_iff 0 f.items).1 herr, fun t => rfl⟩

/-- An invoice in dollars with one line at each VAT rate, amounts in cents. -/
def mixedRateInvoice : Fields :=
  { Signing.sampleInvoice with
    currency := "USD"
    items := [
      { code := "A1", description := "Servicio", quantity := 3, unitPrice := ⟨1235, -2⟩,
        vatRate := 10 },
      { code := "B2", description := "Alimento", quantity := ⟨15, -1⟩, unitPrice := ⟨799, -2⟩,
        vatRate := 5 },
      { code := "C3", description := "Libro", quantity := 2, unitPrice := ⟨450, -2⟩,
        vatRate := 0 }] }

/-- The document made from `mixedRateInvoice`. -/
def mixedRateDocument : Document :=
  { fields := mixedRateInvoice.withDefaults, id := "01800897528001001000000122024011510000001236" }

/-- Its line at ten percent comes to 37.05, of which 33.68 is base and 3.37 is VAT. -/
example : mixedRateDocument.totals.sub10 = ⟨3705, -2⟩ ∧ mixedRateDocument.totals.base10 = ⟨3368, -2⟩ ∧
    mixedRateDocument.totals.vat10 = ⟨337, -2⟩ := by
  decide +kernel

theorem new_mixedRateInvoice : Document.new mixedRateInvoice = .ok mixedRateDocument :=
  Signing.new_eq_ok_of (Except.eq_ok_of_toOption (by decide +kernel)) rfl
    (Option.isNone_iff_eq_none.1 (by decide +kernel))

end EInvoice.Invoice
