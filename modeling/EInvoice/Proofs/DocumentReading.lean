import EInvoice.Proofs.Prefixes
import EInvoice.Proofs.Identifier
import EInvoice.Proofs.Signing
import EInvoice.Invoice.Reading
import Mathlib

/-!
# Reading back a written document

A document written as XML is read back as the same document: same identifier, same identifier
fields, the issue date on the same day, and the same `DE` subtree as reading the written text
gives. This holds of the `rDE` as written, of its bare `DE` with its own declaration of the
namespace, and of the `rDE` written with every element in a prefix bound to the namespace; an
`rDE` that also carries a `Signature` reads back signed.

The route follows `Document.read`:

* the written tree reads back joined (`readRoot_serialize`), and a document's tree is plain over
  `documentNames`, so it can be written, has no prefix, and holds no `rDE` or `Signature` below
  its root;
* dropping prefixes leaves a plain tree as it is, and takes a tree written in a prefix back to the
  plain tree (`unprefix_inPrefix`);
* every identifier field is found at its path as the text it was written as, and numbers, RUC and
  issue date read back from those texts (`identifierFields_written`);
* the fields read back give the same identifier (`identifier_congr`).
-/

namespace EInvoice.Invoice

open EInvoice.Xml EInvoice.Text EInvoice.Clock

/-! ## Numbers -/

/-- The value of decimal digits as `readWhole` folds them. -/
theorem foldl_digits_eq {cs : List Char} {v : Nat} (h : ofDigits cs = some v) :
    cs.foldl (fun (n : Int) c => n * 10 + digitValue c) 0 = v := by
  induction cs using List.reverseRecOn generalizing v with
  | nil => cases h; rfl
  | append_singleton cs d ih =>
    rw [ofDigits_snoc] at h
    obtain ⟨w, hw, hd⟩ := Option.bind_eq_some_iff.1 h
    split at hd
    · cases hd
      rw [List.foldl_append, ih hw]
      simp; ring
    · cases hd

theorem readWhole_digits {cs : List Char} {v : Nat} (hne : cs ≠ []) (hd : ∀ c ∈ cs, isDigit c = true)
    (hv : ofDigits cs = some v) (hrange : v ≤ 9223372036854775807) :
    readWhole (String.ofList cs) = some v := by
  obtain ⟨c, cs', rfl⟩ := List.exists_cons_of_ne_nil hne
  have hc : isDigit c = true := hd c List.mem_cons_self
  have hm : c ≠ '-' := by rintro rfl; simp [isDigit] at hc
  have hp : c ≠ '+' := by rintro rfl; simp [isDigit] at hc
  have hfold := foldl_digits_eq hv
  simp [readWhole, hm, hp, hc, hfold]
  exact ⟨fun x hx => hd x (List.mem_cons_of_mem c hx), hrange⟩

/-- A whole number within 64 bits, written with zeros in front to any width, reads back. -/
theorem readWhole_padInt (w : Nat) {n : Int}
    (hn : -9223372036854775808 ≤ n ∧ n ≤ 9223372036854775807) :
    readWhole (padInt w n) = some n := by
  by_cases hneg : n < 0
  case pos =>
    have hfold := foldl_digits_eq (ofDigits_paddedDigits (w - 1) n.natAbs)
    obtain ⟨c, cs, hcs⟩ := List.exists_cons_of_ne_nil (paddedDigits_ne_nil (w - 1) n.natAbs)
    have hd := fun x hx => isDigit_of_mem_paddedDigits (w := w - 1) (n := n.natAbs) (c := x) hx
    rw [hcs] at hfold hd
    simp [readWhole, padInt, hneg, padNat_toList, hcs, hfold, abs_of_neg hneg]
    exact ⟨⟨hd c List.mem_cons_self, fun x hx => hd x (List.mem_cons_of_mem c hx)⟩, by omega⟩
  case neg =>
    have h := readWhole_digits (paddedDigits_ne_nil w n.toNat)
      (fun x hx => isDigit_of_mem_paddedDigits hx) (ofDigits_paddedDigits w n.toNat) (by omega)
    rw [padInt, if_neg hneg, padNat, ← paddedDigits, h]
    simp; omega

/-- Numbers are read at paths as long as each path holds one. -/
theorem readNumbers_eq_ok {id : String} {de : Element} :
    ∀ {ps : List (List String)} {vs : List Int},
      List.Forall₂ (fun p v => readWhole (pathText de p) = some v) ps vs →
      readNumbers id de ps = .ok vs
  | [], [], .nil => rfl
  | _ :: _, _ :: _, .cons h hs => by
    simp [readNumbers, h, readNumbers_eq_ok hs]

/-! ## Printable texts -/

/-- A text of visible ASCII characters only, which reading and trimming give back as it is. -/
def Printable (s : String) : Prop := ∀ c ∈ s.toList, 33 ≤ c.toNat ∧ c.toNat ≤ 126

theorem trim_readableText_of_printable {s : String} (h : Printable s) : trim (readableText s) = s := by
  have hx : ∀ c ∈ s.toList, isXmlChar c = true := fun c hc => by
    have := h c hc
    simp only [isXmlChar, decide_eq_true_eq]
    omega
  have hb : ∀ c ∈ s.toList, isBlank c = false := fun c hc => by
    have := h c hc
    simp only [isBlank, decide_eq_false_iff_not]
    omega
  have hr : readableText s = s := by simp [readableText, map_readable hx]
  rw [hr, trim_of_forall hb]

theorem printable_of_digits {cs : List Char} (h : ∀ c ∈ cs, isDigit c = true) :
    Printable (String.ofList cs) := by
  intro c hc
  have := (isDigit_iff c).1 (h c (by simpa using hc))
  omega

theorem printable_padNat (w n : Nat) : Printable (padNat w n) := by
  intro c hc
  rw [padNat_toList] at hc
  have := (isDigit_iff c).1 (isDigit_of_mem_paddedDigits hc)
  omega

theorem printable_padInt (w : Nat) (n : Int) : Printable (padInt w n) := by
  unfold padInt
  split
  · intro c hc
    simp only [String.toList_append, List.mem_append] at hc
    rcases hc with hc | hc
    · have : c = '-' := by simpa using hc
      subst this
      decide
    · exact printable_padNat _ _ c hc
  · exact printable_padNat _ _

theorem printable_showDateTime (t : Time) (hy : 0 ≤ t.year) : Printable t.showDateTime := by
  intro c hc
  rw [showDateTime_toList t hy] at hc
  simp only [List.mem_append, List.mem_cons] at hc
  -- every character is a digit or one of the separators `-`, `T` and `:`
  have hd : ∀ {w n : Nat} {c : Char}, c ∈ paddedDigits w n → 33 ≤ c.toNat ∧ c.toNat ≤ 126 :=
    fun h => by
      have := (isDigit_iff _).1 (isDigit_of_mem_paddedDigits h)
      omega
  rcases hc with h | rfl | h | rfl | h | rfl | h | rfl | h | rfl | h
  all_goals first | decide | exact hd h

/-! ## Texts at paths -/

theorem pathText_eq_descend (e : Element) :
    ∀ path, pathText e path = ((e.descend path).map fun c => trim c.text).getD ""
  | [] => rfl
  | p :: ps => by
    simp only [pathText, Element.descend]
    cases e.selectElement p with
    | none => rfl
    | some c => exact pathText_eq_descend c ps

/-- A text found at a path of a written and read tree is the text there, as reading gives it. -/
theorem pathText_joined {e c : Element} {path : List String} (h : e.descend path = some c) :
    pathText e.joined path = trim (readableText c.text) := by
  rw [pathText_eq_descend, descend_joined, h]
  simp [Element.text_joined]

@[simp] theorem text_leafElement (t s : String) :
    Element.text ⟨"", t, [], if s = "" then [] else [.text s]⟩ = s := by
  by_cases hs : s = "" <;> simp [Element.text, Element.leadingText, hs]

/-- A printable text written at a path below a tree's `DE` is found there once the tree is
written and read back. -/
theorem pathText_written {e de : Element} (hde : e.selectElement "DE" = some de)
    {path : List String} {s : String} (hs : Printable s)
    (hpath : e.textAt ("DE" :: path) = some s) :
    pathText de.joined path = s := by
  rw [Element.textAt, Element.descend, hde, Option.bind_some] at hpath
  obtain ⟨c, hc, rfl⟩ := Option.map_eq_some_iff.1 hpath
  rw [pathText_joined hc, trim_readableText_of_printable hs]

/-! ## The identifier -/

/-- Fields that agree with `f` on what a document's identifier says of it: the nine numbers, the
RUC, the stamp number, and an issue time on the same date. -/
structure Fields.SameIdentifierFields (g f : Fields) : Prop where
  type : g.type = f.type
  issuerRuc : g.issuerRuc = f.issuerRuc
  issuerDv : g.issuerDv = f.issuerDv
  establishment : g.establishment = f.establishment
  pointOfSale : g.pointOfSale = f.pointOfSale
  number : g.number = f.number
  taxpayerType : g.taxpayerType = f.taxpayerType
  emissionType : g.emissionType = f.emissionType
  securityCode : g.securityCode = f.securityCode
  stampNumber : g.stampNumber = f.stampNumber
  date : g.issuedAt.date = f.issuedAt.date

/-- The identifier depends on the issue time only through its date, and on whether it is zero. -/
theorem identifier_congr {g f : Fields} (h : g.SameIdentifierFields f)
    (hz : g.issuedAt.isZero = f.issuedAt.isZero) : g.identifier = f.identifier := by
  have hbase : g.identifierBase = f.identifierBase := by
    simp only [Fields.identifierBase, Time.showCompactDate, Time.year, Time.month, Time.day, h.type,
      h.issuerRuc, h.issuerDv, h.establishment, h.pointOfSale, h.number, h.taxpayerType,
      h.emissionType, h.securityCode, h.date]
  simp only [Fields.identifier, Fields.validate, Time.year, hbase, h.type, h.issuerRuc, h.issuerDv,
    h.establishment, h.pointOfSale, h.number, h.taxpayerType, h.emissionType, h.securityCode, h.date,
    hz]
  rfl

/-- A time on a wall clock at UTC in a year from 2000 on is not the zero instant. -/
theorem isZero_eq_false_of_year {t : Time} (ho : t.offset = 0) (hy : 2000 ≤ t.year) :
    t.isZero = false := by
  by_contra hz
  simp only [Time.isZero, Bool.not_eq_false, decide_eq_true_eq] at hz
  have hw : t.wallSeconds = 0 := by simp [Time.wallSeconds, hz.1, ho]
  have h1 : t.year = 1 := by
    simp only [Time.year, Time.date, hw]
    decide
  omega

/-! ## Dropping prefixes -/


/-- A tree none of whose elements has a prefix is left as it is by the dropping of prefixes. -/
theorem unprefix_of_noPrefix {root : Element} (h : root.anyElement hasPrefix = false) :
    unprefix root = root := by
  have hbound : root.anyElement (fun up e => !e.space.isEmpty && namespaceOf e up == sifenNamespace) = false := by
    cases hb : root.anyElement (fun up e => !e.space.isEmpty && namespaceOf e up == sifenNamespace)
    · rfl
    · have := anyElement_mono (q := hasPrefix) (fun up e he => by
        simp only [Bool.and_eq_true] at he; exact he.1) [] root.toNode hb
      simp [Element.anyElement] at h
      rw [h] at this; cases this
  unfold unprefix
  simp [hbound]

/-- The attributes of a document's root: the e-invoicing namespace as default, the schema
instance namespace and the schema's location. -/
def rootAttrs : List Attr :=
  [⟨"", "xmlns", sifenNamespace⟩, ⟨"xmlns", "xsi", xsiNamespace⟩, ⟨"xsi", "schemaLocation", schemaLocation⟩]

theorem rootAttrs_xmlns : (Element.selectAttr ⟨"", "rDE", rootAttrs, cs⟩ "xmlns").isSome = true := by
  simp [Element.selectAttr, rootAttrs, splitName_of_colon_free, spaceMatches]

/-- A document's root written in prefix `p` is taken back to the root by dropping the prefixes;
only the default declaration moves to the end of the attributes. -/
theorem unprefix_inPrefix {names : List String} {root : Element} (hsp : root.space = "")
    (hattrs : root.attrs = rootAttrs) (hcs : PlainNodes names root.children) {p : String}
    (hp : NCName p) (hxsi : p ≠ "xsi") :
    unprefix (root.inPrefix sifenNamespace p) =
      { root with attrs := [⟨"xmlns", "xsi", xsiNamespace⟩, ⟨"xsi", "schemaLocation", schemaLocation⟩,
        ⟨"", "xmlns", sifenNamespace⟩] } := by
  have hpne : p ≠ "" := by rintro rfl; simp [NCName, isName] at hp
  obtain ⟨sp, tag, as, cs⟩ := root
  simp only at hsp hattrs hcs
  subst hsp hattrs
  have hattrs' : rootAttrs.map (prefixDeclaration sifenNamespace p) =
      [⟨"xmlns", p, sifenNamespace⟩, ⟨"xmlns", "xsi", xsiNamespace⟩,
        ⟨"xsi", "schemaLocation", schemaLocation⟩] := by
    simp [rootAttrs, prefixDeclaration]
  -- the root in prefix `p`, which declares `p` for the e-invoicing namespace
  set e0 : Element := ⟨p, tag, [⟨"xmlns", p, sifenNamespace⟩, ⟨"xmlns", "xsi", xsiNamespace⟩,
    ⟨"xsi", "schemaLocation", schemaLocation⟩], Node.inPrefixIn sifenNamespace p cs⟩ with he0
  have hdecl : e0.declared p = some sifenNamespace := by simp [e0, Element.declared, hpne]
  have hbound : (!e0.space.isEmpty && namespaceOf e0 [] == sifenNamespace) = true := by
    simp [namespaceOf, resolve, hdecl, e0, hpne]
  have hany : e0.anyElement (fun up e => !e.space.isEmpty && namespaceOf e up == sifenNamespace) =
      true := by
    simp only [Element.anyElement, Element.toNode, Node.anyElement]
    rw [hbound, Bool.true_or]
  -- dropping the prefixes renames every element, the root included
  have hren : e0.mapElements (fun up e =>
      (if (!e.space.isEmpty && namespaceOf e up == sifenNamespace) = true then "" else e.space,
        e.attrs)) [] = ⟨"", tag, e0.attrs, cs⟩ := by
    have hf : ∀ up (e : Element), e.space = p → (∀ a ∈ e.attrs, PlainAttr a) →
        up.findSome? (·.declared p) = some sifenNamespace →
        (if (!e.space.isEmpty && namespaceOf e up == sifenNamespace) = true then "" else e.space,
          e.attrs) = ("", e.attrs) := by
      intro up e hsp ha hup
      simp [namespaceOf, resolve, hsp, declared_of_plain ha hpne, hup, hpne]
    simp only [Element.mapElements, Element.toNode, Node.mapElements, hbound, if_true]
    rw [PlainNodes.mapElements_inPrefix hpne hf [e0] cs (by simp [hdecl]) hcs]
  -- then the declaration of `p` goes, and nothing else
  have hclean : (⟨"", tag, e0.attrs, cs⟩ : Element).mapElements (fun _ e =>
      (e.space, e.attrs.filter fun a => !(a.space == "xmlns" && a.value == sifenNamespace))) [] =
      ⟨"", tag, [⟨"xmlns", "xsi", xsiNamespace⟩, ⟨"xsi", "schemaLocation", schemaLocation⟩], cs⟩ := by
    have hf : ∀ (up : List Element) (e : Element), e.space = "" → (∀ a ∈ e.attrs, PlainAttr a) →
        (e.space, e.attrs.filter fun a => !(a.space == "xmlns" && a.value == sifenNamespace)) =
          (e.space, e.attrs) := by
      intro up e _ ha
      rw [List.filter_eq_self.2 fun a h => by simp [(ha a h).1]]
    simp only [Element.mapElements, Element.toNode, Node.mapElements, PlainNodes.mapElements hf _ cs hcs]
    simp [e0, xsiNamespace, sifenNamespace]
  unfold unprefix
  simp only [Element.inPrefix, hattrs', ← he0, hany, Bool.not_true, Bool.false_eq_true,
    if_false, hren, hclean]
  simp [Element.selectAttr, Element.setAttr, splitName]

/-- An edit that keeps an element as it is rewrites only below it. -/
theorem Element.mapElements_of_keep {f : ElementEdit} {up : List Element} {e : Element}
    (he : f up e = (e.space, e.attrs)) :
    e.mapElements f up = { e with children := Node.mapElementsIn f (e :: up) e.children } := by
  obtain ⟨s, t, a, c⟩ := e
  simp only [Element.mapElements, Element.toNode, Node.mapElements, he]

/-- An edit that keeps every plain element keeps plain nodes in front of an element, and the
element's local name. -/
theorem mapElementsIn_plain_append {names : List String} {f : ElementEdit}
    (hf : ∀ up (e : Element), e.space = "" → (∀ a ∈ e.attrs, PlainAttr a) → f up e = (e.space, e.attrs))
    (up : List Element) (x : Element) :
    ∀ {ps : List Node}, PlainNodes names ps →
      ∃ sp as cs, Node.mapElementsIn f up (ps ++ [x.toNode]) = ps ++ [.elem sp x.tag as cs] := by
  intro ps hps
  induction ps with
  | nil => exact ⟨_, _, _, rfl⟩
  | cons n ps ih =>
    obtain ⟨hn, hps⟩ := hps
    obtain ⟨sp, as, cs, h⟩ := ih hps
    exact ⟨sp, as, cs, by rw [List.cons_append, Node.mapElementsIn, PlainNode.mapElements hf up n hn, h,
      List.cons_append]⟩

/-- Dropping prefixes from a root in the e-invoicing namespace whose children are plain nodes and
then one element edits only that element, and keeps its local name: a prefix bound to the
namespace anywhere in it goes, with its declaration. -/
theorem unprefix_append {names : List String} {ps : List Node} (hps : PlainNodes names ps)
    (x : Element) :
    ∃ sp as cs, unprefix ⟨"", "rDE", rootAttrs, ps ++ [x.toNode]⟩ =
      ⟨"", "rDE", rootAttrs, ps ++ [.elem sp x.tag as cs]⟩ := by
  unfold unprefix
  dsimp only
  split
  · exact ⟨x.space, x.attrs, x.children, rfl⟩
  -- the renaming keeps the root, which has no prefix, and the plain nodes
  obtain ⟨sp₁, as₁, cs₁, h₁⟩ := mapElementsIn_plain_append
    (f := fun up e => (if (!e.space.isEmpty && namespaceOf e up == sifenNamespace) = true then ""
      else e.space, e.attrs))
    (fun up e hsp _ => by simp [hsp]) [⟨"", "rDE", rootAttrs, ps ++ [x.toNode]⟩] x hps
  -- and so does the removal of prefixed declarations of the namespace
  obtain ⟨sp₂, as₂, cs₂, h₂⟩ := mapElementsIn_plain_append
    (f := fun _ e => (e.space, e.attrs.filter fun a => !(a.space == "xmlns" && a.value == sifenNamespace)))
    (fun up e _ ha => by rw [List.filter_eq_self.2 fun a h => by simp [(ha a h).1]])
    [⟨"", "rDE", rootAttrs, ps ++ [.elem sp₁ x.tag as₁ cs₁]⟩] ⟨sp₁, x.tag, as₁, cs₁⟩ hps
  refine ⟨sp₂, as₂, cs₂, ?_⟩
  have hroot : rootAttrs.filter (fun a => !(a.space == "xmlns" && a.value == sifenNamespace)) =
      rootAttrs := by decide
  rw [Element.mapElements_of_keep (e := ⟨"", "rDE", rootAttrs, ps ++ [x.toNode]⟩) (by simp), h₁]
  dsimp only
  rw [Element.mapElements_of_keep (e := ⟨"", "rDE", rootAttrs, ps ++ [Node.elem sp₁ x.tag as₁ cs₁]⟩)
    (by dsimp only; rw [hroot])]
  simp only [Element.toNode] at h₂
  rw [h₂]
  simp [rootAttrs_xmlns]

/-! ## The vocabulary of a document -/

/-- The names of the elements inside a document's `rDE`. -/
def documentNames : List String :=
  ["dVerFor", "DE", "dDVId", "dFecFirma", "dSisFact", "gOpeDE", "iTipEmi", "dDesTipEmi", "dCodSeg",
   "gTimb", "iTiDE", "dDesTiDE", "dNumTim", "dEst", "dPunExp", "dNumDoc", "dFeIniT", "gDatGralOpe",
   "dFeEmiDE", "gOpeCom", "iTipTra", "dDesTipTra", "iTImp", "dDesTImp", "cMoneOpe", "dDesMoneOpe",
   "gEmis", "dRucEm", "dDVEmi", "iTipCont", "dNomEmi", "dDirEmi", "dNumCas", "cDepEmi", "dDesDepEmi",
   "cCiuEmi", "dDesCiuEmi", "dTelEmi", "dEmailE", "gActEco", "cActEco", "dDesActEco", "gDatRec",
   "iNatRec", "iTiOpe", "cPaisRec", "iTiContRec", "dRucRec", "dDVRec", "dNomRec", "gDtipDE", "gCamFE",
   "iIndPres", "dDesIndPres", "gCamCond", "iCondOpe", "dDCondOpe", "gCamItem", "dCodInt", "dDesProSer",
   "cUniMed", "dDesUniMed", "dCantProSer", "gValorItem", "dPUniProSer", "dTotBruOpeItem",
   "gValorRestaItem", "dTotOpeItem", "gCamIVA", "iAfecIVA", "dDesAfecIVA", "dPropIVA", "dTasaIVA",
   "dBasGravIVA", "dLiqIVAItem", "gTotSub", "dSubExe", "dSub5", "dSub10", "dTotOpe", "dTotGralOpe",
   "dIVA5", "dIVA10", "dTotIVA", "dBaseGrav5", "dBaseGrav10", "dTBasGraIVA"]

theorem documentNames_ncname : ∀ t ∈ documentNames, NCName t := by decide

section Vocabulary

variable {names : List String}

@[simp] theorem plainNode_leaf (t d : String) : PlainNode names (leaf t d) ↔ t ∈ names := by
  by_cases hd : d.isEmpty <;> simp [leaf, PlainNode, PlainNodes, hd]

@[simp] theorem plainNode_group (t : String) (cs : List Node) :
    PlainNode names (group t cs) ↔ t ∈ names ∧ PlainNodes names cs := by
  simp [group, PlainNode]

end Vocabulary

theorem itemNode_plain (p : Int) (it : Item) : PlainNode documentNames (itemNode p it) := by
  simp [itemNode, documentNames]

theorem toElement_children_plain (f : Fields) (id : String) (t : Clock.Time)
    (hid : ∀ c ∈ id.toList, isXmlChar c = true) :
    PlainNodes documentNames (f.toElement id t).children := by
  have hId : PlainAttr ⟨"", "Id", id⟩ :=
    ⟨rfl, show NCName "Id" by decide, show "Id" ≠ "xmlns" by decide, hid⟩
  simp [Fields.toElement, PlainNode, hId, issuerNode, receiverNode, totalsNode, itemNode_plain]
  simp [documentNames]

/-- Where a document's tree holds the texts its identifier is written from. -/
theorem toElement_textAt (F : Fields) (id : String) (t : Time) :
    (F.toElement id t).textAt ["DE", "gTimb", "iTiDE"] = some (showInt F.type) ∧
    (F.toElement id t).textAt ["DE", "gDatGralOpe", "gEmis", "dDVEmi"] = some (showInt F.issuerDv) ∧
    (F.toElement id t).textAt ["DE", "gTimb", "dEst"] = some (padInt 3 F.establishment) ∧
    (F.toElement id t).textAt ["DE", "gTimb", "dPunExp"] = some (padInt 3 F.pointOfSale) ∧
    (F.toElement id t).textAt ["DE", "gTimb", "dNumDoc"] = some (padInt 7 F.number) ∧
    (F.toElement id t).textAt ["DE", "gTimb", "dNumTim"] = some (padInt 8 F.stampNumber) ∧
    (F.toElement id t).textAt ["DE", "gDatGralOpe", "gEmis", "iTipCont"] =
      some (showInt F.taxpayerType) ∧
    (F.toElement id t).textAt ["DE", "gOpeDE", "iTipEmi"] = some (showInt F.emissionType) ∧
    (F.toElement id t).textAt ["DE", "gOpeDE", "dCodSeg"] = some (padInt 9 F.securityCode) ∧
    (F.toElement id t).textAt ["DE", "gDatGralOpe", "dFeEmiDE"] = some F.issuedAt.showDateTime ∧
    (F.toElement id t).textAt ["DE", "gDatGralOpe", "gEmis", "dRucEm"] = some F.issuerRuc := by
  simp [Element.textAt, Fields.toElement, Element.descend, Element.selectElement, Element.childElements, leaf,
    group, issuerNode, answers_of_colon_free]

/-- The identifier fields read from the `DE` of a written document with fields in range are the
document's: the numbers, the RUC, and the issue date, read as UTC, on the same day. -/
theorem identifierFields_written {F : Fields} (hF : F.InRange)
    (hstamp : -9223372036854775808 ≤ F.stampNumber ∧ F.stampNumber ≤ 9223372036854775807)
    {id : String} {t : Time} {de : Element} (hde : (F.toElement id t).selectElement "DE" = some de) :
    ∃ g, identifierFields id de.joined = .ok g ∧ g.SameIdentifierFields F ∧
      g.issuedAt.isZero = false := by
  obtain ⟨htype, hdv, hest, hpos, hnum, hstampText, htax, hemit, hcode, hdate, hruc⟩ :=
    toElement_textAt F id t
  -- each number is read from the text it was padded to
  have hread : ∀ {w : Nat} {n : Int} {path : List String},
      (F.toElement id t).textAt ("DE" :: path) = some (padInt w n) →
      -9223372036854775808 ≤ n ∧ n ≤ 9223372036854775807 →
      readWhole (pathText de.joined path) = some n := fun hp hn => by
    rw [pathText_written hde (printable_padInt _ _) hp, readWhole_padInt _ hn]
  have := hF.type_range; have := hF.dv_range; have := hF.establishment; have := hF.pointOfSale
  have := hF.number; have := hF.taxpayerType; have := hF.emissionType; have := hF.securityCode
  have hnums : readNumbers id de.joined numericPaths = .ok [F.type, F.issuerDv, F.establishment,
      F.pointOfSale, F.number, F.stampNumber, F.taxpayerType, F.emissionType, F.securityCode] :=
    readNumbers_eq_ok <|
      .cons (hread htype (by omega)) <| .cons (hread hdv (by omega)) <|
      .cons (hread hest (by omega)) <| .cons (hread hpos (by omega)) <|
      .cons (hread hnum (by omega)) <| .cons (hread hstampText hstamp) <|
      .cons (hread htax (by omega)) <| .cons (hread hemit (by omega)) <|
      .cons (hread hcode (by omega)) .nil
  -- the issue date is read back as the same wall clock, at UTC
  have hyear := hF.year
  obtain ⟨t', ht', hwall, hoff⟩ := readDateTime_showDateTime F.issuedAt ⟨by omega, by omega⟩
  have hissued : pathText de.joined ["gDatGralOpe", "dFeEmiDE"] = F.issuedAt.showDateTime :=
    pathText_written hde (printable_showDateTime _ (by omega)) hdate
  have hsame : t'.date = F.issuedAt.date := Time.date_eq_of_wallSeconds hwall
  have hrucText : pathText de.joined ["gDatGralOpe", "gEmis", "dRucEm"] = F.issuerRuc := by
    have := pathText_written hde (printable_of_digits hF.ruc_digits) (by simpa using hruc)
    simpa using this
  have hzero : t'.isZero = false := by
    apply isZero_eq_false_of_year hoff
    simp only [Time.year, hsame]
    exact hyear.1
  simp only [identifierFields, hnums, hissued, readIssueDate, ht', hrucText]
  exact ⟨_, rfl, ⟨rfl, rfl, rfl, rfl, rfl, rfl, rfl, rfl, rfl, rfl, hsame⟩, hzero⟩

/-! ## Reading -/

/-- What `Document.read` settles on in the tree `r` read from its input: the `rDE` (found, or
wrapped around the first `DE`), which declares a default namespace, and the `DE` in it. -/
structure Locates (r rde de : Element) : Prop where
  found : ( unprefix r).find "rDE" = some rde ∨
    (( unprefix r).find "rDE" = none ∧ ∃ bare, ( unprefix r).find "DE" = some bare ∧ wrapDE bare = rde)
  xmlns : (rde.selectAttr "xmlns").isSome = true
  de : rde.selectElement "DE" = some de

/-- What reading a document gives once its `rDE` is located, declares a default namespace, and
has a `DE` with a valid identifier whose fields give that identifier back. -/
theorem Document.read_eq_ok {x : String} {r rde de : Element} {g : Fields} {id : String}
    (hr : readRoot x = .ok (some r)) (hl : Locates r rde de)
    (hid : de.attrValue "Id" "" = id) (hvalid : isValidIdentifier id = true)
    (hg : identifierFields id de = .ok g) (hgid : g.identifier = .ok id) :
    Document.read x = .ok ⟨g, id, if (rde.find "Signature").isSome then .signed else .unsigned,
      some rde, if (rde.find "Signature").isSome then some rde else none⟩ := by
  obtain ⟨hfound, hxmlns, hde⟩ := hl
  rcases hfound with hfind | ⟨hnone, bare, hbare, rfl⟩
  · simp [Document.read, hr, hfind, hxmlns, hde, hid, hvalid, hg, hgid, Bind.bind, Except.bind,
      Except.mapError, Pure.pure, Except.pure]
  · simp [Document.read, hr, hnone, hbare, hxmlns, hde, hid, hvalid, hg, hgid, Bind.bind,
      Except.bind, Except.mapError, Pure.pure, Except.pure]

/-- What reading gives back of a document with fields `f`, identifier `id` and `DE` subtree `de`:
that identifier, `f`'s identifier fields, the signing state `s`, and an element whose `DE` is
`de` at every signing time. -/
structure ReadsBack (f : Fields) (id : String) (de : Element) (s : SigningState) (d : Document) :
    Prop where
  id : d.id = id
  fields : d.fields.SameIdentifierFields f
  state : d.state = s
  element : ∀ t, (d.element t).selectElement "DE" = some de

/-- Reading settles on an `rDE` and its `DE`; when the identifier there is valid and the fields
read from the `DE` give it back, the document read is signed exactly when the `rDE` holds a
signature. -/
theorem Document.read_readsBack {x : String} {r rde de : Element} {f g : Fields} {id : String}
    (hr : readRoot x = .ok (some r)) (hl : Locates r rde de) (hid : de.attrValue "Id" "" = id)
    (hvalid : isValidIdentifier id = true) (hg : identifierFields id de = .ok g)
    (hgid : g.identifier = .ok id) (hsame : g.SameIdentifierFields f) :
    ∃ d, Document.read x = .ok d ∧
      ReadsBack f id de (if (rde.find "Signature").isSome then .signed else .unsigned) d := by
  refine ⟨_, Document.read_eq_ok hr hl hid hvalid hg hgid, rfl, hsame, rfl,
    fun t => ?_⟩
  by_cases hs : (rde.find "Signature").isSome = true <;> simp [Document.element, hs, hl.de]

theorem Document.new_eq_ok {f : Fields} {d : Document} (h : Document.new f = .ok d) :
    f.identifier = .ok d.id ∧ d = { fields := f.withDefaults, id := d.id } := by
  simp only [Document.new, Except.bind_eq_ok] at h
  obtain ⟨id, hid, h⟩ := h
  split at h
  · cases h
  · split at h
    · cases h
    · cases h
      exact ⟨hid, rfl⟩

theorem identifier_withDefaults (f : Fields) : f.withDefaults.identifier = f.identifier :=
  identifier_congr ⟨rfl, rfl, rfl, rfl, rfl, rfl, rfl, rfl, rfl, rfl, rfl⟩ rfl

/-! ## What the program computes of a new document -/

theorem Document.totalsChecked_eq_ok {d : Document} {t : Totals} (h : d.totalsChecked = .ok t) :
    t = d.totals := by
  unfold Document.totalsChecked Fields.totalsChecked at h
  split at h
  · cases h
  · cases h
    rfl

theorem Document.totalsChecked_of_overflow_none {d : Document} (h : d.fields.overflow = none) :
    d.totalsChecked = .ok d.totals := by
  unfold Document.totalsChecked Fields.totalsChecked
  rw [h]
  rfl

theorem Document.totalsChecked_of_overflow_some {d : Document} {e : Decimal.Overflow}
    (h : d.fields.overflow = some e) : d.totalsChecked = .error e := by
  unfold Document.totalsChecked Fields.totalsChecked
  rw [h]

theorem Document.totalsChecked_ok_iff {d : Document} :
    (∃ t, d.totalsChecked = .ok t) ↔ d.fields.overflow = none := by
  cases h : d.fields.overflow with
  | none => simp [Document.totalsChecked_of_overflow_none h]
  | some e => simp [Document.totalsChecked_of_overflow_some h]

/-- A new document has neither a signed nor a read tree: the program builds its tree from the
fields once it has computed the totals. -/
theorem Document.elementChecked_new {f : Fields} {d : Document} (h : Document.new f = .ok d)
    (t : Time) : d.elementChecked t = (fun _ => d.element t) <$> d.totalsChecked := by
  rw [(Document.new_eq_ok h).2]
  rfl

theorem Document.elementChecked_new_eq_ok {f : Fields} {d : Document} (h : Document.new f = .ok d)
    {t : Time} {rde : Element} (he : d.elementChecked t = .ok rde) :
    rde = d.element t ∧ d.totalsChecked = .ok d.totals := by
  rw [Document.elementChecked_new h] at he
  cases ht : d.totalsChecked with
  | error e =>
    rw [ht] at he
    cases he
  | ok tot =>
    rw [ht] at he
    cases he
    exact ⟨rfl, by rw [Document.totalsChecked_eq_ok ht]⟩

/-- The program computes the tree of a new document exactly when it computes its totals. -/
theorem Document.elementChecked_new_ok_iff {f : Fields} {d : Document} (h : Document.new f = .ok d)
    (t : Time) : (∃ rde, d.elementChecked t = .ok rde) ↔ ∃ tot, d.totalsChecked = .ok tot := by
  refine ⟨fun ⟨rde, he⟩ => ⟨_, (Document.elementChecked_new_eq_ok h he).2⟩, fun ⟨tot, ht⟩ => ?_⟩
  rw [Document.elementChecked_new h, ht]
  exact ⟨_, rfl⟩

/-! ## The written tree -/

theorem sifenNamespace_chars : ∀ c ∈ sifenNamespace.toList, isXmlChar c = true :=
  List.all_eq_true.1 (by rfl)

theorem rootAttrs_writable : ∀ a ∈ rootAttrs, AttrWritable a := by
  have hxmlns : NCName "xmlns" := by decide
  have hxsi : NCName "xsi" := by decide
  have hloc : NCName "schemaLocation" := by decide
  simp only [rootAttrs, List.mem_cons, List.not_mem_nil, or_false]
  rintro a (rfl | rfl | rfl)
  · exact ⟨hxmlns.nameReads, sifenNamespace_chars⟩
  · exact ⟨hxmlns.nameReads_prefixed hxsi, List.all_eq_true.1 (by rfl)⟩
  · exact ⟨hxsi.nameReads_prefixed hloc, List.all_eq_true.1 (by rfl)⟩

theorem rootAttrs_nodup : (rootAttrs.map fun a => (a.space, a.key)).Nodup := by decide

theorem rootAttrs_inPrefix (p : String) :
    rootAttrs.map (prefixDeclaration sifenNamespace p) =
      [⟨"xmlns", p, sifenNamespace⟩, ⟨"xmlns", "xsi", xsiNamespace⟩, ⟨"xsi", "schemaLocation", schemaLocation⟩] := by
  simp [rootAttrs, prefixDeclaration]

/-- An element found among the children of a root is found when more children follow them. -/
theorem Element.selectElement_append {sp t name : String} {as : List Attr} {cs : List Node}
    {e : Element} (h : (⟨sp, t, as, cs⟩ : Element).selectElement name = some e) (extra : List Node) :
    (⟨sp, t, as, cs ++ extra⟩ : Element).selectElement name = some e := by
  simp only [Element.selectElement, Element.childElements, List.filterMap_append,
    List.find?_append] at h ⊢
  rw [h]
  rfl

/-- The `DE` element of a written document with identifier `id`. -/
structure WrittenDE (id : String) (de : Element) : Prop where
  space : de.space = ""
  tag : de.tag = "DE"
  attrs : de.attrs = [⟨"", "Id", id⟩]
  chars : ∀ c ∈ id.toList, isXmlChar c = true
  children : PlainNodes documentNames de.children

/-- A document's root around its `DE`, followed by other nodes. -/
def documentRoot (de : Element) (extra : List Node) : Element :=
  ⟨"", "rDE", rootAttrs, [leaf "dVerFor" formatVersion, de.toNode] ++ extra⟩

namespace WrittenDE

variable {id : String} {de : Element} (h : WrittenDE id de)
include h

theorem plainNode : PlainNode documentNames de.toNode := by
  obtain ⟨sp, t, as, cs⟩ := de
  obtain ⟨hsp, ht, has, hid, hcs⟩ := h
  simp only at hsp ht has hcs
  subst hsp ht has
  have hId : PlainAttr ⟨"", "Id", id⟩ :=
    ⟨rfl, show NCName "Id" by decide, show "Id" ≠ "xmlns" by decide, hid⟩
  exact ⟨rfl, show "DE" ∈ documentNames by decide, by simpa using hId, by simp, hcs⟩

theorem attrValue_joined : de.joined.attrValue "Id" "" = id := by
  simp [Element.attrValue, Element.selectAttr, h.attrs, splitName_of_colon_free, spaceMatches]

theorem joined : WrittenDE id de.joined :=
  ⟨h.space, h.tag, h.attrs, h.chars, PlainNodes.joinTexts _ h.children⟩

theorem selectElement_documentRoot (extra : List Node) :
    (documentRoot de extra).selectElement "DE" = some de := by
  obtain ⟨sp, t, as, cs⟩ := de
  obtain ⟨hsp, ht, -, -, -⟩ := h
  simp only at hsp ht
  subst hsp ht
  simp [documentRoot, Element.selectElement, Element.childElements, Element.toNode, leaf,
    answers_of_colon_free]

theorem documentRoot_children_plain : PlainNodes documentNames [leaf "dVerFor" formatVersion, de.toNode] :=
  ⟨(plainNode_leaf _ _).2 (by decide), h.plainNode, trivial⟩

theorem documentRoot_writable (extra : List Node) (hextra : WritableNodes extra) :
    WritableNode (documentRoot de extra).toNode := by
  have hcs := PlainNodes.writable documentNames_ncname _ h.documentRoot_children_plain
  refine ⟨(show NCName "rDE" by decide).nameReads, rootAttrs_writable, rootAttrs_nodup, ?_⟩
  exact ⟨hcs.1, hcs.2.1, hextra⟩

/-- The root as written and read back is taken as it is. -/
theorem locates_documentRoot (extra : List Node) (hextra : Node.anyElementIn hasPrefix [] extra = false) :
    Locates (documentRoot de extra).joined (documentRoot de extra).joined de.joined := by
  have hpre : (documentRoot de extra).joined.anyElement hasPrefix = false := by
    have hcs := PlainNodes.noPrefix [] _ h.documentRoot_children_plain
    rw [Element.anyElement_hasPrefix, Element.joined, anyElementIn_hasPrefix_joinTexts, documentRoot,
      anyElementIn_append, hcs, hextra]
    rfl
  refine ⟨.inl ?_, rootAttrs_xmlns, ?_⟩
  · rw [unprefix_of_noPrefix hpre]
    exact find_self _
  · rw [Element.selectElement_joined, h.selectElement_documentRoot]
    rfl

/-- Only the nodes after the `DE` can hold a signature. -/
theorem find_signature (extra : List Node) :
    (documentRoot de extra).find "Signature" = Node.findIn "Signature" extra := by
  have hnone := PlainNodes.findIn_none (show "Signature" ∉ documentNames by decide) _
    h.documentRoot_children_plain
  rw [Element.find_of_ne (show "rDE" ≠ "Signature" by decide), documentRoot, findIn_append, hnone]
  simp

/-- The bare `DE` with its own declaration of the namespace. -/
theorem setAttr_xmlns :
    de.setAttr "xmlns" sifenNamespace =
      ⟨"", "DE", [⟨"", "Id", id⟩, ⟨"", "xmlns", sifenNamespace⟩], de.children⟩ := by
  obtain ⟨sp, t, as, cs⟩ := de
  obtain ⟨hsp, ht, has, -, -⟩ := h
  simp only at hsp ht has
  subst hsp ht has
  simp [Element.setAttr, splitName_of_colon_free]

theorem bare_writable : WritableNode (de.setAttr "xmlns" sifenNamespace).toNode := by
  have hxmlns : NCName "xmlns" := by decide
  have hId : AttrWritable ⟨"", "Id", id⟩ :=
    PlainAttr.writable ⟨rfl, show NCName "Id" by decide, show "Id" ≠ "xmlns" by decide, h.chars⟩
  rw [h.setAttr_xmlns]
  refine ⟨(show NCName "DE" by decide).nameReads, ?_, by simp, PlainNodes.writable documentNames_ncname _ h.children⟩
  simp only [List.mem_cons, List.not_mem_nil, or_false]
  rintro a (rfl | rfl)
  · exact hId
  · exact ⟨hxmlns.nameReads, sifenNamespace_chars⟩

/-- The bare `DE` is wrapped into an `rDE` around the same `DE`. -/
theorem locates_bare :
    Locates (de.setAttr "xmlns" sifenNamespace).joined (documentRoot de.joined []) de.joined := by
  have hcs := PlainNodes.joinTexts _ h.children
  have hpre : (de.setAttr "xmlns" sifenNamespace).joined.anyElement hasPrefix = false := by
    rw [h.setAttr_xmlns]
    exact Element.noPrefix_of_plain rfl hcs
  have hwrap : wrapDE (de.setAttr "xmlns" sifenNamespace).joined = documentRoot de.joined [] := by
    obtain ⟨sp, t, as, cs⟩ := de
    obtain ⟨hsp, ht, has, -, -⟩ := h
    simp only at hsp ht has
    subst hsp ht has
    simp [wrapDE, documentRoot, rootAttrs, Element.removeAttr, Element.joined, Element.setAttr,
      Element.toNode, splitName_of_colon_free]
  refine ⟨.inr ⟨?_, _, ?_, hwrap⟩, rootAttrs_xmlns, h.joined.selectElement_documentRoot []⟩
  · rw [unprefix_of_noPrefix hpre, h.setAttr_xmlns, Element.find_of_ne (show "DE" ≠ "rDE" by decide)]
    exact PlainNodes.findIn_none (show "rDE" ∉ documentNames by decide) _ hcs
  · rw [unprefix_of_noPrefix hpre]
    rw [h.setAttr_xmlns]
    exact find_self _

theorem inPrefix_writable {p : String} (hp : NCName p) (hxsi : p ≠ "xsi") :
    WritableNode ((documentRoot de []).inPrefix sifenNamespace p).toNode := by
  have hxmlns : NCName "xmlns" := by decide
  have hattrs : ∀ a ∈ rootAttrs.map (prefixDeclaration sifenNamespace p), AttrWritable a := by
    rw [rootAttrs_inPrefix]
    simp only [List.mem_cons, List.not_mem_nil, or_false]
    rintro a (rfl | rfl | rfl)
    · exact ⟨hxmlns.nameReads_prefixed hp, sifenNamespace_chars⟩
    · exact rootAttrs_writable _ (by simp [rootAttrs])
    · exact rootAttrs_writable _ (by simp [rootAttrs])
  refine ⟨hp.nameReads_prefixed (show NCName "rDE" by decide), hattrs, ?_,
    PlainNodes.writable_inPrefix documentNames_ncname hp _ h.documentRoot_children_plain⟩
  simp [documentRoot, Element.inPrefix, rootAttrs_inPrefix, hxsi]

/-- The root taken back from a prefix holds no signature: the search does not look at the
reordered declarations. -/
theorem find_signature_reordered :
    ({ (documentRoot de []).joined with
        attrs := [⟨"xmlns", "xsi", xsiNamespace⟩, ⟨"xsi", "schemaLocation", schemaLocation⟩,
          ⟨"", "xmlns", sifenNamespace⟩] } : Element).find "Signature" = none := by
  calc _ = Node.findIn "Signature" (documentRoot de []).joined.children :=
        Element.find_of_ne (show "rDE" ≠ "Signature" by decide)
    _ = (documentRoot de []).joined.find "Signature" :=
        (Element.find_of_ne (show "rDE" ≠ "Signature" by decide)).symm
    _ = none := by rw [Element.find_joined, h.find_signature]; rfl

/-- The root written in a prefix is taken back to the root, its declarations reordered. -/
theorem locates_inPrefix {p : String} (hp : NCName p) (hxsi : p ≠ "xsi") :
    Locates ((documentRoot de []).inPrefix sifenNamespace p).joined
      { (documentRoot de []).joined with
        attrs := [⟨"xmlns", "xsi", xsiNamespace⟩, ⟨"xsi", "schemaLocation", schemaLocation⟩,
          ⟨"", "xmlns", sifenNamespace⟩] }
      de.joined := by
  have hcs := PlainNodes.joinTexts _ h.documentRoot_children_plain
  have hback :=
    unprefix_inPrefix (show (documentRoot de []).joined.space = "" from rfl) rfl hcs hp hxsi
  refine ⟨.inl ?_, ?_, ?_⟩
  · rw [Element.inPrefix_joined, hback]
    exact find_self _
  · simp [Element.selectAttr, splitName_of_colon_free, spaceMatches]
  · exact (h.locates_documentRoot [] rfl).de

/-- The root with a signature after its `DE` is taken back with the signature, from which
dropping prefixes keeps its local name. -/
theorem locates_signed (sig : Element) (htag : sig.tag = "Signature") :
    ∃ r, Locates (documentRoot de [sig.toNode]).joined r de.joined ∧
      ∃ sp as cs, r.find "Signature" = some ⟨sp, "Signature", as, cs⟩ := by
  -- dropping prefixes edits only the signature
  have hps := PlainNodes.joinTexts _ h.documentRoot_children_plain
  obtain ⟨sp, as, cs, hun⟩ := unprefix_append hps sig.joined
  rw [Element.joined_tag, htag] at hun
  have hde : (⟨"", "rDE", rootAttrs, joinTexts [leaf "dVerFor" formatVersion, de.toNode]⟩ :
      Element).selectElement "DE" = some de.joined := by
    have hsel := Element.selectElement_joined (documentRoot de []) "DE"
    rw [h.selectElement_documentRoot] at hsel
    exact hsel
  have hjoined : (documentRoot de [sig.toNode]).joined =
      ⟨"", "rDE", rootAttrs, joinTexts [leaf "dVerFor" formatVersion, de.toNode] ++ [sig.joined.toNode]⟩ :=
    rfl
  have hfind : ( unprefix (documentRoot de [sig.toNode]).joined).find "rDE" =
      some ⟨"", "rDE", rootAttrs, joinTexts [leaf "dVerFor" formatVersion, de.toNode] ++
        [.elem sp "Signature" as cs]⟩ := by
    rw [hjoined, hun]
    exact find_self _
  -- the signature is the first element of that name, after the plain nodes
  have hfound : (⟨"", "rDE", rootAttrs, joinTexts [leaf "dVerFor" formatVersion, de.toNode] ++
      [.elem sp "Signature" as cs]⟩ : Element).find "Signature" = some ⟨sp, "Signature", as, cs⟩ := by
    rw [Element.find_of_ne (show "rDE" ≠ "Signature" by decide), findIn_append,
      PlainNodes.findIn_none (show "Signature" ∉ documentNames by decide) _ hps]
    simp [Node.findIn, Node.find]
  exact ⟨_, ⟨.inl hfind, rootAttrs_xmlns, Element.selectElement_append hde _⟩, sp, as, cs, hfound⟩

end WrittenDE

/-- A document's tree is the root around its `DE`. -/
theorem toElement_eq_documentRoot (F : Fields) {id : String} (t : Time)
    (hid : ∀ c ∈ id.toList, isXmlChar c = true) :
    ∃ de, WrittenDE id de ∧ F.toElement id t = documentRoot de [] := by
  refine ⟨⟨"", "DE", [⟨"", "Id", id⟩], _⟩, ⟨rfl, rfl, rfl, hid, ?_⟩, rfl⟩
  exact (toElement_children_plain F id t hid).2.1.2.2.2.2

/-! ## Reading a written document -/

/-- The tree of a document `Document.new` accepts is the root around a written `DE`, and every
text whose root locates that `DE` reads back as the document, signed exactly when the `rDE`
located holds a signature. -/
theorem Document.new_writtenRoot {f : Fields} {d : Document} (hnew : Document.new f = .ok d)
    (hstamp : -9223372036854775808 ≤ f.stampNumber ∧ f.stampNumber ≤ 9223372036854775807)
    (t : Time) :
    ∃ de, WrittenDE d.id de ∧ d.element t = documentRoot de [] ∧
      ∀ {x : String} {r rde : Element}, readRoot x = .ok (some r) → Locates r rde de.joined →
        ∃ d', Document.read x = .ok d' ∧
          ReadsBack f d.id de.joined (if (rde.find "Signature").isSome then .signed else .unsigned) d' := by
  obtain ⟨hid, hd⟩ := Document.new_eq_ok hnew
  have hFid : f.withDefaults.identifier = .ok d.id := (identifier_withDefaults f).trans hid
  have hF : f.withDefaults.InRange := identifier_inRange hFid
  have hchars : ∀ c ∈ d.id.toList, isXmlChar c = true := fun c hc => by
    have := (isDigit_iff c).1 (identifier_digits hFid c hc)
    simp only [isXmlChar, decide_eq_true_eq]
    omega
  obtain ⟨de, hde, hE⟩ := toElement_eq_documentRoot f.withDefaults t hchars
  -- the fields read from the `DE` give the identifier back
  obtain ⟨g, hg, hsame, hzero⟩ := identifierFields_written hF hstamp
    (by rw [hE]; exact hde.selectElement_documentRoot [])
  have hsameF : g.SameIdentifierFields f :=
    ⟨hsame.1, hsame.2, hsame.3, hsame.4, hsame.5, hsame.6, hsame.7, hsame.8, hsame.9, hsame.10, hsame.11⟩
  have hgid : g.identifier = .ok d.id :=
    (identifier_congr hsame (by rw [hzero, hF.issued])).trans hFid
  refine ⟨de, hde, by rw [hd, Document.element, hE], fun hr hl => ?_⟩
  exact Document.read_readsBack hr hl hde.attrValue_joined (isValidIdentifier_of_identifier hFid) hg
    hgid hsameF

/-- For every document `Document.new` accepts and every signing time, the program computes its
tree exactly when computing its totals does not stop it. The tree it computes, written as XML,
reads back as the document: with the same identifier, the identifier fields of its fields, the
issue date on the same day, and the `DE` subtree that reading the written text gives. So does its
bare `DE` with its own declaration of the namespace, and the tree written with every element in a
prefix `p` bound to the namespace; the tree with any signature that can be written appended after
its `DE` reads back signed. -/
theorem Document.read_written {f : Fields} {d : Document} (hnew : Document.new f = .ok d)
    (hstamp : -9223372036854775808 ≤ f.stampNumber ∧ f.stampNumber ≤ 9223372036854775807)
    (t : Time) (decl : Bool) :
    ((∃ rde, d.elementChecked t = .ok rde) ↔ d.fields.overflow = none) ∧
    ∀ rde, d.elementChecked t = .ok rde →
    ∃ de, rde.selectElement "DE" = some de ∧
      (∃ r, readRoot (serialize rde decl) = .ok (some r) ∧ r.selectElement "DE" = some de.joined) ∧
      (∃ d', Document.read (serialize rde decl) = .ok d' ∧ ReadsBack f d.id de.joined .unsigned d') ∧
      (∃ d', Document.read (serialize (de.setAttr "xmlns" sifenNamespace) decl) = .ok d' ∧
        ReadsBack f d.id de.joined .unsigned d') ∧
      (∀ p, NCName p → p ≠ "xsi" →
        ∃ d', Document.read (serialize (rde.inPrefix sifenNamespace p) decl) = .ok d' ∧
          ReadsBack f d.id de.joined .unsigned d') ∧
      (∀ sig : Element, sig.tag = "Signature" → WritableNode sig.toNode →
        ∃ d', Document.read (serialize { rde with children := rde.children ++ [sig.toNode] } decl) =
            .ok d' ∧ ReadsBack f d.id de.joined .signed d') := by
  refine ⟨(Document.elementChecked_new_ok_iff hnew t).trans Document.totalsChecked_ok_iff,
    fun rde hrde => ?_⟩
  -- the tree the program computes is the one built from the fields
  obtain ⟨rfl, -⟩ := Document.elementChecked_new_eq_ok hnew hrde
  obtain ⟨de, hde, helem, hread⟩ := Document.new_writtenRoot hnew hstamp t
  have hplain := hde.locates_documentRoot [] rfl
  have hroot := readRoot_serialize (hde.documentRoot_writable [] trivial) decl
  refine ⟨de, by rw [helem]; exact hde.selectElement_documentRoot [], ?_, ?_, ?_, ?_, ?_⟩
  · exact ⟨_, helem ▸ hroot, hplain.de⟩
  · -- the tree as written
    obtain ⟨d', hr, hb⟩ := hread hroot hplain
    rw [Element.find_joined, hde.find_signature] at hb
    exact ⟨d', helem ▸ hr, hb⟩
  · -- the bare `DE`
    obtain ⟨d', hr, hb⟩ := hread (readRoot_serialize hde.bare_writable decl) hde.locates_bare
    rw [hde.joined.find_signature] at hb
    exact ⟨d', hr, hb⟩
  · -- the tree in a prefix
    intro p hp hxsi
    obtain ⟨d', hr, hb⟩ :=
      hread (readRoot_serialize (hde.inPrefix_writable hp hxsi) decl) (hde.locates_inPrefix hp hxsi)
    rw [hde.find_signature_reordered] at hb
    exact ⟨d', helem ▸ hr, hb⟩
  · -- the tree with a signature after its `DE`
    intro sig htag hw
    have hsigned : { d.element t with children := (d.element t).children ++ [sig.toNode] } =
        documentRoot de [sig.toNode] := by
      rw [helem]
      rfl
    obtain ⟨r, hl, sp, as, cs, hfound⟩ := hde.locates_signed sig htag
    obtain ⟨d', hr, hb⟩ :=
      hread (readRoot_serialize (hde.documentRoot_writable [sig.toNode] ⟨hw, trivial⟩) decl) hl
    rw [hfound] at hb
    exact ⟨d', hsigned ▸ hr, hb⟩

/-- The one-line sample invoice: the program computes its tree at the zero time, which, written,
reads back unsigned with its identifier. -/
theorem sampleInvoice_reads_back :
    Signing.sampleDocument.fields.overflow = none ∧
    ∃ rde d, Signing.sampleDocument.elementChecked Time.zero = .ok rde ∧
      Document.read (serialize rde true) = .ok d ∧
      d.id = "01800897528001001000000122024011510000001236" ∧ d.state = .unsigned := by
  have hover : Signing.sampleDocument.fields.overflow = none := by decide
  have hread := Document.read_written Signing.new_sampleInvoice ⟨by decide, by decide⟩ Time.zero true
  obtain ⟨rde, hrde⟩ := hread.1.2 hover
  obtain ⟨_, -, -, ⟨d, hr, hb⟩, -⟩ := hread.2 rde hrde
  exact ⟨hover, rde, d, hrde, hr, hb.id, hb.state⟩

end EInvoice.Invoice
