import EInvoice.Proofs.SignedTrees
import EInvoice.Proofs.Signing
import Mathlib

/-!
# Assembling lots

An assembler makes a lot from a list of documents in a fixed order of checks: the list must not
be empty, must be within the assembler's limit, and must have no missing, signed or repeated
document (`lotFault`); then every document is signed, the lot written around the signed trees, and
each document sealed with its own tree. So a lot is assembled exactly when the list passes the
checks and every document signs (`lot_eq_ok_iff`).

A lot that was assembled lists the identifiers of its documents in order, and its text is the
declaration followed by its `rLoteDE` root. Reading that text gives back one tree per document, in
order (`readLot_lot`). Each tree carries its document's identifier and verifies with the signer's
certificate. Written out, each is the same text as the tree its document was sealed with. This
holds for documents whose trees are `rDE` roots with a `DE` of their own identifier and can be
written (`Document.TreeReads`), as every document built from fields is (`Document.treeReads_new`).

Main statement: `lot_assembly`.
-/

namespace EInvoice.Invoice

open EInvoice.Xml EInvoice.Clock

/-! ## Documents whose lot reads back -/

/-- A document whose tree at a time is an `rDE` root that writing keeps, holding a `DE` with the
document's identifier. -/
structure Document.TreeReads (now : Time) (d : Document) : Prop where
  tag : (d.element now).tag = "rDE"
  de : ∃ de, (d.element now).selectElement "DE" = some de ∧ de.attrValue "Id" "" = d.id
  writable : WritableNode (d.element now).toNode

/-- Every document built from fields has such a tree, at every time. -/
theorem Document.treeReads_new {f : Fields} {d : Document} (hnew : Document.new f = .ok d)
    (now : Time) : d.TreeReads now := by
  obtain ⟨de, hde, helem⟩ := Document.element_new hnew now
  refine ⟨?_, ⟨de, ?_, hde.attrValue⟩, ?_⟩ <;> rw [helem]
  · rfl
  · exact hde.selectElement_documentRoot []
  · exact hde.documentRoot_writable [] trivial

end EInvoice.Invoice

namespace EInvoice.Assembly

open EInvoice.Xml EInvoice.Invoice EInvoice.Security EInvoice.Signing EInvoice.Pki EInvoice.Crypto
open EInvoice.Clock

/-! ## The checks of a lot -/

/-- A list of unsigned documents with identifiers that differ from each other and from those seen
before passes the checks of a lot. -/
theorem lotFault_eq_none_of : ∀ {seen : List String} {docs : List (Option Document)},
    (∀ x ∈ docs, ∃ d, x = some d ∧ d.state = .unsigned) →
    ((docs.filterMap fun x => x).map (·.id)).Nodup →
    (∀ d ∈ docs.filterMap (fun x => x), d.id ∉ seen) → lotFault seen docs = none
  | _, [], _, _, _ => rfl
  | seen, x :: rest, hall, hnd, hseen => by
    obtain ⟨d, rfl, hu⟩ := hall x List.mem_cons_self
    simp only [List.filterMap_cons, List.map_cons, List.nodup_cons, List.mem_map] at hnd
    have hnot : seen.contains d.id = false := by simpa using hseen d (by simp)
    simp only [lotFault, hu, reduceCtorEq, if_false, hnot, Bool.false_eq_true]
    refine lotFault_eq_none_of (fun y hy => hall y (List.mem_cons_of_mem _ hy)) hnd.2 ?_
    intro e he hmem
    rcases List.mem_cons.1 hmem with hid | hmem
    · exact hnd.1 ⟨e, he, hid⟩
    · exact hseen e (by simp [he]) hmem

/-- An assembled lot came from a list that is not empty and within the assembler's limit. -/
theorem lot_eq_ok_bounds {a : Assembler} {id : String} {docs : List (Option Document)}
    {r : List Document × Lot} (h : a.lot id docs = .ok r) : docs ≠ [] ∧ docs.length ≤ a.maxLot := by
  have hne : docs ≠ [] := by
    rintro rfl
    simp [Assembler.lot, Except.error_bind] at h
  refine ⟨hne, Nat.le_of_not_lt fun hl => ?_⟩
  simp [Assembler.lot, List.isEmpty_eq_false_iff.2 hne, hl, Except.error_bind] at h

/-! ## Signing and sealing every document -/

/-- Signing the documents of a lot signs each of them as the assembler signs it alone. -/
theorem signAll_eq_ok_iff {a : Assembler} : ∀ {i : Nat} {ds : List Document} {signed : List Element},
    signAll a i ds = .ok signed ↔ List.Forall₂ (fun d t => a.sign (some d) = .ok t) ds signed
  | _, [], signed => by
    cases signed <;> simp [signAll, pure, Except.pure]
  | i, d :: ds, signed => by
    cases hd : a.sign (some d) with
    | error err =>
      cases signed <;> simp [signAll, hd, Except.mapError, bind, Except.bind]
    | ok t =>
      cases signed with
      | nil =>
        cases hrest : signAll a (i + 1) ds <;>
          simp [signAll, hd, hrest, Except.mapError, bind, Except.bind, pure, Except.pure]
      | cons t' rest =>
        have ih := @signAll_eq_ok_iff a (i + 1) ds rest
        cases hrest : signAll a (i + 1) ds with
        | error err =>
          simp only [hrest, reduceCtorEq, false_iff] at ih
          simp [signAll, hd, hrest, Except.mapError, bind, Except.bind, ih]
        | ok more =>
          simp only [hrest, Except.ok.injEq] at ih
          simp only [signAll, hd, hrest, Except.mapError, bind, Except.bind, pure, Except.pure,
            Except.ok.injEq, List.cons.injEq, List.forall₂_cons, ← ih]

/-- Signing the documents of a lot succeeds only when every one of them signs. -/
theorem signs_of_signAll {a : Assembler} {i : Nat} {ds : List Document} {signed : List Element}
    (h : signAll a i ds = .ok signed) : ∀ d ∈ ds, ∃ t, a.sign (some d) = .ok t := by
  have hall := signAll_eq_ok_iff.1 h
  clear h
  induction hall with
  | nil => simp
  | cons hr _ ih =>
    intro d hd
    rcases List.mem_cons.1 hd with rfl | hd
    · exact ⟨_, hr⟩
    · exact ih d hd

theorem signAll_eq_ok_of {a : Assembler} {ds : List Document} (i : Nat)
    (h : ∀ d ∈ ds, ∃ t, a.sign (some d) = .ok t) : ∃ signed, signAll a i ds = .ok signed := by
  induction ds generalizing i with
  | nil => exact ⟨[], rfl⟩
  | cons d ds ih =>
    obtain ⟨t, ht⟩ := h d List.mem_cons_self
    obtain ⟨more, hmore⟩ := ih (i + 1) fun e he => h e (List.mem_cons_of_mem _ he)
    exact ⟨t :: more, signAll_eq_ok_iff.2 (.cons ht (signAll_eq_ok_iff.1 hmore))⟩

/-- A checked map over a list succeeds with the values its steps give. -/
theorem mapM_eq_ok_of {ε α β : Type} {f : α → Except ε β} {g : α → β} :
    ∀ {xs : List α}, (∀ x ∈ xs, f x = .ok (g x)) → xs.mapM f = .ok (xs.map g)
  | [], _ => rfl
  | x :: xs, h => by
    rw [List.mapM_cons, h x List.mem_cons_self,
      mapM_eq_ok_of fun y hy => h y (List.mem_cons_of_mem _ hy)]
    rfl

/-- A lot is assembled exactly when its list is not empty, within the assembler's limit, has no
missing, signed or repeated document, and every document signs. -/
theorem lot_eq_ok_iff {a : Assembler} {id : String} {docs : List (Option Document)} :
    (∃ r, a.lot id docs = .ok r) ↔
      docs ≠ [] ∧ docs.length ≤ a.maxLot ∧ (∀ x ∈ docs, ∃ d, x = some d ∧ d.state = .unsigned) ∧
      ((docs.filterMap fun x => x).map (·.id)).Nodup ∧
      ∀ d ∈ docs.filterMap (fun x => x), ∃ t, a.sign (some d) = .ok t := by
  constructor
  · rintro ⟨⟨sealed, lot⟩, h⟩
    obtain ⟨hne, hlen⟩ := lot_eq_ok_bounds h
    obtain ⟨hall, hnd, -⟩ := lotFault_eq_none (lot_eq_ok h).1
    obtain ⟨signed, hsigned, -⟩ := lot_eq_ok_lot h
    exact ⟨hne, hlen, hall, hnd, signs_of_signAll hsigned⟩
  · rintro ⟨hne, hlen, hall, hnd, hsign⟩
    have hf : lotFault [] docs = none := lotFault_eq_none_of hall hnd (by simp)
    obtain ⟨signed, hsigned⟩ := signAll_eq_ok_of 1 hsign
    have hlong : ¬docs.length > a.maxLot := by omega
    -- every document is unsigned, so each is sealed with its own tree
    have hseal : ∀ p ∈ (docs.filterMap fun x => x).zip signed,
        (sealChecked p.1 p.2).mapError AssemblyError.signing = .ok (sealedAs p.1 p.2) := by
      rintro ⟨d, rde⟩ hp
      obtain ⟨x, hx, hu⟩ := hall (some d) (by simpa using (List.of_mem_zip hp).1)
      cases hx
      simp [sealChecked_eq_ok.2 ⟨hu, rfl⟩, Except.mapError]
    refine ⟨(((docs.filterMap fun x => x).zip signed).map fun p => sealedAs p.1 p.2,
      ⟨id, (docs.filterMap fun x => x).map (·.id), lotElement signed,
        serialize (lotElement signed) true⟩), ?_⟩
    simp only [Assembler.lot, List.isEmpty_eq_false_iff.2 hne, hlong, hf, hsigned,
      Bool.false_eq_true, ↓reduceIte]
    rw [Except.bind_eq_ok]
    exact ⟨signed, rfl, by rw [mapM_eq_ok_of hseal]; rfl⟩

/-! ## What an assembler signs -/

/-- What an assembler's signature of a document leaves: a tree its signer leaves, with the root's
tag and `DE`. -/
theorem Assembler.sign_signedTree {a : Assembler} {s : Signer} {d : Document} {t : Element}
    (hs : a.signer = some s) (hw : WritableNode (d.element a.now).toNode)
    (h : a.sign (some d) = .ok t) :
    SignedTree s t ∧ t.tag = (d.element a.now).tag ∧
      t.selectElement "DE" = (d.element a.now).selectElement "DE" := by
  obtain ⟨-, -, s', signed, hs', hsg, hqr⟩ := Assembler.sign_eq_ok h
  cases hs.symm.trans hs'
  obtain ⟨de, sig, -, hde, -, hsigned⟩ := sign_appends hsg
  have hsde : signed.selectElement "DE" = some de := hsigned ▸ selectElement_addChild_of_some hde _
  rcases hqr with ⟨-, rfl⟩ | ⟨q, link, -, happ⟩
  · exact ⟨.signed hw hsg, by rw [hsigned]; rfl, by rw [hsde, hde]⟩
  · have htag : t.tag = signed.tag := by
      rw [appendQr_eq_ok happ]
      split <;> rfl
    refine ⟨.withQr (.signed hw hsg) happ, by rw [htag, hsigned]; rfl, ?_⟩
    rw [selectElement_appendQr (by decide) (by decide) happ hsde, hde]

/-- Writing joined character data gives the same text. -/
theorem serialize_joined (e : Element) (decl : Bool) : serialize e.joined decl = serialize e decl := by
  have h := renderNode_elem_congr e.space e.tag e.attrs (renderNodes_joinTexts e.children)
  simp only [serialize, Element.render, Element.joined_toNode]
  rw [h]
  rfl

/-! ## What reading an assembled lot gives back -/

/-- An assembled lot holds the trees `signAll` signed, and each document is sealed with its own
tree, in order. -/
theorem lot_eq_ok_sealed {a : Assembler} {id : String} {docs : List (Option Document)}
    {sealed : List Document} {lot : Lot} (h : a.lot id docs = .ok (sealed, lot)) :
    ∃ signed, signAll a 1 (docs.filterMap fun x => x) = .ok signed ∧
      sealed = ((docs.filterMap fun x => x).zip signed).map (fun p => sealedAs p.1 p.2) ∧
      lot = ⟨id, (docs.filterMap fun x => x).map (·.id), lotElement signed,
        serialize (lotElement signed) true⟩ := by
  obtain ⟨signed, hsigned, hlot⟩ := lot_eq_ok_lot h
  refine ⟨signed, hsigned, ?_, hlot⟩
  have hf : lotFault [] docs = none := (lot_eq_ok h).1
  obtain ⟨hne, hlen⟩ := lot_eq_ok_bounds h
  have hlong : ¬docs.length > a.maxLot := by omega
  simp only [Assembler.lot, List.isEmpty_eq_false_iff.2 hne, hlong, hf, hsigned, Bool.false_eq_true, ↓reduceIte,
    Except.bind_eq_ok] at h
  obtain ⟨signed', hsigned', sealed', hmap, hpure⟩ := h
  cases Except.ok.inj hsigned'
  obtain ⟨rfl, -⟩ := Prod.mk.inj (Except.ok.inj hpure)
  -- each pair of a document and its tree was sealed by `sealChecked`
  have hpairs := Except.mapM_eq_ok hmap
  symm
  rw [← List.forall₂_eq_eq_eq, List.forall₂_map_left_iff]
  refine hpairs.imp fun p d' hp => ?_
  exact ((sealChecked_eq_ok.1 (Except.mapError_eq_ok.1 hp)).2).symm

/-- A lot text that does not read gives back no documents. -/
theorem readLot_eq_malformed {text : String} {err : ReadError} (h : readRoot text = .error err) :
    readLot text = .error (.malformed err) := by
  simp [readLot, h, Except.mapError, bind, Except.bind]

section Reading

variable {a : Assembler} {s : Signer} (hsigner : a.signer = some s)
  (hcert : readCertificate s.certificate.raw = .ok s.certificate)
  (hrsa : s.certificate.rsaKey = some (s.n, s.e)) (hkey : KeyInverts s.n s.e s.d)
include hsigner hcert hrsa hkey

/-- A document's tree in a lot, read back, carries the document's identifier, verifies with the
signer's certificate, and is written as the tree the document is sealed with. -/
theorem lotTree_reads {d : Document} {t : Element} (hd : d.TreeReads a.now)
    (h : a.sign (some d) = .ok t) :
    t.tag = "rDE" ∧ WritableNode t.toNode ∧ documentId t.joined = (sealedAs d t).id ∧
      verify t.joined = .ok s.certificate ∧
      ∃ x, (sealedAs d t).signed = some x ∧ serialize t.joined false = serialize x false := by
  obtain ⟨htree, htag, hde⟩ := Assembler.sign_signedTree hsigner hd.writable h
  obtain ⟨de, hdeOf, hid⟩ := hd.de
  refine ⟨htag.trans hd.tag, htree.writable, ?_, ?_, t, rfl, serialize_joined t false⟩
  · rw [documentId, Element.selectElement_joined, hde, hdeOf]
    exact hid
  · exact verify_of_carries (htree.carries hkey).joined hcert hrsa

/-- Reading an assembled lot gives back, in order, one tree per document: each carries its
document's identifier, verifies with the signer's certificate, and is written as the tree its
document was sealed with. -/
theorem readLot_lot {id : String} {docs : List (Option Document)} {sealed : List Document}
    {lot : Lot} (h : a.lot id docs = .ok (sealed, lot))
    (hdocs : ∀ d ∈ docs.filterMap (fun x => x), d.TreeReads a.now) :
    ∃ rs, readLot lot.text = .ok rs ∧ rs.length = docs.length ∧
      List.Forall₂ (fun r d => documentId r = d.id ∧ verify r = .ok s.certificate ∧
        ∃ x, d.signed = some x ∧ serialize r false = serialize x false) rs sealed := by
  obtain ⟨signed, hsigned, rfl, rfl⟩ := lot_eq_ok_sealed h
  have hall := (lotFault_eq_none (lot_eq_ok h).1).1
  -- each document's tree, read back, is as the document needs
  have htrees := ((List.forall₂_and_left _ _).2 ⟨hdocs, signAll_eq_ok_iff.1 hsigned⟩).imp
    fun d t ⟨hd, ht⟩ => lotTree_reads hsigner hcert hrsa hkey hd ht
  have hwritten : ∀ t ∈ signed, t.tag = "rDE" ∧ WritableNode t.toNode := by
    clear hsigned hdocs h
    generalize docs.filterMap (fun x => x) = ds at htrees
    induction htrees with
    | nil => simp
    | cons hr _ ih =>
      intro t ht
      rcases List.mem_cons.1 ht with rfl | ht
      · exact ⟨hr.1, hr.2.1⟩
      · exact ih t ht
  have hrde : signed.filter (Element.answers "rDE") = signed :=
    List.filter_eq_self.2 fun t ht => by
      simp [answers_of_colon_free (show ':' ∉ "rDE".toList by decide), (hwritten t ht).1]
  -- every entry is a document, so the lot holds one tree per entry
  have hlen : signed.length = docs.length := by
    rw [← htrees.length_eq, List.filterMap_length_eq_length.2]
    intro x hx
    obtain ⟨d, rfl, -⟩ := hall x hx
    rfl
  have hne : signed ≠ [] :=
    List.ne_nil_of_length_pos (hlen ▸ List.length_pos_of_ne_nil (lot_eq_ok_bounds h).1)
  refine ⟨signed.map Element.joined, ?_, by rw [List.length_map, hlen], ?_⟩
  · rw [readLot_lotElement fun t ht => (hwritten t ht).2, hrde, if_neg hne]
  · clear hsigned hdocs hwritten hrde hlen hne h
    generalize docs.filterMap (fun x => x) = ds at htrees ⊢
    induction htrees with
    | nil => exact .nil
    | cons hr _ ih => exact .cons hr.2.2 ih

end Reading

/-! ## Assembling lots -/

/-- Assembling a lot. A lot is assembled exactly when its list is not empty and within the
assembler's limit, has no missing, signed or repeated document, and every document signs. An
assembled lot lists its documents' identifiers in order, each document is sealed, and its text
is the declaration followed by its `rLoteDE` root. When the documents' trees can be written as
documents, reading that text gives back one tree per entry, in order. Each tree carries its
document's identifier, verifies with the signer's certificate, and is written as the tree its
document was sealed with. -/
theorem lot_assembly {cred : Credential} {v : Validator} {s : Signer} {a : Assembler}
    (hs : newSigner cred v = .ok s) (hcert : readCertificate s.certificate.raw = .ok s.certificate)
    (hkey : KeyInverts s.n s.e s.d) (hsigner : a.signer = some s) (id : String)
    (docs : List (Option Document)) :
    ((∃ r, a.lot id docs = .ok r) ↔
      docs ≠ [] ∧ docs.length ≤ a.maxLot ∧ (∀ x ∈ docs, ∃ d, x = some d ∧ d.state = .unsigned) ∧
      ((docs.filterMap fun x => x).map (·.id)).Nodup ∧
      ∀ d ∈ docs.filterMap (fun x => x), ∃ t, a.sign (some d) = .ok t) ∧
    ∀ sealed lot, a.lot id docs = .ok (sealed, lot) →
      lot.documents = (docs.filterMap fun x => x).map (·.id) ∧ sealed.map (·.id) = lot.documents ∧
      lot.text = declaration ++ lot.element.render ∧ lot.element.tag = "rLoteDE" ∧
      ((∀ d ∈ docs.filterMap (fun x => x), d.TreeReads a.now) →
        ∃ rs, readLot lot.text = .ok rs ∧ rs.length = docs.length ∧
          List.Forall₂ (fun r d => documentId r = d.id ∧ verify r = .ok s.certificate ∧
            ∃ x, d.signed = some x ∧ serialize r false = serialize x false) rs sealed) := by
  refine ⟨lot_eq_ok_iff, fun sealed lot h => ?_⟩
  obtain ⟨signed, hsigned, hsealed, hlot⟩ := lot_eq_ok_sealed h
  have hrsa := (newSigner_eq_ok hs).2.1
  refine ⟨by rw [hlot], ?_, by rw [hlot]; rfl, by rw [hlot]; rfl,
    readLot_lot hsigner hcert hrsa hkey h⟩
  -- sealing keeps identifiers, and there is one signed tree per document
  have hfst : ((docs.filterMap fun x => x).zip signed).map Prod.fst = docs.filterMap fun x => x :=
    List.map_fst_zip (by rw [signAll_length hsigned])
  calc sealed.map (·.id)
      = (((docs.filterMap fun x => x).zip signed).map Prod.fst).map (·.id) := by
        rw [hsealed, List.map_map, List.map_map]
        rfl
    _ = lot.documents := by rw [hfst, hlot]

/-- The sample signer assembles lots. -/
theorem sampleSigner_lot_assembly : ∃ s, newSigner sampleCredential sampleValidator = .ok s ∧
    readCertificate s.certificate.raw = .ok s.certificate ∧ KeyInverts s.n s.e s.d ∧
    ({ signer := some s, now := sampleNow } : Assembler).signer = some s ∧
    let a : Assembler := { signer := some s, now := sampleNow }
    let id := ""
    let docs : List (Option Document) := []
    ((∃ r, a.lot id docs = .ok r) ↔
      docs ≠ [] ∧ docs.length ≤ a.maxLot ∧ (∀ x ∈ docs, ∃ d, x = some d ∧ d.state = .unsigned) ∧
      ((docs.filterMap fun x => x).map (·.id)).Nodup ∧
      ∀ d ∈ docs.filterMap (fun x => x), ∃ t, a.sign (some d) = .ok t) ∧
    ∀ sealed lot, a.lot id docs = .ok (sealed, lot) →
      lot.documents = (docs.filterMap fun x => x).map (·.id) ∧ sealed.map (·.id) = lot.documents ∧
      lot.text = declaration ++ lot.element.render ∧ lot.element.tag = "rLoteDE" ∧
      ((∀ d ∈ docs.filterMap (fun x => x), d.TreeReads a.now) →
        ∃ rs, readLot lot.text = .ok rs ∧ rs.length = docs.length ∧
          List.Forall₂ (fun r d => documentId r = d.id ∧ verify r = .ok s.certificate ∧
            ∃ x, d.signed = some x ∧ serialize r false = serialize x false) rs sealed) := by
  obtain ⟨s, hs, hcert, hkey⟩ := sampleSigner_eq_ok
  exact ⟨s, hs, hcert, hkey, rfl, lot_assembly hs hcert hkey rfl "" []⟩

end EInvoice.Assembly
