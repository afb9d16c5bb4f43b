import EInvoice.Proofs.DocumentReading
import EInvoice.Proofs.Signing
import Mathlib

/-!
# The trees an assembler signs

A new document's tree is a root `rDE` around a written `DE` (`Document.element_new`). Signing it
appends one element, the signature over the `DE` (`sign_documentRoot`), and an assembler that
makes QR links appends the link after it (`appendQr_documentRoot`). So the tree an assembler
signs is always a `SignedRoot` (`sign_new`): the written `DE`, a signature of the signature's
shape, and possibly the link, all written without prefixes in their own vocabularies, which is
what makes the signed tree one that can be written and read back (`SignedRoot.writable`).

The module ends with what a lot that is assembled holds (`lot_eq_ok_lot`).
-/

namespace EInvoice.Invoice

open EInvoice.Xml EInvoice.Text EInvoice.Clock

theorem WrittenDE.attrValue {id : String} {de : Element} (h : WrittenDE id de) :
    de.attrValue "Id" "" = id := by
  simp [Element.attrValue, Element.selectAttr, h.attrs, splitName_of_colon_free, spaceMatches]

/-- The tree of a new document, at any time, is a root around a written `DE` with the
document's identifier. -/
theorem Document.element_new {f : Fields} {d : Document} (hnew : Document.new f = .ok d) (t : Time) :
    ∃ de, WrittenDE d.id de ∧ d.element t = documentRoot de [] := by
  obtain ⟨hid, hd⟩ := Document.new_eq_ok hnew
  have hFid : f.withDefaults.identifier = .ok d.id := (identifier_withDefaults f).trans hid
  have hchars : ∀ c ∈ d.id.toList, isXmlChar c = true := fun c hc => by
    have := (isDigit_iff c).1 (identifier_digits hFid c hc)
    simp only [isXmlChar, decide_eq_true_eq]
    omega
  obtain ⟨de, hde, hE⟩ := toElement_eq_documentRoot f.withDefaults t hchars
  exact ⟨de, hde, by rw [hd, Document.element, hE]⟩

end EInvoice.Invoice

namespace EInvoice.Security

open EInvoice.Xml EInvoice.Invoice

/-! ## Signatures -/

/-- The names of the elements inside a signature. -/
def signatureNames : List String :=
  ["SignedInfo", "CanonicalizationMethod", "SignatureMethod", "Reference", "Transforms", "Transform",
   "DigestMethod", "DigestValue", "SignatureValue", "KeyInfo", "X509Data", "X509Certificate"]

theorem signatureNames_ncname : ∀ t ∈ signatureNames, NCName t := by decide

/-- The shape of an enveloped signature: an element `Signature` without prefix that declares the
signature namespace, holding a tree written without prefixes in the signature's vocabulary. -/
structure SignatureShape (sig : Element) : Prop where
  space : sig.space = ""
  tag : sig.tag = "Signature"
  attrs : sig.attrs = [⟨"", "xmlns", dsigNamespace⟩]
  children : PlainNodes signatureNames sig.children

theorem dsigNamespace_chars : ∀ c ∈ dsigNamespace.toList, isXmlChar c = true :=
  List.all_eq_true.1 (by rfl)

theorem SignatureShape.writable {sig : Element} (h : SignatureShape sig) : WritableNode sig.toNode := by
  obtain ⟨sp, t, as, cs⟩ := sig
  obtain ⟨hsp, ht, has, hcs⟩ := h
  simp only at hsp ht has hcs
  subst hsp ht has
  exact ⟨(show NCName "Signature" by decide).nameReads,
    by simpa using ⟨(show NCName "xmlns" by decide).nameReads, dsigNamespace_chars⟩, by simp,
    PlainNodes.writable signatureNames_ncname _ hcs⟩

theorem algorithm_plain {alg : String} (h : ∀ c ∈ alg.toList, isXmlChar c = true) :
    PlainAttr ⟨"", "Algorithm", alg⟩ :=
  ⟨rfl, show NCName "Algorithm" by decide, show "Algorithm" ≠ "xmlns" by decide, h⟩

/-- The signature a signer makes over a `DE` has the shape of a signature, whenever the
identifier it points at can be written. -/
theorem signatureOf_shape {s : Signer} {de : Element} {id : String} {sig : Element}
    (hid : ∀ c ∈ id.toList, isXmlChar c = true) (h : s.signatureOf de id = .ok sig) :
    SignatureShape sig := by
  have hc14n := algorithm_plain
    (show ∀ c ∈ algorithmC14n.toList, isXmlChar c = true from List.all_eq_true.1 (by rfl))
  have hrsa := algorithm_plain
    (show ∀ c ∈ algorithmRsaSha256.toList, isXmlChar c = true from List.all_eq_true.1 (by rfl))
  have hsha := algorithm_plain
    (show ∀ c ∈ algorithmSha256.toList, isXmlChar c = true from List.all_eq_true.1 (by rfl))
  have henv := algorithm_plain
    (show ∀ c ∈ algorithmEnveloped.toList, isXmlChar c = true from List.all_eq_true.1 (by rfl))
  have huri : PlainAttr ⟨"", "URI", "#" ++ id⟩ :=
    ⟨rfl, show NCName "URI" by decide, show "URI" ≠ "xmlns" by decide, by simpa [isXmlChar] using hid⟩
  unfold Signer.signatureOf at h
  dsimp only at h
  cases hv : Crypto.signDigest s.n s.d
      (digestElement (signedInfo id (digestElement de sifenNamespace)) dsigNamespace) with
  | error e => simp [hv, Except.mapError, Bind.bind, Except.bind] at h
  | ok value =>
    simp only [hv, Except.mapError, Bind.bind, Except.bind, Pure.pure, Except.pure,
      Except.ok.injEq] at h
    subst h
    refine ⟨rfl, rfl, rfl, ?_⟩
    simp [PlainNode, signedInfo, algorithmElement, textElement, Element.toNode, hc14n, hrsa, hsha,
      henv, huri, signatureNames]

/-- Signing a document's root appends the signature the signer makes over its `DE`, and nothing
else. -/
theorem sign_documentRoot {s : Signer} {id : String} {de rde : Element} (hde : WrittenDE id de)
    (h : s.sign (documentRoot de []) = .ok rde) :
    ∃ sig, s.signatureOf de id = .ok sig ∧ SignatureShape sig ∧ rde = documentRoot de [sig.toNode] := by
  have hfind : (documentRoot de []).find "Signature" = none := hde.find_signature []
  unfold Signer.sign at h
  simp only [hfind, Option.isSome_none, Bool.false_eq_true, if_false, hde.selectElement_documentRoot,
    hde.attrValue, Bind.bind, Except.bind] at h
  cases hc : s.checkCertificate with
  | error e => simp [hc] at h
  | ok u =>
    by_cases hid : id.isEmpty = true
    · simp [hc, hid] at h
    · cases hsig : s.signatureOf de id with
      | error e => simp [hc, hid, hsig] at h
      | ok sig =>
        simp only [hc, hid, hsig, Bool.false_eq_true, if_false, Pure.pure, Except.pure,
          Except.ok.injEq] at h
        exact ⟨sig, rfl, signatureOf_shape hde.chars hsig, h ▸ rfl⟩

end EInvoice.Security

namespace EInvoice.Assembly

open EInvoice.Xml EInvoice.Invoice EInvoice.Security

/-! ## The roots an assembler signs -/

/-- The element holding a document's QR link. -/
def qrNode (link : String) : Node := .elem "" "gCamFuFD" [] [.elem "" "dCarQR" [] [.text link]]

theorem qrNode_plain (link : String) : PlainNode ["gCamFuFD", "dCarQR"] (qrNode link) := by
  simp [qrNode, PlainNode, PlainNodes]

/-- A root an assembler signed: the written `DE` with identifier `id`, the signature `sig` over
it appended, and after the signature the QR link element when links are made. -/
structure SignedRoot (id : String) (de sig rde : Element) : Prop where
  written : WrittenDE id de
  signature : SignatureShape sig
  appended : ∃ extra, rde = documentRoot de (sig.toNode :: extra) ∧
    (extra = [] ∨ ∃ link, extra = [qrNode link])

namespace SignedRoot

variable {id : String} {de sig rde : Element} (h : SignedRoot id de sig rde)
include h

theorem writable : WritableNode rde.toNode := by
  obtain ⟨extra, rfl, hextra⟩ := h.appended
  refine h.written.documentRoot_writable _ ⟨h.signature.writable, ?_⟩
  rcases hextra with rfl | ⟨link, rfl⟩
  · trivial
  · exact ⟨PlainNode.writable (by decide) _ (qrNode_plain link), trivial⟩

theorem selectElement_DE : rde.selectElement "DE" = some de := by
  obtain ⟨extra, rfl, -⟩ := h.appended
  exact h.written.selectElement_documentRoot _

end SignedRoot

/-- A signed root holds no QR link yet, so appending one adds it after the signature. -/
theorem appendQr_documentRoot {q : QrSettings} {id : String} {de sig rde : Element} {link : String}
    (hde : WrittenDE id de) (hsig : SignatureShape sig)
    (h : appendQr q (documentRoot de [sig.toNode]) = .ok (rde, link)) :
    rde = documentRoot de [sig.toNode, qrNode link] := by
  have hnone : (documentRoot de [sig.toNode]).selectElement "gCamFuFD" = none := by
    have hq : ':' ∉ "gCamFuFD".toList := by simp
    obtain ⟨sp, t, as, cs⟩ := de
    obtain ⟨sp', t', as', cs'⟩ := sig
    have ht : t = "DE" := hde.tag
    have ht' : t' = "Signature" := hsig.tag
    subst ht ht'
    simp [documentRoot, Element.selectElement, Element.childElements, leaf, Element.toNode,
      Node.element?, answers_of_colon_free hq]
  unfold appendQr at h
  cases hl : qrLink q (documentRoot de [sig.toNode]) with
  | error e => simp [hl, Bind.bind, Except.bind] at h
  | ok l =>
    simp only [hl, hnone, Option.isSome_none, Bool.false_eq_true, if_false, Bind.bind, Except.bind,
      Pure.pure, Except.pure, Except.ok.injEq, Prod.mk.injEq] at h
    obtain ⟨rfl, rfl⟩ := h
    rfl

/-- The tree the program makes, when it makes one, is the document's tree. -/
theorem Document.elementChecked_eq_ok {d : Document} {t : Clock.Time} {e : Element}
    (h : d.elementChecked t = .ok e) : e = d.element t := by
  unfold Document.elementChecked at h
  split at h
  · cases ht : d.totalsChecked <;> simp [ht, Functor.map, Except.map] at h
    exact h.symm
  · exact (Except.ok.inj h).symm

/-- An assembler's signature of a document: the document is unsigned and its tree is made, the
signer signs that tree, and the QR link is appended when the assembler makes links. -/
theorem Assembler.sign_eq_ok {a : Assembler} {d : Document} {t : Element}
    (h : a.sign (some d) = .ok t) :
    d.state = .unsigned ∧ d.elementChecked a.now = .ok (d.element a.now) ∧
      ∃ s signed, a.signer = some s ∧ s.sign (d.element a.now) = .ok signed ∧
        (a.qr = none ∧ t = signed ∨ ∃ q link, a.qr = some q ∧ appendQr q signed = .ok (t, link)) := by
  unfold Assembler.sign at h
  by_cases hst : d.state = .signed
  · simp [hst, bind, Except.bind] at h
  have hu : d.state = .unsigned := by cases hd : d.state <;> simp_all
  cases he : d.elementChecked a.now with
  | error o => simp [hst, he, Except.mapError, bind, Except.bind] at h
  | ok e =>
  obtain rfl := Document.elementChecked_eq_ok he
  refine ⟨hu, rfl, ?_⟩
  cases hs : a.signer with
  | none => simp [hst, he, hs, Except.mapError, bind, Except.bind] at h
  | some s =>
    cases hsg : s.sign (d.element a.now) with
    | error err => simp [hst, he, hs, hsg, Except.mapError, bind, Except.bind] at h
    | ok signed =>
      refine ⟨s, signed, rfl, hsg, ?_⟩
      cases hq : a.qr with
      | none =>
        simp only [hst, he, hs, hsg, hq, if_false, Except.mapError, bind, Except.bind, pure,
          Except.pure, Except.ok.injEq] at h
        exact .inl ⟨rfl, h.symm⟩
      | some q =>
        cases happ : appendQr q signed with
        | error err => simp [hst, he, hs, hsg, hq, happ, Except.mapError, bind, Except.bind] at h
        | ok p =>
          simp only [hst, he, hs, hsg, hq, happ, if_false, Except.mapError, bind, Except.bind,
            Functor.map, Except.map, Except.ok.injEq] at h
          exact .inr ⟨q, p.2, rfl, by rw [← h, happ]⟩

/-- What signing a new document gives: the root around its written `DE` with the signature the
signer makes over it appended, and after the signature the QR link when the assembler makes
links. -/
theorem sign_new {a : Assembler} {f : Fields} {d : Document} {rde : Element}
    (hnew : Document.new f = .ok d) (h : a.sign (some d) = .ok rde) :
    ∃ s de sig, a.signer = some s ∧ d.element a.now = documentRoot de [] ∧
      s.signatureOf de d.id = .ok sig ∧ SignedRoot d.id de sig rde := by
  obtain ⟨de, hde, helem⟩ := Document.element_new hnew a.now
  obtain ⟨-, -, s, signed, hs, hsg, hqr⟩ := Assembler.sign_eq_ok h
  rw [helem] at hsg
  obtain ⟨sig, hsigOf, hshape, rfl⟩ := sign_documentRoot hde hsg
  refine ⟨s, de, sig, hs, helem, hsigOf, hde, hshape, ?_⟩
  rcases hqr with ⟨-, rfl⟩ | ⟨q, link, -, happ⟩
  · -- no links: the signed root is the answer
    exact ⟨[], rfl, .inl rfl⟩
  · exact ⟨[qrNode link], appendQr_documentRoot hde hshape happ, .inr ⟨link, rfl⟩⟩

/-- A document the assembler signs and seals was signed by `Assembler.sign`, and its text is
that tree written without the declaration. -/
theorem document_signs {a : Assembler} {doc : Option Document} {d' : Document} {sd : SignedDocument}
    (h : a.document doc = .ok (d', sd)) :
    a.sign doc = .ok sd.element ∧ sd.xml = serialize sd.element false := by
  simp only [Assembler.document, Except.bind_eq_ok] at h
  obtain ⟨x, hx, h⟩ := h
  cases doc with
  | none => cases h
  | some d =>
    obtain ⟨d'', -, hpure⟩ := Except.bind_eq_ok.1 h
    obtain ⟨-, rfl⟩ := Prod.mk.inj (Except.ok.inj hpure)
    exact ⟨hx, rfl⟩

/-! ## Lots -/

/-- An assembled lot carries the identifier it was asked for, the identifiers of its documents
in order, and its root around the trees `signAll` signed, written with the declaration. -/
theorem lot_eq_ok_lot {a : Assembler} {id : String} {docs : List (Option Document)}
    {sealed : List Document} {lot : Lot} (h : a.lot id docs = .ok (sealed, lot)) :
    ∃ signed, signAll a 1 (docs.filterMap fun x => x) = .ok signed ∧
      lot = ⟨id, (docs.filterMap fun x => x).map (·.id), lotElement signed,
        serialize (lotElement signed) true⟩ := by
  by_cases he : docs.isEmpty = true
  · simp [Assembler.lot, he, Except.error_bind] at h
  by_cases hl : docs.length > a.maxLot
  · simp [Assembler.lot, he, hl, Except.error_bind] at h
  cases hf : lotFault [] docs with
  | some e => simp [Assembler.lot, he, hl, hf, Except.error_bind] at h
  | none =>
    simp only [Assembler.lot, he, hl, hf, Bool.false_eq_true, ↓reduceIte, Except.bind_eq_ok] at h
    obtain ⟨signed, hsigned, sealed', -, hpure⟩ := h
    obtain ⟨-, rfl⟩ := Prod.mk.inj (Except.ok.inj hpure)
    exact ⟨signed, hsigned, rfl⟩

end EInvoice.Assembly
