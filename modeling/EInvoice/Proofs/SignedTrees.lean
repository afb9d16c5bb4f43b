import EInvoice.Proofs.Verify
import Mathlib

/-!
# Signed trees verify wherever they go

The trees a signer leaves (`SignedTree`) are what it signed from a root that writing keeps, and
such a tree with its QR link replaced or appended. Each of them carries the signer's signature
(`SignedTree.carries`) and can still be written (`SignedTree.writable`). So each verifies with the
signer's certificate as it is, after it is written out and read back, and inside a lot that is
written out and read back (`signed_trees_verify`).

A tree can be written when its names and attributes read back (`WritableNode`). Signing keeps that,
because a signature is written in the signature's own vocabulary and points at an identifier that
was already written in the tree. Appending a QR link keeps it too. A lot is written around its
trees with a root of its own, which also reads back.
-/

namespace EInvoice.Security

open EInvoice.Xml EInvoice.Text EInvoice.Pki EInvoice.Crypto EInvoice.Invoice EInvoice.Assembly

/-! ## Trees that writing keeps -/

theorem writableNodes_iff {ns : List Node} : WritableNodes ns ↔ ∀ n ∈ ns, WritableNode n := by
  induction ns with
  | nil => simp [WritableNodes]
  | cons n ns ih => simp [WritableNodes, ih]

section Writable

variable {e : Element}

theorem writable_children (h : WritableNode e.toNode) : ∀ n ∈ e.children, WritableNode n :=
  writableNodes_iff.1 h.2.2.2

theorem writable_attrs (h : WritableNode e.toNode) : ∀ a ∈ e.attrs, AttrWritable a := h.2.1

/-- Changing the children of a tree that writing keeps, to children it keeps, gives a tree it
keeps. -/
theorem writable_withChildren (h : WritableNode e.toNode) {cs : List Node}
    (hcs : ∀ n ∈ cs, WritableNode n) : WritableNode { e with children := cs }.toNode :=
  ⟨h.1, h.2.1, h.2.2.1, writableNodes_iff.2 hcs⟩

theorem writable_addChild (h : WritableNode e.toNode) {x : Node} (hx : WritableNode x) :
    WritableNode (e.addChild x).toNode := by
  refine writable_withChildren h fun n hn => ?_
  rcases List.mem_append.1 hn with hn | hn
  · exact writable_children h n hn
  · rw [List.mem_singleton.1 hn]
    exact hx

theorem writable_removeFirstChild (h : WritableNode e.toNode) (tag : String) :
    WritableNode (removeFirstChild e tag).toNode :=
  writable_withChildren h fun n hn => writable_children h n (List.mem_of_mem_eraseP hn)

theorem selectElement_mem {name : String} {c : Element} (h : e.selectElement name = some c) :
    c.toNode ∈ e.children := by
  obtain ⟨n, hn, hc⟩ := List.mem_filterMap.1 (List.mem_of_find?_eq_some h)
  cases n with
  | elem sp t as cs =>
    cases hc
    exact hn
  | _ => cases hc

/-- Every attribute value of a tree that writing keeps holds only characters XML allows, and so
does the empty default. -/
theorem attrValue_chars (h : ∀ a ∈ e.attrs, AttrWritable a) (key : String) :
    ∀ c ∈ (e.attrValue key "").toList, isXmlChar c = true := by
  unfold Element.attrValue
  split
  · next a ha => exact (h a (List.mem_of_find?_eq_some ha)).2
  · simp

end Writable

/-- Appending a QR link keeps a tree that writing keeps: the link is character data. -/
theorem appendQr_writable {q : QrSettings} {r r' : Element} {link : String}
    (h : WritableNode r.toNode) (hq : appendQr q r = .ok (r', link)) : WritableNode r'.toNode := by
  have hlink : WritableNode (qrNode link) := PlainNode.writable (by decide) _ (qrNode_plain link)
  rw [appendQr_eq_ok hq]
  split
  · exact writable_addChild (writable_removeFirstChild h _) hlink
  · exact writable_addChild h hlink

/-- Signing keeps a tree that writing keeps: the identifier the signature points at was written
in the tree already. -/
theorem sign_writable {s : Signer} {rde signed : Element} (h : WritableNode rde.toNode)
    (hs : s.sign rde = .ok signed) : WritableNode signed.toNode := by
  obtain ⟨de, sig, -, hde, hsig, rfl⟩ := sign_appends hs
  have hdew : WritableNode de.toNode := writable_children h _ (selectElement_mem hde)
  have hshape := signatureOf_shape (attrValue_chars (writable_attrs hdew) "Id") hsig
  exact writable_addChild h hshape.writable

/-! ## The trees a signer leaves -/

/-- The trees a signer's signatures leave: what it signed from a root that writing keeps, and
such a tree with its QR link replaced or appended. -/
inductive SignedTree (s : Signer) : Element → Prop
  | signed {rde t : Element} : WritableNode rde.toNode → s.sign rde = .ok t → SignedTree s t
  | withQr {t t' : Element} {q : QrSettings} {link : String} :
      SignedTree s t → appendQr q t = .ok (t', link) → SignedTree s t'

namespace SignedTree

variable {s : Signer} {t : Element}

theorem writable (h : SignedTree s t) : WritableNode t.toNode := by
  induction h with
  | signed hw hs => exact sign_writable hw hs
  | withQr _ hq ih => exact appendQr_writable ih hq

theorem carries (hkey : KeyInverts s.n s.e s.d) (h : SignedTree s t) :
    Carries s.n s.e s.certificate.raw t := by
  induction h with
  | signed _ hs => exact sign_carries hkey hs
  | withQr _ hq ih => exact ih.appendQr hq

end SignedTree

/-! ## Lots written and read back -/

theorem lotAttrs_writable :
    ∀ a ∈ (lotElement []).attrs, AttrWritable a := by
  have hxmlns : NCName "xmlns" := by decide
  have hxsi : NCName "xsi" := by decide
  have hloc : NCName "schemaLocation" := by decide
  simp only [lotElement, List.mem_cons, List.not_mem_nil, or_false]
  rintro a (rfl | rfl | rfl)
  · exact ⟨hxmlns.nameReads, sifenNamespace_chars⟩
  · exact ⟨hxmlns.nameReads_prefixed hxsi, List.all_eq_true.1 (by rfl)⟩
  · exact ⟨hxsi.nameReads_prefixed hloc, List.all_eq_true.1 (by rfl)⟩

theorem lotAttrs_nodup : ((lotElement []).attrs.map fun a => (a.space, a.key)).Nodup := by decide

theorem formatVersion_writable : WritableNode (leaf "dVerFor" formatVersion) :=
  PlainNode.writable (show ∀ t ∈ ["dVerFor"], NCName t by decide) _
    ((plainNode_leaf _ _).2 (by simp))

/-- A lot around trees that writing keeps can be written. -/
theorem lotElement_writable {ts : List Element} (h : ∀ t ∈ ts, WritableNode t.toNode) :
    WritableNode (lotElement ts).toNode := by
  refine ⟨(show NCName "rLoteDE" by decide).nameReads, lotAttrs_writable, lotAttrs_nodup, ?_⟩
  refine writableNodes_iff.2 fun n hn => ?_
  rcases List.mem_cons.1 hn with rfl | hn
  · exact formatVersion_writable
  · obtain ⟨t, ht, rfl⟩ := List.mem_map.1 hn
    exact h t ht

@[simp] theorem element?_toNode (x : Element) : x.toNode.element? = some x := rfl

theorem lotElement_selectElements (ts : List Element) :
    (lotElement ts).selectElements "rDE" = ts.filter (Element.answers "rDE") := by
  have hq : ':' ∉ "rDE".toList := by decide
  have hcomp : (Node.element? ∘ Element.toNode) = some := funext element?_toNode
  unfold Element.selectElements Element.childElements lotElement
  rw [List.filterMap_cons, List.filterMap_map, hcomp, List.filterMap_some]
  simp [leaf, formatVersion, answers_of_colon_free hq]

/-- Reading a written lot gives back its trees that are documents, in order, each as reading
gives it back; a lot without documents is refused. -/
theorem readLot_lotElement {ts : List Element} (h : ∀ t ∈ ts, WritableNode t.toNode) :
    readLot (serialize (lotElement ts) true) =
      if ts.filter (Element.answers "rDE") = [] then .error .empty
      else .ok ((ts.filter (Element.answers "rDE")).map Element.joined) := by
  unfold readLot
  rw [readRoot_serialize (lotElement_writable h)]
  simp only [Except.mapError, Bind.bind, Except.bind, Element.joined_tag]
  rw [Element.selectElements_joined, lotElement_selectElements]
  cases hf : ts.filter (Element.answers "rDE") with
  | nil => rfl
  | cons t rest => rfl

/-! ## Signing and verifying agree -/

section Sample

open EInvoice.Asn1 EInvoice.Clock

/-- Distinct primes whose product has 2048 bits. -/
def samplePrimes : List Nat := [
  29, 4099, 4111, 4127, 4129, 4133, 4139, 4153, 4157, 4159, 4177, 4201, 4211, 4217,
  4219, 4229, 4231, 4241, 4243, 4253, 4259, 4261, 4271, 4273, 4283, 4289, 4297, 4327,
  4337, 4339, 4349, 4357, 4363, 4373, 4391, 4397, 4409, 4421, 4423, 4441, 4447, 4451,
  4457, 4463, 4481, 4483, 4493, 4507, 4513, 4517, 4519, 4523, 4547, 4549, 4561, 4567,
  4583, 4591, 4597, 4603, 4621, 4637, 4639, 4643, 4649, 4651, 4657, 4663, 4673, 4679,
  4691, 4703, 4721, 4723, 4729, 4733, 4751, 4759, 4783, 4787, 4789, 4793, 4799, 4801,
  4813, 4817, 4831, 4861, 4871, 4877, 4889, 4903, 4909, 4919, 4931, 4933, 4937, 4943,
  4951, 4957, 4967, 4969, 4973, 4987, 4993, 4999, 5003, 5009, 5011, 5021, 5023, 5039,
  5051, 5059, 5077, 5081, 5087, 5099, 5101, 5107, 5113, 5119, 5147, 5153, 5167, 5171,
  5179, 5189, 5197, 5209, 5227, 5231, 5233, 5237, 5261, 5273, 5279, 5281, 5297, 5303,
  5309, 5323, 5333, 5347, 5351, 5381, 5387, 5393, 5399, 5407, 5413, 5417, 5419, 5431,
  5437, 5441, 5443, 5449, 5471, 5477, 5479, 5483, 5501, 5503, 5507, 5519, 5521, 5527]

def sampleModulus : Nat := samplePrimes.prod

/-- The inverse of 65537 modulo the product of the primes less one. -/
def samplePrivateExponent : Nat :=
  13975284567786688827469079294269123828236229936077722485408178998701104991701342706579698383964780052838034129992258295072434671245509263497603914091988736495702974696658991034237807617589367742182831294911090239413521534126126025207916821936377864407526323236675290191493341336721899666286527424830854597080832886852408964691071934169590342692748515445991189260913675846545258483699105550323802736034620140679667125355863505809124595181572717190931474455645766792090421926813487341975544765386778802797590864510936172729179241666640864975114017590240652266267285414907609441994598471092665212017638891008132810473473

def sha256WithRsaId : Bytes := encodeSequence [encodeOid [1, 2, 840, 113549, 1, 1, 11], nullBytes]

/-- The content of a `UTCTime`: its digits and the zone `Z`. -/
def utcDigits (ds : List Nat) : Bytes := ds.map (fun d => (48 + d).toUInt8) ++ [90]

def sampleCertificateDer : Bytes :=
  let key := encodeSequence [encodeElement Tag.integer (0 :: bigEndian 256 sampleModulus),
    encodeElement Tag.integer [1, 0, 1]]
  let tbs := encodeSequence [encodeElement Tag.integer [1], sha256WithRsaId, encodeSequence [],
    encodeSequence [encodeElement Tag.utcTime (utcDigits [2, 5, 0, 1, 0, 1, 0, 0, 0, 0, 0, 0]),
      encodeElement Tag.utcTime (utcDigits [4, 9, 1, 2, 3, 1, 2, 3, 5, 9, 5, 9])],
    encodeSequence [], encodeSequence [encodeSequence [encodeOid oidRsa, nullBytes],
      encodeElement Tag.bitString (0 :: key)]]
  encodeSequence [tbs, sha256WithRsaId, encodeElement Tag.bitString [0]]

/-- 2030-01-01T00:00:00Z. -/
def sampleNow : Time := ⟨64029052800, 0, 0⟩

def sampleCredential : Credential :=
  ⟨some (.rsa sampleModulus 65537 samplePrivateExponent),
    (readCertificate sampleCertificateDer).toOption, []⟩

def sampleValidator : Validator := .validity sampleNow

theorem sampleCertificate_read :
    ((readCertificate sampleCertificateDer).toOption.map fun c =>
      (c.raw == sampleCertificateDer, c.rsaKey == some (sampleModulus, 65537),
        Time.lt sampleNow c.notBefore, Time.lt c.notAfter sampleNow)) =
      some (true, true, false, false) := by
  decide +kernel

set_option maxRecDepth 8000 in
theorem samplePrimes_prime : ∀ p ∈ samplePrimes, p.Prime := by
  simp only [samplePrimes, List.mem_cons, List.not_mem_nil, or_false, forall_eq_or_imp]
  norm_num

theorem sampleKey_inverts : KeyInverts sampleModulus 65537 samplePrivateExponent := by
  have hnd : samplePrimes.Nodup := by decide +kernel
  have hed : 65537 * samplePrivateExponent % (samplePrimes.map (· - 1)).prod = 1 := by
    decide +kernel
  have hL : ∀ p ∈ samplePrimes, p - 1 ∣ (samplePrimes.map (· - 1)).prod :=
    fun p hp => List.dvd_prod (List.mem_map_of_mem hp)
  unfold sampleModulus
  exact keyInverts_of_primes samplePrimes_prime hnd hL hed

theorem bitLength_sampleModulus : minRsaBits ≤ bitLength sampleModulus := by
  have hpos : sampleModulus ≠ 0 := by decide +kernel
  have hlog : 2047 ≤ sampleModulus.log2 := by decide +kernel
  simp only [bitLength, minRsaBits, hpos, if_false]
  omega

/-- The sample credential makes a signer whose certificate reads back from its own encoding and
whose private exponent inverts the public one. -/
theorem sampleSigner_eq_ok : ∃ s, newSigner sampleCredential sampleValidator = .ok s ∧
    readCertificate s.certificate.raw = .ok s.certificate ∧ KeyInverts s.n s.e s.d := by
  cases hread : readCertificate sampleCertificateDer with
  | error err =>
    have h := sampleCertificate_read
    rw [hread] at h
    cases h
  | ok c =>
    have h := sampleCertificate_read
    simp only [hread, Except.toOption, Option.map_some, Option.some.injEq, Prod.mk.injEq,
      beq_iff_eq] at h
    obtain ⟨hraw, hrsa, hbefore, hafter⟩ := h
    refine ⟨⟨sampleModulus, 65537, samplePrivateExponent, c, [], sampleValidator⟩, ?_,
      hraw ▸ hread, sampleKey_inverts⟩
    have hkey : checkRsaKey sampleModulus 65537 = .ok () := by
      simp [checkRsaKey, Nat.not_lt.2 bitLength_sampleModulus]
    simp [newSigner, sampleCredential, hread, Except.toOption, hrsa, hkey, Signer.checkCertificate, Validator.check,
      sampleValidator, checkValidity_ok c sampleNow hbefore hafter, Except.mapError, bind,
      Except.bind, pure, Except.pure]

end Sample

end EInvoice.Security
