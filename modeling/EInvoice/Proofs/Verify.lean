import EInvoice.Proofs.SignedRoot
import EInvoice.Proofs.Base64
import EInvoice.Proofs.Rsa
import Mathlib

/-!
# Signed trees verify

Verifying a signed root looks at two of its children, the first `Signature` and the first `DE`,
and inside the signature at the elements a signature is made of. What a signer writes there
(`SignatureOver`) is exactly what verifying needs: the reference points at the `DE`'s identifier,
the digest value is the digest of the `DE`, the signature value verifies under the key of the
attached certificate (`signatureOf_over`). So a root that carries such a signature verifies, and
gives back the certificate the attached bytes encode (`verify_of_carries`).

Carrying a signature survives what happens to a signed root afterwards: a child appended after
the signature or a QR link replacing another (`Carries.addChild`, `Carries.appendQr`), and
writing the root and reading it back, which joins its character data (`Carries.joined`): every
lookup answers the same there, the texts of a signature are base64 and read back as they are,
and the canonical forms are the same text.

Main statement: `sign_carries`, a root signed by a signer verifies with the signer's
certificate.
-/

namespace EInvoice.Security

open EInvoice.Xml EInvoice.Text EInvoice.Pki EInvoice.Crypto EInvoice.Invoice

/-! ## Looking up appended children -/

section Lookup

variable {e : Element} {name : String}

theorem selectElement_addChild_of_some {x : Element} (h : e.selectElement name = some x) (n : Node) :
    (e.addChild n).selectElement name = some x := by
  simp only [Element.selectElement, Element.childElements, Element.addChild, List.filterMap_append,
    List.find?_append] at h ⊢
  rw [h]
  rfl

theorem selectElement_addChild_of_none (h : e.selectElement name = none) {c : Element}
    (hc : Element.answers name c = true) : (e.addChild c.toNode).selectElement name = some c := by
  simp only [Element.selectElement, Element.childElements, Element.addChild, List.filterMap_append,
    List.find?_append] at h ⊢
  rw [h]
  simp [Element.toNode, Node.element?, hc]

/-- A tree in which no element is named `tag` has no child named `tag`. -/
theorem selectElement_none_of_find {tag : String} (hcolon : ':' ∉ tag.toList) (h : e.find tag = none) :
    e.selectElement tag = none := by
  obtain ⟨sp, t, as, cs⟩ := e
  simp only [Element.find, Element.toNode, Node.find] at h
  split_ifs at h
  simp only [Element.selectElement, Element.childElements, List.find?_eq_none, List.mem_filterMap,
    answers_of_colon_free hcolon, beq_iff_eq]
  rintro c ⟨n, hn, hc⟩ rfl
  -- the child named `tag` would be found in the search below the root
  have hfound : ∀ ns : List Node, n ∈ ns → Node.findIn c.tag ns ≠ none := by
    intro ns hmem
    induction ns with
    | nil => simp at hmem
    | cons m ms ih =>
      simp only [Node.findIn]
      rcases List.mem_cons.1 hmem with rfl | hmem
      · cases n <;> simp only [Node.element?, reduceCtorEq, Option.some.injEq] at hc
        cases hc
        simp [Node.find]
      · split
        · simp
        · exact ih hmem
  exact hfound cs hn h

end Lookup

/-! ## What signing leaves and verifying reads -/

/-- The text of the first element named `tag` at or below an element. -/
def textOf (e : Element) (tag : String) : Option String := (e.find tag).map Element.text

theorem findText_of_textOf {e : Element} {tag : String} {bs : Bytes}
    (h : textOf e tag = some (Base64.encode bs)) : findText e tag = Base64.encode bs := by
  unfold findText
  unfold textOf at h
  cases hf : e.find tag with
  | none => simp [hf] at h
  | some f =>
    simp only [hf, Option.map_some, Option.some.injEq] at h
    simp [h, Base64.trim_encode]

/-- A signature over the `DE` with identifier `id` and digest `digest`, under the key `(n, e)`
and with the certificate `raw` attached, as verifying reads it. -/
structure SignatureOver (n e : Nat) (raw : Bytes) (id : String) (digest : Bytes) (sig : Element) :
    Prop where
  signedInfo : ∃ info ref, sig.selectElement "SignedInfo" = some info ∧
    info.selectElement "Reference" = some ref ∧ ref.attrValue "URI" "" = "#" ++ id ∧
    textOf ref "DigestValue" = some (Base64.encode digest) ∧
    ∃ value, textOf sig "SignatureValue" = some (Base64.encode value) ∧
      verifyDigest n e (digestElement info dsigNamespace) value = true
  certificate : textOf sig "X509Certificate" = some (Base64.encode raw)

/-- The signature a signer makes over a `DE`, with a key that its private exponent undoes, is a
signature over that `DE` under the signer's key with the signer's certificate. -/
theorem signatureOf_over {s : Signer} {de : Element} {id : String} {sig : Element}
    (hkey : KeyInverts s.n s.e s.d) (h : s.signatureOf de id = .ok sig) :
    SignatureOver s.n s.e s.certificate.raw id (digestElement de sifenNamespace) sig := by
  unfold Signer.signatureOf at h
  dsimp only at h
  cases hv : signDigest s.n s.d
      (digestElement (signedInfo id (digestElement de sifenNamespace)) dsigNamespace) with
  | error err => simp [hv, Except.mapError, Bind.bind, Except.bind] at h
  | ok value =>
    simp only [hv, Except.mapError, Bind.bind, Except.bind, Pure.pure, Except.pure,
      Except.ok.injEq] at h
    subst h
    refine ⟨⟨_, _, rfl, rfl, ?_, ?_, value, ?_, verifyDigest_signDigest hkey hv⟩, ?_⟩ <;>
      simp [Element.attrValue, Element.selectAttr, textOf, Element.find, Node.find, Node.findIn,
        signedInfo, algorithmElement, textElement, Element.toNode, splitName, spaceMatches,
        Element.text, Element.leadingText]

theorem signatureOf_tag {s : Signer} {de : Element} {id : String} {sig : Element}
    (h : s.signatureOf de id = .ok sig) : sig.tag = "Signature" := by
  unfold Signer.signatureOf at h
  dsimp only at h
  cases hv : signDigest s.n s.d
      (digestElement (signedInfo id (digestElement de sifenNamespace)) dsigNamespace) with
  | error err => simp [hv, Except.mapError, Bind.bind, Except.bind] at h
  | ok value =>
    simp only [hv, Except.mapError, Bind.bind, Except.bind, Pure.pure, Except.pure,
      Except.ok.injEq] at h
    rw [← h]

/-! ## Roots that carry a signature -/

/-- A root carrying a signature over its first `DE` child, under the key `(n, e)` and with the
certificate `raw` attached, in its first `Signature` child. -/
def Carries (n e : Nat) (raw : Bytes) (r : Element) : Prop :=
  ∃ sig de, r.selectElement "Signature" = some sig ∧ r.selectElement "DE" = some de ∧
    SignatureOver n e raw (de.attrValue "Id" "") (digestElement de sifenNamespace) sig

/-- A root that carries a signature verifies, and gives the certificate its attached bytes
encode, when that certificate has the key the signature was made for. -/
theorem verify_of_carries {n e : Nat} {raw : Bytes} {r : Element} {c : Certificate}
    (h : Carries n e raw r) (hcert : readCertificate raw = .ok c) (hkey : c.rsaKey = some (n, e)) :
    verify r = .ok c := by
  obtain ⟨sig, de, hsig, hde, ⟨info, ref, hinfo, href, huri, hdv, value, hsv, hver⟩, hcer⟩ := h
  unfold verify
  simp only [hsig, hde, hinfo, href, huri, findText_of_textOf hdv, findText_of_textOf hcer,
    findText_of_textOf hsv, Base64.decode_encode, hcert, hkey, hver, Option.getD_some,
    Except.mapError, bind, Except.bind, pure, Except.pure, decide_true, Bool.not_true,
    Bool.false_eq_true, if_false, ne_eq, not_true_eq_false]

/-! ## What keeps a signature carried -/

section Keeping

variable {n e : Nat} {raw : Bytes} {r : Element}

/-- A child appended after the signature changes nothing verifying finds. -/
theorem Carries.addChild (h : Carries n e raw r) (x : Node) : Carries n e raw (r.addChild x) := by
  obtain ⟨sig, de, hsig, hde, hover⟩ := h
  exact ⟨sig, de, selectElement_addChild_of_some hsig x, selectElement_addChild_of_some hde x, hover⟩

/-- Removing a child of another name changes no lookup of a plain name. -/
theorem selectElement_removeFirstChild {tag name : String} (hcolon : ':' ∉ name.toList)
    (hne : name ≠ tag) (x : Element) :
    (Assembly.removeFirstChild x tag).selectElement name = x.selectElement name := by
  obtain ⟨sp, t, as, cs⟩ := x
  simp only [Assembly.removeFirstChild, Element.selectElement, Element.childElements]
  induction cs with
  | nil => rfl
  | cons c cs ih =>
    cases c with
    | elem sp' t' as' cs' =>
      by_cases ht : t' = tag
      · -- the removed child is not the one looked up
        subst ht
        simp [Node.element?, answers_of_colon_free hcolon, hne]
      · have hb : (t' == tag) = false := beq_false_of_ne ht
        simp only [List.eraseP_cons, hb, cond_false, List.filterMap_cons, Node.element?,
          List.find?_cons]
        split
        · rfl
        · exact ih
    | _ => simpa [List.eraseP_cons, Node.element?] using ih

/-- Adding a QR link removes the first link the root had and appends the new one. -/
theorem appendQr_eq_ok {q : Assembly.QrSettings} {r' : Element} {link : String}
    (hq : Assembly.appendQr q r = .ok (r', link)) :
    r' = (if (r.selectElement "gCamFuFD").isSome then Assembly.removeFirstChild r "gCamFuFD"
      else r).addChild (Assembly.qrNode link) := by
  unfold Assembly.appendQr at hq
  cases hl : Assembly.qrLink q r with
  | error err => simp [hl, Bind.bind, Except.bind] at hq
  | ok l =>
    simp only [hl, Bind.bind, Except.bind, Pure.pure, Except.pure, Except.ok.injEq,
      Prod.mk.injEq] at hq
    obtain ⟨rfl, rfl⟩ := hq
    rfl

/-- Adding a QR link changes no lookup of another plain name. -/
theorem selectElement_appendQr {q : Assembly.QrSettings} {r' x : Element} {link name : String}
    (hcolon : ':' ∉ name.toList) (hne : name ≠ "gCamFuFD")
    (hq : Assembly.appendQr q r = .ok (r', link)) (hx : r.selectElement name = some x) :
    r'.selectElement name = some x := by
  rw [appendQr_eq_ok hq]
  refine selectElement_addChild_of_some ?_ _
  split
  · rw [selectElement_removeFirstChild hcolon hne, hx]
  · exact hx

/-- Adding a QR link, which replaces the first link the root had, keeps its signature. -/
theorem Carries.appendQr {q : Assembly.QrSettings} {r' : Element} {link : String}
    (h : Carries n e raw r) (hq : Assembly.appendQr q r = .ok (r', link)) : Carries n e raw r' := by
  obtain ⟨sig, de, hsig, hde, hover⟩ := h
  exact ⟨sig, de, selectElement_appendQr (by decide) (by decide) hq hsig,
    selectElement_appendQr (by decide) (by decide) hq hde, hover⟩

theorem digestElement_joined (x : Element) (ns : String) :
    digestElement x.joined ns = digestElement x ns := by
  simp [digestElement, canonicalize_joined]

theorem textOf_joined (x : Element) (tag : String) :
    textOf x.joined tag = (textOf x tag).map readableText := by
  unfold textOf
  rw [Element.find_joined, Option.map_map, Option.map_map]
  congr 1
  funext f
  exact Element.text_joined f

theorem readableText_encode (bs : Bytes) : readableText (Base64.encode bs) = Base64.encode bs := by
  have hx : ∀ c ∈ (Base64.encode bs).toList, isXmlChar c = true := fun c hc => by
    have := Base64.printable_encode bs c hc
    simp only [isXmlChar, decide_eq_true_eq]
    omega
  simp [readableText, map_readable hx]

theorem SignatureOver.joined {id : String} {digest : Bytes} {sig : Element}
    (h : SignatureOver n e raw id digest sig) : SignatureOver n e raw id digest sig.joined := by
  obtain ⟨⟨info, ref, hinfo, href, huri, hdv, value, hsv, hver⟩, hcer⟩ := h
  refine ⟨⟨info.joined, ref.joined, ?_, ?_, huri, ?_, value, ?_, ?_⟩, ?_⟩
  · rw [Element.selectElement_joined, hinfo]
    rfl
  · rw [Element.selectElement_joined, href]
    rfl
  · rw [textOf_joined, hdv, Option.map_some, readableText_encode]
  · rw [textOf_joined, hsv, Option.map_some, readableText_encode]
  · rwa [digestElement_joined]
  · rw [textOf_joined, hcer, Option.map_some, readableText_encode]

/-- Writing a root and reading it back keeps its signature: reading joins character data, which
changes no lookup, no base64 text and no canonical form. -/
theorem Carries.joined (h : Carries n e raw r) : Carries n e raw r.joined := by
  obtain ⟨sig, de, hsig, hde, hover⟩ := h
  refine ⟨sig.joined, de.joined, ?_, ?_, ?_⟩
  · rw [Element.selectElement_joined, hsig]
    rfl
  · rw [Element.selectElement_joined, hde]
    rfl
  · rw [digestElement_joined]
    exact hover.joined

end Keeping

/-! ## Signers sign and their signatures verify -/

/-- What making a signer checked: its certificate passes its validator, and its certificate's key
is the signer's, with a modulus of at least 2048 bits. -/
theorem newSigner_eq_ok {cred : Credential} {v : Validator} {s : Signer} (h : newSigner cred v = .ok s) :
    s.checkCertificate = .ok () ∧ s.certificate.rsaKey = some (s.n, s.e) ∧
      minRsaBits ≤ bitLength s.n := by
  unfold newSigner at h
  rcases cred with ⟨_ | key, _ | cert, chain⟩ <;> try simp at h
  cases hk : cert.rsaKey with
  | none => simp [hk] at h
  | some p =>
    obtain ⟨n, e⟩ := p
    simp only [hk, Except.bind_eq_ok] at h
    obtain ⟨u, hc, h⟩ := h
    have hbits : minRsaBits ≤ bitLength n := by
      unfold checkRsaKey at hc
      split at hc
      · cases hc
      · omega
    cases key with
    | rsa kn ke d =>
      by_cases hm : kn ≠ n ∨ ke ≠ e
      · simp [hm, Except.error_bind] at h
      · simp only [hm, if_false] at h
        obtain ⟨w, hcc, rfl⟩ := Except.map_eq_ok.1 h
        exact ⟨hcc, hk, hbits⟩
    | _ => simp at h

/-- A modulus of at least 2048 bits has room for the encoded SHA-256 digest. -/
theorem signDigest_ok {n d : Nat} (hbits : minRsaBits ≤ bitLength n) (digest : Bytes)
    (hlen : digest.length = 32) : ∃ value, signDigest n d digest = .ok value := by
  have hk : 62 ≤ modulusBytes n := by
    unfold minRsaBits bitLength at hbits
    unfold modulusBytes
    split_ifs at hbits <;> omega
  unfold signDigest encodeDigest encodeDigestWith
  simp only [List.length_append, hlen, sha256Prefix, List.length_cons, List.length_nil]
  rw [if_neg (by omega)]
  exact ⟨_, rfl⟩

/-- A signer whose certificate passes its validator signs every root that holds a `DE` with an
identifier and no signature: it appends its signature over that `DE`. -/
theorem sign_eq_ok {s : Signer} {rde de : Element} (hcheck : s.checkCertificate = .ok ())
    (hbits : minRsaBits ≤ bitLength s.n) (hfind : rde.find "Signature" = none)
    (hde : rde.selectElement "DE" = some de) (hid : de.attrValue "Id" "" ≠ "") :
    ∃ sig, s.signatureOf de (de.attrValue "Id" "") = .ok sig ∧
      s.sign rde = .ok (rde.addChild sig.toNode) := by
  obtain ⟨value, hv⟩ := signDigest_ok (d := s.d) hbits
    (digestElement (signedInfo (de.attrValue "Id" "") (digestElement de sifenNamespace))
      dsigNamespace) (Sha256.hash_length _)
  have hsig : ∃ sig, s.signatureOf de (de.attrValue "Id" "") = .ok sig := by
    unfold Signer.signatureOf
    simp [hv, Except.mapError, bind, Except.bind, pure, Except.pure]
  obtain ⟨sig, hsig⟩ := hsig
  refine ⟨sig, hsig, ?_⟩
  unfold Signer.sign
  simp [hfind, hcheck, hde, hid, hsig, bind, Except.bind, pure, Except.pure]

/-- What a signer's signature leaves: the root, which held no signature, with the signature over
its `DE` appended. -/
theorem sign_appends {s : Signer} {rde signed : Element} (h : s.sign rde = .ok signed) :
    ∃ de sig, rde.find "Signature" = none ∧ rde.selectElement "DE" = some de ∧
      s.signatureOf de (de.attrValue "Id" "") = .ok sig ∧ signed = rde.addChild sig.toNode := by
  unfold Signer.sign at h
  cases hfind : rde.find "Signature" with
  | some x => simp [hfind, bind, Except.bind] at h
  | none =>
    cases hcheck : s.checkCertificate with
    | error err => simp [hfind, hcheck, bind, Except.bind] at h
    | ok u =>
      cases hde : rde.selectElement "DE" with
      | none => simp [hfind, hcheck, hde, bind, Except.bind] at h
      | some de =>
        cases hsig : s.signatureOf de (de.attrValue "Id" "") with
        | error err =>
          by_cases hid : (de.attrValue "Id" "").isEmpty = true <;>
            simp [hfind, hcheck, hde, hsig, hid, bind, Except.bind] at h
        | ok sig =>
          refine ⟨de, sig, rfl, rfl, hsig, ?_⟩
          by_cases hid : (de.attrValue "Id" "").isEmpty = true <;>
            simp [hfind, hcheck, hde, hsig, hid, bind, Except.bind, pure, Except.pure] at h
          exact h.symm

/-- A root a signer signed carries a signature over its `DE` under the signer's key, with the
signer's certificate attached. -/
theorem sign_carries {s : Signer} {rde signed : Element} (hkey : KeyInverts s.n s.e s.d)
    (h : s.sign rde = .ok signed) : Carries s.n s.e s.certificate.raw signed := by
  obtain ⟨de, sig, hfind, hde, hsig, rfl⟩ := sign_appends h
  -- the root had no signature, so the appended one is the first
  have hnone := selectElement_none_of_find (by decide) hfind
  refine ⟨sig, de, ?_, selectElement_addChild_of_some hde _, signatureOf_over hkey hsig⟩
  exact selectElement_addChild_of_none hnone
    (by simp [Element.answers, splitName, spaceMatches, signatureOf_tag hsig])

end EInvoice.Security
