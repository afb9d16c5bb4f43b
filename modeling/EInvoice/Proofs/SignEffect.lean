import EInvoice.Proofs.Verify
import Mathlib

/-!
# Signing has one effect

A signer looks at a root in a fixed order and refuses it at the first condition that holds: a
signature anywhere in the tree, the root itself included; a certificate its validator rejects; no
`DE` child, or a `DE` with no identifier; a key too short to sign the digest of the `SignedInfo`.
Each refusal names its condition and no other (`sign_cases`). A root is a value, so a refused
root is what the caller still holds: the refusal gives back no tree. A root that passes gets one
change, its signature appended as the last child: the signature refers to the `DE` by its
identifier and carries the base64 SHA-256 digest of the `DE`'s canonical form.

The validity-period validator rejects a certificate exactly at instants before its start or
after its end, so both bounds are instants at which it is valid.

Main statement: `sign_outcomes`.
-/

namespace EInvoice.Xml

/-! ## Elements anywhere in a tree -/

/-- Whether an element named `tag` occurs in a tree, its root included. -/
def Element.occurs (e : Element) (tag : String) : Bool := e.anyElement fun _ x => x.tag == tag

mutual
theorem Node.find_isSome (tag : String) :
    ∀ (up : List Element) (n : Node),
      (Node.find tag n).isSome = Node.anyElement (fun _ x => x.tag == tag) up n
  | up, .elem sp t as cs => by
    simp only [Node.find, Node.anyElement]
    by_cases ht : t = tag
    · simp [ht]
    · rw [if_neg ht, Node.findIn_isSome tag (⟨sp, t, as, cs⟩ :: up) cs]
      simp [ht]
  | _, .text _ => rfl
  | _, .comment _ => rfl
  | _, .instruction _ _ => rfl
  | _, .directive _ => rfl
theorem Node.findIn_isSome (tag : String) :
    ∀ (up : List Element) (ns : List Node),
      (Node.findIn tag ns).isSome = Node.anyElementIn (fun _ x => x.tag == tag) up ns
  | _, [] => rfl
  | up, n :: ns => by
    simp only [Node.findIn, Node.anyElementIn]
    rw [← Node.find_isSome tag up n, ← Node.findIn_isSome tag up ns]
    cases Node.find tag n <;> rfl
end

/-- The search for an element named `tag` finds one exactly when one occurs. -/
theorem Element.find_isSome (e : Element) (tag : String) : (e.find tag).isSome = e.occurs tag :=
  Node.find_isSome tag [] e.toNode

end EInvoice.Xml

namespace EInvoice.Security

open EInvoice.Xml EInvoice.Text EInvoice.Pki EInvoice.Crypto EInvoice.Invoice

/-! ## The signature over a `DE` -/

section Signature

variable {s : Signer} {de : Element} {id : String}

/-- The key signs the digest of the `SignedInfo`, or the signature fails with the key's reason. -/
theorem signatureOf_eq_error {err : SignerError} :
    s.signatureOf de id = .error err ↔
      ∃ d, signDigest s.n s.d (digestElement (signedInfo id (digestElement de sifenNamespace))
        dsigNamespace) = .error d ∧ err = .signing d := by
  unfold Signer.signatureOf
  dsimp only
  cases hv : signDigest s.n s.d (digestElement (signedInfo id (digestElement de sifenNamespace))
    dsigNamespace) <;> simp [Except.mapError, bind, Except.bind, pure, Except.pure, eq_comm]

/-- A signature refers to the `DE` by `#` and its identifier and carries the base64 SHA-256
digest of the `DE`'s canonical form. -/
theorem signatureOf_reference {sig : Element} (h : s.signatureOf de id = .ok sig) :
    ∃ info ref, sig.selectElement "SignedInfo" = some info ∧
      info.selectElement "Reference" = some ref ∧ ref.attrValue "URI" "" = "#" ++ id ∧
      textOf ref "DigestValue" =
        some (Base64.encode (Sha256.hash (encode (canonicalize de sifenNamespace)))) := by
  unfold Signer.signatureOf at h
  dsimp only at h
  cases hv : signDigest s.n s.d
      (digestElement (signedInfo id (digestElement de sifenNamespace)) dsigNamespace) with
  | error err => simp [hv, Except.mapError, Bind.bind, Except.bind] at h
  | ok value =>
    simp only [hv, Except.mapError, Bind.bind, Except.bind, Pure.pure, Except.pure,
      Except.ok.injEq] at h
    subst h
    refine ⟨_, _, rfl, rfl, ?_, ?_⟩ <;>
      simp [Element.attrValue, Element.selectAttr, textOf, Element.find, Node.find, Node.findIn,
        algorithmElement, textElement, Element.toNode, splitName, spaceMatches, Element.text,
        Element.leadingText, digestElement]

end Signature

/-! ## The order of a signer's checks -/

section Sign

variable {s : Signer} {rde : Element}

/-- The signer's certificate passes exactly when its validator accepts it for signing. -/
theorem checkCertificate_eq_error {err : SignerError} :
    s.checkCertificate = .error err ↔
      ∃ ce, s.validator.check (some s.certificate) s.chain .signing = .error ce ∧
        err = .certificate ce := by
  unfold Signer.checkCertificate
  cases s.validator.check (some s.certificate) s.chain .signing <;>
    simp [Except.mapError, eq_comm]

/-- What signing does, by the first condition that holds. -/
theorem sign_cases (s : Signer) (rde : Element) :
    (rde.occurs "Signature" = true ∧ s.sign rde = .error (.alreadySigned rde.tag)) ∨
    (rde.occurs "Signature" = false ∧ ∃ ce,
      s.validator.check (some s.certificate) s.chain .signing = .error ce ∧
      s.sign rde = .error (.certificate ce)) ∨
    (rde.occurs "Signature" = false ∧
      s.validator.check (some s.certificate) s.chain .signing = .ok () ∧
      rde.selectElement "DE" = none ∧ s.sign rde = .error (.noDE rde.tag)) ∨
    (rde.occurs "Signature" = false ∧
      s.validator.check (some s.certificate) s.chain .signing = .ok () ∧
      ∃ de, rde.selectElement "DE" = some de ∧ de.attrValue "Id" "" = "" ∧
        s.sign rde = .error .noId) ∨
    (rde.occurs "Signature" = false ∧
      s.validator.check (some s.certificate) s.chain .signing = .ok () ∧
      ∃ de, rde.selectElement "DE" = some de ∧ de.attrValue "Id" "" ≠ "" ∧
        s.sign rde = (fun sig => rde.addChild sig.toNode) <$> s.signatureOf de (de.attrValue "Id" "")) := by
  have hfind := Element.find_isSome rde "Signature"
  unfold Signer.sign
  cases hocc : rde.occurs "Signature" with
  | true =>
    -- a signature anywhere is refused before anything else is looked at
    rw [hocc] at hfind
    exact .inl ⟨rfl, by simp [hfind, bind, Except.bind]⟩
  | false =>
    rw [hocc] at hfind
    have hcheck : s.checkCertificate =
        (s.validator.check (some s.certificate) s.chain .signing).mapError .certificate := rfl
    cases hc : s.validator.check (some s.certificate) s.chain .signing with
    | error ce =>
      exact .inr (.inl ⟨rfl, ce, rfl, by simp [hfind, hcheck, hc, Except.mapError, bind, Except.bind]⟩)
    | ok u =>
      cases hde : rde.selectElement "DE" with
      | none =>
        exact .inr (.inr (.inl ⟨rfl, rfl, rfl,
          by simp [hfind, hcheck, hc, Except.mapError, bind, Except.bind]⟩))
      | some de =>
        by_cases hid : de.attrValue "Id" "" = ""
        · exact .inr (.inr (.inr (.inl ⟨rfl, rfl, de, rfl, hid,
            by simp [hfind, hcheck, hc, hid, Except.mapError, bind, Except.bind]⟩)))
        · refine .inr (.inr (.inr (.inr ⟨rfl, rfl, de, rfl, hid, ?_⟩)))
          have hid' : (de.attrValue "Id" "").isEmpty = false := by simpa using hid
          simp only [hfind, hcheck, hc, hid', Except.mapError, bind, Except.bind, pure,
            Except.pure, if_false, Bool.false_eq_true]
          cases s.signatureOf de (de.attrValue "Id" "") <;> rfl

/-- A signature anywhere in the root is what makes signing refuse it as already signed. -/
theorem sign_eq_alreadySigned_iff :
    s.sign rde = .error (.alreadySigned rde.tag) ↔ rde.occurs "Signature" = true := by
  rcases sign_cases s rde with ⟨ho, h⟩ | ⟨ho, ce, hc, h⟩ | ⟨ho, hc, hde, h⟩ |
      ⟨ho, hc, de, hde, hid, h⟩ | ⟨ho, hc, de, hde, hid, h⟩ <;>
    simp_all [Except.map_eq_error, signatureOf_eq_error]

/-- Signing refuses the certificate with the validator's reason exactly when the root holds no
signature and the validator rejects the certificate. -/
theorem sign_eq_certificate_iff {ce : CertificateError} :
    s.sign rde = .error (.certificate ce) ↔ rde.occurs "Signature" = false ∧
      s.validator.check (some s.certificate) s.chain .signing = .error ce := by
  rcases sign_cases s rde with ⟨ho, h⟩ | ⟨ho, ce', hc, h⟩ | ⟨ho, hc, hde, h⟩ |
      ⟨ho, hc, de, hde, hid, h⟩ | ⟨ho, hc, de, hde, hid, h⟩ <;>
    simp_all [Except.map_eq_error, signatureOf_eq_error]

/-- Signing refuses the document's fields exactly when the root holds no signature, its
certificate passes, and it has no `DE` child or its `DE` has no identifier. -/
theorem sign_eq_fields_iff :
    (s.sign rde = .error (.noDE rde.tag) ∨ s.sign rde = .error .noId) ↔
      rde.occurs "Signature" = false ∧
      s.validator.check (some s.certificate) s.chain .signing = .ok () ∧
      ∀ de, rde.selectElement "DE" = some de → de.attrValue "Id" "" = "" := by
  rcases sign_cases s rde with ⟨ho, h⟩ | ⟨ho, ce, hc, h⟩ | ⟨ho, hc, hde, h⟩ |
      ⟨ho, hc, de, hde, hid, h⟩ | ⟨ho, hc, de, hde, hid, h⟩ <;>
    simp_all [Except.map_eq_error, signatureOf_eq_error]

/-- Signing fails with the key's reason exactly when every earlier check passes and the key
cannot sign the digest of the `SignedInfo`. -/
theorem sign_eq_signing_iff {d : String} :
    s.sign rde = .error (.signing d) ↔ rde.occurs "Signature" = false ∧
      s.validator.check (some s.certificate) s.chain .signing = .ok () ∧
      ∃ de, rde.selectElement "DE" = some de ∧ de.attrValue "Id" "" ≠ "" ∧
        signDigest s.n s.d (digestElement (signedInfo (de.attrValue "Id" "")
          (digestElement de sifenNamespace)) dsigNamespace) = .error d := by
  rcases sign_cases s rde with ⟨ho, h⟩ | ⟨ho, ce, hc, h⟩ | ⟨ho, hc, hde, h⟩ |
      ⟨ho, hc, de, hde, hid, h⟩ | ⟨ho, hc, de, hde, hid, h⟩ <;>
    simp_all [Except.map_eq_error, signatureOf_eq_error]

/-- Signing fails exactly when the root holds a signature, the validator rejects the
certificate, the root has no `DE` with an identifier, or the key cannot sign. -/
theorem sign_fails_iff :
    (∃ err, s.sign rde = .error err) ↔
      rde.occurs "Signature" = true ∨
      s.validator.check (some s.certificate) s.chain .signing ≠ .ok () ∨
      (∀ de, rde.selectElement "DE" = some de → de.attrValue "Id" "" = "") ∨
      ∃ de, rde.selectElement "DE" = some de ∧ ∃ d, signDigest s.n s.d (digestElement
        (signedInfo (de.attrValue "Id" "") (digestElement de sifenNamespace)) dsigNamespace) =
          .error d := by
  rcases sign_cases s rde with ⟨ho, h⟩ | ⟨ho, ce, hc, h⟩ | ⟨ho, hc, hde, h⟩ |
      ⟨ho, hc, de, hde, hid, h⟩ | ⟨ho, hc, de, hde, hid, h⟩ <;>
    simp_all [Except.map_eq_error, signatureOf_eq_error]

/-- A signed root is the root with one more child, its last: a signature that refers to the
root's `DE` by `#` and its identifier and carries the base64 SHA-256 digest of the `DE`'s
canonical form. -/
theorem sign_eq_ok_appends {t : Element} (h : s.sign rde = .ok t) :
    ∃ (de sig : Element), rde.selectElement "DE" = some de ∧
      t = { rde with children := rde.children ++ [sig.toNode] } ∧ sig.tag = "Signature" ∧
      ∃ info ref, sig.selectElement "SignedInfo" = some info ∧
        info.selectElement "Reference" = some ref ∧
        ref.attrValue "URI" "" = "#" ++ de.attrValue "Id" "" ∧
        textOf ref "DigestValue" =
          some (Base64.encode (Sha256.hash (encode (canonicalize de sifenNamespace)))) := by
  obtain ⟨de, sig, -, hde, hsig, rfl⟩ := sign_appends h
  exact ⟨de, sig, hde, rfl, signatureOf_tag hsig, signatureOf_reference hsig⟩

end Sign

/-! ## The validity period -/

theorem Time.lt_self (t : Clock.Time) : Time.lt t t = false := by
  simp [Time.lt]

/-- The validity-period validator accepts a certificate exactly at the instants neither before
its start nor after its end. -/
theorem validity_check_eq_ok_iff (now : Clock.Time) (c : Certificate) (chain : List Certificate)
    (p : Purpose) :
    (Validator.validity now).check (some c) chain p = .ok () ↔
      Time.lt now c.notBefore = false ∧ Time.lt c.notAfter now = false := by
  simp only [Validator.check, checkValidity]
  split_ifs with h1 h2 <;> simp_all

/-- Both bounds of a validity period that is not empty are instants at which the certificate is
valid. -/
theorem validity_bounds (c : Certificate) (chain : List Certificate) (p : Purpose)
    (h : Time.lt c.notAfter c.notBefore = false) :
    (Validator.validity c.notBefore).check (some c) chain p = .ok () ∧
      (Validator.validity c.notAfter).check (some c) chain p = .ok () := by
  rw [validity_check_eq_ok_iff, validity_check_eq_ok_iff, Time.lt_self, Time.lt_self]
  exact ⟨⟨rfl, h⟩, ⟨h, rfl⟩⟩

/-- The validity-period validator rejects a certificate exactly at the instants before its
start or after its end. -/
theorem validity_check_rejects_iff (now : Clock.Time) (c : Certificate) (chain : List Certificate)
    (p : Purpose) :
    (∃ ce, (Validator.validity now).check (some c) chain p = .error ce) ↔
      Time.lt now c.notBefore = true ∨ Time.lt c.notAfter now = true := by
  simp only [Validator.check, checkValidity]
  split_ifs with h1 h2 <;> simp_all

/-- With the validity-period validator, signing refuses the certificate exactly when the root
holds no signature and the instant is before the certificate's start or after its end. -/
theorem sign_certificate_validity {s : Signer} {rde : Element} {now : Clock.Time}
    (hv : s.validator = .validity now) :
    (∃ ce, s.sign rde = .error (.certificate ce)) ↔ rde.occurs "Signature" = false ∧
      (Time.lt now s.certificate.notBefore = true ∨ Time.lt s.certificate.notAfter now = true) := by
  simp only [sign_eq_certificate_iff, exists_and_left, hv, validity_check_rejects_iff]

/-! ## Signing is atomic -/

/-- Signing a root fails exactly when the root holds a signature anywhere, the validator rejects
the certificate, the root has no `DE` with an identifier, or the key cannot sign; each refusal
names the first of these that holds, and with the validity-period validator the certificate is
refused exactly before its start or after its end, both bounds being valid instants. A root that
passes gets one change: its signature appended as its last child, referring to the `DE` by its
identifier and carrying the base64 SHA-256 digest of the `DE`'s canonical form. -/
theorem sign_outcomes (s : Signer) (rde : Element) :
    ((∃ err, s.sign rde = .error err) ↔
      rde.occurs "Signature" = true ∨
      s.validator.check (some s.certificate) s.chain .signing ≠ .ok () ∨
      (∀ de, rde.selectElement "DE" = some de → de.attrValue "Id" "" = "") ∨
      ∃ de, rde.selectElement "DE" = some de ∧ ∃ d, signDigest s.n s.d (digestElement
        (signedInfo (de.attrValue "Id" "") (digestElement de sifenNamespace)) dsigNamespace) =
          .error d) ∧
    (s.sign rde = .error (.alreadySigned rde.tag) ↔ rde.occurs "Signature" = true) ∧
    (∀ ce, s.sign rde = .error (.certificate ce) ↔ rde.occurs "Signature" = false ∧
      s.validator.check (some s.certificate) s.chain .signing = .error ce) ∧
    (∀ now, s.validator = .validity now →
      ((∃ ce, s.sign rde = .error (.certificate ce)) ↔ rde.occurs "Signature" = false ∧
        (Time.lt now s.certificate.notBefore = true ∨ Time.lt s.certificate.notAfter now = true))) ∧
    (∀ c chain p, Time.lt c.notAfter c.notBefore = false →
      (Validator.validity c.notBefore).check (some c) chain p = .ok () ∧
      (Validator.validity c.notAfter).check (some c) chain p = .ok ()) ∧
    ((s.sign rde = .error (.noDE rde.tag) ∨ s.sign rde = .error .noId) ↔
      rde.occurs "Signature" = false ∧
      s.validator.check (some s.certificate) s.chain .signing = .ok () ∧
      ∀ de, rde.selectElement "DE" = some de → de.attrValue "Id" "" = "") ∧
    (∀ d, s.sign rde = .error (.signing d) ↔ rde.occurs "Signature" = false ∧
      s.validator.check (some s.certificate) s.chain .signing = .ok () ∧
      ∃ de, rde.selectElement "DE" = some de ∧ de.attrValue "Id" "" ≠ "" ∧
        signDigest s.n s.d (digestElement (signedInfo (de.attrValue "Id" "")
          (digestElement de sifenNamespace)) dsigNamespace) = .error d) ∧
    (∀ t, s.sign rde = .ok t →
      ∃ (de sig : Element), rde.selectElement "DE" = some de ∧
        t = { rde with children := rde.children ++ [sig.toNode] } ∧ sig.tag = "Signature" ∧
        ∃ info ref, sig.selectElement "SignedInfo" = some info ∧
          info.selectElement "Reference" = some ref ∧
          ref.attrValue "URI" "" = "#" ++ de.attrValue "Id" "" ∧
          textOf ref "DigestValue" =
            some (Base64.encode (Sha256.hash (encode (canonicalize de sifenNamespace))))) :=
  ⟨sign_fails_iff, sign_eq_alreadySigned_iff, fun _ => sign_eq_certificate_iff,
    fun _ hv => sign_certificate_validity hv, fun c chain p h => validity_bounds c chain p h,
    sign_eq_fields_iff, fun _ => sign_eq_signing_iff, fun _ h => sign_eq_ok_appends h⟩

end EInvoice.Security
