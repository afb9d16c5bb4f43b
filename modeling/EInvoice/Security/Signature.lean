import EInvoice.Security.Validator
import EInvoice.Security.Credential
import EInvoice.Crypto.Rsa
import EInvoice.Crypto.Base64
import EInvoice.Xml.Canonical
import EInvoice.Xml.Search
import EInvoice.Invoice.Tree
import EInvoice.Text.Blank

/-!
# Enveloped signatures

A document is signed by appending to its root (`rDE`) an XML signature over its `DE`
element: the `DE` is digested with SHA-256 in exclusive canonical form (default namespace the
e-invoicing one), the `SignedInfo` naming that digest is itself canonicalized (default
namespace the signature one) and signed with RSA PKCS #1 v1.5, and the signing certificate is
attached in `KeyInfo`.

A signer is made from a credential: an RSA private key and its certificate, with the chain of
issuers. The certificate's key must be RSA with a modulus of at least 2048 bits and an odd
public exponent of at least 3, and must be the private key's. The certificate is checked by
the signer's validator when the signer is made and again before every signature.

Verifying reverses the steps: the reference must point at the `DE`, the digest must match,
and the signature value must verify under the attached certificate's RSA key.
-/

namespace EInvoice.Security

open EInvoice.Text EInvoice.Pki EInvoice.Crypto EInvoice.Xml

def algorithmRsaSha256 : String := "http://www.w3.org/2001/04/xmldsig-more#rsa-sha256"
def algorithmSha256 : String := "http://www.w3.org/2001/04/xmlenc#sha256"
def algorithmC14n : String := "http://www.w3.org/2001/10/xml-exc-c14n#"
def algorithmEnveloped : String := "http://www.w3.org/2000/09/xmldsig#enveloped-signature"

/-- The smallest RSA modulus accepted for signing, in bits. -/
def minRsaBits : Nat := 2048

/-- Why a signer cannot be made or cannot sign. -/
inductive SignerError where
  | noKey
  | noCertificate
  | notRsa (typeName : String)
  | weakKey (bits : Nat)
  | badExponent (e : Nat)
  | mismatch
  | certificate (e : CertificateError)
  | signing (detail : String)
  | alreadySigned (tag : String)
  | noDE (tag : String)
  | noId
  deriving Repr

instance : Reportable SignerError where
  message
    | .noKey => "invalid signing credential: private key is required"
    | .noCertificate => "invalid signing credential: certificate is required"
    | .notRsa t => "invalid signing credential: certificate key is " ++ t ++ ", RSA required"
    | .weakKey b => "invalid signing credential: weak key detected: RSA modulus of " ++ toString b ++
        " bits, at least " ++ toString minRsaBits ++ " required"
    | .badExponent e => "invalid signing credential: invalid public key: RSA public exponent " ++ toString e
    | .mismatch => "invalid signing credential: private key does not match certificate"
    | .certificate e => "invalid signing credential: " ++ Reportable.message e
    | .signing d => "invalid signing credential: " ++ d
    | .alreadySigned t => "document is already signed: " ++ t
    | .noDE t => "invalid document fields: " ++ t ++ " has no DE child"
    | .noId => "invalid document fields: DE has no Id"
  kinds
    | .weakKey _ => [.signingCredential, .weakKey]
    | .badExponent _ => [.signingCredential, .invalidPublicKey]
    | .certificate e => .signingCredential :: Reportable.kinds e
    | .alreadySigned _ => [.alreadySigned]
    | .noDE _ | .noId => [.invalidFields]
    | _ => [.signingCredential]

/-- A signer: an RSA key, its certificate and chain, and the validator of the certificate. -/
structure Signer where
  n : Nat
  e : Nat
  d : Nat
  certificate : Certificate
  chain : List Certificate
  validator : Validator

/-- The checks on an RSA public key for signing. -/
def checkRsaKey (n e : Nat) : Except SignerError Unit :=
  if bitLength n < minRsaBits then .error (.weakKey (bitLength n))
  else if e < 3 ∨ e % 2 = 0 then .error (.badExponent e)
  else .ok ()

/-- Check the signer's certificate with its validator. -/
def Signer.checkCertificate (s : Signer) : Except SignerError Unit :=
  (s.validator.check (some s.certificate) s.chain .signing).mapError .certificate

/-- Make a signer from a credential, checking the credential and its certificate. -/
def newSigner (cred : Credential) (v : Validator) : Except SignerError Signer := do
  let some key := cred.key | .error .noKey
  let some cert := cred.certificate | .error .noCertificate
  let some (n, e) := cert.rsaKey | .error (.notRsa (PublicKey.typeName cert.publicKey))
  checkRsaKey n e
  let .rsa kn ke d := key | .error .mismatch
  if kn ≠ n ∨ ke ≠ e then .error .mismatch
  let s : Signer := ⟨n, e, d, cert, cred.chain, v⟩
  s.checkCertificate
  pure s

/-- The SHA-256 digest of an element in exclusive canonical form. -/
def digestElement (el : Element) (ns : String) : Bytes :=
  Sha256.hash (encode (canonicalize el ns))

/-- An element with one attribute and no children. -/
def algorithmElement (tag alg : String) : Node := .elem "" tag [⟨"", "Algorithm", alg⟩] []

/-- An element holding a text. -/
def textElement (tag text : String) : Node := .elem "" tag [] [.text text]

/-- The `SignedInfo` of a reference to `id` with a digest. -/
def signedInfo (id : String) (digest : Bytes) : Element :=
  { tag := "SignedInfo", children := [
      algorithmElement "CanonicalizationMethod" algorithmC14n,
      algorithmElement "SignatureMethod" algorithmRsaSha256,
      .elem "" "Reference" [⟨"", "URI", "#" ++ id⟩] [
        .elem "" "Transforms" [] [
          algorithmElement "Transform" algorithmEnveloped,
          algorithmElement "Transform" algorithmC14n],
        algorithmElement "DigestMethod" algorithmSha256,
        textElement "DigestValue" (Base64.encode digest)]] }

/-- The signature element over a `DE` with identifier `id`. -/
def Signer.signatureOf (s : Signer) (de : Element) (id : String) : Except SignerError Element := do
  let info := signedInfo id (digestElement de Invoice.sifenNamespace)
  let value ← (signDigest s.n s.d (digestElement info Invoice.dsigNamespace)).mapError .signing
  pure { tag := "Signature", attrs := [⟨"", "xmlns", Invoice.dsigNamespace⟩], children := [
    info.toNode,
    textElement "SignatureValue" (Base64.encode value),
    .elem "" "KeyInfo" [] [.elem "" "X509Data" [] [textElement "X509Certificate" (Base64.encode s.certificate.raw)]]] }

/-- Sign a document root: its `DE` child gets an enveloped signature, appended as the root's
last child. A root that already holds a signature anywhere is refused and left as it is. -/
def Signer.sign (s : Signer) (rde : Element) : Except SignerError Element := do
  if (rde.find "Signature").isSome then .error (.alreadySigned rde.tag)
  s.checkCertificate
  let some de := rde.selectElement "DE" | .error (.noDE rde.tag)
  let id := de.attrValue "Id" ""
  if id.isEmpty then .error .noId
  let sig ← s.signatureOf de id
  pure (rde.addChild sig.toNode)

/-- The trimmed text of the first element named `tag` at or below an element. -/
def findText (el : Element) (tag : String) : String :=
  match el.find tag with
  | some f => trim f.text
  | none => ""

/-- The digest value of a signed root, or the empty text when it holds no signature. -/
def digestValueOf (rde : Element) : String :=
  match rde.selectElement "Signature" with
  | some sig => findText sig "DigestValue"
  | none => ""

/-- Why a signature does not verify. -/
structure VerifyError where
  detail : String
  deriving Repr

instance : Reportable VerifyError where
  message e := "signature verification failed: " ++ e.detail
  kinds _ := [.signatureInvalid]

/-- Verify the enveloped signature of a signed root; the certificate it carries. -/
def verify (rde : Element) : Except VerifyError Certificate := do
  let some sig := rde.selectElement "Signature" | .error ⟨"no Signature"⟩
  let some de := rde.selectElement "DE" | .error ⟨"no DE"⟩
  let some info := sig.selectElement "SignedInfo" | .error ⟨"no SignedInfo"⟩
  let ok := match info.selectElement "Reference" with
    | some ref => ref.attrValue "URI" "" = "#" ++ de.attrValue "Id" ""
    | none => false
  if !ok then .error ⟨"reference does not point at DE"⟩
  let ref := (info.selectElement "Reference").getD { tag := "" }
  let want ← (Base64.decode (findText ref "DigestValue")).mapError fun e => ⟨"digest value: " ++ e.message⟩
  if want ≠ digestElement de Invoice.sifenNamespace then .error ⟨"digest mismatch"⟩
  let der ← (Base64.decode (findText sig "X509Certificate")).mapError fun e => ⟨"certificate: " ++ e.message⟩
  let cert ← (readCertificate der).mapError fun e => ⟨"certificate: " ++ e⟩
  let some (n, e) := cert.rsaKey | .error ⟨"certificate key is " ++ PublicKey.typeName cert.publicKey⟩
  let value ← (Base64.decode (findText sig "SignatureValue")).mapError fun e => ⟨"signature value: " ++ e.message⟩
  if !verifyDigest n e (digestElement info Invoice.dsigNamespace) value then
    .error ⟨"crypto/rsa: verification error"⟩
  pure cert

theorem checkRsaKey_weak (n e : Nat) (h : bitLength n < minRsaBits) :
    checkRsaKey n e = .error (.weakKey (bitLength n)) := by
  simp [checkRsaKey, h]

end EInvoice.Security
