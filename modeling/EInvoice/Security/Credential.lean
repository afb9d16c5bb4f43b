import EInvoice.Pki.PrivateKey
import EInvoice.Pki.Certificate
import EInvoice.Pki.Pem

/-!
# Signing credentials

What a signer is made from: a private key, the certificate of its public key, and the
certificates of the issuers above it. Each part may be missing; the signer reports which.

`Credential.ofPem` reads one from PEM texts: the key is the first block of the key text, read
as PKCS #1, SEC 1 or PKCS #8; the certificate is the first readable certificate of the
certificate text; the chain is every readable certificate of the chain text.
-/

namespace EInvoice.Security

open EInvoice.Text EInvoice.Pki

/-- A signing credential: a private key, its certificate and the issuers' certificates,
issuer first. -/
structure Credential where
  key : Option PrivateKey
  certificate : Option Certificate
  chain : List Certificate
  deriving Repr

/-- The certificates of the blocks of a PEM text that hold one. -/
def pemCertificates (text : String) : List Certificate :=
  (decodeBlocks (encode text)).filterMap fun b => (readCertificate b.bytes).toOption

/-- The private key of the first block of a PEM text. -/
def pemPrivateKey (text : String) : Option PrivateKey :=
  match (decodeBlock (encode text)).1 with
  | some b => (readAnyPrivateKey b.bytes).toOption
  | none => none

/-- A credential from PEM texts of its key, its certificate and its chain, each optional. -/
def Credential.ofPem (key cert chain : Option String) : Credential :=
  { key := key.bind pemPrivateKey,
    certificate := (cert.map pemCertificates).bind List.head?,
    chain := (chain.map pemCertificates).getD [] }

example : Credential.ofPem none none none = ⟨none, none, []⟩ := rfl

end EInvoice.Security
