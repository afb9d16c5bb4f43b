import EInvoice.Pki.Certificate
import EInvoice.Pki.Ecdsa
import EInvoice.Crypto.Sha512
import EInvoice.Crypto.Ed25519

/-!
# Checking a certificate's signature against an issuer

Whether a certificate was signed by the key of another, the candidate issuer. The issuer must
be allowed to sign certificates: a version 3 certificate needs basic constraints, basic
constraints must mark a CA, and a key usage, when present, must include certificate signing.
Its key must be of a known algorithm.

The signature algorithm of the certificate then fixes the check:

* RSA PKCS #1 v1.5 with SHA-256, SHA-384 or SHA-512, under an RSA key of at least 1024 bits
  with an odd exponent of at least 3;
* ECDSA with the same digests, under a key on a NIST curve;
* Ed25519 (no parameters) over the signed part itself.

SHA-1 and MD5 signatures are insecure and never accepted; every other algorithm, including
RSA-PSS, is not accepted either.
-/

namespace EInvoice.Pki

open EInvoice.Text EInvoice.Asn1 EInvoice.Crypto

/-- The digests of certificate signatures. -/
inductive Digest where
  | sha256
  | sha384
  | sha512
  deriving Repr, DecidableEq

/-- The digest of a message. -/
def Digest.apply : Digest → Bytes → Bytes
  | .sha256 => Sha256.hash
  | .sha384 => Sha512.hash384
  | .sha512 => Sha512.hash

/-- The DER prefix of a `DigestInfo` naming the digest. -/
def Digest.infoPrefix : Digest → Bytes
  | .sha256 => sha256Prefix
  | .sha384 => [0x30, 0x41, 0x30, 0x0d, 0x06, 0x09, 0x60, 0x86, 0x48, 0x01, 0x65, 0x03, 0x04, 0x02,
      0x02, 0x05, 0x00, 0x04, 0x30]
  | .sha512 => [0x30, 0x51, 0x30, 0x0d, 0x06, 0x09, 0x60, 0x86, 0x48, 0x01, 0x65, 0x03, 0x04, 0x02,
      0x03, 0x05, 0x00, 0x04, 0x40]

/-- The signature schemes a certificate can be checked with. -/
inductive Scheme where
  | rsa (d : Digest)
  | ecdsa (d : Digest)
  | ed25519
  | unaccepted
  deriving Repr, DecidableEq

/-- The scheme of a signature algorithm identifier. -/
def schemeOf (ai : AlgorithmId) : Scheme :=
  match ai.algorithm with
  | [1, 2, 840, 113549, 1, 1, 11] => .rsa .sha256
  | [1, 2, 840, 113549, 1, 1, 12] => .rsa .sha384
  | [1, 2, 840, 113549, 1, 1, 13] => .rsa .sha512
  | [1, 2, 840, 10045, 4, 3, 2] => .ecdsa .sha256
  | [1, 2, 840, 10045, 4, 3, 3] => .ecdsa .sha384
  | [1, 2, 840, 10045, 4, 3, 4] => .ecdsa .sha512
  | [1, 3, 101, 112] => if ai.params.isEmpty then .ed25519 else .unaccepted
  | _ => .unaccepted

/-- Whether a signature over a message verifies under a public key with a scheme. -/
def Scheme.verify (s : Scheme) (key : Option PublicKey) (msg sig : Bytes) : Bool :=
  match s, key with
  | .rsa d, some (.rsa n e) =>
    bitLength n ≥ 1024 && e ≥ 3 && e % 2 == 1 && verifyDigestWith d.infoPrefix n e (d.apply msg) sig
  | .ecdsa d, some (.ecdsa c x y) => c.verify x y (d.apply msg) sig
  | .ed25519, some (.ed25519 k) => Ed25519.verify k msg sig
  | _, _ => false

/-- Whether a certificate may sign others. -/
def Certificate.maySign (c : Certificate) : Bool :=
  !(c.version = 3 && !c.basicConstraintsValid) && !(c.basicConstraintsValid && !c.isCA) &&
    (c.keyUsage == 0 || c.keyUsage &&& 32 != 0) && knownKeyAlgorithm c.keyAlgorithm.algorithm

/-- Whether a certificate's signature was made by the key of `parent`. -/
def Certificate.signedBy (c parent : Certificate) : Bool :=
  parent.maySign && (schemeOf c.signatureAlgorithm).verify parent.publicKey c.rawTbs c.signature

theorem signedBy_needs_maySign (c parent : Certificate) (h : parent.maySign = false) :
    c.signedBy parent = false := by
  simp [Certificate.signedBy, h]

end EInvoice.Pki
