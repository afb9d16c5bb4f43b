import EInvoice.Crypto.Sha256
import EInvoice.Asn1.Der

/-!
# RSA signatures

RSASSA-PKCS1-v1_5 with SHA-256 (RFC 8017, section 8.2). The encoded message for a digest is
`00 01 FF … FF 00` followed by the DER `DigestInfo` of the digest, as long as the modulus;
the signature is that number raised to the private exponent modulo the modulus, written in
as many bytes as the modulus has. A signature verifies when it has exactly that length, is
below the modulus, and raised to the public exponent gives back the encoded message.

Signing is deterministic, so a key and a digest always give the same signature.
-/

namespace EInvoice.Crypto

open EInvoice.Text EInvoice.Asn1

/-- `b ^ e % m`, by repeated squaring. -/
def powMod (b e m : Nat) : Nat :=
  if m ≤ 1 then 0
  else go (b % m) e 1
where
  go (b e acc : Nat) : Nat :=
    if h : e = 0 then acc
    else
      let acc := if e % 2 = 1 then acc * b % m else acc
      go (b * b % m) (e / 2) acc
  termination_by e
  decreasing_by omega

/-- The size of a modulus in bytes. -/
def modulusBytes (n : Nat) : Nat := (n.log2 + 8) / 8

/-- The DER prefix of a SHA-256 `DigestInfo`. -/
def sha256Prefix : Bytes :=
  [0x30, 0x31, 0x30, 0x0d, 0x06, 0x09, 0x60, 0x86, 0x48, 0x01, 0x65, 0x03, 0x04, 0x02, 0x01,
   0x05, 0x00, 0x04, 0x20]

/-- The encoded message of a digest with its `DigestInfo` prefix for a modulus of `k` bytes, or
`none` when the modulus is too short to hold it. -/
def encodeDigestWith (pre : Bytes) (k : Nat) (digest : Bytes) : Option Bytes :=
  let t := pre ++ digest
  if k < t.length + 11 then none
  else some ([0, 1] ++ List.replicate (k - t.length - 3) 0xff ++ [0] ++ t)

/-- The encoded message of a SHA-256 digest for a modulus of `k` bytes. -/
def encodeDigest (k : Nat) (digest : Bytes) : Option Bytes := encodeDigestWith sha256Prefix k digest

/-- The PKCS #1 v1.5 signature of a SHA-256 digest under the private exponent `d` of the
modulus `n`. -/
def signDigest (n d : Nat) (digest : Bytes) : Except String Bytes :=
  let k := modulusBytes n
  match encodeDigest k digest with
  | none => .error "crypto/rsa: message too long for RSA key size"
  | some em => .ok (bigEndian k (powMod (unsigned em) d n))

/-- Whether `sig` is a PKCS #1 v1.5 signature, with a `DigestInfo` prefix, of a digest under
the public key `(n, e)`. -/
def verifyDigestWith (pre : Bytes) (n e : Nat) (digest sig : Bytes) : Bool :=
  let k := modulusBytes n
  match encodeDigestWith pre k digest with
  | none => false
  | some em =>
    sig.length = k && unsigned sig < n && bigEndian k (powMod (unsigned sig) e n) = em

/-- Whether `sig` is a PKCS #1 v1.5 signature of a SHA-256 digest under the public key
`(n, e)`. -/
def verifyDigest (n e : Nat) (digest sig : Bytes) : Bool := verifyDigestWith sha256Prefix n e digest sig

theorem encodeDigest_length (k : Nat) (digest em : Bytes) (h : encodeDigest k digest = some em) :
    em.length = k := by
  unfold encodeDigest encodeDigestWith at h
  dsimp only at h
  split at h
  · cases h
  · cases h
    rename_i hk
    simp only [List.length_append, List.length_cons, List.length_nil, List.length_replicate] at hk ⊢
    omega

end EInvoice.Crypto
