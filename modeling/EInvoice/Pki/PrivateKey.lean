import EInvoice.Pki.PublicKey

/-!
# Private keys

Private keys as key files carry them, in three DER forms:

* PKCS #1 (`RSA PRIVATE KEY`): a sequence of version, modulus, public and private exponent,
  the two primes and the CRT values;
* SEC 1 (`EC PRIVATE KEY`): version 1, the private scalar, the curve and the public point;
* PKCS #8 (`PRIVATE KEY`): an algorithm identifier around one of the above, or an Ed25519 or
  X25519 seed.

Only the parts needed later are kept: for RSA the modulus and exponents, for elliptic curve
keys the curve and scalar, for Ed25519 and X25519 the seed.
-/

namespace EInvoice.Pki

open EInvoice.Text EInvoice.Asn1

/-- A private key. -/
inductive PrivateKey where
  | rsa (n e d : Nat)
  | ecdsa (curve : Curve) (scalar : Nat)
  | ed25519 (seed : Bytes)
  | x25519 (seed : Bytes)
  deriving Repr, DecidableEq

/-- Read integers from the front of a content, as many as asked. -/
def readIntegers : Nat → Bytes → Option (List Int × Bytes)
  | 0, s => some ([], s)
  | k + 1, s => do
    let (v, s) ← readInteger s
    let (vs, s) ← readIntegers k s
    pure (v :: vs, s)

/-- An RSA key in the PKCS #1 form. -/
def readPkcs1 (der : Bytes) : Except String PrivateKey := do
  let some (seq, after) := read Tag.sequence der | .error "x509: failed to parse private key"
  if !after.isEmpty then .error "asn1: syntax error: trailing data"
  let some (vs, _) := readIntegers 9 seq | .error "x509: failed to parse private key"
  match vs with
  | [version, n, e, d, p, q, _, _, _] =>
    if version > 1 then .error "x509: unsupported private key version"
    if n ≤ 0 ∨ e ≤ 0 ∨ d ≤ 0 ∨ p ≤ 1 ∨ q ≤ 1 then
      .error "x509: private key contains zero or negative value"
    if p * q ≠ n then .error "crypto/rsa: invalid modulus"
    pure (.rsa n.toNat e.toNat d.toNat)
  | _ => .error "x509: failed to parse private key"

/-- An elliptic curve key in the SEC 1 form. The curve named outside it (`outer`, by a PKCS #8
wrapping) takes precedence over the one named inside; the scalar must be below the curve's
order. -/
def readSec1 (der : Bytes) (outer : Option Oid) : Except String PrivateKey := do
  let some (seq, _) := read Tag.sequence der | .error "x509: failed to parse EC private key"
  let some (version, seq) := readInt64 seq | .error "x509: failed to parse EC private key"
  if version ≠ 1 then .error ("x509: unknown EC private key version " ++ toString version)
  let some (key, seq) := read Tag.octetString seq | .error "x509: failed to parse EC private key"
  let some (params, _) := readOptional (Tag.explicit 0) seq | .error "x509: failed to parse EC private key"
  let curve ← match outer with
    | some o => pure (curveOf o)
    | none => match params with
      | some p => match readOid p with
        | some (o, _) => pure (curveOf o)
        | none => .error "x509: failed to parse EC private key"
      | none => pure none
  let some c := curve | .error "x509: unknown elliptic curve"
  if unsigned key ≥ c.n then .error "x509: invalid elliptic curve private key value"
  pure (.ecdsa c (unsigned key))

/-- A key in the PKCS #8 form. -/
def readPkcs8 (der : Bytes) : Except String PrivateKey := do
  let some (seq, _) := read Tag.sequence der | .error "x509: failed to parse private key"
  let some (_, seq) := readInteger seq | .error "x509: failed to parse private key"
  let some (ai, seq) := read Tag.sequence seq | .error "x509: failed to parse private key"
  let some (key, _) := read Tag.octetString seq | .error "x509: failed to parse private key"
  let some (alg, params) := readOid ai | .error "x509: failed to parse private key"
  if alg = oidRsa then
    (readPkcs1 key).mapError ("x509: failed to parse RSA private key embedded in PKCS#8: " ++ ·)
  else if alg = oidEcdsa then
    (readSec1 key ((readOid params).map (·.1))).mapError ("x509: failed to parse EC private key embedded in PKCS#8: " ++ ·)
  else if alg = oidEd25519 ∨ alg = oidX25519 then do
    if !params.isEmpty then .error "x509: invalid Ed25519 private key parameters"
    let some (seed, _) := read Tag.octetString key | .error "x509: invalid Ed25519 private key"
    if seed.length ≠ 32 then
      .error ("x509: invalid Ed25519 private key length: " ++ toString seed.length)
    pure (if alg = oidEd25519 then .ed25519 seed else .x25519 seed)
  else .error ("x509: PKCS#8 wrapping contained private key with unknown algorithm: " ++ alg.show)

/-- A key from a block labelled `PRIVATE KEY`: PKCS #1 first, then SEC 1, then PKCS #8. -/
def readAnyPrivateKey (der : Bytes) : Except String PrivateKey :=
  match readPkcs1 der with
  | .ok k => .ok k
  | .error _ => match readSec1 der none with
    | .ok k => .ok k
    | .error _ => readPkcs8 der

/-- Whether a private key belongs to a public key. Only RSA keys are compared number for
number; a key of another kind never matches an RSA public key. -/
def PrivateKey.matchesRsa (k : PrivateKey) (n e : Nat) : Bool :=
  match k with
  | .rsa n' e' _ => n = n' && e = e'
  | _ => false

theorem matchesRsa_self (n e d : Nat) : (PrivateKey.rsa n e d).matchesRsa n e = true := by
  simp [PrivateKey.matchesRsa]

end EInvoice.Pki
