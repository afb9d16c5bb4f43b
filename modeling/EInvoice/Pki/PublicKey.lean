import EInvoice.Asn1.Der

/-!
# Public keys

The public key of a certificate, read from its algorithm identifier and key bits:

* RSA (`1.2.840.113549.1.1.1`): the parameters must be an ASN.1 NULL; the bits hold a
  sequence of a positive modulus and a positive exponent that fits in 64 bits;
* ECDSA (`1.2.840.10045.2.1`): the parameters name one of the NIST curves P-224, P-256,
  P-384 or P-521, and the bits hold an uncompressed point on it, coordinates below the
  field prime;
* Ed25519 (`1.3.101.112`) and X25519 (`1.3.101.110`): no parameters, 32 key bytes;
* DSA (`1.2.840.10040.4.1`) is recognised by name only.

Any other algorithm gives no key. Each kind of key is named as the signing code reports it
(`PublicKey.typeName`).
-/

namespace EInvoice.Pki

open EInvoice.Text EInvoice.Asn1

/-- A NIST prime curve `y² = x³ - 3x + b` over the integers modulo `p`, with the base point
`(gx, gy)` of prime order `n`. -/
structure Curve where
  name : String
  bits : Nat
  p : Nat
  b : Nat
  n : Nat
  gx : Nat
  gy : Nat
  deriving Repr, DecidableEq

def p224 : Curve := ⟨"P-224", 224, Nat.pow 2 224 - Nat.pow 2 96 + 1,
  0xb4050a850c04b3abf54132565044b0b7d7bfd8ba270b39432355ffb4,
  0xffffffffffffffffffffffffffff16a2e0b8f03e13dd29455c5c2a3d,
  0xb70e0cbd6bb4bf7f321390b94a03c1d356c21122343280d6115c1d21,
  0xbd376388b5f723fb4c22dfe6cd4375a05a07476444d5819985007e34⟩
def p256 : Curve := ⟨"P-256", 256, Nat.pow 2 256 - Nat.pow 2 224 + Nat.pow 2 192 + Nat.pow 2 96 - 1,
  0x5ac635d8aa3a93e7b3ebbd55769886bc651d06b0cc53b0f63bce3c3e27d2604b,
  0xffffffff00000000ffffffffffffffffbce6faada7179e84f3b9cac2fc632551,
  0x6b17d1f2e12c4247f8bce6e563a440f277037d812deb33a0f4a13945d898c296,
  0x4fe342e2fe1a7f9b8ee7eb4a7c0f9e162bce33576b315ececbb6406837bf51f5⟩
def p384 : Curve := ⟨"P-384", 384, Nat.pow 2 384 - Nat.pow 2 128 - Nat.pow 2 96 + Nat.pow 2 32 - 1,
  0xb3312fa7e23ee7e4988e056be3f82d19181d9c6efe8141120314088f5013875ac656398d8a2ed19d2a85c8edd3ec2aef,
  0xffffffffffffffffffffffffffffffffffffffffffffffffc7634d81f4372ddf581a0db248b0a77aecec196accc52973,
  0xaa87ca22be8b05378eb1c71ef320ad746e1d3b628ba79b9859f741e082542a385502f25dbf55296c3a545e3872760ab7,
  0x3617de4a96262c6f5d9e98bf9292dc29f8f41dbd289a147ce9da3113b5f0b8c00a60b1ce1d7e819d7a431d7c90ea0e5f⟩
def p521 : Curve := ⟨"P-521", 521, Nat.pow 2 521 - 1,
  0x0051953eb9618e1c9a1f929a21a0b68540eea2da725b99b315f3b8b489918ef109e156193951ec7e937b1652c0bd3bb1bf073573df883d2c34f1ef451fd46b503f00,
  0x01fffffffffffffffffffffffffffffffffffffffffffffffffffffffffffffffffa51868783bf2f966b7fcc0148f709a5d03bb5c9b8899c47aebb6fb71e91386409,
  0x00c6858e06b70404e9cd9e3ecb662395b4429c648139053fb521f828af606b4d3dbaa14b5e77efe75928fe1dc127a2ffa8de3348b3c1856a429bf97e7e31c2e5bd66,
  0x011839296a789a3bc0045c8a5fb42c7d1bd998f54449579b446817afbd17273e662c97ee72995ef42640c550b9013fad0761353c7086a272c24088be94769fd16650⟩

/-- The curve named by an object identifier. -/
def curveOf : Oid → Option Curve
  | [1, 3, 132, 0, 33] => some p224
  | [1, 2, 840, 10045, 3, 1, 7] => some p256
  | [1, 3, 132, 0, 34] => some p384
  | [1, 3, 132, 0, 35] => some p521
  | _ => none

/-- Whether a point lies on a curve. -/
def Curve.contains (c : Curve) (x y : Nat) : Bool :=
  x < c.p && y < c.p && (y * y) % c.p = (x * x * x + 3 * (c.p - 1) * x + c.b) % c.p

/-- The coordinates of an uncompressed point on a curve. -/
def Curve.point (c : Curve) (bs : Bytes) : Option (Nat × Nat) :=
  let n := (c.bits + 7) / 8
  match bs with
  | 4 :: coords =>
    if coords.length ≠ 2 * n then none
    else
      let x := unsigned (coords.take n)
      let y := unsigned (coords.drop n)
      if c.contains x y then some (x, y) else none
  | _ => none

/-- A public key. -/
inductive PublicKey where
  | rsa (n e : Nat)
  | ecdsa (curve : Curve) (x y : Nat)
  | ed25519 (key : Bytes)
  | x25519 (key : Bytes)
  | dsa
  deriving Repr, DecidableEq

/-- The name of a kind of key, as reports give it. -/
def PublicKey.typeName : Option PublicKey → String
  | some (.rsa _ _) => "*rsa.PublicKey"
  | some (.ecdsa _ _ _) => "*ecdsa.PublicKey"
  | some (.ed25519 _) => "ed25519.PublicKey"
  | some (.x25519 _) => "*ecdh.PublicKey"
  | some .dsa => "*dsa.PublicKey"
  | none => "<nil>"

/-- The size of a modulus in bits. -/
def bitLength (n : Nat) : Nat := n.log2 + (if n = 0 then 0 else 1)

/-- The DER encoding of an ASN.1 NULL. -/
def nullBytes : Bytes := [5, 0]

def oidRsa : Oid := [1, 2, 840, 113549, 1, 1, 1]
def oidEcdsa : Oid := [1, 2, 840, 10045, 2, 1]
def oidEd25519 : Oid := [1, 3, 101, 112]
def oidX25519 : Oid := [1, 3, 101, 110]
def oidDsa : Oid := [1, 2, 840, 10040, 4, 1]

/-- Whether an algorithm is one whose keys are read. -/
def knownKeyAlgorithm (o : Oid) : Bool :=
  o = oidRsa || o = oidEcdsa || o = oidEd25519 || o = oidX25519 || o = oidDsa

/-- An RSA public key from its PKCS #1 encoding. -/
def readRsaPublicKey (der : Bytes) : Except String PublicKey := do
  let some (seq, _) := read Tag.sequence der | .error "x509: invalid RSA public key"
  let some (n, seq) := readInteger seq | .error "x509: invalid RSA modulus"
  let some (e, _) := readInt64 seq | .error "x509: invalid RSA public exponent"
  if n ≤ 0 then .error "x509: RSA modulus is not a positive number"
  if e ≤ 0 then .error "x509: RSA public exponent is not a positive number"
  pure (.rsa n.toNat e.toNat)

/-- The key of an algorithm with parameters (their whole encoding, empty when absent) and
key bits. -/
def readPublicKey (alg : Oid) (params : Bytes) (bits : Bytes) : Except String (Option PublicKey) :=
  if alg = oidRsa then
    if params ≠ nullBytes then .error "x509: RSA key missing NULL parameters"
    else some <$> readRsaPublicKey bits
  else if alg = oidEcdsa then
    match readOid params with
    | none => .error "x509: invalid ECDSA parameters"
    | some (curveOid, _) =>
      match curveOf curveOid with
      | none => .error "x509: unsupported elliptic curve"
      | some c => match c.point bits with
        | some (x, y) => .ok (some (.ecdsa c x y))
        | none => .error "x509: failed to unmarshal elliptic curve point"
  else if alg = oidEd25519 then
    if !params.isEmpty then .error "x509: Ed25519 key encoded with illegal parameters"
    else if bits.length ≠ 32 then .error "x509: wrong Ed25519 public key size"
    else .ok (some (.ed25519 bits))
  else if alg = oidX25519 then
    if !params.isEmpty then .error "x509: X25519 key encoded with illegal parameters"
    else if bits.length ≠ 32 then .error "x509: wrong X25519 public key size"
    else .ok (some (.x25519 bits))
  else if alg = oidDsa then .ok (some .dsa)
  else .ok none

theorem typeName_rsa (n e : Nat) : PublicKey.typeName (some (.rsa n e)) = "*rsa.PublicKey" := rfl

end EInvoice.Pki
