import EInvoice.Pki.PublicKey
import EInvoice.Crypto.Rsa

/-!
# Elliptic curve points and ECDSA

Points of the NIST prime curves in affine coordinates, the point at infinity written `none`.
Addition and doubling follow the chord-and-tangent rule with `a = -3`; inverses modulo the
field prime are powers `x ^ (p - 2)`, as the prime is prime. A scalar multiple is built by
halving the scalar, so its recursion is well founded.

An ECDSA signature is a DER sequence of two positive integers `r` and `s` below the group
order; it verifies when the `x` coordinate of `e·s⁻¹·G + r·s⁻¹·Q` is `r` modulo the order,
where `e` is the leftmost bits of the digest, as many as the order has.
-/

namespace EInvoice.Pki

open EInvoice.Text EInvoice.Asn1 EInvoice.Crypto

/-- A point of a curve; `none` is the point at infinity. -/
abbrev Point := Option (Nat × Nat)

/-- The inverse modulo a prime. -/
def invMod (x m : Nat) : Nat := powMod x (m - 2) m

/-- The point with the slope `l` through `(x1, y1)` and meeting the curve again at `x2`. -/
def Curve.chord (c : Curve) (l x1 y1 x2 : Nat) : Point :=
  let x3 := (l * l + 2 * c.p - x1 - x2) % c.p
  some (x3, (l * ((x1 + c.p - x3) % c.p) + c.p - y1) % c.p)

/-- Twice a point. -/
def Curve.double (c : Curve) : Point → Point
  | none => none
  | some (x, y) =>
    if y % c.p = 0 then none
    else
      let l := (3 * x * x + 3 * (c.p - 1)) % c.p * invMod (2 * y % c.p) c.p % c.p
      c.chord l x y x

/-- The sum of two points. -/
def Curve.add (c : Curve) : Point → Point → Point
  | none, q => q
  | p, none => p
  | some (x1, y1), some (x2, y2) =>
    if x1 % c.p = x2 % c.p then
      if (y1 + y2) % c.p = 0 then none else c.double (some (x1, y1))
    else
      let l := (y2 + c.p - y1) % c.p * invMod ((x2 + c.p - x1) % c.p) c.p % c.p
      c.chord l x1 y1 x2

/-- A multiple of a point. -/
def Curve.mul (c : Curve) (k : Nat) (pt : Point) : Point :=
  if k = 0 then none
  else
    let half := c.mul (k / 2) (c.double pt)
    if k % 2 = 1 then c.add half pt else half
termination_by k
decreasing_by omega

/-- The base point. -/
def Curve.base (c : Curve) : Point := some (c.gx, c.gy)

/-- The public point of a private scalar. -/
def Curve.publicPoint (c : Curve) (k : Nat) : Point := c.mul k c.base

/-- The integer of a digest for a curve: its leftmost bytes, as many as the order has, shifted
right by the bits the order lacks. -/
def Curve.digestValue (c : Curve) (digest : Bytes) : Nat :=
  let size := (bitLength c.n + 7) / 8
  if digest.length ≥ size then unsigned (digest.take size) / Nat.pow 2 (8 * size - bitLength c.n)
  else unsigned digest

/-- The two integers of a DER-encoded signature, each positive and in shortest form, with
nothing after them. -/
def readSignaturePair (sig : Bytes) : Option (Nat × Nat) := do
  let (seq, rest) ← read Tag.sequence sig
  if !rest.isEmpty then none
  let (r, seq) ← readInteger seq
  let (s, seq) ← readInteger seq
  if !seq.isEmpty ∨ r < 0 ∨ s < 0 then none
  pure (r.toNat, s.toNat)

/-- Whether an ECDSA signature of a digest verifies under the public point `(qx, qy)`. -/
def Curve.verify (c : Curve) (qx qy : Nat) (digest sig : Bytes) : Bool :=
  match readSignaturePair sig with
  | none => false
  | some (r, s) =>
    if r = 0 ∨ s = 0 ∨ r ≥ c.n ∨ s ≥ c.n then false
    else
      let w := invMod s c.n
      let u1 := c.digestValue digest % c.n * w % c.n
      let u2 := r * w % c.n
      match c.add (c.mul u1 c.base) (c.mul u2 (some (qx, qy))) with
      | none => false
      | some (x, _) => x % c.n = r

theorem mul_zero (c : Curve) (pt : Point) : c.mul 0 pt = none := by
  rw [Curve.mul]; simp

end EInvoice.Pki
