import EInvoice.Crypto.Sha512
import EInvoice.Crypto.Rsa

/-!
# Ed25519

The Edwards curve `-x² + y² = 1 + d·x²·y²` over the integers modulo `2²⁵⁵ - 19` (RFC 8032),
in affine coordinates. A point is written as 32 bytes: `y` little-endian, with the top bit
holding the parity of `x`. Reading a point accepts values of `y` at or above the prime
(reduced), finds `x` as a square root, and refuses encodings with no root.

A key pair comes from a 32-byte seed: the first half of its SHA-512 digest, with bits cleared
and set as the scheme fixes, is the secret scalar `a`, and the public key is `a·B`. A signature
`R ‖ S` of a message verifies under the public key `A` when `S` is below the group order `L`
and `S·B - k·A` is written as `R`, where `k` is SHA-512 of `R ‖ A ‖ message` modulo `L`.
-/

namespace EInvoice.Crypto.Ed25519

open EInvoice.Text EInvoice.Crypto

/-- The field prime. -/
def prime : Nat := Nat.pow 2 255 - 19

/-- The order of the base point. -/
def order : Nat := Nat.pow 2 252 + 27742317777372353535851937790883648493

/-- The curve constant `d = -121665 / 121666`. -/
def curveD : Nat := 37095705934669439343138083508754565189542113879843219016388785533085940283555

/-- A point in affine coordinates. -/
abbrev Point := Nat × Nat

/-- The base point. -/
def base : Point :=
  (15112221349535400772501151409588531511454012693041857206046113283949847762202,
   46316835694926478169428394003475163141307993866256225615783033603165251855960)

/-- The neutral point. -/
def zero : Point := (0, 1)

/-- The inverse modulo the prime. -/
def inv (x : Nat) : Nat := powMod x (prime - 2) prime

/-- The sum of two points; the addition law is complete, so no case is special. -/
def add (p q : Point) : Point :=
  let (x1, y1) := p
  let (x2, y2) := q
  let t := curveD * x1 % prime * x2 % prime * y1 % prime * y2 % prime
  ((x1 * y2 + y1 * x2) % prime * inv ((1 + t) % prime) % prime,
   (y1 * y2 + x1 * x2) % prime * inv ((1 + prime - t) % prime) % prime)

/-- The negation of a point. -/
def neg (p : Point) : Point := ((prime - p.1) % prime, p.2)

/-- A multiple of a point. -/
def mul (k : Nat) (p : Point) : Point :=
  if k = 0 then zero
  else
    let half := mul (k / 2) (add p p)
    if k % 2 = 1 then add half p else half
termination_by k
decreasing_by omega

/-- A number from little-endian bytes. -/
def littleEndian (bs : Bytes) : Nat := bs.foldr (fun b acc => acc * 256 + b.toNat) 0

/-- A number as `n` little-endian bytes. -/
def toLittleEndian (n v : Nat) : Bytes := (List.range n).map fun i => (v / Nat.pow 256 i % 256).toUInt8

/-- The encoding of a point. -/
def encode (p : Point) : Bytes := toLittleEndian 32 (p.2 + (p.1 % 2) * Nat.pow 2 255)

/-- A square root of `-1`. -/
def sqrtMinusOne : Nat := powMod 2 ((prime - 1) / 4) prime

/-- The point of an encoding, if it has one. -/
def decode (bs : Bytes) : Option Point :=
  if bs.length ≠ 32 then none
  else
    let v := littleEndian bs
    let y := v % Nat.pow 2 255 % prime
    let sign := v / Nat.pow 2 255
    let u := (y * y + prime - 1) % prime
    let w := (curveD * y % prime * y + 1) % prime
    let x := u * powMod w 3 prime % prime * powMod (u * powMod w 7 prime % prime) ((prime - 5) / 8) prime % prime
    let check := w * x % prime * x % prime
    let x := if check = u then some x
      else if check = (prime - u) % prime then some (x * sqrtMinusOne % prime) else none
    x.map fun x => (if x % 2 = sign then x else (prime - x) % prime, y)

/-- The secret scalar of a seed. -/
def secretScalar (seed : Bytes) : Nat :=
  let h := (Sha512.hash seed).take 32
  let a := littleEndian h
  a % Nat.pow 2 254 - a % 8 + Nat.pow 2 254

/-- The public key of a seed. -/
def publicKey (seed : Bytes) : Bytes := encode (mul (secretScalar seed) base)

/-- Whether a signature of a message verifies under a public key. -/
def verify (pub msg sig : Bytes) : Bool :=
  if pub.length ≠ 32 ∨ sig.length ≠ 64 then false
  else if (sig.getD 63 0) &&& 224 ≠ 0 then false
  else match decode pub with
    | none => false
    | some a =>
      let r := sig.take 32
      let s := littleEndian (sig.drop 32)
      if s ≥ order then false
      else
        let k := littleEndian (Sha512.hash (r ++ pub ++ msg)) % order
        encode (add (mul s base) (mul k (neg a))) = r

theorem toLittleEndian_length (n v : Nat) : (toLittleEndian n v).length = n := by
  simp [toLittleEndian]

end EInvoice.Crypto.Ed25519
