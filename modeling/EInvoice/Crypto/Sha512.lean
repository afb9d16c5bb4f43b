import EInvoice.Crypto.Blocks

/-!
# SHA-512 and SHA-384

The SHA-512 digest of FIPS 180-4: as SHA-256, but with 64-bit words, 128-byte blocks, a
128-bit length in the padding and eighty rounds. SHA-384 is SHA-512 from another initial
state, cut to its first 48 bytes.
-/

namespace EInvoice.Crypto.Sha512

open EInvoice.Text EInvoice.Crypto

/-- The round constants: the first 64 bits of the fractional parts of the cube roots of the
first eighty primes. -/
def roundConstants : Array UInt64 := #[
  0x428a2f98d728ae22, 0x7137449123ef65cd, 0xb5c0fbcfec4d3b2f, 0xe9b5dba58189dbbc,
  0x3956c25bf348b538, 0x59f111f1b605d019, 0x923f82a4af194f9b, 0xab1c5ed5da6d8118,
  0xd807aa98a3030242, 0x12835b0145706fbe, 0x243185be4ee4b28c, 0x550c7dc3d5ffb4e2,
  0x72be5d74f27b896f, 0x80deb1fe3b1696b1, 0x9bdc06a725c71235, 0xc19bf174cf692694,
  0xe49b69c19ef14ad2, 0xefbe4786384f25e3, 0x0fc19dc68b8cd5b5, 0x240ca1cc77ac9c65,
  0x2de92c6f592b0275, 0x4a7484aa6ea6e483, 0x5cb0a9dcbd41fbd4, 0x76f988da831153b5,
  0x983e5152ee66dfab, 0xa831c66d2db43210, 0xb00327c898fb213f, 0xbf597fc7beef0ee4,
  0xc6e00bf33da88fc2, 0xd5a79147930aa725, 0x06ca6351e003826f, 0x142929670a0e6e70,
  0x27b70a8546d22ffc, 0x2e1b21385c26c926, 0x4d2c6dfc5ac42aed, 0x53380d139d95b3df,
  0x650a73548baf63de, 0x766a0abb3c77b2a8, 0x81c2c92e47edaee6, 0x92722c851482353b,
  0xa2bfe8a14cf10364, 0xa81a664bbc423001, 0xc24b8b70d0f89791, 0xc76c51a30654be30,
  0xd192e819d6ef5218, 0xd69906245565a910, 0xf40e35855771202a, 0x106aa07032bbd1b8,
  0x19a4c116b8d2d0c8, 0x1e376c085141ab53, 0x2748774cdf8eeb99, 0x34b0bcb5e19b48a8,
  0x391c0cb3c5c95a63, 0x4ed8aa4ae3418acb, 0x5b9cca4f7763e373, 0x682e6ff3d6b2b8a3,
  0x748f82ee5defb2fc, 0x78a5636f43172f60, 0x84c87814a1f0ab72, 0x8cc702081a6439ec,
  0x90befffa23631e28, 0xa4506cebde82bde9, 0xbef9a3f7b2c67915, 0xc67178f2e372532b,
  0xca273eceea26619c, 0xd186b8c721c0c207, 0xeada7dd6cde0eb1e, 0xf57d4f7fee6ed178,
  0x06f067aa72176fba, 0x0a637dc5a2c898a6, 0x113f9804bef90dae, 0x1b710b35131c471b,
  0x28db77f523047d84, 0x32caab7b40c72493, 0x3c9ebe0a15c9bebc, 0x431d67c49c100d4c,
  0x4cc5d4becb3e42b6, 0x597f299cfc657e2a, 0x5fcb6fab3ad6faec, 0x6c44198c4a475817]

/-- The initial state of SHA-512: the first 64 bits of the fractional parts of the square
roots of the first eight primes. -/
def initialState : Vector UInt64 8 :=
  #v[0x6a09e667f3bcc908, 0xbb67ae8584caa73b, 0x3c6ef372fe94f82b, 0xa54ff53a5f1d36f1, 0x510e527fade682d1, 0x9b05688c2b3e6c1f, 0x1f83d9abfb41bd6b, 0x5be0cd19137e2179]

/-- The initial state of SHA-384: from the ninth to the sixteenth primes. -/
def initialState384 : Vector UInt64 8 :=
  #v[0xcbbb9d5dc1059ed8, 0x629a292a367cd507, 0x9159015a3070dd17, 0x152fecd8f70e5939, 0x67332667ffc00b31, 0x8eb44a8768581511, 0xdb0c2e0d64f98fa7, 0x47b5481dbefa4fa4]

def rotr64 (x : UInt64) (n : UInt64) : UInt64 := (x >>> n) ||| (x <<< (64 - n))
def smallSigma0 (x : UInt64) : UInt64 := rotr64 x 1 ^^^ rotr64 x 8 ^^^ (x >>> 7)
def smallSigma1 (x : UInt64) : UInt64 := rotr64 x 19 ^^^ rotr64 x 61 ^^^ (x >>> 6)
def bigSigma0 (x : UInt64) : UInt64 := rotr64 x 28 ^^^ rotr64 x 34 ^^^ rotr64 x 39
def bigSigma1 (x : UInt64) : UInt64 := rotr64 x 14 ^^^ rotr64 x 18 ^^^ rotr64 x 41
def choose (x y z : UInt64) : UInt64 := (x &&& y) ^^^ (~~~x &&& z)
def majority (x y z : UInt64) : UInt64 := (x &&& y) ^^^ (x &&& z) ^^^ (y &&& z)

/-- The message padded to whole 128-byte blocks: a one bit, zeros, and the length in bits as
a 128-bit number. -/
def pad (msg : Bytes) : Bytes :=
  let zeros := (239 - msg.length % 128) % 128
  msg ++ [0x80] ++ List.replicate zeros 0 ++ bigEndian 16 (8 * msg.length)

/-- The 128-byte blocks of a padded message. -/
def blocks (msg : Bytes) : List Bytes :=
  go (msg.length / 128 + 1) msg
where
  go : Nat → Bytes → List Bytes
    | 0, _ => []
    | _, [] => []
    | k + 1, m => m.take 128 :: go k (m.drop 128)

/-- The big-endian 64-bit words of a block. -/
def words (block : Bytes) : List UInt64 :=
  (List.range (block.length / 8)).map fun i =>
    ((block.drop (8 * i)).take 8).foldl (fun acc b => (acc <<< 8) ||| b.toUInt64) 0

/-- The eighty schedule words of a block. -/
def schedule (block : Bytes) : Array UInt64 :=
  (List.range 64).foldl (fun (w : Array UInt64) i =>
    let t := i + 16
    w.push (smallSigma1 w[t - 2]! + w[t - 7]! + smallSigma0 w[t - 15]! + w[t - 16]!))
    (words block).toArray

/-- One round. -/
def round (s : Vector UInt64 8) (k w : UInt64) : Vector UInt64 8 :=
  let t1 := s[7]! + bigSigma1 s[4]! + choose s[4]! s[5]! s[6]! + k + w
  let t2 := bigSigma0 s[0]! + majority s[0]! s[1]! s[2]!
  #v[t1 + t2, s[0]!, s[1]!, s[2]!, s[3]! + t1, s[4]!, s[5]!, s[6]!]

/-- The state after one block. -/
def compress (h : Vector UInt64 8) (block : Bytes) : Vector UInt64 8 :=
  let w := schedule block
  let s := (List.range 80).foldl (fun s i => round s roundConstants[i]! w[i]!) h
  Vector.ofFn fun i => h.get i + s.get i

/-- The final state of a message from an initial state, as bytes. -/
def digest (init : Vector UInt64 8) (msg : Bytes) : Bytes :=
  ((blocks (pad msg)).foldl compress init).toList.flatMap fun w => bigEndian 8 w.toNat

/-- The SHA-512 digest of a message. -/
def hash (msg : Bytes) : Bytes := digest initialState msg

/-- The SHA-384 digest of a message. -/
def hash384 (msg : Bytes) : Bytes := (digest initialState384 msg).take 48

theorem pad_length (msg : Bytes) : (pad msg).length % 128 = 0 := by
  simp only [pad, List.length_append, List.length_replicate, List.length_singleton]
  rw [show (bigEndian 16 (8 * msg.length)).length = 16 by simp [bigEndian]]
  omega

end EInvoice.Crypto.Sha512
