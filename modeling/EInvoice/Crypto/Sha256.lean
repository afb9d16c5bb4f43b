import EInvoice.Crypto.Blocks

/-!
# SHA-256

The SHA-256 digest of FIPS 180-4: the padded message is read block by block into an
eight-word state, starting from `initialState`. Each block is stretched into a schedule of
sixty-four words (`schedule`), which sixty-four rounds mix into a working copy of the state,
added back word by word (`compress`). The digest is the final state, big-endian.
-/

namespace EInvoice.Crypto.Sha256

open EInvoice.Text EInvoice.Crypto

/-- The round constants: the first 32 bits of the fractional parts of the cube roots of the
first sixty-four primes. -/
def roundConstants : Array UInt32 := #[
  0x428a2f98, 0x71374491, 0xb5c0fbcf, 0xe9b5dba5, 0x3956c25b, 0x59f111f1, 0x923f82a4, 0xab1c5ed5,
  0xd807aa98, 0x12835b01, 0x243185be, 0x550c7dc3, 0x72be5d74, 0x80deb1fe, 0x9bdc06a7, 0xc19bf174,
  0xe49b69c1, 0xefbe4786, 0x0fc19dc6, 0x240ca1cc, 0x2de92c6f, 0x4a7484aa, 0x5cb0a9dc, 0x76f988da,
  0x983e5152, 0xa831c66d, 0xb00327c8, 0xbf597fc7, 0xc6e00bf3, 0xd5a79147, 0x06ca6351, 0x14292967,
  0x27b70a85, 0x2e1b2138, 0x4d2c6dfc, 0x53380d13, 0x650a7354, 0x766a0abb, 0x81c2c92e, 0x92722c85,
  0xa2bfe8a1, 0xa81a664b, 0xc24b8b70, 0xc76c51a3, 0xd192e819, 0xd6990624, 0xf40e3585, 0x106aa070,
  0x19a4c116, 0x1e376c08, 0x2748774c, 0x34b0bcb5, 0x391c0cb3, 0x4ed8aa4a, 0x5b9cca4f, 0x682e6ff3,
  0x748f82ee, 0x78a5636f, 0x84c87814, 0x8cc70208, 0x90befffa, 0xa4506ceb, 0xbef9a3f7, 0xc67178f2]

/-- The initial state: the first 32 bits of the fractional parts of the square roots of the
first eight primes. -/
def initialState : Vector UInt32 8 :=
  #v[0x6a09e667, 0xbb67ae85, 0x3c6ef372, 0xa54ff53a, 0x510e527f, 0x9b05688c, 0x1f83d9ab, 0x5be0cd19]

def smallSigma0 (x : UInt32) : UInt32 := rotr x 7 ^^^ rotr x 18 ^^^ (x >>> 3)
def smallSigma1 (x : UInt32) : UInt32 := rotr x 17 ^^^ rotr x 19 ^^^ (x >>> 10)
def bigSigma0 (x : UInt32) : UInt32 := rotr x 2 ^^^ rotr x 13 ^^^ rotr x 22
def bigSigma1 (x : UInt32) : UInt32 := rotr x 6 ^^^ rotr x 11 ^^^ rotr x 25
def choose (x y z : UInt32) : UInt32 := (x &&& y) ^^^ (~~~x &&& z)
def majority (x y z : UInt32) : UInt32 := (x &&& y) ^^^ (x &&& z) ^^^ (y &&& z)

/-- The sixty-four schedule words of a block: its sixteen words, then each later word from
four earlier ones. -/
def schedule (block : Bytes) : Array UInt32 :=
  (List.range 48).foldl (fun (w : Array UInt32) i =>
    let t := i + 16
    w.push (smallSigma1 w[t - 2]! + w[t - 7]! + smallSigma0 w[t - 15]! + w[t - 16]!))
    (words block).toArray

/-- One round: the working state after mixing in the schedule word `w` with constant `k`. -/
def round (s : Vector UInt32 8) (k w : UInt32) : Vector UInt32 8 :=
  let t1 := s[7] + bigSigma1 s[4] + choose s[4] s[5] s[6] + k + w
  let t2 := bigSigma0 s[0] + majority s[0] s[1] s[2]
  #v[t1 + t2, s[0], s[1], s[2], s[3] + t1, s[4], s[5], s[6]]

/-- The state after one block. -/
def compress (h : Vector UInt32 8) (block : Bytes) : Vector UInt32 8 :=
  let w := schedule block
  let s := (List.range 64).foldl (fun s i => round s roundConstants[i]! w[i]!) h
  Vector.ofFn fun i => h[i] + s[i]

/-- The SHA-256 digest of a message. -/
def hash (msg : Bytes) : Bytes :=
  ((blocks (pad msg)).foldl compress initialState).toList.flatMap wordBytes

theorem hash_length (msg : Bytes) : (hash msg).length = 32 := by
  unfold hash
  generalize (blocks (pad msg)).foldl compress initialState = v
  simp [List.length_flatMap, wordBytes_length, List.map_const']

end EInvoice.Crypto.Sha256
