import EInvoice.Crypto.Blocks

/-!
# SHA-1

The SHA-1 digest of FIPS 180-4, used where a format asks for it (certificate identifiers in
revocation requests, key derivation in key stores). The padded message is read block by block
into a five-word state; each block is stretched into eighty words, which eighty rounds in four
groups of twenty mix into a working copy of the state, added back word by word.
-/

namespace EInvoice.Crypto.Sha1

open EInvoice.Text EInvoice.Crypto

/-- The initial state. -/
def initialState : Vector UInt32 5 := #v[0x67452301, 0xEFCDAB89, 0x98BADCFE, 0x10325476, 0xC3D2E1F0]

/-- The eighty schedule words of a block. -/
def schedule (block : Bytes) : Array UInt32 :=
  (List.range 64).foldl (fun (w : Array UInt32) i =>
    let t := i + 16
    w.push (rotl (w[t - 3]! ^^^ w[t - 8]! ^^^ w[t - 14]! ^^^ w[t - 16]!) 1))
    (words block).toArray

/-- The mixing function and constant of round `t`. -/
def mix (t : Nat) (b c d : UInt32) : UInt32 × UInt32 :=
  if t < 20 then ((b &&& c) ||| (~~~b &&& d), 0x5A827999)
  else if t < 40 then (b ^^^ c ^^^ d, 0x6ED9EBA1)
  else if t < 60 then ((b &&& c) ||| (b &&& d) ||| (c &&& d), 0x8F1BBCDC)
  else (b ^^^ c ^^^ d, 0xCA62C1D6)

/-- One round of the working state. -/
def round (s : Vector UInt32 5) (t : Nat) (w : UInt32) : Vector UInt32 5 :=
  let (f, k) := mix t s[1] s[2] s[3]
  #v[rotl s[0] 5 + f + s[4] + k + w, s[0], rotl s[1] 30, s[2], s[3]]

/-- The state after one block. -/
def compress (h : Vector UInt32 5) (block : Bytes) : Vector UInt32 5 :=
  let w := schedule block
  let s := (List.range 80).foldl (fun s t => round s t w[t]!) h
  Vector.ofFn fun i => h[i] + s[i]

/-- The SHA-1 digest of a message. -/
def hash (msg : Bytes) : Bytes :=
  ((blocks (pad msg)).foldl compress initialState).toList.flatMap wordBytes

theorem hash_length (msg : Bytes) : (hash msg).length = 20 := by
  unfold hash
  generalize (blocks (pad msg)).foldl compress initialState = v
  simp [List.length_flatMap, wordBytes_length, List.map_const']

end EInvoice.Crypto.Sha1
