import EInvoice.Text.Utf8

/-!
# Message blocks

SHA-1 and SHA-256 read a message the same way: a `1` bit is appended, then zero bits up to
56 bytes modulo 64, then the message length in bits as a big-endian 64-bit number
(`pad`). The result is cut into blocks of 64 bytes (`blocks`), and each block into sixteen
big-endian 32-bit words (`words`).
-/

namespace EInvoice.Crypto

open EInvoice.Text

/-- A number as `n` big-endian bytes, keeping its low `8 * n` bits. -/
def bigEndian (n : Nat) (v : Nat) : Bytes :=
  (List.range n).reverse.map fun i => (v / Nat.pow 256 i % 256).toUInt8

/-- The bytes of a 32-bit word, most significant first. -/
def wordBytes (w : UInt32) : Bytes := bigEndian 4 w.toNat

/-- A message padded to a whole number of 64-byte blocks. -/
def pad (msg : Bytes) : Bytes :=
  let zeros := (119 - msg.length % 64) % 64
  msg ++ [0x80] ++ List.replicate zeros 0 ++ bigEndian 8 (8 * msg.length)

/-- A byte string cut into pieces of 64 bytes (the last one may be shorter). -/
def blocks (msg : Bytes) : List Bytes :=
  if _h : msg.length ≤ 64 then (if msg.isEmpty then [] else [msg])
  else msg.take 64 :: blocks (msg.drop 64)
termination_by msg.length
decreasing_by simp only [List.length_drop]; omega

/-- The word made of four bytes, the first most significant. -/
def word (b0 b1 b2 b3 : UInt8) : UInt32 :=
  (b0.toUInt32 <<< 24) ||| (b1.toUInt32 <<< 16) ||| (b2.toUInt32 <<< 8) ||| b3.toUInt32

/-- The big-endian words of a block. -/
def words : Bytes → List UInt32
  | b0 :: b1 :: b2 :: b3 :: rest => word b0 b1 b2 b3 :: words rest
  | _ => []

/-- Rotation of a word to the right. -/
def rotr (x : UInt32) (n : UInt32) : UInt32 := (x >>> n) ||| (x <<< (32 - n))

/-- Rotation of a word to the left. -/
def rotl (x : UInt32) (n : UInt32) : UInt32 := (x <<< n) ||| (x >>> (32 - n))

theorem wordBytes_length (w : UInt32) : (wordBytes w).length = 4 := by
  simp [wordBytes, bigEndian]

theorem pad_length (msg : Bytes) : (pad msg).length % 64 = 0 := by
  simp only [pad, List.length_append, List.length_cons, List.length_nil, List.length_replicate,
    bigEndian, List.length_map, List.length_reverse, List.length_range]
  omega

end EInvoice.Crypto
