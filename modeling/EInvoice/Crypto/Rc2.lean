import EInvoice.Text.Utf8

/-!
# RC2

The block cipher of RFC 2268 on 64-bit blocks, decryption only: the key is expanded to 64
sixteen-bit words through the table of digits of π, with the effective key length bounding
the expansion; a block is four little-endian words run back through sixteen mixing rounds
with two mashing rounds between them.
-/

namespace EInvoice.Crypto.Rc2

open EInvoice.Text

/-- The permutation of bytes drawn from the digits of π. -/
def piTable : Array UInt8 := #[
    0xd9, 0x78, 0xf9, 0xc4, 0x19, 0xdd, 0xb5, 0xed, 0x28, 0xe9, 0xfd, 0x79, 0x4a, 0xa0, 0xd8, 0x9d,
    0xc6, 0x7e, 0x37, 0x83, 0x2b, 0x76, 0x53, 0x8e, 0x62, 0x4c, 0x64, 0x88, 0x44, 0x8b, 0xfb, 0xa2,
    0x17, 0x9a, 0x59, 0xf5, 0x87, 0xb3, 0x4f, 0x13, 0x61, 0x45, 0x6d, 0x8d, 0x09, 0x81, 0x7d, 0x32,
    0xbd, 0x8f, 0x40, 0xeb, 0x86, 0xb7, 0x7b, 0x0b, 0xf0, 0x95, 0x21, 0x22, 0x5c, 0x6b, 0x4e, 0x82,
    0x54, 0xd6, 0x65, 0x93, 0xce, 0x60, 0xb2, 0x1c, 0x73, 0x56, 0xc0, 0x14, 0xa7, 0x8c, 0xf1, 0xdc,
    0x12, 0x75, 0xca, 0x1f, 0x3b, 0xbe, 0xe4, 0xd1, 0x42, 0x3d, 0xd4, 0x30, 0xa3, 0x3c, 0xb6, 0x26,
    0x6f, 0xbf, 0x0e, 0xda, 0x46, 0x69, 0x07, 0x57, 0x27, 0xf2, 0x1d, 0x9b, 0xbc, 0x94, 0x43, 0x03,
    0xf8, 0x11, 0xc7, 0xf6, 0x90, 0xef, 0x3e, 0xe7, 0x06, 0xc3, 0xd5, 0x2f, 0xc8, 0x66, 0x1e, 0xd7,
    0x08, 0xe8, 0xea, 0xde, 0x80, 0x52, 0xee, 0xf7, 0x84, 0xaa, 0x72, 0xac, 0x35, 0x4d, 0x6a, 0x2a,
    0x96, 0x1a, 0xd2, 0x71, 0x5a, 0x15, 0x49, 0x74, 0x4b, 0x9f, 0xd0, 0x5e, 0x04, 0x18, 0xa4, 0xec,
    0xc2, 0xe0, 0x41, 0x6e, 0x0f, 0x51, 0xcb, 0xcc, 0x24, 0x91, 0xaf, 0x50, 0xa1, 0xf4, 0x70, 0x39,
    0x99, 0x7c, 0x3a, 0x85, 0x23, 0xb8, 0xb4, 0x7a, 0xfc, 0x02, 0x36, 0x5b, 0x25, 0x55, 0x97, 0x31,
    0x2d, 0x5d, 0xfa, 0x98, 0xe3, 0x8a, 0x92, 0xae, 0x05, 0xdf, 0x29, 0x10, 0x67, 0x6c, 0xba, 0xc9,
    0xd3, 0x00, 0xe6, 0xcf, 0xe1, 0x9e, 0xa8, 0x2c, 0x63, 0x16, 0x01, 0x3f, 0x58, 0xe2, 0x89, 0xa9,
    0x0d, 0x38, 0x34, 0x1b, 0xab, 0x33, 0xff, 0xb0, 0xbb, 0x48, 0x0c, 0x5f, 0xb9, 0xb1, 0xcd, 0x2e,
    0xc5, 0xf3, 0xdb, 0x47, 0xe5, 0xa5, 0x9c, 0x77, 0x0a, 0xa6, 0x20, 0x68, 0xfe, 0x7f, 0xc1, 0xad]

/-- A byte of the table. -/
def pi (i : UInt8) : UInt8 := piTable.getD i.toNat 0

/-- The 128 expanded key bytes for a key and an effective key length in bits. -/
def expandBytes (key : Bytes) (effectiveBits : Nat) : Array UInt8 :=
  let t := key.length
  let l := (List.range (128 - t)).foldl (fun (l : Array UInt8) i =>
    l.push (pi (l.getD (t + i - 1) 0 + l.getD i 0))) key.toArray
  let t8 := (effectiveBits + 7) / 8
  let tm : UInt8 := (Nat.pow 2 (8 - (8 * t8 - effectiveBits)) - 1 : Nat).toUInt8
  let l := l.set! (128 - t8) (pi (l.getD (128 - t8) 0 &&& tm))
  (List.range (128 - t8)).foldl (fun (l : Array UInt8) k =>
    let i := 127 - t8 - k
    l.set! i (pi (l.getD (i + 1) 0 ^^^ l.getD (i + t8) 0))) l

/-- The 64 key words. -/
def expandKey (key : Bytes) (effectiveBits : Nat) : Array UInt16 :=
  let l := expandBytes key effectiveBits
  (List.range 64).toArray.map fun i =>
    (l.getD (2 * i) 0).toUInt16 + 256 * (l.getD (2 * i + 1) 0).toUInt16

/-- The four words of a block. -/
structure State where
  r0 : UInt16
  r1 : UInt16
  r2 : UInt16
  r3 : UInt16

/-- Rotate a word right. -/
def rotr (x : UInt16) (n : UInt16) : UInt16 := (x >>> n) ||| (x <<< (16 - n))

/-- Undo one mixing round, which used the key words `j - 3` to `j`. -/
def unmix (k : Array UInt16) (j : Nat) (s : State) : State :=
  let r3 := rotr s.r3 5 - k.getD j 0 - (s.r2 &&& s.r1) - (~~~s.r2 &&& s.r0)
  let r2 := rotr s.r2 3 - k.getD (j - 1) 0 - (s.r1 &&& s.r0) - (~~~s.r1 &&& r3)
  let r1 := rotr s.r1 2 - k.getD (j - 2) 0 - (s.r0 &&& r3) - (~~~s.r0 &&& r2)
  let r0 := rotr s.r0 1 - k.getD (j - 3) 0 - (r3 &&& r2) - (~~~r3 &&& r1)
  ⟨r0, r1, r2, r3⟩

/-- Undo one mashing round. -/
def unmash (k : Array UInt16) (s : State) : State :=
  let r3 := s.r3 - k.getD (s.r2 &&& 63).toNat 0
  let r2 := s.r2 - k.getD (s.r1 &&& 63).toNat 0
  let r1 := s.r1 - k.getD (s.r0 &&& 63).toNat 0
  let r0 := s.r0 - k.getD (r3 &&& 63).toNat 0
  ⟨r0, r1, r2, r3⟩

/-- Undo the mixing rounds that used key words `4 * first` to `4 * (first + count) - 1`,
last round first. -/
def unmixRounds (k : Array UInt16) (first count : Nat) (s : State) : State :=
  (List.range count).foldl (fun s i => unmix k (4 * (first + count - i) - 1) s) s

/-- A little-endian word. -/
def word (lo hi : UInt8) : UInt16 := lo.toUInt16 + 256 * hi.toUInt16

/-- The bytes of a word, low first. -/
def wordBytes (w : UInt16) : Bytes := [w.toUInt8, (w >>> 8).toUInt8]

/-- Decrypt one 8-byte block with expanded key words. -/
def decryptBlock (k : Array UInt16) (block : Bytes) : Bytes :=
  let b := fun i => block.getD i 0
  let s : State := ⟨word (b 0) (b 1), word (b 2) (b 3), word (b 4) (b 5), word (b 6) (b 7)⟩
  let s := unmixRounds k 11 5 s
  let s := unmash k s
  let s := unmixRounds k 5 6 s
  let s := unmash k s
  let s := unmixRounds k 0 5 s
  wordBytes s.r0 ++ wordBytes s.r1 ++ wordBytes s.r2 ++ wordBytes s.r3

theorem wordBytes_length (w : UInt16) : (wordBytes w).length = 2 := rfl

end EInvoice.Crypto.Rc2
