import EInvoice.Text.Utf8

/-!
# DES and triple DES

The block cipher of FIPS 46-3 on 64-bit blocks, written with its tables. Bits are numbered
from 1, most significant first, as the tables number them. Triple DES (`E_k3 ∘ D_k2 ∘ E_k1`
to encrypt) takes a 24-byte key; CBC decryption undoes the chaining with the previous
ciphertext block, the first block with the initialisation vector.
-/

namespace EInvoice.Crypto.Des

open EInvoice.Text

/-- A block or key as bits, most significant first. -/
abbrev Bits := Array Bool

/-- The bits of bytes. -/
def toBits (bs : Bytes) : Bits :=
  (bs.flatMap fun b => (List.range 8).map fun i => (b.toNat / Nat.pow 2 (7 - i)) % 2 == 1).toArray

/-- The bytes of bits. -/
def ofBits (bits : Bits) : Bytes :=
  (List.range (bits.size / 8)).map fun i =>
    ((List.range 8).foldl (fun acc j => acc * 2 + (if bits.getD (8 * i + j) false then 1 else 0)) 0).toUInt8

/-- The bits picked by a table of positions (numbered from 1). -/
def permute (table : List Nat) (bits : Bits) : Bits :=
  (table.map fun p => bits.getD (p - 1) false).toArray

def initialPermutation : List Nat :=
  [58, 50, 42, 34, 26, 18, 10, 2, 60, 52, 44, 36, 28, 20, 12, 4,
   62, 54, 46, 38, 30, 22, 14, 6, 64, 56, 48, 40, 32, 24, 16, 8,
   57, 49, 41, 33, 25, 17, 9, 1, 59, 51, 43, 35, 27, 19, 11, 3,
   61, 53, 45, 37, 29, 21, 13, 5, 63, 55, 47, 39, 31, 23, 15, 7]

def finalPermutation : List Nat :=
  [40, 8, 48, 16, 56, 24, 64, 32, 39, 7, 47, 15, 55, 23, 63, 31,
   38, 6, 46, 14, 54, 22, 62, 30, 37, 5, 45, 13, 53, 21, 61, 29,
   36, 4, 44, 12, 52, 20, 60, 28, 35, 3, 43, 11, 51, 19, 59, 27,
   34, 2, 42, 10, 50, 18, 58, 26, 33, 1, 41, 9, 49, 17, 57, 25]

def expansion : List Nat :=
  [32, 1, 2, 3, 4, 5, 4, 5, 6, 7, 8, 9, 8, 9, 10, 11, 12, 13, 12, 13, 14, 15, 16, 17,
   16, 17, 18, 19, 20, 21, 20, 21, 22, 23, 24, 25, 24, 25, 26, 27, 28, 29, 28, 29, 30, 31, 32, 1]

def roundPermutation : List Nat :=
  [16, 7, 20, 21, 29, 12, 28, 17, 1, 15, 23, 26, 5, 18, 31, 10,
   2, 8, 24, 14, 32, 27, 3, 9, 19, 13, 30, 6, 22, 11, 4, 25]

def keyChoice1 : List Nat :=
  [57, 49, 41, 33, 25, 17, 9, 1, 58, 50, 42, 34, 26, 18, 10, 2, 59, 51, 43, 35, 27,
   19, 11, 3, 60, 52, 44, 36, 63, 55, 47, 39, 31, 23, 15, 7, 62, 54, 46, 38, 30, 22,
   14, 6, 61, 53, 45, 37, 29, 21, 13, 5, 28, 20, 12, 4]

def keyChoice2 : List Nat :=
  [14, 17, 11, 24, 1, 5, 3, 28, 15, 6, 21, 10, 23, 19, 12, 4, 26, 8, 16, 7, 27, 20, 13, 2,
   41, 52, 31, 37, 47, 55, 30, 40, 51, 45, 33, 48, 44, 49, 39, 56, 34, 53, 46, 42, 50, 36, 29, 32]

def keyShifts : List Nat := [1, 1, 2, 2, 2, 2, 2, 2, 1, 2, 2, 2, 2, 2, 2, 1]

/-- The eight substitution boxes, each four rows of sixteen. -/
def sboxes : Array (Array Nat) := #[
  #[14, 4, 13, 1, 2, 15, 11, 8, 3, 10, 6, 12, 5, 9, 0, 7,
    0, 15, 7, 4, 14, 2, 13, 1, 10, 6, 12, 11, 9, 5, 3, 8,
    4, 1, 14, 8, 13, 6, 2, 11, 15, 12, 9, 7, 3, 10, 5, 0,
    15, 12, 8, 2, 4, 9, 1, 7, 5, 11, 3, 14, 10, 0, 6, 13],
  #[15, 1, 8, 14, 6, 11, 3, 4, 9, 7, 2, 13, 12, 0, 5, 10,
    3, 13, 4, 7, 15, 2, 8, 14, 12, 0, 1, 10, 6, 9, 11, 5,
    0, 14, 7, 11, 10, 4, 13, 1, 5, 8, 12, 6, 9, 3, 2, 15,
    13, 8, 10, 1, 3, 15, 4, 2, 11, 6, 7, 12, 0, 5, 14, 9],
  #[10, 0, 9, 14, 6, 3, 15, 5, 1, 13, 12, 7, 11, 4, 2, 8,
    13, 7, 0, 9, 3, 4, 6, 10, 2, 8, 5, 14, 12, 11, 15, 1,
    13, 6, 4, 9, 8, 15, 3, 0, 11, 1, 2, 12, 5, 10, 14, 7,
    1, 10, 13, 0, 6, 9, 8, 7, 4, 15, 14, 3, 11, 5, 2, 12],
  #[7, 13, 14, 3, 0, 6, 9, 10, 1, 2, 8, 5, 11, 12, 4, 15,
    13, 8, 11, 5, 6, 15, 0, 3, 4, 7, 2, 12, 1, 10, 14, 9,
    10, 6, 9, 0, 12, 11, 7, 13, 15, 1, 3, 14, 5, 2, 8, 4,
    3, 15, 0, 6, 10, 1, 13, 8, 9, 4, 5, 11, 12, 7, 2, 14],
  #[2, 12, 4, 1, 7, 10, 11, 6, 8, 5, 3, 15, 13, 0, 14, 9,
    14, 11, 2, 12, 4, 7, 13, 1, 5, 0, 15, 10, 3, 9, 8, 6,
    4, 2, 1, 11, 10, 13, 7, 8, 15, 9, 12, 5, 6, 3, 0, 14,
    11, 8, 12, 7, 1, 14, 2, 13, 6, 15, 0, 9, 10, 4, 5, 3],
  #[12, 1, 10, 15, 9, 2, 6, 8, 0, 13, 3, 4, 14, 7, 5, 11,
    10, 15, 4, 2, 7, 12, 9, 5, 6, 1, 13, 14, 0, 11, 3, 8,
    9, 14, 15, 5, 2, 8, 12, 3, 7, 0, 4, 10, 1, 13, 11, 6,
    4, 3, 2, 12, 9, 5, 15, 10, 11, 14, 1, 7, 6, 0, 8, 13],
  #[4, 11, 2, 14, 15, 0, 8, 13, 3, 12, 9, 7, 5, 10, 6, 1,
    13, 0, 11, 7, 4, 9, 1, 10, 14, 3, 5, 12, 2, 15, 8, 6,
    1, 4, 11, 13, 12, 3, 7, 14, 10, 15, 6, 8, 0, 5, 9, 2,
    6, 11, 13, 8, 1, 4, 10, 7, 9, 5, 0, 15, 14, 2, 3, 12],
  #[13, 2, 8, 4, 6, 15, 11, 1, 10, 9, 3, 14, 5, 0, 12, 7,
    1, 15, 13, 8, 10, 3, 7, 4, 12, 5, 6, 11, 0, 14, 9, 2,
    7, 11, 4, 1, 9, 12, 14, 2, 0, 6, 10, 13, 15, 3, 5, 8,
    2, 1, 14, 7, 4, 10, 8, 13, 15, 12, 9, 0, 3, 5, 6, 11]]

/-- Rotate a list left by `n`. -/
def rotateLeft (bits : List Bool) (n : Nat) : List Bool := bits.drop n ++ bits.take n

/-- The sixteen 48-bit round keys of an 8-byte key. -/
def roundKeys (key : Bytes) : List Bits :=
  let k := (permute keyChoice1 (toBits key)).toList
  let (_, _, keys) := keyShifts.foldl (fun (c, d, acc) s =>
    let c := rotateLeft c s
    let d := rotateLeft d s
    (c, d, acc ++ [permute keyChoice2 (c ++ d).toArray])) (k.take 28, k.drop 28, [])
  keys

/-- The round function on the right half with a round key. -/
def feistel (r : Bits) (k : Bits) : Bits :=
  let x := (permute expansion r).zipWith (· != ·) k
  let out := (List.range 8).flatMap fun i =>
    let b := fun j => if x.getD (6 * i + j) false then 1 else 0
    let row := 2 * b 0 + b 5
    let col := 8 * b 1 + 4 * b 2 + 2 * b 3 + b 4
    let v := (sboxes.getD i #[]).getD (16 * row + col) 0
    (List.range 4).map fun j => (v / Nat.pow 2 (3 - j)) % 2 == 1
  permute roundPermutation out.toArray

/-- Run one 8-byte block through the rounds with the given keys in order. -/
def crypt (keys : List Bits) (block : Bytes) : Bytes :=
  let b := permute initialPermutation (toBits block)
  let (l, r) := keys.foldl (fun (l, r) k => (r, l.zipWith (· != ·) (feistel r k)))
    (b.extract 0 32, b.extract 32 64)
  ofBits (permute finalPermutation (r ++ l))

/-- Encrypt one block. -/
def encryptBlock (key block : Bytes) : Bytes := crypt (roundKeys key) block

/-- Decrypt one block. -/
def decryptBlock (key block : Bytes) : Bytes := crypt (roundKeys key).reverse block

/-- Decrypt one block with triple DES under a 24-byte key. -/
def decryptBlock3 (key block : Bytes) : Bytes :=
  decryptBlock (key.take 8) (encryptBlock ((key.drop 8).take 8) (decryptBlock ((key.drop 16).take 8) block))

/-- Decrypt whole blocks in CBC mode with a block decryption of `n`-byte blocks. -/
def cbcDecrypt (n : Nat) (decrypt : Bytes → Bytes) (iv data : Bytes) : Bytes :=
  go (data.length / n + 1) iv data
where
  go : Nat → Bytes → Bytes → Bytes
    | 0, _, _ => []
    | _, _, [] => []
    | k + 1, prev, d =>
      let c := d.take n
      (decrypt c).zipWith (· ^^^ ·) prev ++ go k c (d.drop n)

/-- Triple DES decryption in CBC mode. -/
def decryptCbc3 (key iv data : Bytes) : Bytes :=
  let keys1 := (roundKeys (key.take 8)).reverse
  let keys2 := roundKeys ((key.drop 8).take 8)
  let keys3 := (roundKeys ((key.drop 16).take 8)).reverse
  cbcDecrypt 8 (fun b => crypt keys1 (crypt keys2 (crypt keys3 b))) iv data

theorem rotateLeft_length (bits : List Bool) (n : Nat) (h : n ≤ bits.length) :
    (rotateLeft bits n).length = bits.length := by
  simp [rotateLeft]; omega

end EInvoice.Crypto.Des
